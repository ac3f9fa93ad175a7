import ShaderBuild.Shell.Builtin.Extended
import ShaderBuild.Shell.Redirection

/-! # Scripts and shells inside shells

A script is run line by line.  Parts of it run in shells of their own, which begin as copies of the
shell and leave nothing behind but their status and what they did to files.  All of this is written
over `again`, which runs a command. -/

namespace ShaderBuild.Shell

/-- What the surroundings of a command say about it. -/
structure Flags where
  /-- Its failure is looked at, so the shell does not stop at it. -/
  tested : Bool := false
  /-- Nothing comes after it, so a program takes the place of the shell. -/
  final : Bool := false
  /-- Its output is used; if it only reads a file, it prints that file. -/
  used : Bool := false

/-- Runs a command; its status. -/
abbrev Evaluate := Command → Flags → Run UInt8

/-! ### Scripts -/

/-- Write a message about the text of a script, at one of its lines. -/
def tellOfScript (line : Nat) (text : String) : Run Unit := do
  let s ← shell
  let part := if s.scriptPart.isEmpty then "" else s.scriptPart ++ ": "
  let source := (s.calls.head?.map Frame.source).getD s.name
  let _ ← writeTo 2 (contentOf
    (source ++ ": " ++ part ++ "line " ++ Nat.repr line ++ ": " ++ text ++ "\n"))

/-- Say what is wrong with a script; its status. -/
def reportMisspelling (m : Misspelling) : Run UInt8 := do
  modifyShell fun s => { s with line := m.line }
  let s ← shell
  match s.dialect with
  | .standard => die m.text
  | .extended =>
    (m.text.splitOn "\n").forM (tellOfScript m.line)
    if let some line := m.shown then tellOfScript m.line ("\x60" ++ line ++ "'")
    let status := if m.keeps && s.status != 0 then s.status else m.status
    setStatus status
    return status

/-- Run a line of a script.  If it is given up, the script goes on after it; a shell inside another
one ends. -/
def runLine (again : Evaluate) (c : Command) : Run UInt8 := do
  match ← caught (again c {}) with
  | .ok status => return status
  | .error .discarding =>
    if 0 < (← shell).depth then throw .leave else return (← shell).status
  | .error h => throw h

/-- Run the lines of a script, at most `n` of them. -/
def runLines (again : Evaluate) : Nat → Reader → UInt8 → Run UInt8
  | 0, _, status => return status
  | n + 1, r, status => do
    let s ← shell
    let aliases := if s.dialect = .extended && !s.settings.aliases then [] else s.aliases
    let grouping : Grouping := if s.settings.groups then .patterns else .nowhere
    match readLine { r with documents := s.documents, aliases, grouping } with
    | .error m => reportMisspelling m
    | .ok (none, _) => return status
    | .ok (some c, r) =>
      modifyShell fun s => { s with documents := r.documents }
      r.warnings.reverse.forM fun w => tellOfScript w.1 ("warning: " ++ w.2)
      let r := { r with warnings := [] }
      let status ← match c with
        | .empty => pure status
        | c => runLine again c
      runLines again n r status

/-- Run a text as a script whose lines are counted from `firstLine` on. -/
def runTextFrom (again : Evaluate) (firstLine : Nat) (text : String) : Run UInt8 := do
  runLines again (text.length + 1) (.ofText (← shell).dialect text firstLine) 0

/-- Run a text as a script. -/
def runText (again : Evaluate) (text : String) : Run UInt8 :=
  runTextFrom again 1 text

/-- The script in a file; zeros in it are passed over. -/
def scriptOf (content : ByteArray) : String :=
  String.ofList ((rawContent content).toList.filter fun c => c.toNat != 0)

/-! ### Traps -/

/-- Run what was set up for the end of the shell. -/
def runExitTrap (again : Evaluate) : Run Unit := do
  let s ← shell
  match s.traps.lookup "EXIT" with
  | none => pure ()
  | some action =>
    modifyShell fun s => { s with traps := s.traps.filter fun x => x.1 != "EXIT" }
    match ← caught (runText again action) with
    | .error .leave => pure ()
    | .error (.killed n p) => throw (.killed n p)
    | _ => setStatus s.status

/-- Run what was set up for signals that were caught. -/
def runTraps (again : Evaluate) : Run Unit := do
  let s ← shell
  if !s.pending.isEmpty then
    modifyShell fun s => { s with pending := [] }
    s.pending.forM fun n => do
      let action := ((signalShort n).bind fun name => s.traps.lookup name).getD ""
      let _ ← runText again action
      setStatus s.status

/-- Run what was set up for an event, unless that is being done; functions leave it alone unless
`inside` is set. -/
def runEventTrap (again : Evaluate) (event : String) (inside : Bool) : Run Unit := do
  let s ← shell
  match s.traps.lookup event with
  | none => pure ()
  | some action =>
    if !action.isEmpty && !s.answering && (inside || s.functionDepth = 0) then
      modifyShell fun s => { s with answering := true }
      after (do
        let _ ← runTextFrom again s.line action
        modifyShell fun now =>
          { now with status := s.status, stageStatuses := s.stageStatuses, line := s.line })
        (modifyShell fun s => { s with answering := false })

/-! ### Shells inside shells -/

/-- The place of the file by a number that stands for what a command prints or reads. -/
def connectionPlace (number : Nat) : Location :=
  ["dev", "fd", Nat.repr number].map fun n => unraw n

/-- Let the commands that read what was written to files read it, and remove these files; `keep` of
the connections stay. -/
def closeConnections (run : Command → Nat → Run Unit) (keep : Nat) : Run Unit := do
  let s ← shell
  let closing := s.connections.take (s.connections.length - keep)
  modifyShell fun s => { s with connections := s.connections.drop closing.length }
  closing.reverse.forM fun (number, reader?) => do
    let t ← files
    let place := connectionPlace number
    let content := ((t.lookup place).bind fun e => (t.contentOf e).toOption).getD .empty
    setFiles (t.erase place)
    match reader? with
    | none => pure ()
    | some body => run body (← addOpen { channel := .pipe content })

/-- Run a step to the end of its shell; `finish` is done after it. -/
def toEnd (again : Evaluate) (finish : Run Unit) (act : Run UInt8) : Run ExitStatus := do
  let leaving : Run ExitStatus := do
    runExitTrap again
    let status := (← shell).status
    finish
    return .exited status
  match ← caught act with
  | .ok status =>
    setStatus status
    leaving
  | .error (.killed signal process) => throw (.killed signal process)
  | .error (.replaced signal) => return .signaled signal
  | .error _ => leaving

/-- Run a step in a copy of the shell, at whose end `finish` is done. -/
def forkWith (again : Evaluate) (finish : Run Unit) (act : Run UInt8) : Run ExitStatus := do
  let before ← get
  modifyShell fun s =>
    let keeps (x : String × String) : Bool :=
      x.2.isEmpty || (x.1 == "ERR" && s.settings.failuresInside)
    { s with traps := s.traps.filter keeps, loops := 0, depth := s.depth + 1, connections := [] }
  let ending ← toEnd again finish act
  modify fun s =>
    { s with
      shell := before.shell
      machine := { s.machine with
        files := { s.machine.files with workingDir := before.machine.files.workingDir } } }
  return ending

/-- Run a command that reads an open file, in a shell of its own. -/
def runReader (again : Evaluate) (body : Command) (place : Nat) : Run Unit := do
  let _ ← forkWith again (pure ()) do
    bindStream 0 place
    again body { final := true }

/-- Run a step in a copy of the shell. -/
def fork (again : Evaluate) (act : Run UInt8) : Run ExitStatus :=
  forkWith again (closeConnections (runReader again) 0) act

/-! ### Commands in words -/

/-- What a command prints, and how it ends. -/
def captureBytes (again : Evaluate) (body : Command) : Run (ByteArray × ExitStatus) := do
  let place ← addOpen { channel := .pipe .empty }
  let ending ← fork again do
    bindStream 1 place
    modifyShell fun s =>
      let stops := s.settings.stopAtFailure && (s.dialect = .standard || s.settings.inheritsStop)
      { s with settings := { s.settings with stopAtFailure := stops } }
    again body { final := true, used := true }
  match (← get).opened[place]? with
  | some { channel := .pipe buffer, .. } => return (buffer, ending)
  | _ => return (.empty, ending)

/-- The number of the file for a new connection. -/
def freeConnection : Run Nat := do
  let t ← files
  return (((List.range 64).reverse.find? fun n => (t.lookup (connectionPlace n)).isNone)).getD 63

/-- Give the name of a file that holds what a command prints, or whose content it reads later. -/
def connect (again : Evaluate) (reads : Bool) (body : Command) : Run String := do
  let content ← if reads then do pure (← captureBytes again body).1 else pure .empty
  let number ← freeConnection
  setFiles ((← files).setFile (connectionPlace number) content ⟨0o600⟩)
  modifyShell fun s =>
    { s with connections := (number, if reads then none else some body) :: s.connections }
  return "/dev/fd/" ++ Nat.repr number

/-- What a command prints. -/
def capture (again : Evaluate) (body : Command) : Run String := do
  let (content, ending) ← captureBytes again body
  let outputStatus ← waited ending
  modifyShell fun s =>
    { s with outputStatus, status := if s.dialect = .extended then outputStatus else s.status }
  return rawContent content

/-- How the commands in words are run. -/
def runner (again : Evaluate) : Runner where
  substitute := capture again
  connect := connect again

end ShaderBuild.Shell
