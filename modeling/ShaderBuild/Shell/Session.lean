import ShaderBuild.Shell.Variable
import ShaderBuild.Tool.Basic

/-! # Running shells

A session is a machine on which shells run, with the files that are open on it.  Open files are
shared between a shell and the processes it starts, together with the place up to which they have
been read or written; everything else a shell knows is its own.  `Run` is a step of a shell, which
may end the shell or leave a loop or function. -/

namespace ShaderBuild.Shell

/-! ### State -/

/-- What an open file reads and writes. -/
inductive Channel where
  | null
  /-- What the machine prints, as output or as errors. -/
  | output
  | errors
  /-- A regular file, by the number of its body. -/
  | file (body : Nat)
  /-- A directory, which cannot be read. -/
  | dir
  /-- Bytes on their way from one process to another. -/
  | pipe (buffer : ByteArray)
  /-- What a program writes to a stream while the one that started it waits. -/
  | log (stream : Nat)

/-- An open file. -/
structure OpenFile where
  channel : Channel
  offset : Nat := 0
  appends : Bool := false

/-- The options of a shell. -/
structure Settings where
  stopAtFailure : Bool := false
  unsetIsError : Bool := false
  trace : Bool := false
  noPatterns : Bool := false
  noRun : Bool := false
  protectFiles : Bool := false
  exportAll : Bool := false
  verbose : Bool := false
  /-- A pipeline fails if any of its stages does. -/
  anyStageFails : Bool := false
  /-- What is done at failures is done in functions too. -/
  failuresInside : Bool := false
  noBraces : Bool := false
  physicalPaths : Bool := false
  /-- Patterns have groups. -/
  groups : Bool := false
  /-- Patterns that match no path stand for nothing, or are a mistake. -/
  emptyIfNone : Bool := false
  failIfNone : Bool := false
  /-- Patterns match hidden names too. -/
  hiddenToo : Bool := false
  /-- Two stars match any number of directories. -/
  deepStars : Bool := false
  /-- Patterns match letters of the other case, in paths and elsewhere. -/
  anyCasePaths : Bool := false
  anyCase : Bool := false
  /-- Commands whose output is used stop at failures as the shell does. -/
  inheritsStop : Bool := false
  /-- The last stage of a pipeline runs in the shell itself. -/
  lastStageInside : Bool := false
  /-- Names are replaced by the texts of aliases. -/
  aliases : Bool := false
  /-- The other options that are set, by their names. -/
  others : List String := []

/-- A function: its body, and the script that defines it. -/
structure Function where
  body : Command
  source : String := ""

/-- A function or script that is running. -/
structure Frame where
  name : String
  /-- The script that it is from. -/
  source : String
  /-- The line that it was called from. -/
  line : Nat

/-- What a shell knows. -/
structure State where
  /-- The name it goes by, and the arguments of the script or function. -/
  name : String
  args : List String := []
  bindings : List (String × Variable) := []
  functions : List (String × Function) := []
  settings : Settings := {}
  dialect : Dialect := .standard
  /-- The exit code of the last command. -/
  status : UInt8 := 0
  /-- The exit code of the last command whose output was used. -/
  outputStatus : UInt8 := 0
  /-- The exit codes of the stages of the last pipeline. -/
  stageStatuses : List UInt8 := []
  /-- The last word of the last command. -/
  lastWord : String := ""
  /-- The script was given as a text. -/
  fromText : Bool := false
  /-- How the part of the script that is being read is called in messages. -/
  scriptPart : String := ""
  /-- The functions and scripts that are running, the latest first. -/
  calls : List Frame := []
  /-- How many shells the shell was started from. -/
  depth : Nat := 0
  /-- The directories that were left to be gone back to, the latest first. -/
  leftDirs : List String := []
  /-- The files that stand for what commands print or read, and the commands that are still to read
  theirs; the latest first. -/
  connections : List (Nat × Option Command) := []
  /-- Which open file each stream is. -/
  streams : List (Nat × Nat) := []
  traps : List (String × String) := []
  documents : Array Word := #[]
  line : Nat := 0
  /-- The built-in command that is running. -/
  command : Option String := none
  loops : Nat := 0
  functionDepth : Nat := 0
  /-- The variables that functions have made their own, with what they were, innermost first. -/
  locals : List (List (String × Option Variable)) := []
  process : Nat := 1
  /-- How the processes in the background ended, the latest first. -/
  jobs : List (Nat × ExitStatus) := []
  /-- The processes in the background that were waited for. -/
  awaited : List Nat := []
  /-- What is set up for an event is being done. -/
  answering : Bool := false
  /-- Signals that were caught and not yet answered. -/
  pending : List Nat := []
  /-- How many letters of an argument `getopts` has read. -/
  optionOffset : Nat := 0
  /-- The programs that were found, each with its path and how often it was run. -/
  remembered : List (String × String × Nat) := []
  /-- The texts that are read in place of words. -/
  aliases : List (String × String) := []
  /-- The bits that new files do not get. -/
  umask : Mode := ⟨0o022⟩
  /-- The signals that were ignored when the shell was started; it cannot change that. -/
  ignored : List String := []

/-- A machine with the files open on it and the shell that is running. -/
structure Session where
  machine : Machine
  opened : Array OpenFile
  nextProcess : Nat := 2
  /-- What was written to channels that are logs, the latest first. -/
  log : List (Nat × ByteArray) := []
  shell : State

/-- What a step leaves instead of going on. -/
inductive Halt where
  /-- The shell, with its status. -/
  | leave
  /-- The process, because of a signal. -/
  | killed (signal : Nat) (process : Nat)
  /-- The shell, because a signal ended the program that took its place. -/
  | replaced (signal : Nat)
  /-- That many loops. -/
  | breaking (n : Nat)
  /-- This round of that many loops. -/
  | continuing (n : Nat)
  /-- The function. -/
  | returning
  /-- The line of the script. -/
  | discarding

/-- A step of a shell. -/
abbrev Run := EStateM Halt Session

/-! ### The shell -/

/-- What the shell knows. -/
def shell : Run State :=
  return (← get).shell

/-- Change what the shell knows. -/
def modifyShell (f : State → State) : Run Unit :=
  modify fun s => { s with shell := f s.shell }

/-- The files. -/
def files : Run FileTree :=
  return (← get).machine.files

/-- Let the files be `t`. -/
def setFiles (t : FileTree) : Run Unit :=
  modify fun s => { s with machine := { s.machine with files := t } }

/-- Set the status. -/
def setStatus (status : UInt8) : Run Unit :=
  modifyShell fun s => { s with status }

/-- Do something after a step, however it ends. -/
def after {α : Type} (act : Run α) (cleanup : Run Unit) : Run α := fun s =>
  match act s with
  | .ok a s =>
    match cleanup s with
    | .ok () s => .ok a s
    | .error h s => .error h s
  | .error h s =>
    match cleanup s with
    | .ok () s => .error h s
    | .error _ s => .error h s

/-- How a step ends. -/
def caught {α : Type} (act : Run α) : Run (Except Halt α) := fun s =>
  match act s with
  | .ok a s => .ok (.ok a) s
  | .error h s => .ok (.error h) s

/-! ### Open files -/

/-- Bytes put into others at a place; a gap is filled with zeros. -/
def splice (content : ByteArray) (offset : Nat) (bytes : ByteArray) : ByteArray :=
  if offset == content.size then content ++ bytes
  else if offset < content.size then
    content.extract 0 offset ++ bytes ++ content.extract (offset + bytes.size) content.size
  else content ++ ⟨Array.replicate (offset - content.size) 0⟩ ++ bytes

/-- Put bytes into an open file. -/
def OpenFile.write (f : OpenFile) (m : Machine) (bytes : ByteArray) : OpenFile × Machine :=
  match f.channel with
  | .null | .dir => (f, m)
  | .output => (f, { m with stdout := m.stdout ++ bytes })
  | .errors => (f, { m with stderr := m.stderr ++ bytes })
  | .pipe buffer => ({ f with channel := .pipe (buffer ++ bytes) }, m)
  | .log _ => (f, m)
  | .file n =>
    match m.files.body? n with
    | some body =>
      let offset := if f.appends then body.content.size else f.offset
      ({ f with offset := offset + bytes.size },
        { m with files := m.files.setContent n (splice body.content offset bytes) })
    | none => (f, m)

/-- The bytes that an open file still holds. -/
def OpenFile.remaining (f : OpenFile) (m : Machine) : ByteArray :=
  match f.channel with
  | .pipe buffer => buffer.extract f.offset buffer.size
  | .file n =>
    match m.files.body? n with
    | some body => body.content.extract f.offset body.content.size
    | none => .empty
  | _ => .empty

/-- The regular file that an open file is, and the place in it where writing goes on. -/
def OpenFile.streamFile? (f : OpenFile) (m : Machine) : Option Tool.StreamFile :=
  match f.channel with
  | .file n =>
    let size := ((m.files.body? n).map fun b => b.content.size).getD 0
    some ⟨n, if f.appends then size else f.offset⟩
  | _ => none

/-- The open file of a stream, by its place among the open files. -/
def openFile? (stream : Nat) : Run (Option (Nat × OpenFile)) := do
  let s ← get
  return (s.shell.streams.lookup stream).bind fun i => (s.opened[i]?).map fun f => (i, f)

/-- Write to a stream; whether it is open. -/
def writeTo (stream : Nat) (bytes : ByteArray) : Run Bool := do
  match ← openFile? stream with
  | none => return false
  | some (i, f) =>
    modify fun s =>
      match f.channel with
      | .log stream => { s with log := (stream, bytes) :: s.log }
      | _ =>
        let (f, machine) := f.write s.machine bytes
        { s with opened := s.opened.setIfInBounds i f, machine }
    return true

/-- Why a stream cannot be read, if it cannot. -/
def streamFault? (stream : Nat) : Run (Option FileFault) := do
  match ← openFile? stream with
  | some (_, { channel := .dir, .. }) => return some .isDirectory
  | some _ => return none
  | none => return some .badDescriptor

/-- What a stream still holds. -/
def remaining (stream : Nat) : Run ByteArray := do
  match ← openFile? stream with
  | none => return .empty
  | some (_, f) => return f.remaining (← get).machine

/-- Go past bytes of a stream. -/
def advance (stream n : Nat) : Run Unit := do
  match ← openFile? stream with
  | none => pure ()
  | some (i, f) =>
    modify fun s =>
      { s with opened := s.opened.setIfInBounds i { f with offset := f.offset + n } }

/-- Open a file; its place among the open files. -/
def addOpen (f : OpenFile) : Run Nat := do
  let s ← get
  set { s with opened := s.opened.push f }
  return s.opened.size

/-- Let a stream be an open file. -/
def bindStream (stream place : Nat) : Run Unit :=
  modifyShell fun s =>
    { s with streams := (stream, place) :: s.streams.filter fun x => x.1 != stream }

/-- Close a stream. -/
def closeStream (stream : Nat) : Run Unit :=
  modifyShell fun s => { s with streams := s.streams.filter fun x => x.1 != stream }

/-- Run a step and let the streams be again what they were. -/
def keepingStreams {α : Type} (act : Run α) : Run α := do
  let streams := (← shell).streams
  after act (modifyShell fun s => { s with streams })

/-! ### Messages -/

/-- What a message begins with. -/
def State.heading (s : State) : String :=
  let place := match s.dialect with
    | .standard => s.name ++ ": " ++ Nat.repr s.line
    | .extended => ((s.calls.head?.map Frame.source).getD s.name) ++ ": line " ++ Nat.repr s.line
  place ++ ": " ++ s.command.elim "" (· ++ ": ")

/-- Write a message of the shell. -/
def report (text : String) : Run Unit := do
  let _ ← writeTo 2 (contentOf ((← shell).heading ++ text ++ "\n"))

/-- Leave the shell with a status. -/
def leaveWith {α : Type} (status : UInt8) : Run α := do
  setStatus status
  throw .leave

/-- Write a message and leave the shell. -/
def die {α : Type} (text : String) : Run α := do
  report text
  leaveWith 2

/-- Write a message; the status after it. -/
def complain (status : UInt8) (text : String) : Run UInt8 := do
  report text
  return status

/-- Run a step as if no built-in command were running. -/
def outsideCommand {α : Type} (act : Run α) : Run α := do
  let before := (← shell).command
  modifyShell fun s => { s with command := none }
  after act (modifyShell fun s => { s with command := before })

/-- Write a message and give up the line of the script. -/
def discard {α : Type} (text : String) : Run α := do
  outsideCommand (report text)
  setStatus 1
  throw .discarding

/-- Write a message about a parameter and leave the shell. -/
def dieOfParameter {α : Type} (text : String) : Run α := do
  let s ← shell
  match s.dialect with
  | .standard => die text
  | .extended =>
    outsideCommand (report text)
    leaveWith (if s.fromText then 127 else 1)

/-! ### Variables -/

/-- A variable, marked or with a value. -/
def lookupVariable (name : String) : Run (Option Variable) := do
  return (← shell).bindings.lookup name

/-- The value of a variable. -/
def value? (name : String) : Run (Option String) := do
  return ((← shell).bindings.lookup name).bind Variable.value

/-- Let a name stand for a variable, or for none. -/
def putVariable (name : String) (v : Option Variable) : Run Unit :=
  modifyShell fun s =>
    match v with
    | none => { s with bindings := s.bindings.filter fun x => x.1 != name }
    | some v =>
      if s.bindings.any fun x => x.1 == name then
        { s with bindings := s.bindings.map fun x => if x.1 == name then (name, v) else x }
      else { s with bindings := s.bindings ++ [(name, v)] }

/-- The variable that a name means: it may refer to another one, through at most `n` variables. -/
def State.meant (s : State) : Nat → String → String
  | 0, name => name
  | n + 1, name =>
    match s.bindings.lookup name with
    | some v => if v.refers then v.value.elim name (s.meant n) else name
    | none => name

/-- The variable that a name means. -/
def meant (name : String) : Run String :=
  return (← shell).meant 8 name

/-- Let a variable be another one, unless it is fixed; whether that was done. -/
def updateVariable (name : String) (f : Variable → Variable) : Run Bool := do
  let old := (← lookupVariable name).getD {}
  if old.fixed then
    match (← shell).dialect with
    | .standard => die (name ++ ": is read only")
    | .extended =>
      outsideCommand (report (name ++ ": readonly variable"))
      return false
  else
    let exported := old.exported || (← shell).settings.exportAll
    putVariable name (some { f old with exported })
    return true

/-- Assign to a variable. -/
def assign (name value : String) : Run Unit := do
  let name ← meant name
  if !(← updateVariable name fun v => v.put "0" value) then
    setStatus 1
    throw .discarding

/-- The variables that programs inherit. -/
def State.environment (s : State) : List (String × String) :=
  s.bindings.filterMap fun x =>
    if x.2.exported && x.2.shape = .single then x.2.value.map fun v => (x.1, v) else none

/-- The signals that a shell and the programs it starts ignore. -/
def State.ignoredSignals (s : State) : List String :=
  s.ignored ++ (s.traps.filter fun x => x.2.isEmpty).map Prod.fst

/-- Mark a variable as belonging to the function that is running; whether it did not before. -/
def makeLocal (name : String) : Run Bool := do
  let old ← lookupVariable name
  match (← shell).locals with
  | scope :: outer =>
    if scope.any fun x => x.1 == name then return false
    else
      modifyShell fun s => { s with locals := ((name, old) :: scope) :: outer }
      return true
  | [] => return false

/-- Run a step with variables of its own, which `makeLocal` marks. -/
def withLocals {α : Type} (act : Run α) : Run α := do
  modifyShell fun s => { s with locals := [] :: s.locals }
  after act do
    match (← shell).locals with
    | scope :: outer =>
      scope.forM fun x => putVariable x.1 x.2
      modifyShell fun s => { s with locals := outer }
    | [] => pure ()

end ShaderBuild.Shell
