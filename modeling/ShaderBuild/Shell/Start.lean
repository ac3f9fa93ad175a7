import ShaderBuild.Shell.Process
import ShaderBuild.Shell.Program

/-! # Starting programs from shells

A program is a tool, a shell, or one of the programs that start other programs.  Tools read what the
streams of the shell hold, and what they write is put where the streams lead. -/

namespace ShaderBuild.Shell

/-! ### Tools -/

/-- Let a tool write where the streams lead, and keep its changes. -/
def settle (p : Tool.Progress) : Run ExitStatus := do
  setFiles p.files
  advance 0 p.consumed
  p.written.reverse.forM fun x => do
    let _ ← writeTo x.1 x.2
  return .exited p.status

/-- How a tool that runs in a session starts programs: their input is given, and what they write is
kept in a log. -/
def spawning (launch : String → List String → Run (Except FileFault ExitStatus)) (s : Session) :
    Tool.Spawn := fun program args input files =>
  let place := s.opened.size
  let opened := ((s.opened.push { channel := .pipe input }).push { channel := .log 1 }).push
    { channel := .log 2 }
  let streams := [(0, place), (1, place + 1), (2, place + 2)]
    ++ s.shell.streams.filter fun x => 2 < x.1
  let start : Session :=
    { s with machine := { s.machine with files }, opened, log := [], shell := { s.shell with streams } }
  match launch program args start with
  | .ok ending s => ⟨s.machine.files, ending, s.log.reverse⟩
  | .error (.killed signal _) s | .error (.replaced signal) s =>
    ⟨s.machine.files, .ok (.signaled signal), s.log.reverse⟩
  | .error _ s => ⟨s.machine.files, .ok (.exited s.shell.status), s.log.reverse⟩

/-- Run a tool. -/
def runTool
    (launch : String → List String → List (String × String) → Run (Except FileFault ExitStatus))
    (p : Started) (environment : List (String × String)) (tool : Tool.Routine) : Run ExitStatus := do
  let s ← get
  let fileOf (stream : Nat) : Run (Option Tool.StreamFile) := do
    return (← openFile? stream).bind fun x => x.2.streamFile? s.machine
  let call : Tool.Call :=
    { name := p.calledAs, args := p.args, input := ← remaining 0, environment
      umask := s.shell.umask, inputFile := ← fileOf 0, outputFile := ← fileOf 1
      streams := s.shell.streams.map Prod.fst, inputFault := ← streamFault? 0
      spawn := spawning (fun program args => launch program args environment) s }
  settle (Tool.run tool call (← files))

/-! ### Calls of shells -/

/-- The options of a shell and how it was called. -/
structure ShellCall where
  settings : List (Char × Bool) := []
  named : List (String × Bool) := []
  /-- The finer options of the extended dialect. -/
  finer : List (String × Bool) := []
  /-- The script is an argument. -/
  given : Bool := false
  /-- The script is read from the input. -/
  fromInput : Bool := false
  rest : List String := []
  /-- An option in words that does not exist. -/
  unknown : Option String := none

/-- The options in words of the extended dialect, and how many arguments they take. -/
def wordOptions : List (String × Nat) :=
  [("debug", 0), ("debugger", 0), ("dump-po-strings", 0), ("dump-strings", 0), ("init-file", 1),
    ("login", 0), ("noediting", 0), ("noprofile", 0), ("norc", 0), ("posix", 0),
    ("pretty-print", 0), ("rcfile", 1), ("restricted", 0), ("verbose", 0)]

/-- Read the options of a shell, from at most `n` arguments. -/
def readShellCall (dialect : Dialect) : Nat → List String → ShellCall → ShellCall
  | 0, args, c => { c with rest := args }
  | _, [], c => c
  | n + 1, arg :: args, c =>
    match arg.toList with
    | ['-'] | ['-', '-'] => { c with rest := args }
    | '-' :: '-' :: name =>
      match dialect, wordOptions.lookup (String.ofList name) with
      | .extended, some size => readShellCall dialect n (args.drop size) c
      | .extended, none => { c with unknown := some arg }
      | .standard, _ =>
        readShellCall dialect n args
          { c with settings := c.settings ++ ('-' :: name).map fun l => (l, true) }
    | sign :: letter :: letters =>
      if sign == '-' || sign == '+' then
        let all := letter :: letters
        let special := match dialect with
          | .standard => ['c', 'o', 'l']
          | .extended => ['c', 'o', 'l', 'O', 's', 'i', 'r', 'D']
        let plain := all.filter fun l => !special.contains l
        let taken := (all.filter fun l => l == 'o' || (l == 'O' && dialect = .extended)).zip args
        let chosen (letter : Char) : List (String × Bool) :=
          (taken.filter fun x => x.1 == letter).map fun x => (x.2, sign == '-')
        readShellCall dialect n (args.drop taken.length)
          { c with
            settings := c.settings ++ plain.map fun l => (l, sign == '-')
            named := c.named ++ chosen 'o'
            finer := c.finer ++ chosen 'O'
            given := c.given || all.contains 'c'
            fromInput := c.fromInput || all.contains 's' }
      else { c with rest := arg :: args }
    | _ => { c with rest := arg :: args }

/-! ### Variables at the start -/

/-- Variables that every shell has, besides those that it inherits. -/
def ownVariables (dialect : Dialect) : List (String × String) :=
  match dialect with
  | .standard =>
    [("IFS", " \t\n"), ("OPTIND", "1"), ("PS1", "# "), ("PS2", "> "), ("PS4", "+ "), ("PPID", "1"),
      ("PATH", defaultPath)]
  | .extended =>
    [("IFS", " \t\n"), ("OPTIND", "1"), ("OPTERR", "1"), ("PS4", "+ "), ("PPID", "1"),
      ("PATH", defaultPath), ("BASH", "/bin/bash"), ("EUID", "0"), ("HOSTTYPE", "x86_64"),
      ("MACHTYPE", "x86_64-pc-linux-gnu"), ("OSTYPE", "linux-gnu"), ("SHELL", "/bin/bash"),
      ("TERM", "dumb"), ("UID", "0")]

/-- The variables that a shell starts with. -/
def startingVariables (dialect : Dialect) (t : FileTree) (environment : List (String × String)) :
    List (String × Variable) :=
  let exported (value : String) : Variable := { Variable.ofValue value with exported := true }
  let here := raw (FileTree.pathOf t.workingDir).bytes
  let inherited := environment.filterMap fun x =>
    if isName x.1 && x.1 != "IFS" && x.1 != "PWD" then some (x.1, exported x.2) else none
  let own := (ownVariables dialect).filter fun x => !(inherited.any fun y => y.1 == x.1)
  let fixedNames := ["EUID", "PPID", "UID"]
  let set := inherited ++ ("PWD", exported here) :: own.map fun x =>
    (x.1, { Variable.ofValue x.2 with
      fixed := dialect = .extended && fixedNames.contains x.1
      integer := dialect = .extended && fixedNames.contains x.1 })
  match dialect with
  | .standard => set
  | .extended =>
    let level := ((environment.lookup "SHLVL").bind String.toNat?).getD 0 + 1
    let others := set.filter fun x => x.1 != "SHLVL"
    let old := if inherited.any fun x => x.1 == "OLDPWD" then []
      else [("OLDPWD", ({ exported := true } : Variable))]
    others ++ ("SHLVL", exported (Nat.repr level)) :: old

/-- What a shell knows when it is started. -/
def startingState (dialect : Dialect) (before : Session) (calledAs : String)
    (environment : List (String × String)) : State :=
  { name := calledAs
    bindings := startingVariables dialect before.machine.files environment
    dialect
    settings := if dialect = .extended then Switch.start else {}
    streams := before.shell.streams
    process := before.nextProcess
    umask := before.shell.umask
    ignored := before.shell.ignoredSignals }

/-! ### Shells -/

/-- Write a message that begins with a name alone. -/
def tellPlainly (text : String) : Run Unit := do
  let _ ← writeTo 2 (contentOf ((← shell).name ++ ": " ++ text ++ "\n"))

/-- Set the options that a shell was called with. -/
def applyCall (call : ShellCall) : Run Unit := do
  match (← shell).dialect with
  | .standard =>
    call.settings.forM fun x => setLetter x.2 x.1
    call.named.forM fun x => setNamed x.2 x.1
  | .extended =>
    if let some text := call.unknown then
      tellPlainly (text ++ ": invalid option")
      leaveWith 2
    call.settings.forM fun (c, on) => do
      match Switch.family.find? fun x => x.letter == some c with
      | some x => Extended.modifySettings (x.set on)
      | none =>
        tellPlainly (String.ofList [if on then '-' else '+', c] ++ ": invalid option")
        leaveWith 2
    let named (family : List Switch) (wrong : String) (x : String × Bool) : Run Unit := do
      match family.find? fun y => y.name == x.1 with
      | some y => Extended.modifySettings (y.set x.2)
      | none =>
        tellPlainly (x.1 ++ wrong)
        leaveWith 2
    call.named.forM (named Switch.family ": invalid option name")
    call.finer.forM (named Switch.finerFamily ": invalid shell option name")

/-- Give the shell the name and the arguments of its script. -/
def nameScript (names : List String) : Run Unit :=
  modifyShell fun s =>
    match names with
    | name :: args => { s with name, args }
    | [] => s

/-- Run the script that is an argument. -/
def runGiven (again : Evaluate) (names : List String) : Run UInt8 := do
  match names, (← shell).dialect with
  | [], .standard => die "-c requires an argument"
  | [], .extended =>
    tellPlainly "-c: option requires an argument"
    leaveWith 2
  | text :: names, dialect =>
    nameScript names
    if dialect = .extended then modifyShell fun s => { s with fromText := true, scriptPart := "-c" }
    runText again text

/-- Whether a file is no text: there is a zero near its front, in its first line unless that names
an interpreter. -/
def isBinary (content : ByteArray) : Bool :=
  let front := (content.extract 0 80).data.toList
  (if [35, 33].isPrefixOf front then front else front.takeWhile fun b => b != 10).contains 0

/-- Run the script in a file. -/
def runScript (again : Evaluate) (file : String) (args : List String) : Run UInt8 := do
  let t ← files
  let dialect := (← shell).dialect
  let isPlain := dialect = .extended && !file.toList.contains '/'
  let path := match t.find ⟨unraw file⟩ with
    | .ok _ => file
    | .error _ =>
      if isPlain then
        match search t ((((startingVariables dialect t []).lookup "PATH").bind Variable.value).getD "")
          file with
        | .ok path => path
        | .error _ => file
      else file
  match t.read ⟨unraw path⟩, dialect with
  | .ok content, .standard =>
    nameScript (file :: args)
    runText again (scriptOf content)
  | .ok content, .extended =>
    if isBinary content then
      let shown := path ++ ": " ++ path ++ ": cannot execute binary file"
      let _ ← writeTo 2 (contentOf (shown ++ "\n"))
      leaveWith 126
    else
      nameScript (path :: args)
      modifyShell fun s => { s with calls := [⟨"main", path, 0⟩] }
      runText again (scriptOf content)
  | .error .isDirectory, .standard =>
    nameScript (file :: args)
    return 0
  | .error e, .standard =>
    report ("cannot open " ++ file ++ ": " ++ openMessage false e)
    leaveWith 2
  | .error e, .extended =>
    if e = .isDirectory then
      let _ ← writeTo 2 (contentOf (file ++ ": " ++ file ++ ": Is a directory\n"))
    else tellPlainly (file ++ ": " ++ e.reason)
    leaveWith (if e = .notFound then 127 else 126)

/-- Run a shell as a process of its own. -/
def runShell (again : Evaluate) (dialect : Dialect) (calledAs : String) (args : List String)
    (environment : List (String × String)) : Run ExitStatus := do
  let before ← get
  let call := readShellCall dialect (args.length + 1) args {}
  set { before with
    shell := startingState dialect before calledAs environment
    nextProcess := before.nextProcess + 1 }
  let ended ← caught (toEnd again (closeConnections (runReader again) 0) do
    applyCall call
    match call.given, call.fromInput, call.rest with
    | true, _, names => runGiven again names
    | false, false, file :: args => runScript again file args
    | false, _, args =>
      modifyShell fun s => { s with args }
      let content ← remaining 0
      advance 0 content.size
      runText again (scriptOf content))
  let process := (← shell).process
  modify fun s =>
    { s with
      shell := before.shell
      machine := { s.machine with
        files := { s.machine.files with workingDir := before.machine.files.workingDir } } }
  match ended with
  | .ok ending => return ending
  | .error (.killed signal p) =>
    if p == process then return .signaled signal else throw (.killed signal p)
  | .error h => throw h

/-! ### Programs that start programs -/

/-- What `env` was asked for: the environment and the command. -/
def envCall : Nat → List String → List (String × String) →
    Except String (List (String × String) × List String)
  | 0, args, environment => .ok (environment, args)
  | _, [], environment => .ok (environment, [])
  | n + 1, arg :: args, environment =>
    match arg.toList with
    | ['-'] | ['-', 'i'] => envCall n args []
    | ['-', '-'] => .ok (assigned environment args)
    | ['-', 'u'] =>
      envCall n args.tail (environment.filter fun x => some x.1 != args.head?)
    | ['-', 'S'] =>
      let words := (args.headD "").toList
      let split := ((pieces (· == ' ') words).filter fun w => !w.isEmpty).map String.ofList
      envCall n (split ++ args.tail) environment
    | '-' :: 'S' :: words =>
      let split := ((pieces (· == ' ') words).filter fun w => !w.isEmpty).map String.ofList
      envCall n (split ++ args) environment
    | '-' :: c :: _ => .error ("invalid option -- '" ++ c.toString ++ "'")
    | _ => .ok (assigned environment (arg :: args))
where
  /-- Take assignments from the front of the arguments. -/
  assigned (environment : List (String × String)) (args : List String) :
      List (String × String) × List String :=
    let isAssignment (a : String) : Bool := a.toList.contains '='
    let given := (args.takeWhile isAssignment).map fun a =>
      (String.ofList (a.toList.takeWhile (· != '=')),
        String.ofList (a.toList.dropWhile (· != '=')).tail)
    let kept := environment.filter fun x => !(given.any fun y => y.1 == x.1)
    (kept ++ given, args.dropWhile isAssignment)

/-- Start a program that has been found; `launch` starts another one by its name. -/
def startFound (again : Evaluate)
    (launch : String → List String → List (String × String) → Run (Except FileFault ExitStatus))
    (p : Started) (environment : List (String × String)) : Run ExitStatus := do
  let run := runTool launch p environment
  let start (words : List String) (environment : List (String × String)) : Run ExitStatus := do
    match words with
    | [] => return .exited 0
    | command :: args =>
      match ← launch command args environment with
      | .ok ending => return ending
      | .error e =>
        let _ ← writeTo 2 (contentOf (p.calledAs ++ ": "
          ++ (if p.program == "env" then Tool.quoted command
            else if p.program == "setsid" then "failed to execute " ++ command
            else "failed to run command " ++ Tool.quoted command) ++ ": " ++ e.reason ++ "\n"))
        return .exited (if e = .notFound then 127 else 126)
  let asked (table : Tool.OptionTable) (status : UInt8) (body : Tool.Options → Run ExitStatus) :
      Run ExitStatus :=
    match { table with ordered := true : Tool.OptionTable }.readFrom (p.args.length + 1) p.args with
    | .ok o => body o
    | .error text => run (Tool.refuse status text)
  let needed (status : UInt8) (words : List String) (missing : String) : Run ExitStatus :=
    if words.isEmpty then run (Tool.refuse status missing) else start words environment
  match p.program with
  | "sh" | "dash" => runShell again .standard p.calledAs p.args environment
  | "bash" => runShell again .extended p.calledAs p.args environment
  | "env" =>
    match envCall (p.args.length + 1) p.args environment with
    | .error text => run (Tool.refuse 125 text)
    | .ok (environment, []) =>
      run (environment.forM fun x => Tool.say (x.1 ++ "=" ++ x.2 ++ "\n"))
    | .ok (environment, words) => start words environment
  | "nohup" =>
    asked {} 125 fun o => needed 125 o.operands "missing operand"
  | "setsid" =>
    asked { flags := "cfw" } 1 fun o => needed 1 o.operands "no command specified"
  | "stdbuf" =>
    let table : Tool.OptionTable :=
      { valued := "ioe", long := [("input", 'i'), ("output", 'o'), ("error", 'e')] }
    asked table 125 fun o =>
      if o.given.isEmpty && !o.operands.isEmpty then
        run (Tool.refuse 125 "you must specify a buffering mode option")
      else needed 125 o.operands "missing operand"
  | "nice" =>
    asked { valued := "n", long := [("adjustment", 'n')] } 125 fun o =>
      if o.operands.isEmpty then
        if o.given.isEmpty then run (Tool.say "0\n")
        else run (Tool.refuse 125 "a command must be given with an adjustment")
      else start o.operands environment
  | "timeout" =>
    let table : Tool.OptionTable :=
      { flags := "vfp", valued := "ks"
        long := [("kill-after", 'k'), ("signal", 's'), ("verbose", 'v'), ("foreground", 'f'),
          ("preserve-status", 'p')] }
    asked table 125 fun o => do
      match o.operands with
      | limit :: words =>
        match Tool.interval? limit with
        | none => run (Tool.refuse 125 ("invalid time interval " ++ Tool.quoted limit))
        | some time =>
          let before := (← files).clock
          let ending ← needed 125 words "missing operand"
          if time = 0 || (← files).clock < before + time then return ending
          else
            let signal := (o.value? 's').getD "TERM"
            setFiles { (← files) with clock := before + time }
            return .exited (if ["KILL", "SIGKILL", "9"].contains signal then 137
              else if o.has 'p' then 143 else 124)
      | [] => needed 125 [] "missing operand"
  | "which" =>
    let searchPath := (environment.lookup "PATH").getD defaultPath
    let t ← files
    run do
      p.args.forM fun a => do
        match if a.toList.contains '/' then .ok a else search t searchPath a with
        | .ok path => Tool.say (path ++ "\n")
        | .error _ => Tool.fail 1
  | program =>
    match Tool.tools.lookup program with
    | some tool => run tool
    | none => return .exited 127

/-- Find a program by its name or path and start it, or say why that cannot be done.  A file without
an interpreter is left to the shell at `fallback`, if there is one. -/
def launchWith (again : Evaluate) : Nat → (fallback : Option String) → (searchPath name : String) →
    List String → List (String × String) → Run (Except FileFault ExitStatus)
  | 0, _, _, _, _, _ => return .error .linkLoop
  | n + 1, fallback, searchPath, name, args, environment => do
    let t ← files
    let place := if name.toList.contains '/' then .ok name else search t searchPath name
    match place with
    | .error e => return .error e
    | .ok path =>
      let found : Except FileFault Started := match programAt t path name args, fallback with
        | .error .badProgram, some shell => programAt t shell shell (path :: args)
        | found, _ => found
      match found with
      | .error e => return .error e
      | .ok p =>
        let inner := (environment.lookup "PATH").getD defaultPath
        return .ok (← startFound again (launchWith again n (some "/bin/sh") inner) p environment)

/-- The deepest nesting of programs that start programs. -/
def deepestLaunch : Nat := 100

/-- The shell that runs files without an interpreter. -/
def fallbackShell : Dialect → String
  | .standard => "/bin/sh"
  | .extended => "/bin/bash"

/-! ### Programs that scripts run -/

/-- Why a program at a path cannot be started, and the status of that. -/
def startFault (t : FileTree) (path : String) (e : FileFault) : String × UInt8 :=
  match e, t.find ⟨unraw path⟩ with
  | .badProgram, _ => ("cannot execute binary file: Exec format error", 126)
  | .notFound, .ok _ => ("cannot execute: required file not found", 127)
  | .notFound, .error _ => (e.reason, 127)
  | _, .ok (_, .dir _ _) => ("Is a directory", 126)
  | _, _ => (e.reason, 126)

/-- Complain that a program cannot be started; the status of that. -/
def complainOfStart (name path : String) (e : FileFault) : Run UInt8 := do
  let hasSlash := name.toList.contains '/'
  match (← shell).dialect with
  | .standard =>
    let text := if e = .notFound || e = .notDirectory then "not found" else e.reason
    report (name ++ ": " ++ text)
    return if !hasSlash || e = .notFound || e = .linkLoop || e = .nameTooLong then 127 else 126
  | .extended =>
    if path.isEmpty then
      let shown := if isShownText name then name else escapeQuoted name
      outsideCommand (complain 127 (shown ++ ": command not found"))
    else
      let (text, status) := startFault (← files) path e
      outsideCommand (complain status (path ++ ": " ++ text))

/-- The path of a program by its name; empty if there is none. -/
def programPath (name : String) : Run String := do
  if name.toList.contains '/' then return name
  else
    let t ← files
    let searchPath := (← value? "PATH").getD ""
    match search t searchPath name with
    | .ok path => return path
    | .error .accessDenied =>
      let found := (candidates searchPath name).find? fun path =>
        match t.find ⟨unraw path⟩ with
        | .ok (_, .file _) => true
        | _ => false
      return found.getD ""
    | .error _ => return ""

/-- Start a program by its name; it is remembered where it was found. -/
def startProgram (again : Evaluate) (name : String) (args : List String) :
    Run (Except (String × FileFault) ExitStatus) := do
  let s ← shell
  let searchPath := (← value? "PATH").getD ""
  let launch : Run (Except FileFault ExitStatus) :=
    launchWith again deepestLaunch (some (fallbackShell s.dialect)) searchPath name args s.environment
  match s.dialect with
  | .standard =>
    match ← launch with
    | .ok ending => return .ok ending
    | .error e => return .error ("", e)
  | .extended =>
    let path ← programPath name
    let content := ((← files).read ⟨unraw path⟩).toOption.getD .empty
    if path.isEmpty then return .error ("", .notFound)
    else if isBinary content && (Tool.ofImage? content).isNone then return .error (path, .badProgram)
    else
      if path != name then
        modifyShell fun s =>
          let hits := ((s.remembered.lookup name).map Prod.snd).getD 0
          let others := s.remembered.filter fun x => x.1 != name
          { s with remembered := (name, path, hits + 1) :: others }
      match ← launch with
      | .ok ending => return .ok ending
      | .error e => return .error (path, e)

/-- Run a program from a script. -/
def runProgram (again : Evaluate) (f : Flags) (name : String) (args : List String) :
    Run UInt8 := do
  let s ← shell
  match ← startProgram again name args with
  | .ok (.signaled n) =>
    if f.final && s.traps.isEmpty then throw (.replaced n) else waited (.signaled n)
  | .ok ending => waited ending
  | .error (path, e) => complainOfStart name path e

end ShaderBuild.Shell
