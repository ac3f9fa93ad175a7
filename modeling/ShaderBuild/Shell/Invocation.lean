import ShaderBuild.Shell.Start

/-! # Simple commands

A simple command assigns variables, opens redirections, and runs a function, a built-in command or
a program.  What it assigns lasts only as long as what it runs, unless it runs nothing; in the
standard dialect it also lasts with a built-in command that is special. -/

namespace ShaderBuild.Shell

open Extended (Argument)

/-! ### Functions -/

/-- How many functions may be running inside each other in the standard dialect. -/
def mostCalls : Nat := 1000

/-- Call a function. -/
def callFunction (again : Evaluate) (f : Flags) (name : String) (function : Function)
    (args : List String) : Run UInt8 := do
  let before ← shell
  if before.dialect = .standard && mostCalls ≤ before.functionDepth then
    die ("Maximum function recursion depth (" ++ Nat.repr mostCalls ++ ") reached")
  modifyShell fun s =>
    { s with
      args, loops := 0, functionDepth := s.functionDepth + 1
      calls := ⟨name, function.source, s.line⟩ :: s.calls }
  let finish : Run Unit := modifyShell fun s =>
    { s with
      args := before.args, loops := before.loops, functionDepth := before.functionDepth
      calls := before.calls }
  after (withLocals do
    let status ← match ← caught (again function.body { tested := f.tested }) with
      | .ok status => pure status
      | .error .returning => pure (← shell).status
      | .error h => throw h
    setStatus status
    runEventTrap again "RETURN" ((← shell).settings.others.contains "functrace")
    return status) finish

/-! ### Descriptions -/

/-- What a name means to the shell as a command. -/
inductive Meaning where
  | alias (text : String)
  | keyword
  | function
  | special
  | builtin
  | program (path : String)

/-- What a name means as a command, first things first. -/
def meanings (name : String) : Run (List Meaning) := do
  let s ← shell
  let t ← files
  let isExtended := s.dialect = .extended
  let isProgram (path : String) : Bool := match t.find ⟨unraw path⟩ with
    | .ok (_, .file n) => (t.modeOf (.file n)).mayExecute
    | _ => false
  let searchPath := (← value? "PATH").getD ""
  let paths := if name.toList.contains '/' then [name] else candidates searchPath name
  let builtins : List Meaning :=
    if isExtended then if Extended.isBuiltin name then [.builtin] else []
    else if isSpecialBuiltin name then [.special]
    else if isBuiltin name then [.builtin] else []
  let known := if isExtended && !s.settings.aliases then [] else s.aliases
  let aliases := ((known.lookup name).map Meaning.alias).toList
  let keyword : List Meaning := if (keywords s.dialect).contains name then [.keyword] else []
  return (if isExtended then aliases ++ keyword else keyword ++ aliases)
    ++ (if s.functions.any fun x => x.1 == name then [.function] else [])
    ++ builtins ++ (paths.filter isProgram).map Meaning.program

/-- A meaning as it is told. -/
def Meaning.told (dialect : Dialect) (name : String) : Meaning → String
  | .alias text =>
    if dialect = .extended then name ++ " is aliased to \x60" ++ text ++ "'"
    else name ++ " is an alias for " ++ text
  | .keyword => name ++ " is a shell keyword"
  | .function => name ++ (if dialect = .extended then " is a function" else " is a shell function")
  | .special => name ++ " is a special shell builtin"
  | .builtin => name ++ " is a shell builtin"
  | .program path => name ++ " is " ++ path

/-- What may be written to run what a name means. -/
def Meaning.spelled (name : String) : Meaning → String
  | .alias text => "alias " ++ name ++ "=" ++ plainQuoted text
  | .program path => path
  | _ => name

/-- The kind of a meaning in a word. -/
def Meaning.kind : Meaning → String
  | .alias _ => "alias"
  | .keyword => "keyword"
  | .function => "function"
  | .special | .builtin => "builtin"
  | .program _ => "file"

/-- How a command is called when it is asked for. -/
def describe (verbose : Bool) (name : String) : Run (Option String) := do
  let dialect := (← shell).dialect
  return (← meanings name).head?.map fun m => if verbose then m.told dialect name else m.spelled name

/-- Say what names mean as commands. -/
def Extended.typeBuiltin : Builtin := fun args =>
  Usage.reading ⟨"type [-afptP] name [name ...]", "afptP", ""⟩ args fun o names => do
    names.foldlM (fun status name => do
      let all ← meanings name
      let isProgram : Meaning → Bool := fun
        | .program _ => true
        | _ => false
      let isFunction : Meaning → Bool := fun
        | .function => true
        | _ => false
      let all := if o.has 'P' then all.filter isProgram
        else if o.has 'f' then all.filter fun m => !isFunction m else all
      let shown := if o.has 'a' then all else all.take 1
      let remembered := (← shell).remembered
      let line (m : Meaning) : String := match m with
        | .program path =>
          if o.has 't' then "file"
          else if o.has 'p' || o.has 'P' then path
          else if !o.has 'a' && (remembered.lookup name).isSome then
            name ++ " is hashed (" ++ path ++ ")"
          else m.told .extended name
        | m =>
          if o.has 't' then m.kind else if o.has 'p' then "" else m.told .extended name
      let lines := (shown.map line).filter fun l => !l.isEmpty
      let _ ← put (String.join (lines.map (· ++ "\n")))
      if all.isEmpty then
        if !o.has 't' && !o.has 'p' && !o.has 'P' then report (name ++ ": not found")
        return 1
      else return status) 0

/-! ### Parts of scripts in files -/

/-- Run a file as a part of the script. -/
def sourceFile (again : Evaluate) (name : String) : Run UInt8 := do
  let t ← files
  let searchPath := (← value? "PATH").getD ""
  let path := if name.toList.contains '/' then name
    else
      let found := (candidates searchPath name).find? fun p =>
        match t.find ⟨unraw p⟩ with
        | .ok (_, .file _) => true
        | _ => false
      found.getD ""
  match if path.isEmpty then .error .notFound else t.read ⟨unraw path⟩ with
  | .ok content =>
    modifyShell fun s => { s with command := some name }
    match ← caught (runText again (scriptOf content)) with
    | .ok status => return status
    | .error .returning => return (← shell).status
    | .error h => throw h
  | .error .isDirectory => return 0
  | .error e =>
    if name.toList.contains '/' then die ("cannot open " ++ name ++ ": " ++ openMessage false e)
    else die (name ++ ": not found")

/-- Run a file as a part of the script; arguments may take the place of those of the script. -/
def Extended.sourceBuiltin (again : Evaluate) : Builtin := fun args => do
  let usage : Usage := ⟨(← shell).command.getD "" ++ " filename [arguments]", "", ""⟩
  match Extended.withoutDashes args with
  | [] => usage.refuse "filename argument required"
  | name :: args =>
    let t ← files
    let inPath := (candidates ((← value? "PATH").getD "") name).find? fun p =>
      match t.find ⟨unraw p⟩ with
      | .ok (_, .file n) => (t.modeOf (.file n)).mayRead
      | _ => false
    let path := if name.toList.contains '/' then name else inPath.getD name
    match t.read ⟨unraw path⟩ with
    | .error .isDirectory => complain 1 (path ++ ": is a directory")
    | .error e => outsideCommand (complain 1 (path ++ ": " ++ e.reason))
    | .ok content =>
      let before ← shell
      modifyShell fun s =>
        { s with
          calls := ⟨"source", path, s.line⟩ :: s.calls
          args := if args.isEmpty then s.args else args
          command := none, scriptPart := "" }
      let finish : Run Unit := modifyShell fun s =>
        { s with
          calls := before.calls, command := before.command, scriptPart := before.scriptPart
          line := before.line
          args := if args.isEmpty then s.args else before.args }
      after (do
        let status ← match ← caught (runText again (scriptOf content)) with
          | .ok status => pure status
          | .error .returning => pure (← shell).status
          | .error h => throw h
        setStatus status
        runEventTrap again "RETURN" true
        return status) finish

/-! ### Built-in commands that run other commands -/

/-- Run a program in place of the shell. -/
def execBuiltin (again : Evaluate) (program : String) (args : List String) : Run UInt8 := do
  let s ← shell
  match ← launchWith again deepestLaunch (some (fallbackShell s.dialect))
      ((← value? "PATH").getD "") program args s.environment with
  | .ok (.signaled n) => throw (.replaced n)
  | .ok ending =>
    modifyShell fun s => { s with traps := [] }
    leaveWith (codeOf ending)
  | .error e =>
    let missing := e = .notFound || e = .linkLoop || e = .nameTooLong
    match s.dialect with
    | .standard =>
      report (program ++ ": " ++ if e = .notFound || e = .notDirectory then "not found" else e.reason)
      leaveWith (if missing || !program.toList.contains '/' then 127 else 126)
    | .extended =>
      let path ← programPath program
      if path.isEmpty then
        report (program ++ ": not found")
        leaveWith 127
      else
        let (text, status) := startFault (← files) path e
        let here := (← workingPath) ++ "/"
        let front := if path.startsWith "./" then path.toList.drop 2 else path.toList
        let full := if path.startsWith "/" then path else here ++ String.ofList front
        outsideCommand (report (full ++ ": " ++ text))
        if status != 127 then report (full ++ ": cannot execute: " ++ text)
        leaveWith status

/-- Run a built-in command of the standard dialect; `plainly` runs a command without looking at
functions. -/
def runBuiltin (again : Evaluate) (f : Flags) (plainly : String → List String → Run UInt8)
    (name : String) (args : List String) : Run UInt8 := do
  match name with
  | "eval" => runText again (" ".intercalate args)
  | "." =>
    match args with
    | [] => return 0
    | file :: _ => sourceFile again file
  | "exec" =>
    match args with
    | [] => return 0
    | program :: args => execBuiltin again program args
  | "command" =>
    match args with
    | [] => return 0
    | "-v" :: name :: _ =>
      match ← describe false name with
      | some text => put (text ++ "\n")
      | none => return 127
    | "-V" :: name :: _ =>
      match ← describe true name with
      | some text => put (text ++ "\n")
      | none =>
        let _ ← put (name ++ ": not found\n")
        return 127
    | "-p" :: name :: args | "--" :: name :: args => plainly name args
    | first :: args =>
      match first.toList with
      | '-' :: c :: _ => die ("Illegal option -" ++ c.toString)
      | _ => plainly first args
  | "type" =>
    args.foldlM (fun status name => do
      match ← describe true name with
      | some text =>
        let _ ← put (text ++ "\n")
        return status
      | none =>
        let _ ← put (name ++ ": not found\n")
        return 127) 0
  | name =>
    match (specialBuiltins ++ plainBuiltins).lookup name with
    | some builtin => builtin args
    | none => runProgram again f name args

/-- Run a command of the standard dialect by its name, which is no function, nested at most `n`
times. -/
def runNamed (again : Evaluate) (f : Flags) : Nat → String → List String → Run UInt8
  | 0, _, _ => return 127
  | n + 1, name, args => do
    if isBuiltin name then
      let before := (← shell).command
      modifyShell fun s => { s with command := some name }
      let body := runBuiltin again f (fun name args => do
        modifyShell fun s => { s with command := before }
        runNamed again f n name args) name args
      after
        (match isSpecialBuiltin name with
          | true => body
          | false => do
            match ← caught body with
            | .ok status => return status
            | .error .leave =>
              if name == "command" && args.any (fun a => a == "exit" || a == "exec") then
                throw .leave
              else return (← shell).status
            | .error h => throw h)
        (modifyShell fun s => { s with command := before })
    else runProgram again f name args

namespace Extended

/-- Run a text as a part of the script, which begins at the line that is running. -/
def evalBuiltin (again : Evaluate) : Builtin := fun args =>
  Usage.reading ⟨"eval [arg ...]", "", ""⟩ args fun _ words => do
    let before ← shell
    if words.isEmpty then return 0
    modifyShell fun s => { s with scriptPart := "eval", command := none }
    after (runTextFrom again before.line (" ".intercalate words))
      (modifyShell fun s =>
        { s with scriptPart := before.scriptPart, command := before.command, line := before.line })

/-- Run a command without looking at functions, or say what names mean. -/
def commandBuiltin (plainly : String → List String → Run UInt8) : Builtin := fun args =>
  Usage.reading ⟨"command [-pVv] command [arg ...]", "pVv", ""⟩ args fun o words => do
    if o.has 'v' || o.has 'V' then
      let statuses ← words.mapM fun name => do
        match ← describe (o.has 'V') name with
        | some text => put (text ++ "\n")
        | none =>
          if o.has 'V' then report (name ++ ": not found")
          return 1
      return if words.isEmpty || statuses.contains 0 then 0 else 1
    else
      match words with
      | [] => return 0
      | name :: args => plainly name args

/-- Run a program in place of the shell. -/
def execCommand (again : Evaluate) : Builtin := fun args =>
  Usage.reading ⟨"exec [-cl] [-a name] [command [argument ...]] [redirection ...]", "cl", "a"⟩ args
    fun o words => do
      match words with
      | [] => return 0
      | program :: args =>
        if o.has 'c' then
          modifyShell fun s =>
            { s with bindings := s.bindings.map fun x => (x.1, { x.2 with exported := false }) }
        execBuiltin again program args

/-- Run a command of the extended dialect by its name, which is no function, nested at most `n`
times. -/
def runNamed (again : Evaluate) (f : Flags) : Nat → String → List Argument → Run UInt8
  | 0, _, _ => return 127
  | n + 1, name, args => do
    let texts := args.map Argument.text
    if isBuiltin name then
      let before := (← shell).command
      modifyShell fun s => { s with command := some name }
      let plainly (name : String) (args : List String) : Run UInt8 := do
        modifyShell fun s => { s with command := before }
        runNamed again f n name (args.map Argument.word)
      let body : Run UInt8 := match name with
        | "eval" => evalBuiltin again texts
        | "." | "source" => sourceBuiltin again texts
        | "exec" => execCommand again texts
        | "type" => typeBuiltin texts
        | "command" => commandBuiltin plainly texts
        | "builtin" =>
          match withoutDashes texts with
          | [] => return 0
          | inner :: rest =>
            if isBuiltin inner then plainly inner rest
            else complain 1 (inner ++ ": not a shell builtin")
        | name =>
          match declaringBuiltins.lookup name with
          | some builtin => builtin args
          | none => ((builtins.lookup name).getD fun _ => return 0) texts
      after body (modifyShell fun s => { s with command := before })
    else runProgram again f name texts

end Extended

/-! ### Words -/

/-- The elements that an assignment gives to an array. -/
def givenElements (again : Evaluate) (items : List Element) : Run (List Extended.GivenElement) := do
  let found ← items.mapM fun
    | .next w => do
      return (← expandWord (runner again) w).map fun value =>
        (⟨none, false, value⟩ : Extended.GivenElement)
    | .keyed key appends w => do
      let key ← expandText (runner again) key
      return [⟨some key, appends, ← expandText (runner again) w⟩]
  return found.flatten

/-- An assignment with its words expanded. -/
def expandAssignment (again : Evaluate) : Assignment → Run Argument
  | .assign name index appends value => do
    match value with
    | [.elements items] => return .array name appends (← givenElements again items)
    | value =>
      let key? ← match index with
        | .at key => do pure (some (← expandText (runner again) key))
        | _ => pure none
      return .assigned name key? appends (← expandValue (runner again) value)

/-- Whether a command takes assignments as arguments, as far as its words are known. -/
def takesAssignments (dialect : Dialect) (found : List Argument) : Bool :=
  match dialect, found.map Argument.text with
  | .standard, name :: _ => name == "export" || name == "readonly" || name == "local"
  | .extended, words =>
    match words.dropWhile fun w => w == "command" || w == "builtin" with
    | name :: _ => declaringCommands.contains name
    | [] => false
  | _, [] => false

/-- The words of a command.  Assignments among the arguments of a command that declares variables
are not split. -/
def expandWords (again : Evaluate) : List Word → List Argument → Run (List Argument)
  | [], found => return found
  | w :: ws, found => do
    let dialect := (← shell).dialect
    let fields ← match if takesAssignments dialect found then assignment? dialect w else none with
      | some a => do
        match dialect, ← expandAssignment again a with
        | .standard, arg => pure [Argument.word arg.text]
        | .extended, arg => pure [arg]
      | none => do pure ((← expandWord (runner again) w).map Argument.word)
    expandWords again ws (found ++ fields)

/-! ### Traces -/

/-- A word as a trace shows it. -/
def tracedWord (dialect : Dialect) (word : String) : String :=
  match dialect with
  | .standard => word
  | .extended =>
    let plain (c : Char) : Bool := c.isAlphanum || "%+,-./:=@_#~".toList.contains c
    if word.isEmpty then "''"
    else if !isShownText word then escapeQuoted word
    else if word.toList.all plain && !(word.startsWith "#" || word.startsWith "~") then word
    else plainQuoted word

/-- Show a command before it is run. -/
def traceCommand (assigned : List Argument) (words : List String) : Run Unit := do
  let s ← shell
  if s.settings.trace then
    let mark := (← value? "PS4").getD ""
    let write (text : String) : Run Unit := do
      let _ ← writeTo 2 (contentOf (mark ++ text ++ "\n"))
    match s.dialect with
    | .standard => write (" ".intercalate (assigned.map Argument.text ++ words))
    | .extended =>
      assigned.forM fun a =>
        match a with
        | .assigned name key? appends value =>
          write (Argument.text (.assigned name key? appends
            (if value.isEmpty then "" else tracedWord .extended value)))
        | .array name appends elements =>
          write (Argument.text (.array name appends []) ++ "("
            ++ " ".intercalate (elements.map fun e =>
              e.key?.elim "" (fun k => "[" ++ k ++ "]=") ++ tracedWord .extended e.value) ++ ")")
        | .word _ => pure ()
      if !words.isEmpty then write (" ".intercalate (words.map (tracedWord .extended)))

/-! ### Simple commands -/

/-- Assign as an argument says, for good; whether that was done. -/
def assignArgument : Argument → Run Bool
  | .word _ => return true
  | .assigned name key? appends value => do
    match (← shell).dialect with
    | .standard =>
      assign name value
      return true
    | .extended => assignElement name key? appends value
  | .array name appends elements => Extended.assignArray name appends elements

/-- Assign for the time of a command, for which the variable is exported. -/
def assignBriefly (a : Argument) : Run Unit := do
  match a with
  | .assigned name _ _ _ | .array name _ _ =>
    let isFixed := ((← lookupVariable name).map Variable.fixed).getD false
    if isFixed && (← shell).dialect = .extended then
      outsideCommand (report (name ++ ": readonly variable"))
    else
      let _ ← makeLocal name
      let _ ← assignArgument a
      let v ← lookupVariable name
      putVariable name (v.map fun v => { v with exported := true })
  | .word _ => pure ()

/-- Copy a file to the output, if a command does nothing but read it and its output is used. -/
def copyRead (f : Flags) (redirects : List Redirect) : Run Unit := do
  match f.used && (← shell).dialect = .extended, redirects with
  | true, [.file 0 .read _] =>
    let content ← remaining 0
    let _ ← writeTo 1 content
  | _, _ => pure ()

/-- Run a simple command whose words have been expanded. -/
def runExpanded (again : Evaluate) (f : Flags) (assignments : List Assignment)
    (args : List Argument) (redirects : List Redirect) : Run UInt8 := do
  let dialect := (← shell).dialect
  let words := args.map Argument.text
  let special := dialect = .standard && (words.head?.map isSpecialBuiltin).getD false
  let streams := (← shell).streams
  if !(← openRedirects (runner again) redirects) then
    modifyShell fun s => { s with streams }
    if special then leaveWith 2 else return (if dialect = .standard then 2 else 1)
  let restore : Run Unit := modifyShell fun s => { s with streams }
  let lasting := words.isEmpty || special
  let body : Run UInt8 := do
    let assigned ← assignments.mapM fun a => do
      let a ← expandAssignment again a
      if !lasting then assignBriefly a
      else if !(← assignArgument a) then
        setStatus 1
        throw .discarding
      return a
    if !(assigned.isEmpty && words.isEmpty) then traceCommand assigned words
    match args with
    | [] =>
      copyRead f redirects
      return (← shell).outputStatus
    | name :: args =>
      let name := name.text
      match (← shell).functions.lookup name, dialect with
      | some function, _ => callFunction again f name function (args.map Argument.text)
      | none, .standard => runNamed again f (args.length + 2) name (args.map Argument.text)
      | none, .extended => Extended.runNamed again f (args.length + 2) name args
  if words.head? == some "exec" && words.length == 1 then body
  else if assignments.isEmpty || lasting then after body restore
  else after (withLocals body) restore

/-- Run a simple command. -/
def runSimple (again : Evaluate) (f : Flags) (line : Nat) (assignments : List Assignment)
    (words : List Word) (redirects : List Redirect) : Run UInt8 := do
  let connections := (← shell).connections.length
  modifyShell fun s => { s with line, outputStatus := 0 }
  runEventTrap again "DEBUG" ((← shell).settings.others.contains "functrace")
  let args ← expandWords again words []
  let status ← runExpanded again f assignments args redirects
  if (← shell).dialect = .extended then
    modifyShell fun s => { s with lastWord := ((args.getLast?.map Argument.text).getD "") }
    if !((args.map Argument.text) == ["exec"]) then
      closeConnections (runReader again) connections
  return status

end ShaderBuild.Shell
