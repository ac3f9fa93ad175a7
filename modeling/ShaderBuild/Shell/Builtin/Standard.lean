import ShaderBuild.Shell.Expansion
import ShaderBuild.Tool.Condition
import ShaderBuild.Tool.Permission
import ShaderBuild.Tool.Print

/-! # Built-in commands

The commands that a shell runs itself, except for those that run other commands.  A mistake in a
special one ends the shell; a mistake in another one is only its status. -/

namespace ShaderBuild.Shell

/-- A built-in command, from its arguments to its status. -/
abbrev Builtin := List String → Run UInt8

/-- Print, if the output is open. -/
def put (text : String) : Run UInt8 := do
  if text.isEmpty then return 0
  else if ← writeTo 1 (contentOf text) then return 0
  else
    let s ← shell
    match s.dialect with
    | .standard => report (s.command.getD "" ++ ": I/O error")
    | .extended => report "write error: Bad file descriptor"
    return 1

/-! ### Printing and testing -/

/-- Print the arguments. -/
def echoBuiltin : Builtin := fun args => put (Tool.echo args)

/-- Print a format. -/
def printfBuiltin : Builtin := fun args => do
  let separated := args.head? == some "--"
  let args := match args with
    | "--" :: args => args
    | args => args
  match args with
  | [] => die "usage: printf format [arg ...]"
  | format :: args =>
    if let '-' :: c :: _ := format.toList then
      if !separated then die ("Illegal option -" ++ c.toString)
    let p := Tool.printf {} format args
    p.complaints.forM report
    let status ← put p.text
    match p.fatal with
    | some text => die text
    | none => return if p.failed then 1 else status

/-- Answer a condition. -/
def testBuiltin (name : String) : Builtin := fun args => do
  match Tool.conditionOf name args with
  | .error text => die text
  | .ok words =>
    match Tool.ask (← files) words with
    | .ok answer => return if answer then 0 else 1
    | .error text => die text

/-! ### Numbers -/

/-- The largest number that an argument may spell. -/
def largestNumber : Nat := 2147483647

/-- The number that an argument spells; blanks and a sign may come before it. -/
def numberArg (arg : String) : Run Nat := do
  let isBlank (c : Char) : Bool := c == ' ' || (9 ≤ c.toNat && c.toNat ≤ 13)
  let digits := match arg.toList.dropWhile isBlank with
    | '+' :: cs => cs
    | cs => cs
  let n := ofDigits 10 (digits.filterMap digitValue)
  if !digits.isEmpty && digits.all Char.isDigit && n ≤ largestNumber then return n
  else die ("Illegal number: " ++ arg)

/-! ### The working directory -/

/-- The names of a path without `.`, and without what `..` takes back. -/
def normalNames (path : String) : List (List Char) :=
  ((pieces (· == '/') path.toList).foldl (fun (names : List (List Char)) n =>
    if n.isEmpty || n == ['.'] then names
    else if n == ['.', '.'] then names.tail
    else n :: names) []).reverse

/-- The path of the working directory, as it was reached. -/
def workingPath : Run String := do
  match ← value? "PWD" with
  | some path => return path
  | none => return raw (FileTree.pathOf (← files).workingDir).bytes

/-- Go to a directory; its path, or why that cannot be done.  `physically` forgets the links on the
way. -/
def enterDir (target : String) (physically : Bool) : Run (Except FileFault String) := do
  let here ← workingPath
  let joined := if target.startsWith "/" then target else here ++ "/" ++ target
  let path := String.ofList ('/' :: ['/'].intercalate (normalNames joined))
  let t ← files
  let reached : Except FileFault (Location × Entry) := match t.find ⟨unraw path⟩ with
    | .ok found => .ok found
    | .error _ => t.find ⟨unraw target⟩
  match reached with
  | .ok (l, .dir mode _) =>
    if !mode.mayExecute then return .error .accessDenied
    else
      setFiles { t with workingDir := l }
      let path := if physically then raw (FileTree.pathOf l).bytes else path
      assign "OLDPWD" here
      assign "PWD" path
      ["OLDPWD", "PWD"].forM fun name => do
        let v ← lookupVariable name
        putVariable name (v.map fun v => { v with exported := true })
      return .ok path
  | .ok _ => return .error .notDirectory
  | .error e => return .error e

/-- Go to a directory, and print its path if it is to be announced. -/
def changeDir (target : String) (announce physically : Bool) : Run UInt8 := do
  match ← enterDir target physically with
  | .ok path => if announce then put (path ++ "\n") else return 0
  | .error _ => die ("can't cd to " ++ target)

/-- Change the working directory. -/
def cdBuiltin : Builtin := fun args => do
  let physically := args.head? == some "-P"
  match args.filter fun a => a != "-L" && a != "-P" && a != "--" with
  | [] =>
    match ← value? "HOME" with
    | some home => changeDir home false physically
    | none => return 0
  | "-" :: _ => changeDir ((← value? "OLDPWD").getD "") true physically
  | "" :: _ =>
    assign "OLDPWD" (← workingPath)
    return 0
  | target :: _ => changeDir target false physically

/-- Print the working directory. -/
def pwdBuiltin : Builtin := fun args => do
  if args.contains "-P" then put (raw (FileTree.pathOf (← files).workingDir).bytes ++ "\n")
  else put ((← workingPath) ++ "\n")

/-! ### Variables -/

/-- Runs of characters in single quotes, and runs of single quotes in double ones; `n` bounds the
number of runs. -/
def quotedRuns : Nat → List Char → List Char
  | 0, _ => []
  | n + 1, cs =>
    let plain := cs.takeWhile (· != '\'')
    let rest := cs.drop plain.length
    let quotes := rest.takeWhile (· == '\'')
    '\'' :: plain ++ ['\'']
      ++ (if quotes.isEmpty then [] else '"' :: quotes ++ ['"'])
      ++ (match rest.drop quotes.length with
        | [] => []
        | more => quotedRuns n more)

/-- A value between quotes. -/
def singleQuoted (value : String) : String :=
  String.ofList (quotedRuns (value.length + 1) value.toList)

/-- The name and, if there is one, the value in an argument. -/
def splitAssignment (arg : String) : String × Option String :=
  match arg.toList.dropWhile (· != '=') with
  | '=' :: value => (String.ofList (arg.toList.takeWhile (· != '=')), some (String.ofList value))
  | _ => (arg, none)

/-- Variables with a property, one on a line. -/
def listVariables (keyword : String) (p : Variable → Bool) : Run UInt8 := do
  let found := (← shell).bindings.filter fun x => p x.2
  let sorted := found.mergeSort fun a b => decide (a.1 ≤ b.1)
  put (String.join (sorted.map fun x =>
    keyword ++ x.1 ++ (x.2.value.elim "" fun v => "=" ++ singleQuoted v) ++ "\n"))

/-- Assign where a value is given, and mark variables. -/
def markVariables (args : List String) (mark : Variable → Variable) : Run UInt8 := do
  args.forM fun arg => do
    let (name, value) := splitAssignment arg
    if !isName name then die (name ++ ": bad variable name")
    if let some value := value then assign name value
    let v ← lookupVariable name
    putVariable name (some (mark (v.getD {})))
  return 0

/-- Mark variables for export. -/
def exportBuiltin : Builtin := fun args =>
  match args.filter (· != "--") with
  | [] | ["-p"] => listVariables "export " Variable.exported
  | args => markVariables args fun v => { v with exported := true }

/-- Mark variables as fixed. -/
def readonlyBuiltin : Builtin := fun args =>
  match args.filter (· != "--") with
  | [] | ["-p"] => listVariables "readonly " Variable.fixed
  | args => markVariables args fun v => { v with fixed := true }

/-- Make variables local to the function. -/
def localBuiltin : Builtin := fun args => do
  if (← shell).functionDepth == 0 then die "not in a function"
  args.forM fun arg => do
    let (name, value) := splitAssignment arg
    if !isName name then die (name ++ ": bad variable name")
    let _ ← makeLocal name
    if let some value := value then assign name value
  return 0

/-- Remove variables or functions. -/
def unsetBuiltin : Builtin := fun args => do
  let functions := args.head? == some "-f"
  let names := if args.head? == some "-f" || args.head? == some "-v" then args.tail else args
  names.forM fun name => do
    if functions then
      modifyShell fun s => { s with functions := s.functions.filter fun x => x.1 != name }
    else if !isName name then die (name ++ ": bad variable name")
    else if ((← lookupVariable name).map Variable.fixed).getD false then
      die (name ++ ": is read only")
    else putVariable name none
  return 0

/-! ### Options and arguments -/

/-- The options by letter and name, and how each is set. -/
def settingTable : List (Char × String × (Bool → Settings → Settings)) :=
  [('e', "errexit", fun b s => { s with stopAtFailure := b }),
    ('u', "nounset", fun b s => { s with unsetIsError := b }),
    ('x', "xtrace", fun b s => { s with trace := b }),
    ('f', "noglob", fun b s => { s with noPatterns := b }),
    ('n', "noexec", fun b s => { s with noRun := b }),
    ('C', "noclobber", fun b s => { s with protectFiles := b }),
    ('a', "allexport", fun b s => { s with exportAll := b }),
    ('v', "verbose", fun b s => { s with verbose := b }),
    ('I', "ignoreeof", fun _ s => s), ('m', "monitor", fun _ s => s), ('V', "vi", fun _ s => s),
    ('E', "emacs", fun _ s => s), ('b', "notify", fun _ s => s), ('s', "stdin", fun _ s => s),
    ('i', "interactive", fun _ s => s)]

/-- Set an option by its letter. -/
def setLetter (on : Bool) (c : Char) : Run Unit := do
  match settingTable.find? fun x => x.1 == c with
  | some (_, _, f) => modifyShell fun s => { s with settings := f on s.settings }
  | none => die ("Illegal option -" ++ c.toString)

/-- Set an option by its name. -/
def setNamed (on : Bool) (name : String) : Run Unit := do
  match settingTable.find? fun x => x.2.1 == name with
  | some (_, _, f) => modifyShell fun s => { s with settings := f on s.settings }
  | none => die ("Illegal option -o " ++ name)

/-- Set the letters of an argument; the arguments after it that name options are used up. -/
def setLetters (on : Bool) : List Char → List String → Run (List String)
  | [], args => return args
  | 'o' :: cs, name :: args => do
    setNamed on name
    setLetters on cs args
  | 'o' :: cs, [] => setLetters on cs []
  | c :: cs, args => do
    setLetter on c
    setLetters on cs args

/-- Set options and arguments, from at most `n` arguments. -/
def setFrom : Nat → List String → Run UInt8
  | 0, _ | _, [] => return 0
  | n + 1, arg :: args =>
    match arg.toList with
    | ['-', '-'] => do
      modifyShell fun s => { s with args }
      return 0
    | ['-'] => do
      modifyShell fun s =>
        { s with settings := { s.settings with trace := false, verbose := false } }
      if !args.isEmpty then modifyShell fun s => { s with args }
      return 0
    | '-' :: cs => do setFrom n (← setLetters true cs args)
    | '+' :: c :: cs => do setFrom n (← setLetters false (c :: cs) args)
    | _ => do
      modifyShell fun s => { s with args := arg :: args }
      return 0

/-- Set options and arguments, or print the variables. -/
def setBuiltin : Builtin := fun args =>
  if args.isEmpty then listVariables "" fun v => v.value.isSome
  else setFrom (args.length + 1) args

/-- Drop arguments. -/
def shiftBuiltin : Builtin := fun args => do
  let n ← match args with
    | [] => pure 1
    | arg :: _ => numberArg arg
  if (← shell).args.length < n then die "can't shift that many"
  modifyShell fun s => { s with args := s.args.drop n }
  return 0

/-! ### Leaving -/

/-- Leave the shell. -/
def exitBuiltin : Builtin := fun args => do
  match args with
  | [] => throw .leave
  | arg :: _ => leaveWith (UInt8.ofNat (← numberArg arg))

/-- Leave the function. -/
def returnBuiltin : Builtin := fun args => do
  if let arg :: _ := args then setStatus (UInt8.ofNat (← numberArg arg))
  throw .returning

/-- The number of loops that an argument names, at most those that are running. -/
def loopCount (args : List String) : Run Nat := do
  let n ← match args with
    | [] => pure 1
    | arg :: _ => numberArg arg
  if n == 0 then die ("Illegal number: " ++ args.headD "")
  return min n (← shell).loops

/-- Leave loops. -/
def breakBuiltin : Builtin := fun args => do
  let n ← loopCount args
  if n == 0 then return 0
  setStatus 0
  throw (.breaking n)

/-- Go on with the next round of a loop. -/
def continueBuiltin : Builtin := fun args => do
  let n ← loopCount args
  if n == 0 then return 0
  setStatus 0
  throw (.continuing n)

/-! ### Reading -/

/-- What `read` has read of a line: characters, latest first, and whether each is quoted. -/
structure LineRead where
  signs : List Sign := []
  /-- How many bytes were used. -/
  used : Nat := 0
  complete : Bool := false

/-- Read a line; a backslash quotes the next character unless `plain` is set. -/
def readLineFrom (plain : Bool) : List Char → LineRead → LineRead
  | [], r => r
  | '\n' :: _, r => { r with used := r.used + 1, complete := true }
  | '\\' :: c :: cs, r =>
    if plain then
      readLineFrom plain (c :: cs) { r with signs := ⟨'\\', true⟩ :: r.signs, used := r.used + 1 }
    else if c == '\n' then readLineFrom plain cs { r with used := r.used + 2 }
    else readLineFrom plain cs { r with signs := ⟨c, true⟩ :: r.signs, used := r.used + 2 }
  | c :: cs, r => readLineFrom plain cs { r with signs := ⟨c, false⟩ :: r.signs, used := r.used + 1 }

/-- Whether a character is an unquoted blank among the separators. -/
def isSeparatingBlank (ifs : List Char) (s : Sign) : Bool :=
  !s.quoted && ifs.contains s.char && (s.char == ' ' || s.char == '\t' || s.char == '\n')

/-- Whether a character is an unquoted separator. -/
def isSeparating (ifs : List Char) (s : Sign) : Bool :=
  !s.quoted && ifs.contains s.char

/-- Share a line among variables; the last one gets all that is left. -/
def shareLine (ifs : List Char) : List String → List Sign → List (String × String)
  | [], _ => []
  | [name], signs =>
    let rest := signs.dropWhile (isSeparatingBlank ifs)
    let rest := (rest.reverse.dropWhile (isSeparatingBlank ifs)).reverse
    let inner := (rest.dropLast.any (isSeparating ifs))
    let rest := if !inner && (rest.getLast?.map (isSeparating ifs)).getD false then rest.dropLast
      else rest
    [(name, plainSigns rest)]
  | name :: names, signs =>
    let rest := signs.dropWhile (isSeparatingBlank ifs)
    let value := rest.takeWhile fun s => !isSeparating ifs s
    let after := (rest.drop value.length).dropWhile (isSeparatingBlank ifs)
    let after := match after with
      | s :: more =>
        if isSeparating ifs s && !(rest.drop value.length).isEmpty then more else after
      | [] => []
    (name, plainSigns value) :: shareLine ifs names after

/-- Read a line into variables. -/
def readBuiltin : Builtin := fun args => do
  let plain := args.contains "-r"
  let names := match args.filter fun a => a != "-r" && a != "--" with
    | "-p" :: _ :: names => names
    | names => names
  if names.isEmpty then die "arg count"
  let text := (rawContent (← remaining 0)).toList
  let r := readLineFrom plain text {}
  advance 0 r.used
  (shareLine (← separators) names r.signs.reverse).forM fun x => assign x.1 x.2
  return if r.complete then 0 else 1

/-! ### Signals -/

/-- The name of a signal without its first three letters. -/
def signalShort (n : Nat) : Option String :=
  if n == 0 then some "EXIT"
  else (ExitStatus.signalName? n).map fun s => String.ofList (s.toList.drop 3)

/-- The signal that a text names, by number or by name. -/
def signalOf? (text : String) : Option Nat :=
  if !text.isEmpty && text.toList.all Char.isDigit then
    let n := ofDigits 10 (text.toList.filterMap digitValue)
    if n ≤ 64 then some n else none
  else (List.range 32).find? fun n => signalShort n == some text.toUpper

/-- The signals that a process does not end at. -/
def harmlessSignals : List Nat := [0, 17, 18, 23, 28]

/-- Send a signal to a process; only the shell itself can be reached. -/
def sendSignal (signal : Nat) (target : String) : Run UInt8 := do
  let s ← shell
  if target != Nat.repr s.process then
    if target.toList.all fun c => c.isDigit || c == '-' then
      report "No such process"
      return 1
    else die ("Illegal number: " ++ target)
  else
    let name := (signalShort signal).getD ""
    let strong := signal == 9 || signal == 19
    match s.traps.lookup name, strong with
    | some _, false =>
      modifyShell fun s => { s with pending := s.pending ++ [signal] }
      return 0
    | _, _ =>
      if harmlessSignals.contains signal || (!strong && s.ignored.contains name) then return 0
      else throw (.killed signal s.process)

/-- Send a signal. -/
def killBuiltin : Builtin := fun args => do
  let usage : Run UInt8 := die ("Usage: kill [-s sigspec | -signum | -sigspec] [pid | job]... or\n"
    ++ "kill -l [exitstatus]")
  let send (signal : Nat) (targets : List String) : Run UInt8 := do
    if targets.isEmpty then usage
    else targets.foldlM (fun worst target => do return max worst (← sendSignal signal target)) 0
  match args with
  | [] => usage
  | ["-l"] =>
    put (String.join ((List.range 31).filterMap fun n =>
      (signalShort (n + 1)).map fun s => s ++ "\n"))
  | "-l" :: arg :: _ =>
    let n := (← numberArg arg) % 128
    put ((signalShort n).getD (Nat.repr n) ++ "\n")
  | "-s" :: name :: targets =>
    match signalOf? name with
    | some n => send n (targets.filter (· != "--"))
    | none => die ("invalid signal number or name: " ++ name)
  | "--" :: targets => send 15 targets
  | first :: targets =>
    match first.toList with
    | '-' :: cs =>
      match signalOf? (String.ofList cs) with
      | some n => send n (targets.filter (· != "--"))
      | none => die ("Illegal option -" ++ String.ofList (cs.take 1))
    | _ => send 15 (first :: targets)

/-- Say what is done at signals. -/
def trapBuiltin : Builtin := fun args => do
  let s ← shell
  let args := args.filter (· != "--")
  match args with
  | [] =>
    let listed := (List.range 32).filterMap fun n =>
      (signalShort n).bind fun name => (s.traps.lookup name).map fun action =>
        "trap -- " ++ singleQuoted action ++ " " ++ name ++ "\n"
    put (String.join listed)
  | first :: rest =>
    let (action, names) : Option String × List String :=
      if rest.isEmpty || (!first.isEmpty && first.toList.all Char.isDigit) then (none, args)
      else (if first == "-" then none else some first, rest)
    let known := names.takeWhile fun name => ((signalOf? name).bind signalShort).isSome
    known.forM fun name => do
      match (signalOf? name).bind signalShort with
      | some short =>
        if !s.ignored.contains short then
          modifyShell fun s =>
            let others := s.traps.filter fun x => x.1 != short
            { s with traps := action.elim others fun a => (short, a) :: others }
      | none => pure ()
    match names.find? fun name => ((signalOf? name).bind signalShort).isNone with
    | some name =>
      let _ ← writeTo 2 (contentOf ("trap: " ++ name ++ ": bad trap\n"))
      return 1
    | none => return 0

/-! ### Option letters of scripts -/

/-- Complain about the option of a script: it is not known, or its argument is missing. -/
def complainOfOption (known : Bool) (letter : Char) : Run Unit := do
  let s ← shell
  let text := match s.dialect with
    | .standard =>
      if known then "No arg for -" ++ letter.toString ++ " option"
      else "Illegal option -" ++ letter.toString
    | .extended =>
      s.name ++ (if known then ": option requires an argument -- " else ": illegal option -- ")
        ++ letter.toString
  let quiet := s.dialect = .extended && (← value? "OPTERR") == some "0"
  if !quiet then
    let _ ← writeTo 2 (contentOf (text ++ "\n"))

/-- Read the next option of a script. -/
def getoptsBuiltin : Builtin := fun args => do
  match args with
  | letters :: name :: given =>
    let s ← shell
    let all := if given.isEmpty then s.args else given
    let found := ((← value? "OPTIND").bind fun v => (integer? v).map fun n => n.toInt.toNat).getD 1
    let tooFar := s.dialect = .standard && all.length + 1 < found
    let index := if found < 1 || tooFar then 1 else found
    let quiet := letters.startsWith ":"
    let finish : Run UInt8 := do
      assign name "?"
      return 1
    let offset := if s.optionOffset == 0 then 1 else s.optionOffset
    match all[index - 1]? with
    | none => finish
    | some word =>
      if word == "--" then
        assign "OPTIND" (Nat.repr (index + 1))
        finish
      else
        match word.toList with
        | '-' :: c :: cs =>
          let rest := (c :: cs).drop (offset - 1)
          match rest with
          | [] => finish
          | letter :: more =>
            let next := if more.isEmpty then (index + 1, 0) else (index, offset + 1)
            let advanceTo (x : Nat × Nat) : Run Unit := do
              assign "OPTIND" (Nat.repr x.1)
              modifyShell fun s => { s with optionOffset := x.2 }
            match letters.toList.dropWhile (· != letter) with
            | [] =>
              advanceTo next
              assign name "?"
              if quiet then assign "OPTARG" letter.toString
              else
                putVariable "OPTARG" none
                complainOfOption false letter
              return 0
            | _ :: ':' :: _ =>
              if !more.isEmpty then
                assign "OPTARG" (String.ofList more)
                advanceTo (index + 1, 0)
                assign name letter.toString
                return 0
              else
                match all[index]? with
                | some value =>
                  assign "OPTARG" value
                  advanceTo (index + 2, 0)
                  assign name letter.toString
                  return 0
                | none =>
                  advanceTo (index + 1, 0)
                  if quiet then
                    assign "OPTARG" letter.toString
                    assign name ":"
                  else
                    putVariable "OPTARG" none
                    complainOfOption true letter
                    assign name "?"
                  return 0
            | _ =>
              putVariable "OPTARG" none
              advanceTo next
              assign name letter.toString
              return 0
        | _ => finish
  | _ => die "Usage: getopts optstring var [arg...]"

/-! ### Aliases -/

/-- The place of an alias in the order in which aliases are listed. -/
def aliasPlace (name : String) : Nat :=
  let codes := name.toList.map Char.toNat
  (16 * codes.headD 0 + codes.foldl (· + ·) 0) % 39

/-- An alias as it is listed. -/
def aliasLine (x : String × String) : String :=
  x.1 ++ "=" ++ singleQuoted x.2 ++ "\n"

/-- Define aliases, or list them. -/
def aliasBuiltin : Builtin := fun args => do
  let known := (← shell).aliases
  if args.isEmpty then
    put (String.join ((known.mergeSort fun a b => aliasPlace a.1 ≤ aliasPlace b.1).map aliasLine))
  else
    args.foldlM (fun status arg => do
      match (splitAssignment arg : String × Option String) with
      | (name, some text) =>
        modifyShell fun s =>
          { s with aliases :=
              if s.aliases.any fun x => x.1 == name then
                s.aliases.map fun x => if x.1 == name then (name, text) else x
              else s.aliases ++ [(name, text)] }
        return status
      | (name, none) =>
        match (← shell).aliases.lookup name with
        | some text =>
          let _ ← put (aliasLine (name, text))
          return status
        | none =>
          let _ ← writeTo 2 (contentOf ("alias: " ++ name ++ " not found\n"))
          return 1) 0

/-- Remove aliases. -/
def unaliasBuiltin : Builtin := fun args => do
  if args.head? == some "-a" then
    modifyShell fun s => { s with aliases := [] }
    return 0
  else
    args.foldlM (fun status name => do
      if (← shell).aliases.any fun x => x.1 == name then
        modifyShell fun s => { s with aliases := s.aliases.filter fun x => x.1 != name }
        return status
      else
        let _ ← writeTo 2 (contentOf ("unalias: " ++ name ++ " not found\n"))
        return 1) 0

/-! ### The mask of new files -/

/-- What a mask leaves, by letters. -/
def maskLetters (mask : Mode) : String :=
  let letters (shift : Nat) : String :=
    let bits := (0o777 - mask.bits) / shift % 8
    (if bits.testBit 2 then "r" else "") ++ (if bits.testBit 1 then "w" else "")
      ++ (if bits.testBit 0 then "x" else "")
  "u=" ++ letters 64 ++ ",g=" ++ letters 8 ++ ",o=" ++ letters 1

/-- The mask that a text asks for: a number, or a change of what the old one leaves. -/
def maskOf? (old : Mode) (text : String) : Option Mode :=
  let cs := text.toList
  if (cs.head?.map Char.isDigit).getD false then
    if cs.all Tool.isOctal then some ⟨Tool.octalNumber cs % 0o1000⟩ else none
  else
    (Tool.modeChange? text).map fun steps =>
      let opened := Tool.changedMode steps ⟨0⟩ false ⟨0o777 - old.bits⟩
      ⟨0o777 - opened.bits % 0o1000⟩

/-- Show or set the mask of new files. -/
def umaskBuiltin : Builtin := fun args => do
  let mask := (← shell).umask
  match args with
  | [] => put (Tool.octalText 4 mask.bits ++ "\n")
  | "-S" :: _ => put (maskLetters mask ++ "\n")
  | text :: _ =>
    match text.toList with
    | '-' :: c :: _ => die ("Illegal option -" ++ c.toString)
    | c :: _ =>
      match maskOf? mask text with
      | some umask =>
        modifyShell fun s => { s with umask }
        return 0
      | none => die ((if c.isDigit then "Illegal number: " else "Illegal mode: ") ++ text)
    | [] => die "Illegal mode: "

/-! ### Endings -/

/-- How signals are called when they end a process. -/
def signalTexts : List String :=
  ["Hangup", "Interrupt", "Quit", "Illegal instruction", "Trace/breakpoint trap", "Aborted",
    "Bus error", "Floating point exception", "Killed", "User defined signal 1",
    "Segmentation fault", "User defined signal 2", "Broken pipe", "Alarm clock", "Terminated",
    "Stack fault", "Child exited", "Continued", "Stopped (signal)", "Stopped",
    "Stopped (tty input)", "Stopped (tty output)", "Urgent I/O condition",
    "CPU time limit exceeded", "File size limit exceeded", "Virtual timer expired",
    "Profiling timer expired", "Window changed", "I/O possible", "Power failure",
    "Bad system call"]

/-- The status that a shell gives to the ending of a process. -/
def codeOf : ExitStatus → UInt8
  | .exited code => code
  | .signaled signal => UInt8.ofNat (128 + signal)

/-- The status of a process that was waited for; how it was killed is told. -/
def waited (ending : ExitStatus) : Run UInt8 := do
  if let .signaled n := ending then
    if n != 2 && n != 13 then
      let text := (signalTexts[n - 1]?).getD ("Real-time signal " ++ Nat.repr (n - 34))
      let _ ← writeTo 2 (contentOf (text ++ "\n"))
  return codeOf ending

/-- Wait for commands in the background, all of which have ended. -/
def waitBuiltin : Builtin := fun args => do
  let jobs := (← shell).jobs
  args.foldlM (fun _ arg =>
    match jobs.find? fun job => Nat.repr job.1 == arg with
    | some job => waited job.2
    | none => return 127) 0

/-! ### Table -/

/-- The built-in commands that end the shell at a mistake. -/
def specialBuiltins : List (String × Builtin) :=
  [(":", fun _ => return 0), ("break", breakBuiltin), ("continue", continueBuiltin),
    ("exit", exitBuiltin), ("export", exportBuiltin), ("local", localBuiltin),
    ("readonly", readonlyBuiltin), ("return", returnBuiltin), ("set", setBuiltin),
    ("shift", shiftBuiltin),
    ("times", fun _ => put "0m0.000000s 0m0.000000s\n0m0.000000s 0m0.000000s\n"),
    ("trap", trapBuiltin), ("unset", unsetBuiltin)]

/-- The other built-in commands. -/
def plainBuiltins : List (String × Builtin) :=
  [("[", testBuiltin "["), ("alias", aliasBuiltin), ("bg", fun _ => return 0),
    ("cd", cdBuiltin), ("chdir", cdBuiltin), ("echo", echoBuiltin), ("false", fun _ => return 1),
    ("fg", fun _ => return 0), ("getopts", getoptsBuiltin), ("hash", fun _ => return 0),
    ("jobs", fun _ => return 0), ("kill", killBuiltin), ("printf", printfBuiltin),
    ("pwd", pwdBuiltin), ("read", readBuiltin), ("test", testBuiltin "test"),
    ("true", fun _ => return 0), ("ulimit", fun _ => put "unlimited\n"),
    ("umask", umaskBuiltin), ("unalias", unaliasBuiltin), ("wait", waitBuiltin)]

/-- The built-in commands that run other commands; of these, all but `command` and `type` are
special. -/
def runningBuiltins : List String :=
  [".", "command", "eval", "exec", "type"]

/-- Whether a mistake in a command ends the shell. -/
def isSpecialBuiltin (name : String) : Bool :=
  name == "." || name == "eval" || name == "exec" || specialBuiltins.any fun x => x.1 == name

/-- Whether a command is built in. -/
def isBuiltin (name : String) : Bool :=
  isSpecialBuiltin name || runningBuiltins.contains name || plainBuiltins.any fun x => x.1 == name

end ShaderBuild.Shell
