import ShaderBuild.Shell.Builtin.Condition
import ShaderBuild.Shell.Builtin.Directory
import ShaderBuild.Shell.Builtin.Input
import ShaderBuild.Shell.Program

/-! # Built-in commands of the extended dialect

The commands that the shell runs itself in the extended dialect, except for those that run other
commands.  A mistake in one of them is only its status; where a line of a script makes no sense,
the rest of the line is given up. -/

namespace ShaderBuild.Shell.Extended

/-! ### Options -/

/-- How `set` is called. -/
def setUsage : Usage where
  text := "set [-abefhkmnptuvxBCEHPT] [-o option-name] [--] [-] [arg ...]"

/-- Change the settings. -/
def modifySettings (f : Settings → Settings) : Run Unit :=
  modifyShell fun s => { s with settings := f s.settings }

/-- Set an option by its name; the status after it. -/
def setNamed (family : List Switch) (wrong : String → String) (on : Bool) (name : String) :
    Run UInt8 := do
  match family.find? fun x => x.name == name with
  | some x =>
    modifySettings (x.set on)
    return 0
  | none => complain 1 (wrong name)

/-- What is wrong with the name of an option of `set`. -/
def wrongName (name : String) : String :=
  name ++ ": invalid option name"

/-- List the options of a family, or the commands that set them. -/
def listSwitches (family : List Switch) (line : Switch → Settings → String) : Run UInt8 := do
  let settings := (← shell).settings
  put (String.join (family.map fun x => line x settings))

/-- An option as the command that sets it. -/
def setLine (x : Switch) (s : Settings) : String :=
  "set " ++ (if x.isOn s then "-o " else "+o ") ++ x.name ++ "\n"

/-- Set the options of letters written together; the arguments that are left, or none after a
mistake. -/
def setLetters (on : Bool) : List Char → List String → Run (Option (List String))
  | [], args => return some args
  | 'o' :: cs, [] => do
    let _ ← listSwitches Switch.family (if on then Switch.line else setLine)
    setLetters on cs []
  | 'o' :: cs, name :: args => do
    if (← setNamed Switch.family wrongName on name) != 0 then return none
    else setLetters on cs args
  | c :: cs, args => do
    match Switch.family.find? fun x => x.letter == some c with
    | some x =>
      modifySettings (x.set on)
      setLetters on cs args
    | none =>
      let _ ← setUsage.refuse (String.ofList [if on then '-' else '+', c] ++ ": invalid option")
      return none

/-- Set options and arguments, from at most `n` arguments. -/
def setFrom : Nat → List String → Run UInt8
  | 0, _ | _, [] => return 0
  | n + 1, arg :: args => do
    let arguments (args : List String) : Run UInt8 := do
      modifyShell fun s => { s with args }
      return 0
    let switched (on : Bool) (cs : List Char) : Run UInt8 := do
      match ← setLetters on cs args with
      | some rest => setFrom n rest
      | none => return 2
    match arg.toList with
    | ['-', '-'] => arguments args
    | ['-'] =>
      modifySettings fun s => { s with trace := false, verbose := false }
      if args.isEmpty then return 0 else arguments args
    | ['+'] => if args.isEmpty then return 0 else arguments args
    | '-' :: cs => switched true cs
    | '+' :: cs => switched false cs
    | _ => arguments (arg :: args)

/-- A value as a listing of variables shows it. -/
def listedValue (value : String) : String :=
  let plain := value.toList.all fun c => c.isAlphanum || "%+,-./:=@_".toList.contains c
  if plain then value else reusable value

/-- The variables, one on a line. -/
def listAll : Run UInt8 := do
  let entry (x : String × String) : String := "[" ++ x.1 ++ "]=" ++ doubleQuoted x.2
  put (String.join ((← sortedVariables).map fun (name, v) =>
    match v.shape with
    | .single => v.value.elim "" fun x => name ++ "=" ++ listedValue x ++ "\n"
    | .indexed => name ++ "=(" ++ " ".intercalate (v.elements.map entry) ++ ")\n"
    | .keyed => name ++ "=(" ++ String.join (v.elements.map fun x => entry x ++ " ") ++ ")\n"))

/-- Set options and arguments, or print the variables. -/
def setBuiltin : Builtin := fun args =>
  if args.isEmpty then listAll else setFrom (args.length + 1) args

/-- How `shopt` is called. -/
def shoptUsage : Usage where
  text := "shopt [-pqsu] [-o] [optname ...]"
  flags := "pqsuo"

/-- Set, ask or list options. -/
def shoptBuiltin : Builtin := fun args =>
  shoptUsage.reading args fun o names => do
    let family := if o.has 'o' then Switch.family else Switch.finerFamily
    let wrong (name : String) : String :=
      if o.has 'o' then wrongName name else name ++ ": invalid shell option name"
    let settings := (← shell).settings
    let shown (x : Switch) : String :=
      if !o.has 'p' then x.line settings
      else if o.has 'o' then setLine x settings
      else "shopt " ++ (if x.isOn settings then "-s " else "-u ") ++ x.name ++ "\n"
    match o.has 's', o.has 'u', names with
    | true, true, _ => complain 1 "cannot set and unset shell options simultaneously"
    | false, false, names =>
      if names.isEmpty then
        if o.has 'q' then return 0 else put (String.join (family.map shown))
      else
        names.foldlM (fun status name => do
          match family.find? fun x => x.name == name with
          | some x =>
            let _ ← if o.has 'q' then pure 0 else put (shown x)
            return if x.isOn settings then status else 1
          | none => complain 1 (wrong name)) 0
    | on, _, [] =>
      if o.has 'q' then return 0
      else put (String.join ((family.filter fun x => x.isOn settings == on).map shown))
    | on, _, names =>
      names.foldlM (fun status name => do
        return max status (← setNamed family wrong on name)) 0

/-! ### Leaving -/

/-- The number that an argument spells. -/
def number? (arg : String) : Option Int :=
  (Tool.operandNumber arg).toOption

/-- Arguments without the `--` before them. -/
def withoutDashes : List String → List String
  | "--" :: args => args
  | args => args

/-- Give up the line because of arguments that are too many; a script that is a text ends with
it. -/
def refuseMore {α : Type} : Run α := do
  report "too many arguments"
  setStatus 1
  if (← shell).fromText then throw .leave else throw .discarding

/-- The status that arguments ask for; none if there are none. -/
def statusArg (args : List String) : Run (Option UInt8) := do
  match withoutDashes args with
  | [] => return none
  | arg :: more =>
    match number? arg with
    | none =>
      report (arg ++ ": numeric argument required")
      return some 2
    | some n => if more.isEmpty then return some (UInt8.ofNat (n % 256).toNat) else refuseMore

/-- Leave the shell. -/
def exitBuiltin : Builtin := fun args => do
  match ← statusArg args with
  | some status => leaveWith status
  | none => throw .leave

/-- Leave the function, or the script that is a part of another one. -/
def returnBuiltin : Builtin := fun args => do
  let status ← statusArg args
  if (← shell).calls.any fun c => c.name != "main" then
    if let some status := status then setStatus status
    throw .returning
  else complain 2 "can only \x60return' from a function or sourced script"

/-- Leave loops, or go on with the next round of one. -/
def leaveLoops (halt : Nat → Halt) : Builtin := fun args => do
  let loops := (← shell).loops
  if loops = 0 then
    complain 0 "only meaningful in a \x60for', \x60while', or \x60until' loop"
  else
    match withoutDashes args with
    | [] =>
      setStatus 0
      throw (halt 1)
    | arg :: more =>
      match number? arg with
      | none =>
        report (arg ++ ": numeric argument required")
        leaveWith 128
      | some n =>
        if !more.isEmpty then refuseMore
        else if n ≤ 0 then
          report (arg ++ ": loop count out of range")
          setStatus 1
          throw (.breaking loops)
        else
          setStatus 0
          throw (halt (min n.toNat loops))

/-- Drop arguments. -/
def shiftBuiltin : Builtin := fun args => do
  let s ← shell
  match withoutDashes args with
  | [] =>
    if s.args.isEmpty then return 1
    else
      modifyShell fun s => { s with args := s.args.tail }
      return 0
  | arg :: more =>
    match number? arg with
    | none => complain 1 (arg ++ ": numeric argument required")
    | some n =>
      if !more.isEmpty then refuseMore
      else if n < 0 then complain 1 (arg ++ ": shift count out of range")
      else if s.args.length < n then
        if s.settings.others.contains "shift_verbose" then
          complain 1 (arg ++ ": shift count out of range")
        else return 1
      else
        modifyShell fun s => { s with args := s.args.drop n.toNat }
        return 0

/-! ### Calculating -/

/-- Run a step that may give up the line; the status is then that of a failure. -/
def keepingLine (act : Run UInt8) : Run UInt8 := do
  match ← caught act with
  | .ok status => return status
  | .error .discarding => return 1
  | .error h => throw h

/-- Calculate expressions; the status tells whether the last one is zero. -/
def letBuiltin : Builtin := fun args =>
  match withoutDashes args with
  | [] => complain 1 "expression expected"
  | args => keepingLine do
    let last ← args.foldlM (fun _ arg => evaluated arg) 0
    return if last == 0 then 1 else 0

/-! ### Signals -/

/-- How `trap` is called. -/
def trapUsage : Usage where
  text := "trap [-lp] [[arg] signal_spec ...]"
  flags := "lp"

/-- What happens in a shell that is no signal and yet can be waited for. -/
def shellEvents : List String := ["DEBUG", "ERR", "RETURN"]

/-- The short name of the signal or event that a text names. -/
def eventOf? (text : String) : Option String :=
  let upper := text.toUpper
  let short := if upper.startsWith "SIG" then String.ofList (upper.toList.drop 3) else upper
  if shellEvents.contains upper then some upper
  else ((signalOf? short).bind signalShort).filter (· != "")

/-- All signals by number and name. -/
def numberedSignals : List (Nat × String) :=
  ((List.range 31).filterMap fun n => (signalShort (n + 1)).map fun s => (n + 1, s))
  ++ (List.range 31).map fun i =>
    let offset (base : String) (n : Nat) : String := if n = 0 then base else base ++ Nat.repr n
    (i + 34, if i ≤ 15 then (if i = 0 then "RTMIN" else offset "RTMIN+" i)
      else if i = 30 then "RTMAX" else offset "RTMAX-" (30 - i))

/-- List the signals, five on a line. -/
def listSignals : Run UInt8 := do
  let entry (x : Nat × String) : String :=
    (if x.1 < 10 then " " else "") ++ Nat.repr x.1 ++ ") SIG" ++ x.2
  let last := numberedSignals.length
  put (String.join (numberedSignals.zipIdx.map fun (x, i) =>
    entry x ++ if (i + 1) % 5 = 0 then "\n" else if i + 1 = last then "\t\n" else "\t"))

/-- The traps that are set, as commands that set them. -/
def trapLines (names : List String) : Run String := do
  let s ← shell
  return String.join (names.filterMap fun name =>
    (s.traps.lookup name).map fun action =>
      let shown := if name == "EXIT" || shellEvents.contains name then name else "SIG" ++ name
      "trap -- " ++ plainQuoted action ++ " " ++ shown ++ "\n")

/-- Say what is done at signals and events. -/
def trapBuiltin : Builtin := fun args => do
  let all := "EXIT" :: numberedSignals.map Prod.snd ++ shellEvents
  let set (action : Option String) (names : List String) : Run UInt8 :=
    names.foldlM (fun status name => do
      match eventOf? name with
      | some short =>
        if !(← shell).ignored.contains short then
          modifyShell fun s =>
            let others := s.traps.filter fun x => x.1 != short
            { s with traps := action.elim others fun a => (short, a) :: others }
        return status
      | none => complain 1 (name ++ ": invalid signal specification")) 0
  match args with
  | "-" :: names => set none names
  | args =>
    trapUsage.reading args fun o args => do
      match args with
      | [] => if o.has 'l' then listSignals else put (← trapLines all)
      | first :: names =>
        if o.has 'l' then listSignals
        else if o.has 'p' then
          let known := args.filterMap eventOf?
          let _ ← put (← trapLines known)
          match args.find? fun a => (eventOf? a).isNone with
          | some bad => complain 1 (bad ++ ": invalid signal specification")
          | none => return 0
        else if names.isEmpty then
          if (eventOf? first).isSome then set none [first] else trapUsage.explain
        else if !first.isEmpty && first.toList.all Char.isDigit && (eventOf? first).isSome then
          set none (first :: names)
        else set (if first == "-" then none else some first) names

/-- How `kill` is called. -/
def killUsage : Usage where
  text := "kill [-s sigspec | -n signum | -sigspec] pid | jobspec ... or kill -l [sigspec]"

/-- Send a signal to what an argument names. -/
def sendTo (signal : Nat) (target : String) : Run UInt8 := do
  let s ← shell
  let job := s.jobs.any fun j => Nat.repr j.1 == target
  if target.startsWith "%" then complain 1 (target ++ ": no such job")
  else if (number? target).isNone then
    complain 1 (target ++ ": arguments must be process or job IDs")
  else if target == Nat.repr s.process then sendSignal signal target
  else if job && signal == 0 then return 1
  else complain 1 ("(" ++ target ++ ") - No such process")

/-- Send signals, or list them. -/
def killBuiltin : Builtin := fun args => do
  let wrong (name : String) : Run UInt8 := complain 1 (name ++ ": invalid signal specification")
  let send (name : String) (targets : List String) : Run UInt8 := do
    match eventOf? name with
    | some short =>
      let signal := (signalOf? short).getD 0
      if targets.isEmpty then killUsage.explain
      else
        let statuses ← targets.mapM (sendTo signal)
        return if statuses.contains 0 then 0 else 1
    | none => wrong name
  let listed (arg : String) : Run UInt8 := do
    match number? arg with
    | some n =>
      let n := if 128 < n then n - 128 else n
      match numberedSignals.lookup n.toNat with
      | some name => put (name ++ "\n")
      | none => if n = 0 then put "EXIT\n" else wrong arg
    | none =>
      match eventOf? arg with
      | some short => put (Nat.repr ((signalOf? short).getD 0) ++ "\n")
      | none => wrong arg
  match args with
  | [] => killUsage.explain
  | ["-l"] | ["-L"] => listSignals
  | "-l" :: names | "-L" :: names =>
    names.foldlM (fun status name => do return max status (← listed name)) 0
  | ["-s"] | ["-n"] => complain 1 (args.headD "" ++ ": option requires an argument")
  | "-s" :: name :: targets | "-n" :: name :: targets => send name (withoutDashes targets)
  | "--" :: targets => send "TERM" targets
  | first :: targets =>
    match first.toList with
    | '-' :: cs => send (String.ofList cs) (withoutDashes targets)
    | _ => send "TERM" args

/-- Wait for commands in the background, all of which have ended. -/
def waitBuiltin : Builtin := fun args => do
  let jobs := (← shell).jobs
  let forget (job : Nat) : Run Unit :=
    modifyShell fun s => { s with awaited := job :: s.awaited }
  match args with
  | [] => return 0
  | "-n" :: _ =>
    let awaited := (← shell).awaited
    match jobs.reverse.find? fun j => !awaited.contains j.1 with
    | some job =>
      forget job.1
      waited job.2
    | none => return 127
  | args =>
    (args.filter fun a => a != "--" && a != "-f").foldlM (fun _ arg => do
      match jobs.find? fun job => Nat.repr job.1 == arg with
      | some job =>
        forget job.1
        waited job.2
      | none =>
        if arg.startsWith "%" then
          let index := (arg.toList.drop 1)
          let n := ofDigits 10 (index.filterMap digitValue)
          match if n = 0 then none else jobs.reverse[n - 1]? with
          | some job =>
            forget job.1
            waited job.2
          | none => complain 127 (arg ++ ": no such job")
        else if (number? arg).isSome then
          complain 127 ("pid " ++ arg ++ " is not a child of this shell")
        else complain 1 ("\x60" ++ arg ++ "': not a pid or valid job spec")) 0

/-! ### Option letters of scripts -/

/-- Read the next option of a script. -/
def getoptsCommand : Builtin := fun args => do
  let usage : Usage := ⟨"getopts optstring name [arg ...]", "", ""⟩
  match withoutDashes args with
  | letters :: name :: given =>
    if isName name then getoptsBuiltin (letters :: name :: given) else notIdentifier name
  | _ => usage.explain

/-! ### Aliases -/

/-- Define aliases, or list them. -/
def aliasCommand : Builtin := fun args =>
  Usage.reading ⟨"alias [-p] [name[=value] ... ]", "p", ""⟩ args fun o args => do
    let line (x : String × String) : String := "alias " ++ x.1 ++ "=" ++ plainQuoted x.2 ++ "\n"
    if args.isEmpty || o.has 'p' then
      let known := (← shell).aliases.mergeSort fun a b => decide (a.1 ≤ b.1)
      let _ ← put (String.join (known.map line))
    args.foldlM (fun status arg => do
      match (splitAssignment arg : String × Option String) with
      | (name, some text) =>
        if name.isEmpty || name.toList.any fun c => " \t\n/$\x60=\"'\\&|;()<>".toList.contains c then
          complain 1 ("\x60" ++ name ++ "': invalid alias name")
        else
          modifyShell fun s =>
            { s with aliases := (name, text) :: s.aliases.filter fun x => x.1 != name }
          return status
      | (name, none) =>
        match (← shell).aliases.lookup name with
        | some text =>
          let _ ← put (line (name, text))
          return status
        | none => complain 1 (name ++ ": not found")) 0

/-- Remove aliases. -/
def unaliasCommand : Builtin := fun args =>
  let usage : Usage := ⟨"unalias [-a] name [name ...]", "a", ""⟩
  usage.reading args fun o names => do
    if o.has 'a' then
      modifyShell fun s => { s with aliases := [] }
      return 0
    else if names.isEmpty then usage.explain
    else
      names.foldlM (fun status name => do
        if (← shell).aliases.any fun x => x.1 == name then
          modifyShell fun s => { s with aliases := s.aliases.filter fun x => x.1 != name }
          return status
        else complain 1 (name ++ ": not found")) 0

/-! ### The mask of new files -/

/-- Show or set the mask of new files. -/
def umaskCommand : Builtin := fun args =>
  Usage.reading ⟨"umask [-p] [-S] [mode]", "pS", ""⟩ args fun o args => do
    let printed (mask : Mode) : Run UInt8 :=
      let text := if o.has 'S' then maskLetters mask else Tool.octalText 4 mask.bits
      let front := if !o.has 'p' then "" else if o.has 'S' then "umask -S " else "umask "
      put (front ++ text ++ "\n")
    let mask := (← shell).umask
    match args with
    | [] => printed mask
    | text :: _ =>
      let isNumber := (text.toList.head?.map Char.isDigit).getD false
      match maskOf? mask text with
      | some umask =>
        if isNumber && 4 < text.length then complain 1 (text ++ ": octal number out of range")
        else
          modifyShell fun s => { s with umask }
          if o.has 'S' then put (maskLetters umask ++ "\n") else return 0
      | none =>
        if isNumber then complain 1 (text ++ ": octal number out of range")
        else
          let after := text.toList.dropWhile fun c => "ugoa".toList.contains c
          match after with
          | c :: more =>
            if "+-=".toList.contains c then
              let bad := (more.find? fun c => !"rwxXst,".toList.contains c).getD c
              complain 1 ("\x60" ++ bad.toString ++ "': invalid symbolic mode character")
            else complain 1 ("\x60" ++ c.toString ++ "': invalid symbolic mode operator")
          | [] => complain 1 "\x60': invalid symbolic mode operator"

/-! ### Other commands -/

/-- Tell from where the function that is running was called. -/
def callerBuiltin : Builtin := fun args => do
  let calls := (← shell).calls
  let outer (n : Nat) : Option Frame := calls[n]?
  match args with
  | [] =>
    match outer 0 with
    | none => return 1
    | some inner =>
      put (Nat.repr inner.line ++ " " ++ ((outer 1).map Frame.source).getD "NULL" ++ "\n")
  | arg :: _ =>
    match number? arg with
    | some n =>
      match outer n.toNat, outer (n.toNat + 1) with
      | some inner, some caller =>
        put (Nat.repr inner.line ++ " " ++ caller.name ++ " " ++ caller.source ++ "\n")
      | _, _ => return 1
    | none => complain 1 (arg ++ ": invalid number")

/-- Print the words that begin with a text. -/
def compgenBuiltin : Builtin := fun args =>
  Usage.reading ⟨"compgen [-abcdefgjksuv] [-W wordlist] [word]", "abcdefgjksuv", "oAGWFCXPS"⟩ args
    fun o args => do
      let front := args.headD ""
      let words := ((o.value? 'W').map fun list =>
        ((pieces (fun c => c == ' ' || c == '\t' || c == '\n') list.toList).filter
          fun w => !w.isEmpty).map String.ofList).getD []
      let found := words.filter fun w => w.startsWith front
      let _ ← put (String.join (found.map (· ++ "\n")))
      return if found.isEmpty then 1 else 0

/-- Print the programs that were found, or find them, or forget them. -/
def hashBuiltin : Builtin := fun args =>
  Usage.reading ⟨"hash [-lr] [-p pathname] [-dt] [name ...]", "lrdt", "p"⟩ args fun o names => do
    if o.has 'r' then modifyShell fun s => { s with remembered := [] }
    let s ← shell
    if names.isEmpty then
      if o.has 'r' then return 0
      else if s.remembered.isEmpty then put "hash: hash table empty\n"
      else
        let line (x : String × String × Nat) : String :=
          let hits := Nat.repr x.2.2
          String.ofList (List.replicate (4 - hits.length) ' ') ++ hits ++ "\t" ++ x.2.1 ++ "\n"
        put ("hits\tcommand\n" ++ String.join (s.remembered.map line))
    else
      let t ← files
      let searchPath := (← value? "PATH").getD ""
      names.foldlM (fun status name => do
        match if name.toList.contains '/' then .ok name else search t searchPath name with
        | .ok path =>
          modifyShell fun s =>
            { s with remembered := (name, path, 0) :: s.remembered.filter fun x => x.1 != name }
          return status
        | .error _ => complain 1 (name ++ ": not found")) 0

/-- Print the arguments; options and settings say how. -/
def echoBuiltin : Builtin := fun args => do
  if (← shell).settings.others.contains "xpg_echo" then put (Tool.echo args)
  else put (Tool.echoWithOptions args)

/-- Refuse what needs a shell that is talked to. -/
def unavailable (text : String) : Builtin := fun _ => complain 1 text

/-! ### Table -/

/-- The built-in commands with texts as arguments. -/
def builtins : List (String × Builtin) :=
  [(":", fun _ => return 0), ("[", testBuiltin "["), ("alias", aliasCommand),
    ("bg", unavailable "no job control"), ("bind", fun _ => return 0),
    ("break", leaveLoops .breaking), ("caller", callerBuiltin), ("cd", cdBuiltin),
    ("compgen", compgenBuiltin), ("complete", fun _ => return 0), ("compopt", fun _ => return 1),
    ("continue", leaveLoops .continuing), ("dirs", dirsBuiltin),
    ("disown", fun _ => return 0), ("echo", echoBuiltin), ("enable", fun _ => return 0),
    ("exit", exitBuiltin), ("false", fun _ => return 1), ("fc", fun _ => return 0),
    ("fg", unavailable "no job control"), ("getopts", getoptsCommand), ("hash", hashBuiltin),
    ("help", fun _ => return 0), ("history", fun _ => return 0), ("jobs", fun _ => return 0),
    ("kill", killBuiltin), ("let", letBuiltin),
    ("logout", unavailable "not login shell: use \x60exit'"),
    ("mapfile", mapfileBuiltin "mapfile"), ("popd", popdBuiltin), ("printf", printfBuiltin),
    ("pushd", pushdBuiltin), ("pwd", pwdBuiltin), ("read", readBuiltin),
    ("readarray", mapfileBuiltin "readarray"), ("return", returnBuiltin), ("set", setBuiltin),
    ("shift", shiftBuiltin), ("shopt", shoptBuiltin),
    ("suspend", unavailable "cannot suspend: no job control"), ("test", testBuiltin "test"),
    ("times", fun _ => put "0m0.000s 0m0.000s\n0m0.000s 0m0.000s\n"), ("trap", trapBuiltin),
    ("true", fun _ => return 0), ("ulimit", fun _ => put "unlimited\n"), ("umask", umaskCommand),
    ("unalias", unaliasCommand), ("unset", unsetBuiltin), ("wait", waitBuiltin)]

/-- The built-in commands whose arguments may be assignments. -/
def declaringBuiltins : List (String × (List Argument → Run UInt8)) :=
  [("declare", declareBuiltin "declare"), ("export", exportBuiltin), ("local", declareBuiltin "local"),
    ("readonly", readonlyBuiltin), ("typeset", declareBuiltin "typeset")]

/-- The built-in commands that run other commands. -/
def runningBuiltins : List String :=
  [".", "builtin", "command", "eval", "exec", "source", "type"]

/-- Whether a command is built in. -/
def isBuiltin (name : String) : Bool :=
  runningBuiltins.contains name || (builtins.any fun x => x.1 == name)
    || declaringBuiltins.any fun x => x.1 == name

end ShaderBuild.Shell.Extended
