import ShaderBuild.Shell.Builtin.Standard

/-! # Declaring variables

The commands of the extended dialect that declare variables, mark them and remove them.  Their
arguments may be assignments, also to arrays, so they are expanded to `Argument`s and not to
texts. -/

namespace ShaderBuild.Shell.Extended

/-- An element that is given to an array. -/
structure GivenElement where
  key? : Option String
  appends : Bool
  value : String

/-- An argument of a command that declares variables. -/
inductive Argument where
  | word (text : String)
  | assigned (name : String) (key? : Option String) (appends : Bool) (value : String)
  | array (name : String) (appends : Bool) (elements : List GivenElement)

/-- An argument as a text. -/
def Argument.text : Argument → String
  | .word text => text
  | .assigned name key? appends value =>
    name ++ key?.elim "" (fun k => "[" ++ k ++ "]") ++ (if appends then "+=" else "=") ++ value
  | .array name appends _ => name ++ (if appends then "+=" else "=")

/-! ### Arrays -/

/-- The elements of an array by texts: pairs of a key and a value if no keys are given. -/
def paired : List GivenElement → List GivenElement
  | k :: v :: rest => { v with key? := some k.value } :: paired rest
  | [k] => [{ key? := some k.value, appends := false, value := "" }]
  | [] => []

/-- Give elements to an array, or add them; whether that was done. -/
def assignArray (name : String) (appends : Bool) (elements : List GivenElement) : Run Bool := do
  let name ← meant name
  let old := ((← shell).bindings.lookup name).getD {}
  let start : Variable := if appends then old.asArray else { old.asArray with elements := [] }
  let noKeys := elements.all fun e => e.key?.isNone
  let elements := if old.shape = .keyed && noKeys then paired elements else elements
  let (filled, _) ← elements.foldlM (fun ((v, next) : Variable × Nat) e => do
    let key ← match e.key? with
      | some text => keyOf? evaluated v text
      | none => pure (some (Nat.repr next))
    match key with
    | none =>
      outsideCommand (report ("[" ++ e.key?.getD "" ++ "]=" ++ e.value ++ ": bad array subscript"))
      return (v, next)
    | some key =>
      let value ← if e.appends then added v (v.get? key) e.value else kept v e.value
      return (v.put key value, keyNumber key + 1)) (start, start.nextNumber)
  updateVariable name fun v => { filled with exported := v.exported, given := true }

/-! ### Marks -/

/-- What a command that declares variables is asked to do. -/
structure Marking where
  on : List Char := []
  off : List Char := []
  /-- Variables are made in the function that is running. -/
  inside : Bool := false

/-- A variable with the marks that are asked for, that of fixed ones apart. -/
def Marking.apply (m : Marking) (v : Variable) : Variable :=
  let mark (letter : Char) (old : Bool) : Bool :=
    (old || m.on.contains letter) && !m.off.contains letter
  let recase := if m.on.contains 'l' then some .lower else if m.on.contains 'u' then some .upper
    else if m.off.contains 'l' || m.off.contains 'u' then none else v.recase
  { v with
    shape := if m.on.contains 'A' then .keyed
      else if m.on.contains 'a' && v.shape = .single then .indexed else v.shape
    exported := mark 'x' v.exported
    integer := mark 'i' v.integer
    refers := mark 'n' v.refers
    recase }

/-- The options at the front of arguments, and the other arguments; or the letter of an option that
does not exist. -/
def optionsOf (known : String) : List Argument → Marking → Except String (Marking × List Argument)
  | [], m => .ok (m, [])
  | .word text :: rest, m =>
    match text.toList with
    | ['-', '-'] => .ok (m, rest)
    | sign :: c :: cs =>
      if sign == '-' || sign == '+' then
        match (c :: cs).find? fun c => !known.toList.contains c with
        | some bad => .error (String.ofList [sign, bad])
        | none =>
          optionsOf known rest
            (if sign == '-' then { m with on := m.on ++ c :: cs } else { m with off := m.off ++ c :: cs })
      else .ok (m, .word text :: rest)
    | _ => .ok (m, .word text :: rest)
  | args, m => .ok (m, args)

/-- The argument that a text is: an assignment if it looks like one. -/
def Argument.ofText (text : String) : Argument :=
  match splitAssignment text with
  | (_, none) => .word text
  | (left, some value) =>
    let cs := left.toList
    let (cs, appends) := if cs.getLast? == some '+' then (cs.dropLast, true) else (cs, false)
    let name := cs.takeWhile (· != '[')
    match cs.drop name.length with
    | '[' :: key =>
      if key.getLast? == some ']' then
        .assigned (String.ofList name) (some (String.ofList key.dropLast)) appends value
      else .word text
    | _ => .assigned (String.ofList cs) none appends value

/-- Declare one variable; whether that was done. -/
def declareOne (m : Marking) (arg : Argument) : Run Bool := do
  let arg := match arg with
    | .word text => Argument.ofText text
    | arg => arg
  let name := match arg with
    | .word text => text
    | .assigned name _ _ _ | .array name _ _ => name
  if !isName name then
    report ("\x60" ++ arg.text ++ "': not a valid identifier")
    return false
  else
    let isNew ← if m.inside then makeLocal name else pure false
    if isNew then
      let exported := ((← lookupVariable name).map Variable.exported).getD false
      let wasFixed := ((← lookupVariable name).map Variable.fixed).getD false
      if wasFixed then
        report (name ++ ": readonly variable")
        return false
      putVariable name (some { exported })
    let name ← if m.on.contains 'n' then pure name else meant name
    let old := ((← shell).bindings.lookup name).getD {}
    let assigns := match arg with
      | .word _ => false
      | _ => true
    if old.fixed && assigns then
      let message := report (name ++ ": readonly variable")
      let command := (← shell).command
      let marks := command == some "export" || command == some "readonly"
      if marks then outsideCommand message else message
      return false
    let means := match arg with
      | .assigned _ none _ value => m.on.contains 'n' && value == name
      | _ => false
    if means then
      report (name ++ ": nameref variable self references not allowed")
      return false
    if assigns || !m.on.isEmpty || m.off.isEmpty || (← lookupVariable name).isSome then
      putVariable name (some (m.apply old))
    let done ← match arg with
      | .word _ => pure true
      | .assigned _ none appends value =>
        if m.on.contains 'n' then
          putVariable name (some ((m.apply old).put "0" value))
          pure true
        else assignElement name none appends value
      | .assigned _ (some key) appends value => assignElement name (some key) appends value
      | .array _ appends elements => assignArray name appends elements
    if m.on.contains 'r' then
      let v ← lookupVariable name
      putVariable name (v.map fun v => { v with fixed := true })
    return done

/-- Declare variables. -/
def declareAll (m : Marking) (args : List Argument) : Run UInt8 := do
  let done ← args.mapM (declareOne m)
  return if done.all id then 0 else 1

/-! ### Listings -/

/-- The variables in the order of their names. -/
def sortedVariables : Run (List (String × Variable)) := do
  return (← shell).bindings.mergeSort fun a b => decide (a.1 ≤ b.1)

/-- Print the variables with all these properties as commands that make them. -/
def listDeclarations (letters : List Char) : Run UInt8 := do
  let found := (← sortedVariables).filter fun x => letters.all x.2.letters.toList.contains
  put (String.join (found.map fun x => x.2.declaration x.1 ++ "\n"))

/-- Print variables by their names. -/
def showDeclarations (names : List String) : Run UInt8 :=
  names.foldlM (fun status name => do
    match (← lookupVariable name).or (← findVariable name) with
    | some v =>
      let _ ← put (v.declaration name ++ "\n")
      return status
    | none => complain 1 (name ++ ": not found")) 0

/-- Refuse an option, with the usage of the command. -/
def refuseOption (usage option : String) : Run UInt8 := do
  report (option ++ ": invalid option")
  let _ ← writeTo 2 (contentOf (((← shell).command.getD "") ++ ": usage: " ++ usage ++ "\n"))
  return 2

/-! ### Commands -/

/-- Declare variables, in the function that is running if there is one. -/
def declareBuiltin (name : String) (args : List Argument) : Run UInt8 := do
  let isLocal := name == "local"
  let s ← shell
  if isLocal && s.functionDepth == 0 then complain 1 "can only be used in a function"
  else
    match optionsOf "aAfFgiIlnrtuxpc" args {} with
    | .error option =>
      refuseOption (name ++ " [-aAfFgiIlnrtux] [name[=value] ...]") option
    | .ok (m, args) =>
      let letters := m.on.filter fun c => "aAilnrux".toList.contains c
      let names := args.map Argument.text
      if m.on.contains 'f' || m.on.contains 'F' then
        let all := (s.functions.map Prod.fst).mergeSort fun a b => decide (a ≤ b)
        let known (name : String) : Bool := s.functions.any fun x => x.1 == name
        if names.isEmpty then
          put (String.join (all.map fun n => "declare -f " ++ n ++ "\n"))
        else
          if m.on.contains 'F' then
            let _ ← put (String.join ((names.filter known).map fun n => n ++ "\n"))
          return if names.all known then 0 else 1
      else if args.isEmpty then
        if isLocal then return 0 else listDeclarations letters
      else if m.on.contains 'p' then showDeclarations names
      else declareAll { m with inside := 0 < s.functionDepth && !m.on.contains 'g' } args

/-- Mark variables for export. -/
def exportBuiltin (args : List Argument) : Run UInt8 := do
  match optionsOf "fnp" args {} with
  | .error option => refuseOption "export [-fn] [name[=value] ...] or export -p" option
  | .ok (m, args) =>
    if args.isEmpty then listDeclarations ['x']
    else if m.on.contains 'f' then return 0
    else if m.on.contains 'n' then declareAll { off := ['x'] } args
    else declareAll { on := ['x'] } args

/-- Mark variables as fixed. -/
def readonlyBuiltin (args : List Argument) : Run UInt8 := do
  match optionsOf "aAfp" args {} with
  | .error option => refuseOption "readonly [-aAf] [name[=value] ...] or readonly -p" option
  | .ok (m, args) =>
    if args.isEmpty then listDeclarations ['r']
    else if m.on.contains 'f' then return 0
    else declareAll { on := 'r' :: m.on.filter fun c => c == 'a' || c == 'A' } args

/-- Remove variables, elements of arrays, or functions. -/
def unsetBuiltin : Builtin := fun args => do
  let (options, names) := (args.takeWhile fun a => a.startsWith "-" && a != "--",
    (args.dropWhile fun a => a.startsWith "-" && a != "--").filter (· != "--"))
  let functions := options.contains "-f"
  let onlyVariables := options.contains "-v" || options.contains "-n"
  match options.find? fun o => o != "-f" && o != "-v" && o != "-n" with
  | some option => refuseOption "unset [-f] [-v] [-n] [name ...]" option
  | none =>
    names.foldlM (fun status name => do
      let dropFunction : Run UInt8 := do
        modifyShell fun s => { s with functions := s.functions.filter fun x => x.1 != name }
        return status
      match parameterNamed name with
      | (base, .whole) =>
        let target ← if options.contains "-n" then pure base else meant base
        match functions, ← lookupVariable target with
        | false, some v =>
          if v.fixed then complain 1 (target ++ ": cannot unset: readonly variable")
          else
            putVariable target none
            return status
        | false, none =>
          if onlyVariables then
            if isName name then return status
            else complain 1 ("\x60" ++ name ++ "': not a valid identifier")
          else dropFunction
        | true, _ => dropFunction
      | (base, .every _) =>
        let target ← meant base
        putVariable target none
        return status
      | (base, .at key) =>
        let target ← meant base
        match ← lookupVariable target with
        | some v =>
          match ← keyOf? evaluated v (String.join (key.map fun | .text t _ => t | _ => "")) with
          | some k =>
            putVariable target (some (v.erase k))
            return status
          | none => complain 1 (name ++ ": bad array subscript")
        | none => return status) 0

end ShaderBuild.Shell.Extended
