import ShaderBuild.Tool.Calendar
import ShaderBuild.Tool.Lines
import ShaderBuild.Tool.Record.Reader
import ShaderBuild.Tool.Record.Value

/-! # Running programs over records

`Inner` evaluates what is inside an expression or statement; each construct is written over it, so
that the only recursion is `levels`, on how deeply a program nests and calls.  Output to files and
commands is kept until it is closed, or until another program is started. -/

namespace ShaderBuild.Tool.Record

/-! ### State -/

/-- What a name stands for. -/
inductive Slot where
  | value (v : Value)
  | array (number : Nat)
  /-- Nothing yet; it becomes the array with this number if it is used as one. -/
  | fresh (number : Nat)

/-- A text that is read record by record. -/
structure Stream where
  name : String
  rest : List Char

/-- Output that is kept: to a file or to a command. -/
structure Sink where
  name : String
  isCommand : Bool
  text : List String := []

/-- Why a program fails. -/
inductive RunFault where
  | cannotOpen (name : String) (cause : FileFault)
  | cannotWrite (name : String) (cause : FileFault)
  | cannotRead (cause : FileFault)
  /-- A mistake of the program, with what is said of it. -/
  | mistake (text : String)

/-- Why a program stops what it is doing. -/
inductive Jump where
  | breaking
  | continuing
  | nextRecord
  | nextFile
  | returning (v : Value)
  | leaving
  | fault (cause : RunFault)

/-- What a program knows. -/
structure Memory where
  functions : List (String × Function) := []
  globals : List (String × Slot) := []
  /-- The names of the function that is running. -/
  locals : List (String × Slot) := []
  tables : List (Nat × Table) := []
  nextTable : Nat := 0
  record : String := ""
  fields : Array Value := #[]
  /-- The input that is being read; none before the first and after the last file. -/
  input : Option Stream := none
  /-- The number of the next argument that may be a file. -/
  nextArg : Nat := 1
  /-- Whether some argument was a file. -/
  hadFile : Bool := false
  inputEnded : Bool := false
  streams : List Stream := []
  /-- How the commands that are read from ended. -/
  endings : List (String × Nat) := []
  sinks : List Sink := []
  /-- The ranges, by their number among the rules, that have begun. -/
  ranges : List Nat := []
  status : UInt8 := 0

/-- A step of a program. -/
abbrev Act := ExceptT Jump (StateT Memory Work)

/-- A step of the tool as a step of the program. -/
def work {α : Type} (w : Work α) : Act α :=
  liftM (m := StateT Memory Work) (liftM (m := Work) w)

/-- Stop with a mistake. -/
def fault {α : Type} (text : String) : Act α :=
  throw (.fault (.mistake text))

/-! ### Names -/

/-- A number for a new table. -/
def newTable : Act Nat := do
  let n := (← get).nextTable
  modify fun m => { m with nextTable := n + 1 }
  return n

/-- What a name stands for; a new name is fresh. -/
def slotOf (name : String) : Act Slot := do
  let m ← get
  match m.locals.lookup name with
  | some s => return s
  | none =>
    match m.globals.lookup name with
    | some s => return s
    | none =>
      let s := Slot.fresh (← newTable)
      modify fun m => { m with globals := (name, s) :: m.globals }
      return s

/-- Let a name stand for something. -/
def setSlot (name : String) (s : Slot) : Act Unit :=
  modify fun m =>
    if m.locals.any fun x => x.1 == name then
      { m with locals := m.locals.map fun x => if x.1 == name then (name, s) else x }
    else if m.globals.any fun x => x.1 == name then
      { m with globals := m.globals.map fun x => if x.1 == name then (name, s) else x }
    else { m with globals := (name, s) :: m.globals }

/-- The value of a variable. -/
def valueOf (name : String) : Act Value := do
  match ← slotOf name with
  | .value v => return v
  | .fresh _ => return .unset
  | .array _ => fault ("illegal reference to array " ++ name)

/-- The value of a variable as a text. -/
def textOf (name : String) : Act String := do
  let format := match (← get).globals.lookup "CONVFMT" with
    | some (.value v) => v.toText "%.6g"
    | _ => "%.6g"
  return (← valueOf name).toText format

/-- How numbers become texts. -/
def conversion : Act String := textOf "CONVFMT"

/-- A value as a text. -/
def asText (v : Value) : Act String := do
  match v with
  | .number _ => return v.toText (← conversion)
  | v => return v.toText ""

/-- The number of the table that a name stands for. -/
def tableOf (name : String) : Act Nat := do
  match ← slotOf name with
  | .array n => return n
  | .fresh n =>
    setSlot name (.array n)
    return n
  | .value _ => fault ("illegal use of variable " ++ name ++ " as an array")

/-- The table with a number. -/
def table (n : Nat) : Act Table :=
  return ((← get).tables.lookup n).getD []

/-- Let a table be another one. -/
def setTable (n : Nat) (t : Table) : Act Unit :=
  modify fun m => { m with tables := (n, t) :: m.tables.filter fun x => x.1 != n }

/-! ### Regular expressions -/

/-- How regular expressions are written. -/
def flavor : RegexFlavor :=
  { extended := true, escapes := true, escapesInSets := true, lenient := true }

/-- The regular expression that a text spells. -/
def regexOf (source : String) : Act Regex := do
  match Regex.parse flavor source.toList with
  | .ok r => return r.regex
  | .error e => fault ("regular expression compile failed (" ++ e ++ ")\n" ++ source)

/-! ### Records and fields -/

/-- A text cut at the matches of an expression, none of which is empty. -/
def splitAtMatches (r : Regex) (text : List Char) : List String :=
  let m := r.matcher {} text
  let rec go : Nat → Nat → Nat → List String
    | 0, start, _ => [String.ofList (text.drop start)]
    | n + 1, start, place =>
      match m.find place with
      | none => [String.ofList (text.drop start)]
      | some found =>
        if found.span.stop == found.span.start then go n start (found.span.start + 1)
        else
          String.ofList ((text.drop start).take (found.span.start - start))
            :: go n found.span.stop found.span.stop
  go (text.length + 1) 0 0

/-- The fields of a text by a separator. -/
def splitText (separator text : String) : Act (List String) := do
  let cs := text.toList
  if cs.isEmpty then return []
  match separator.toList with
  | [' '] =>
    let isBlank (c : Char) : Bool := c == ' ' || c == '\t' || c == '\n'
    return ((pieces isBlank cs).filter fun f => !f.isEmpty).map String.ofList
  | [] => return cs.map Char.toString
  | [c] => return (pieces (· == c) cs).map String.ofList
  | _ => return splitAtMatches (← regexOf separator) cs

/-- Let the record be a text and cut it into fields. -/
def setRecord (text : String) : Act Unit := do
  let fields ← splitText (← textOf "FS") text
  modify fun m => { m with record := text, fields := (fields.map Value.ofInput).toArray }
  setSlot "NF" (.value (.ofNat fields.length))

/-- Make the record out of its fields. -/
def joinRecord : Act Unit := do
  let separator ← textOf "OFS"
  let texts ← (← get).fields.toList.mapM asText
  modify fun m => { m with record := separator.intercalate texts }

/-- Let there be so many fields. -/
def setFieldCount (n : Nat) : Act Unit := do
  modify fun m =>
    { m with fields :=
        if n < m.fields.size then m.fields.extract 0 n
        else m.fields ++ Array.replicate (n - m.fields.size) .unset }
  setSlot "NF" (.value (.ofNat n))

/-- The most fields of a record. -/
def mostFields : Nat := 1000000

/-- The place that a value gives a field. -/
def fieldPlace (v : Value) : Act Nat := do
  let n := countOf v.toNumber
  if n < 0 then fault ("negative field index $" ++ toString n)
  else if mostFields < n.toNat then fault ("field index " ++ toString n ++ " too large")
  else return n.toNat

/-- The value of a field. -/
def fieldValue (n : Nat) : Act Value := do
  let m ← get
  if n == 0 then return .ofInput m.record else return m.fields.getD (n - 1) .unset

/-- Let a field have a value. -/
def setField (n : Nat) (v : Value) : Act Unit := do
  if n == 0 then setRecord (← asText v)
  else
    if (← get).fields.size < n then setFieldCount n
    modify fun m => { m with fields := m.fields.setIfInBounds (n - 1) v }
    joinRecord

/-- Let a variable have a value. -/
def setVariable (name : String) (v : Value) : Act Unit := do
  let isLocal := (← get).locals.any fun x => x.1 == name
  if let .array _ ← slotOf name then fault ("illegal reference to array " ++ name)
  setSlot name (.value v)
  if name == "NF" && !isLocal then
    setFieldCount (countOf v.toNumber).toNat
    joinRecord

/-- Add to a count. -/
def count (name : String) : Act Unit := do
  setSlot name (.value (.number ((← valueOf name).toNumber + 1)))

/-- The first record of a text and what follows it; none if the text is empty. -/
def cutRecord (separator : String) (cs : List Char) : Act (Option (String × List Char)) := do
  match separator.toList with
  | [] =>
    let cs := cs.dropWhile (· == '\n')
    if cs.isEmpty then return none
    else
      let rec paragraph : Nat → List Char → List Char → List Char × List Char
        | 0, found, rest => (found.reverse, rest)
        | n + 1, found, rest =>
          match rest with
          | '\n' :: '\n' :: _ | ['\n'] | [] => (found.reverse, rest.dropWhile (· == '\n'))
          | c :: rest => paragraph n (c :: found) rest
      let (text, rest) := paragraph (cs.length + 1) [] cs
      return some (String.ofList text, rest)
  | [c] =>
    if cs.isEmpty then return none
    else
      let text := cs.takeWhile (· != c)
      return some (String.ofList text, (cs.drop text.length).drop 1)
  | _ =>
    if cs.isEmpty then return none
    else
      match (← regexOf separator).find {} cs with
      | some found =>
        if found.span.start == found.span.stop then return some (String.ofList cs, [])
        else return some (String.ofList (cs.take found.span.start), cs.drop found.span.stop)
      | none => return some (String.ofList cs, [])

/-! ### Output -/

/-- The environment and name of a shell that runs a command. -/
def shellPath : String := "/bin/sh"

/-- The number that stands for how a command ended. -/
def endingCode : Except FileFault ExitStatus → Nat
  | .ok (.exited code) => code.toNat
  | .ok (.signaled n) => 256 + n
  | .error _ => 127

/-- Start a command; what is kept of the output stays so. -/
def startCommand (command : String) (input : ByteArray) : Work Spawned := do
  let spawned := (← read).spawn shellPath ["-c", command] input (← get).files
  modify fun p => { p with files := spawned.files }
  return spawned

/-- Write what is kept for a file, or give it to the command it is for; the status of the
command. -/
def emptySink (s : Sink) : Act Nat := do
  let text := String.join s.text.reverse
  if s.name == "/dev/stdout" then
    work flush
    return 0
  else if s.isCommand then
    work (do
      let spawned ← startCommand s.name (contentOf text)
      modify fun p => { p with written := spawned.written.reverse ++ p.written }
      return endingCode spawned.ending)
  else
    work (do
      let files ← tree
      let before := ((files.read (pathOf s.name)).toOption).getD .empty
      let _ ← store s.name (before ++ contentOf text)
      return 0)

/-- Write all that is kept for files. -/
def flushFiles : Act Unit := do
  (← get).sinks.forM fun s => do
    if !s.isCommand && !s.text.isEmpty then let _ ← emptySink s
  modify fun m =>
    { m with sinks := m.sinks.map fun s => if s.isCommand then s else { s with text := [] } }

/-- Keep a text for a sink. -/
def keepFor (name : String) (isCommand : Bool) (text : String) : Act Unit :=
  modify fun m =>
    match m.sinks.find? fun s => s.name == name && s.isCommand == isCommand with
    | some s =>
      { m with sinks := { s with text := text :: s.text }
          :: m.sinks.filter fun s => !(s.name == name && s.isCommand == isCommand) }
    | none => { m with sinks := { name, isCommand, text := [text] } :: m.sinks }

/-- Write a text to a file, which is emptied when it is first written to. -/
def writeFile (append : Bool) (name text : String) : Act Unit := do
  match name with
  | "-" => work (say text)
  | "/dev/stdout" =>
    keepFor name false ""
    work (say text)
  | "/dev/stderr" => work (emit 2 (contentOf text))
  | name =>
    if !((← get).sinks.any fun s => s.name == name && !s.isCommand) then
      let before ← if append then do
          let files ← work tree
          pure (((files.read (pathOf name)).toOption).getD .empty)
        else pure .empty
      match ← work (store name before) with
      | .ok () => pure ()
      | .error e => throw (.fault (.cannotWrite name e))
    keepFor name false text

/-- Keep a text for a command.  All that was kept before the command was started is written
first. -/
def writeCommand (command text : String) : Act Unit := do
  if !((← get).sinks.any fun s => s.name == command && s.isCommand) then
    work flush
    flushFiles
  keepFor command true text

/-- Run a command and give what it prints. -/
def outputOf (command : String) : Act (String × Nat) := do
  flushFiles
  work (do
    flush
    let spawned ← startCommand command .empty
    modify fun p =>
      { p with written := (spawned.written.filter fun x => x.1 != 1).reverse ++ p.written }
    let printed := (spawned.written.filter fun x => x.1 == 1).map fun x => rawContent x.2
    return (String.join printed, endingCode spawned.ending))

/-- Close what has a name; its status. -/
def close (name : String) : Act Int := do
  let m ← get
  let sinks := m.sinks.filter fun s => s.name == name
  let streams := m.streams.filter fun s => s.name == name
  modify fun m =>
    { m with
      sinks := m.sinks.filter fun s => s.name != name
      streams := m.streams.filter fun s => s.name != name
      endings := m.endings.filter fun x => x.1 != name }
  let statuses ← sinks.mapM emptySink
  match statuses.head?, m.endings.lookup name, streams with
  | some n, _, _ => return n
  | none, some n, _ => return n
  | none, none, _ :: _ => return 0
  | none, none, [] => return -1

/-! ### Input -/

/-- The separator of keys, and keys as one. -/
def joinKeys (keys : List Value) : Act (String × Option Int) := do
  match keys with
  | [.number x] =>
    match truncated x with
    | some n =>
      if Float.ofInt n == x then return (toString n, some n)
      else return (← asText (.number x), none)
    | none => return (← asText (.number x), none)
  | keys =>
    let texts ← keys.mapM asText
    return ((← textOf "SUBSEP").intercalate texts, none)

/-- The argument with a number. -/
def argument? (n : Nat) : Act (Option String) := do
  match (← table (← tableOf "ARGV")).get? (Nat.repr n) with
  | some v => return some (← asText v)
  | none => return none

/-- The name and value of an argument that assigns. -/
def assignment? (arg : String) : Option (String × String) :=
  let name := arg.toList.takeWhile isNameChar
  match arg.toList.drop name.length with
  | '=' :: value =>
    if (name.head?.map isNameStart).getD false then
      some (String.ofList name, String.ofList (unescaped value.length value))
    else none
  | _ => none

/-- Go on to the next file of the input, past at most `n` arguments; whether there is one. -/
def nextInput : Nat → Act Bool
  | 0 => return false
  | n + 1 => do
    let m ← get
    let last := countOf (← valueOf "ARGC").toNumber
    let useInput : Act Bool := do
      modify fun m => { m with inputEnded := true }
      if m.hadFile then return false
      else
        match ← work readInput with
        | .ok content =>
          modify fun m =>
            { m with hadFile := true, input := some ⟨"-", (rawContent content).toList⟩ }
          return true
        | .error e => throw (.fault (.cannotRead e))
    if last ≤ m.nextArg then
      if m.inputEnded then return false else useInput
    else
      modify fun m => { m with nextArg := m.nextArg + 1 }
      match ← argument? m.nextArg with
      | none | some "" => nextInput n
      | some arg =>
        match assignment? arg with
        | some (name, value) =>
          setVariable name (.ofInput value)
          nextInput n
        | none =>
          match ← work (operand arg) with
          | .ok content =>
            modify fun m =>
              { m with hadFile := true, input := some ⟨arg, (rawContent content).toList⟩ }
            setSlot "FILENAME" (.value (.text arg))
            setSlot "FNR" (.value (.number 0))
            return true
          | .error .isDirectory => throw (.fault (.cannotRead .isDirectory))
          | .error e => throw (.fault (.cannotOpen arg e))

/-- The next record of the input, from at most `n` files. -/
def nextRecord? : Nat → Act (Option String)
  | 0 => return none
  | n + 1 => do
    match (← get).input with
    | none => if ← nextInput (n + 1) then nextRecord? n else return none
    | some s =>
      match ← cutRecord (← textOf "RS") s.rest with
      | some (text, rest) =>
        modify fun m => { m with input := some { s with rest } }
        count "NR"
        count "FNR"
        return some text
      | none =>
        modify fun m => { m with input := none }
        if ← nextInput (n + 1) then nextRecord? n else return none

/-- More than the number of arguments. -/
def inputBound : Act Nat := do
  return 2 * (max (countOf (← valueOf "ARGC").toNumber).toNat (← get).nextArg) + 10

/-- The stream of a file or command, which is opened if it is not; none if that cannot be done. -/
def streamOf (name : String) (isCommand : Bool) : Act (Option Stream) := do
  match (← get).streams.find? fun s => s.name == name with
  | some s => return some s
  | none =>
    if isCommand then
      let (text, status) ← outputOf name
      let s : Stream := ⟨name, text.toList⟩
      modify fun m =>
        { m with streams := s :: m.streams, endings := (name, status) :: m.endings }
      return some s
    else
      match ← work (operand (if name == "/dev/stdin" then "-" else name)) with
      | .ok content =>
        let s : Stream := ⟨name, (rawContent content).toList⟩
        modify fun m => { m with streams := s :: m.streams }
        return some s
      | .error .isDirectory => throw (.fault (.cannotRead .isDirectory))
      | .error _ => return none

/-! ### Texts -/

/-- The part of a text from a place on with a length. -/
def substring (s : String) (start : Int) (length : Option Int) : String :=
  let cs := s.toList
  match length with
  | none => String.ofList (cs.drop (start - 1).toNat)
  | some n =>
    let n := if start < 0 then n - start else n
    String.ofList ((cs.drop (start - 1).toNat).take n.toNat)

/-- A replacement with what was matched in the places of its marks. -/
def fillReplacement (matched : List Char) : List Char → List Char
  | '\\' :: '\\' :: '\\' :: '&' :: rest => '\\' :: '&' :: fillReplacement matched rest
  | '\\' :: '\\' :: '&' :: rest => '\\' :: matched ++ fillReplacement matched rest
  | '\\' :: '&' :: rest => '&' :: fillReplacement matched rest
  | '&' :: rest => matched ++ fillReplacement matched rest
  | c :: rest => c :: fillReplacement matched rest
  | [] => []

/-- Replace the matches in a text, all of them or the first one; how many there were. -/
def substitute (r : Regex) (replacement : List Char) (all : Bool) (text : List Char) :
    List Char × Nat :=
  let m := r.matcher {} text
  let rec go : Nat → Nat → Option Nat → List Char × Nat
    | 0, place, _ => (text.drop place, 0)
    | n + 1, place, lastEnd =>
      match m.find place with
      | none => (text.drop place, 0)
      | some found =>
        let s := found.span
        if s.start == s.stop && lastEnd == some s.start then
          match text.drop place with
          | c :: _ =>
            let (rest, k) := go n (place + 1) none
            (c :: rest, k)
          | [] => ([], 0)
        else
          let before := (text.drop place).take (s.start - place)
          let new := fillReplacement (s.chars m.text) replacement
          if !all then (before ++ new ++ text.drop s.stop, 1)
          else if s.start == s.stop then
            match text.drop s.stop with
            | c :: _ =>
              let (rest, k) := go n (s.stop + 1) none
              (before ++ new ++ c :: rest, k + 1)
            | [] => (before ++ new, 1)
          else
            let (rest, k) := go n s.stop (some s.stop)
            (before ++ new ++ rest, k + 1)
  go (2 * text.length + 2) 0 none

/-- Format values; the text, and what is wrong with the format after it.  `caller` is who asks. -/
def formatValues (caller format : String) (values : List Value) :
    Act (String × Option String) := do
  let call := caller ++ "(\"" ++ format ++ "\")"
  let wrong {α : Type} : Act α := fault ("not enough arguments passed to " ++ call)
  let rec go : Nat → Nat → List Char → List Value → List Char → Act (List Char × Option String)
    | 0, _, _, _, out => return (out, none)
    | _, _, [], _, out => return (out, none)
    | n + 1, k, '%' :: '%' :: rest, values, out => go n k rest values ('%' :: out)
    | n + 1, k, '%' :: rest, values, out => tryCatch (do
      let isFlag (c : Char) : Bool := "#-+ 0".toList.contains c
      let flags := rest.takeWhile isFlag
      let size (cs : List Char) (values : List Value) :
          Act (Option Int × List Char × List Value) := do
        match cs, values with
        | '*' :: cs, v :: values => return (some (countOf v.toNumber), cs, values)
        | '*' :: _, [] => wrong
        | cs, values =>
          return (sizeOf? (cs.takeWhile Char.isDigit), cs.dropWhile Char.isDigit, values)
      let (width, after, values) ← size (rest.dropWhile isFlag) values
      let (precision, after, values) ← match after with
        | '.' :: more => do
          let (p, more, values) ← size more values
          pure (some (p.getD 0), more, values)
        | after => pure (none, after, values)
      match after.dropWhile fun c => c == 'l' || c == 'h' with
      | [] => wrong
      | letter :: after =>
        match values with
        | [] => wrong
        | v :: values =>
          let c : Conversion := { flags, width, precision, letter }
          let x := v.toNumber
          let text ← match letter with
            | 'd' | 'i' => pure (c.signed (integer x))
            | 'o' | 'x' | 'X' | 'u' => pure (c.unsigned (integer x % Nat.pow 2 64).toNat)
            | 'e' | 'E' | 'f' | 'F' | 'g' | 'G' => pure (c.floating {} (Numeral.ofFloat x))
            | 'c' =>
              match v with
              | .number x => pure (c.inField [Char.ofNat (countOf x % 256).toNat])
              | v => do
                let s ← asText v
                pure (c.inField [s.toList.headD (Char.ofNat 0)])
            | 's' => do
              let s ← asText v
              pure (c.text s.toList)
            | _ => fault ("improper conversion(number " ++ Nat.repr k ++ ") in " ++ call)
          go n (k + 1) after values (text.reverse ++ out)) fun
      | .fault (.mistake text) => return (out, some text)
      | j => throw j
    | n + 1, k, c :: rest, values, out => go n k rest values (c :: out)
  let (out, wrong) ← go (format.length + 1) 1 format.toList values []
  return (String.ofList out.reverse, wrong)
where
  /-- The integer that is printed for a number. -/
  integer (x : Float) : Int :=
    match Numeral.ofFloat x with
    | .ratio _ _ _ =>
      let n := (truncated x).getD 0
      if Nat.pow 2 64 ≤ n then Nat.pow 2 64 - 1 else max n (-(Nat.pow 2 63))
    | .infinite negative => if negative then -(Nat.pow 2 63) else Nat.pow 2 64 - 1
    | .undefined _ => -(Nat.pow 2 63)

/-! ### Expressions -/

/-- What runs the insides of expressions and statements. -/
structure Engine where
  eval : Expr → Act Value
  run : Statement → Act Unit

/-- Whether an expression is a regular expression, and which. -/
def patternOf (e : Engine) (x : Expr) : Act Regex := do
  match x with
  | .pattern source => regexOf source
  | x => regexOf (← asText (← e.eval x))

/-- Let a place that can be assigned to have a value. -/
def store (e : Engine) (target : Expr) (v : Value) : Act Unit := do
  match target with
  | .variable name => setVariable name v
  | .field index => setField (← fieldPlace (← e.eval index)) v
  | .element array keys =>
    let (key, integer?) ← joinKeys (← keys.mapM e.eval)
    let n ← tableOf array
    setTable n ((← table n).put ⟨key, integer?, v⟩)
  | _ => fault "assignment to something that is no variable"

/-- Call a function. -/
def callFunction (e : Engine) (name : String) (args : List Expr) : Act Value := do
  match (← get).functions.lookup name with
  | none => fault ("function " ++ name ++ " never defined")
  | some f =>
    if f.params.length < args.length then fault ("too many arguments in call to " ++ name)
    let given ← args.mapM fun
      | .variable name => do
        match ← slotOf name with
        | .fresh n => return Slot.fresh n
        | s => return s
      | x => do return Slot.value (← e.eval x)
    let own ← (f.params.drop given.length).mapM fun _ => do return Slot.fresh (← newTable)
    let before := (← get).locals
    modify fun m => { m with locals := f.params.zip (given ++ own) }
    let finish : Act Unit := modify fun m =>
      -- What was fresh and became an array is an array for the caller too.
      let became := (args.zip (f.params.map fun p => m.locals.lookup p)).filterMap fun
        | (.variable name, some (.array n)) => some (name, n)
        | _ => none
      let keep (names : List (String × Slot)) : List (String × Slot) :=
        names.map fun x => match x.2, became.lookup x.1 with
          | .fresh k, some n => if k == n then (x.1, .array n) else x
          | _, _ => x
      { m with locals := keep before, globals := keep m.globals }
    let result ← tryCatch (do
        e.run f.body
        return Value.unset) fun
      | .returning v => return v
      | j => do
        finish
        throw j
    finish
    return result

/-- Match a text and set the variables that say where. -/
def matchText (r : Regex) (s : String) : Act Value := do
  let (start, length) : Nat × Float := match r.find {} s.toList with
    | some found => (found.span.start + 1, Float.ofNat (found.span.stop - found.span.start))
    | none => (0, -1)
  setVariable "RSTART" (.ofNat start)
  setVariable "RLENGTH" (.number length)
  return .ofNat start

/-- Split a text into an array. -/
def splitInto (e : Engine) (s : String) (array : String) (separator : Option Expr) : Act Value := do
  let parts ← match separator with
    | none => do splitText (← textOf "FS") s
    | some (.pattern source) => do
      if s.isEmpty then pure []
      else pure (splitAtMatches (← regexOf source) s.toList)
    | some x => do splitText (← asText (← e.eval x)) s
  let n ← tableOf array
  let elements := parts.zipIdx.map fun (p, i) =>
    (⟨Nat.repr (i + 1), some ((i + 1 : Nat) : Int), .ofInput p⟩ : Entry)
  setTable n elements.reverse
  return .ofNat parts.length

/-- The number of seconds to the date whose year, month, day, hour, minute and second a text gives;
a seventh number says whether clocks are an hour ahead.  -1 if there are fewer than six. -/
def dateNumber (text : String) : Int :=
  let isGap (c : Char) : Bool := c == ' ' || c == '\t' || c == '\n'
  let words := (pieces isGap text.toList).filter fun w => !w.isEmpty
  let number? (w : List Char) : Option Int :=
    let (negative, digits) := match w with
      | '-' :: ds => (true, ds)
      | '+' :: ds => (false, ds)
      | ds => (false, ds)
    if digits.isEmpty || !digits.all Char.isDigit then none
    else
      let n : Int := (Numeral.digitsValue 10 digits : Nat)
      some (if negative then -n else n)
  match (words.map number?).takeWhile Option.isSome with
  | some year :: some month :: some day :: some hour :: some minute :: some second :: more =>
    let days := daysFromCivil ⟨year + (month - 1) / 12, ((month - 1) % 12).toNat + 1, 1⟩ + (day - 1)
    let ahead : Int := if more.head?.any fun x => x.any (0 < ·) then 3600 else 0
    days * 86400 + hour * 3600 + minute * 60 + second - ahead
  | _ => -1

/-- A function that is built in. -/
def callBuiltin (e : Engine) (name : String) (args : List Expr) : Act Value := do
  let number (x : Expr) : Act Float := do return (← e.eval x).toNumber
  let text (x : Expr) : Act String := do asText (← e.eval x)
  let computed (f : Float → Float) (x : Expr) : Act Value := do return .number (f (← number x))
  match name, args with
  | "length", [] => return .ofNat (← get).record.length
  | "length", [.variable name] =>
    match ← slotOf name with
    | .array n => return .ofNat (← table n).length
    | _ => return .ofNat (← text (.variable name)).length
  | "length", [x] => return .ofNat (← text x).length
  | "substr", [s, start] =>
    let s ← text s
    return .text (substring s (countOf (← number start)) none)
  | "substr", [s, start, length] =>
    let s ← text s
    let start := countOf (← number start)
    return .text (substring s start (some (countOf (← number length))))
  | "index", [s, t] =>
    let s ← text s
    let t ← text t
    return .ofNat ((((Regex.literal t.toList).find {} s.toList).map fun m => m.span.start + 1).getD 0)
  | "split", [s, .variable array] => splitInto e (← text s) array none
  | "split", [s, .variable array, separator] => splitInto e (← text s) array (some separator)
  | "match", [s, r] =>
    let s ← text s
    matchText (← patternOf e r) s
  | "sprintf", format :: values =>
    let format ← text format
    let (s, wrong) ← formatValues "sprintf" format (← values.mapM e.eval)
    wrong.forM fault
    return .text s
  | "sin", [x] => computed Float.sin x
  | "cos", [x] => computed Float.cos x
  | "exp", [x] => computed Float.exp x
  | "log", [x] => computed Float.log x
  | "sqrt", [x] => computed Float.sqrt x
  | "int", [x] =>
    let x ← number x
    match truncated x with
    | some n => return .number (Float.ofInt n)
    | none => return .number x
  | "atan2", [y, x] =>
    let y ← number y
    return .number (Float.atan2 y (← number x))
  | "tolower", [s] => return .text ((← text s).map Char.toLower)
  | "toupper", [s] => return .text ((← text s).map Char.toUpper)
  | "rand", [] => return .number 0.5
  | "srand", _ => return .number 1
  | "systime", [] => return .number (Float.ofNat ((← work tree).clock / 1000000000))
  | "mktime", s :: _ => return .number (Float.ofInt (dateNumber (← text s)))
  | "strftime", args =>
    let (format, time) ← match args with
      | [] => pure ("%c", [])
      | format :: time => do pure (← text format, time.take 1)
    let seconds ← match time with
      | x :: _ => do
        let x ← number x
        pure ((truncated x).getD 0)
      | [] => do
        let t ← work tree
        pure ((t.clock / 1000000000 : Nat) : Int)
    return .text (formatDate seconds 0 format.toList)
  | "system", [command] =>
    let command ← text command
    flushFiles
    work (do
      flush
      let spawned ← startCommand command .empty
      modify fun p => { p with written := spawned.written.reverse ++ p.written }
      return .ofNat (endingCode spawned.ending))
  | "close", x :: _ =>
    let name ← text x
    return .number (Float.ofInt (← close name))
  | "fflush", _ =>
    work flush
    flushFiles
    return .number 0
  | name, args =>
    if name == "sub" || name == "gsub" then
      match args with
      | r :: replacement :: rest =>
        let target := rest.headD (.field (.number 0))
        let r ← patternOf e r
        let replacement ← text replacement
        let s ← text target
        let (new, n) := substitute r replacement.toList (name == "gsub") s.toList
        if 0 < n then
          if target.isTarget then store e target (.text (String.ofList new))
        return .ofNat n
      | _ => fault ("not enough arguments to " ++ name)
    else fault ("wrong number of arguments in call to " ++ name)

/-- Give a text that was read to a target; what was read counts as a record if there is none. -/
def receive (e : Engine) (target : Option Expr) (s : String) : Act Value := do
  match target with
  | some target => store e target (.ofInput s)
  | none => setRecord s
  return .number 1

/-- Read a record of a file or command. -/
def readStream (e : Engine) (name : String) (isCommand : Bool) (target : Option Expr) :
    Act Value := do
  match ← streamOf name isCommand with
  | none => return .number (-1)
  | some s =>
    match ← cutRecord (← textOf "RS") s.rest with
    | none => return .number 0
    | some (text, rest) =>
      modify fun m =>
        { m with streams := m.streams.map fun x => if x.name == name then { x with rest } else x }
      receive e target text

/-- The value of an expression. -/
def evalStep (e : Engine) (x : Expr) : Act Value := do
  let number (x : Expr) : Act Float := do return (← e.eval x).toNumber
  match x with
  | .number x => return .number x
  | .text s => return .text s
  | .pattern source =>
    return .ofBool ((← regexOf source).find {} (← get).record.toList).isSome
  | .field index => fieldValue (← fieldPlace (← e.eval index))
  | .variable name => valueOf name
  | .element array keys =>
    let (key, integer?) ← joinKeys (← keys.mapM e.eval)
    let n ← tableOf array
    let t ← table n
    let v := (t.get? key).getD .unset
    setTable n (t.put ⟨key, integer?, v⟩)
    return v
  | .assign target op value =>
    let v ← match op with
      | none => e.eval value
      | some op => do
        let y ← number value
        let x ← number target
        pure (Value.number (op.apply x y))
    store e target v
    return v
  | .choice c a b => if (← e.eval c).isTrue then e.eval a else e.eval b
  | .either a b =>
    if (← e.eval a).isTrue then return .ofBool true else return .ofBool (← e.eval b).isTrue
  | .both a b =>
    if (← e.eval a).isTrue then return .ofBool (← e.eval b).isTrue else return .ofBool false
  | .not a => return .ofBool !(← e.eval a).isTrue
  | .negative a => return .number (-(← number a))
  | .positive a => return .number (← number a)
  | .arithmetic op a b =>
    let x ← number a
    return .number (op.apply x (← number b))
  | .joined a b =>
    let s ← asText (← e.eval a)
    return .text (s ++ (← asText (← e.eval b)))
  | .compare r a b =>
    let v ← e.eval a
    let w ← e.eval b
    return .ofBool (r.holds (← conversion) v w)
  | .isMatch negated a b =>
    let s ← asText (← e.eval a)
    return .ofBool (((← patternOf e b).find {} s.toList).isSome != negated)
  | .contains keys array =>
    let (key, _) ← joinKeys (← keys.mapM e.eval)
    return .ofBool ((← table (← tableOf array)).get? key).isSome
  | .step before up target =>
    let x ← number target
    let y := if up then x + 1 else x - 1
    store e target (.number y)
    return .number (if before then x else y)
  | .call name args => callFunction e name args
  | .builtin name args => callBuiltin e name args
  | .readInput target =>
    match ← nextRecord? (← inputBound) with
    | some s => receive e target s
    | none => return .number 0
  | .readFile file target =>
    let name ← asText (← e.eval file)
    readStream e name false target
  | .readCommand command target =>
    let name ← asText (← e.eval command)
    readStream e name true target

/-! ### Statements -/

/-- Write a text where printing goes. -/
def writeTo (e : Engine) (target : Target) (text : String) : Act Unit := do
  match target with
  | .output => work (say text)
  | .file append name => do
    let name ← asText (← e.eval name)
    writeFile append name text
  | .command command => do
    writeCommand (← asText (← e.eval command)) text

/-- The most rounds of a loop. -/
def longestLoop : Nat := 10000000

/-- Run rounds until one says that it was the last. -/
def rounds (round : Act Bool) : Nat → Act Unit
  | 0 => pure ()
  | n + 1 => do if ← round then rounds round n

/-- Run the body of a loop; whether the loop goes on. -/
def runBody (e : Engine) (body : Statement) : Act Bool :=
  tryCatch (do
    e.run body
    return true) fun
  | .breaking => return false
  | .continuing => return true
  | j => throw j

/-- Run a statement. -/
def runStep (e : Engine) (s : Statement) : Act Unit := do
  let holds (x : Expr) : Act Bool := do return (← e.eval x).isTrue
  match s with
  | .evaluate x =>
    let _ ← e.eval x
  | .print args target =>
    let ending ← textOf "ORS"
    if args.isEmpty then writeTo e target ((← get).record ++ ending)
    else
      let format ← textOf "OFMT"
      let values ← args.mapM e.eval
      writeTo e target ((← textOf "OFS").intercalate (values.map (Value.toText format)) ++ ending)
  | .format args target =>
    match ← args.mapM e.eval with
    | [] => pure ()
    | format :: values =>
      let format ← asText format
      let (s, wrong) ← formatValues "printf" format values
      writeTo e target s
      wrong.forM fault
  | .block body => body.forM e.run
  | .choice condition yes no => if ← holds condition then e.run yes else e.run no
  | .loop true condition body =>
    rounds (do if ← runBody e body then holds condition else return false) longestLoop
  | .loop false condition body =>
    rounds (do if ← holds condition then runBody e body else return false) longestLoop
  | .counted start condition next body =>
    e.run start
    rounds (do
      let going ← match condition with
        | some c => holds c
        | none => pure true
      if going then
        if ← runBody e body then
          e.run next
          return true
        else return false
      else return false) longestLoop
  | .each name array body =>
    let n ← tableOf array
    let _ ← (← table n).keys.foldlM (fun going key => do
      if going then
        setVariable name (.text key)
        runBody e body
      else return false) true
  | .breaking => throw .breaking
  | .continuing => throw .continuing
  | .nextRecord => throw .nextRecord
  | .nextFile => throw .nextFile
  | .leave status =>
    if let some x := status then
      let x := (← e.eval x).toNumber
      modify fun m => { m with status := UInt8.ofNat (countOf x % 256).toNat }
    throw .leaving
  | .returning value =>
    let v ← match value with
      | some x => e.eval x
      | none => pure .unset
    throw (.returning v)
  | .delete array [] => setTable (← tableOf array) []
  | .delete array keys =>
    let (key, _) ← joinKeys (← keys.mapM e.eval)
    let n ← tableOf array
    setTable n ((← table n).erase key)

/-- The engine for programs that nest and call at most `n` deep. -/
def engineAt : Nat → Engine
  | 0 =>
    { eval := fun _ => fault "function call nesting too deep"
      run := fun _ => fault "function call nesting too deep" }
  | n + 1 =>
    { eval := fun x m c => evalStep (engineAt n) x m c
      run := fun s m c => runStep (engineAt n) s m c }

/-- The engine that programs run on. -/
def engine : Engine := engineAt 100000

/-! ### Programs -/

/-- Whether a rule is for the record; `number` is its number. -/
def selects (number : Nat) (s : Selector) : Act Bool := do
  let holds (x : Expr) : Act Bool := do return (← engine.eval x).isTrue
  match s with
  | .always => return true
  | .when x => holds x
  | .range first last =>
    let began ← if (← get).ranges.contains number then pure true else holds first
    if began then
      let ends ← holds last
      modify fun m =>
        let others := m.ranges.filter (· != number)
        { m with ranges := if ends then others else number :: others }
    return began

/-- Apply the rules to the record. -/
def applyRules (rules : List Rule) : Act Unit :=
  rules.zipIdx.forM fun (r, number) => do
    if ← selects number r.selector then
      match r.action with
      | some s => engine.run s
      | none => engine.run (.print [] .output)

/-- The most records that are read. -/
def mostRecords : Nat := 100000000

/-- Apply the rules to each record of the input. -/
def runRecords (rules : List Rule) : Act Unit :=
  rounds (do
    match ← nextRecord? (← inputBound) with
    | none => return false
    | some text =>
      tryCatch (do
          setRecord text
          applyRules rules) fun
        | .nextRecord => return ()
        | .nextFile => modify fun m => { m with input := none }
        | j => throw j
      return true) mostRecords

/-- Run a program. -/
def runProgram (p : Program) : Act Unit := do
  let leaving : Jump → Act Unit := fun
    | .leaving => return ()
    | j => throw j
  tryCatch (do
    p.start.forM engine.run
    if !(p.rules.isEmpty && p.finish.isEmpty) then runRecords p.rules) leaving
  tryCatch (p.finish.forM engine.run) leaving

/-- What is kept is written at the end, to what was last used first. -/
def finishOutput : Act Unit := do
  let sinks := (← get).sinks
  sinks.forM fun s => do let _ ← emptySink s
  work flush
  modify fun m => { m with sinks := [] }

/-- The variables that programs start with. -/
def startingGlobals : List (String × Slot) :=
  [("FS", .value (.text " ")), ("OFS", .value (.text " ")), ("ORS", .value (.text "\n")),
    ("RS", .value (.text "\n")), ("NF", .value (.number 0)), ("NR", .value (.number 0)),
    ("FNR", .value (.number 0)), ("CONVFMT", .value (.text "%.6g")), ("OFMT", .value (.text "%.6g")),
    ("SUBSEP", .value (.text "\x1c")), ("RSTART", .value (.number 0)),
    ("RLENGTH", .value (.number (-1))), ("FILENAME", .value .unset)]

/-- A table of texts by key. -/
def tableFrom (xs : List (String × Option Int × String)) : Table :=
  (xs.map fun x => ⟨x.1, x.2.1, Value.ofInput x.2.2⟩).reverse

/-- Prepare the variables and run a program with its arguments. -/
def runWith (p : Program) (name : String) (assigned : List (String × String))
    (args : List String) : Act Unit := do
  modify fun m => { m with functions := p.functions, globals := startingGlobals }
  let all := name :: args
  let argv ← tableOf "ARGV"
  setTable argv (tableFrom (all.zipIdx.map fun (a, i) => (Nat.repr i, some ((i : Nat) : Int), a)))
  setVariable "ARGC" (.ofNat all.length)
  let environment ← tableOf "ENVIRON"
  setTable environment (tableFrom ((← work read).environment.map fun x => (x.1, none, x.2)))
  assigned.forM fun x => setVariable x.1 (.ofInput (String.ofList (unescaped x.2.length x.2.toList)))
  runProgram p

/-- What is said of a failure; a mistake of the program comes with the place in the input. -/
def RunFault.message (m : Memory) : RunFault → String
  | .cannotOpen name e => "cannot open \"" ++ name ++ "\" (" ++ e.reason ++ ")"
  | .cannotWrite name e => "cannot open \"" ++ name ++ "\" for output (" ++ e.reason ++ ")"
  | .cannotRead e => "read error (" ++ e.reason ++ ")"
  | .mistake text =>
    let value (name : String) : String := match m.globals.lookup name with
      | some (.value v) => v.toText "%.6g"
      | _ => ""
    "run time error: " ++ text ++ "\n\tFILENAME=\"" ++ value "FILENAME" ++ "\" FNR=" ++ value "FNR"
      ++ " NR=" ++ value "NR"

/-- Run a program that has been read. -/
def runRead (p : Program) (assigned : List (String × String)) (args : List String) :
    Work Unit := do
  let name := (← read).name
  let (result, m) ← (runWith p name assigned args).run.run {}
  match result with
  | .error (.fault cause) =>
    warn (cause.message m)
    let _ ← finishOutput.run.run m
    fail 2
  | _ =>
    let _ ← finishOutput.run.run m
    fail m.status

/-- The tool `awk`. -/
def recordTool : Routine := do
  let call ← read
  let table : OptionTable := { valued := "Ffv", ordered := true }
  match table.readFrom (call.args.length + 1) call.args with
  | .error _ =>
    warn ("not an option: " ++ (call.args.find? fun a => a.startsWith "-").getD "")
    fail 2
  | .ok o =>
    let files := o.given.filterMap fun x => if x.1 == 'f' then some x.2 else none
    let assigned := o.given.filterMap fun x =>
      if x.1 == 'F' then some ("FS", x.2)
      else if x.1 == 'v' then assignmentOf x.2 else none
    let texts ← files.mapM fun f => do
      match ← operand f with
      | .ok content => return Except.ok (rawContent content)
      | .error e => return Except.error (f, e)
    match texts.findSome? fun t => match t with
      | .error x => some x
      | .ok _ => none with
    | some (f, e) => complain 2 ("cannot open \"" ++ f ++ "\" (" ++ e.reason ++ ")")
    | none =>
      let (source, args) := if files.isEmpty then (o.operands.head?, o.operands.drop 1)
        else (some ("\n".intercalate (texts.filterMap Except.toOption)), o.operands)
      match source with
      | none =>
        emit 2 (contentOf ("Usage: " ++ call.name ++ " [Options] [Program] [file ...]\n"))
        fail 2
      | some source =>
        match Program.parse source.toList with
        | .error e => complain 2 e.text
        | .ok p => runRead p assigned args
where
  /-- The name and value of an assignment among the options. -/
  assignmentOf (arg : String) : Option (String × String) :=
    match arg.toList.dropWhile (· != '=') with
    | '=' :: value => some (String.ofList (arg.toList.takeWhile (· != '=')), String.ofList value)
    | _ => none

end ShaderBuild.Tool.Record
