import ShaderBuild.Shell.Builtin.Declaration
import ShaderBuild.Shell.Builtin.Usage
import ShaderBuild.Shell.Reader.Basic
import ShaderBuild.Tool.Calendar

/-! # Reading and writing in the extended dialect

`read` takes a line, or a number of characters, apart into variables; `mapfile` makes an array of
lines; `printf` may print into a variable. -/

namespace ShaderBuild.Shell.Extended

/-! ### Fields -/

/-- Whether a character is an unquoted separator that is no blank. -/
def isHardSeparator (ifs : List Char) (s : Sign) : Bool :=
  isSeparating ifs s && !isSeparatingBlank ifs s

/-- The first field, and what follows its separator. -/
def firstField (ifs : List Char) (signs : List Sign) : List Sign × List Sign :=
  let signs := signs.dropWhile (isSeparatingBlank ifs)
  let field := signs.takeWhile fun s => !isSeparating ifs s
  let after := signs.drop field.length
  let rest := (after.drop 1).dropWhile (isSeparatingBlank ifs)
  match after, rest with
  | blank :: _, s :: more =>
    if isSeparatingBlank ifs blank && isHardSeparator ifs s then
      (field, more.dropWhile (isSeparatingBlank ifs))
    else (field, rest)
  | _, rest => (field, rest)

/-- Share a line among names.  The last one gets all that is left, or just the field if only one is
left. -/
def shareFields (ifs : List Char) : List String → List Sign → List (String × String)
  | [], _ => []
  | [name], signs =>
    let signs := signs.dropWhile (isSeparatingBlank ifs)
    let (field, rest) := firstField ifs signs
    let value := if rest.isEmpty then field
      else (signs.reverse.dropWhile (isSeparatingBlank ifs)).reverse
    [(name, plainSigns value)]
  | name :: names, signs =>
    let (field, rest) := firstField ifs signs
    (name, plainSigns field) :: shareFields ifs names rest

/-! ### Variables -/

/-- Assign to a variable or an element that a text names; whether that was done. -/
def assignTo (target value : String) : Run Bool := do
  match parameterNamed target with
  | (name, .at key) => assignElement name (some (bareText key)) false value
  | (name, _) => assignElement name none false value

/-- Whether a text names a variable or an element of one. -/
def isTarget (text : String) : Bool :=
  match parameterNamed text with
  | (name, .whole) => isName name
  | (name, .at key) => isName name && text.endsWith "]" && !(bareText key).isEmpty
  | (_, .every _) => false

/-- Complain that a text names no variable. -/
def notIdentifier (text : String) : Run UInt8 :=
  complain 1 ("\x60" ++ text ++ "': not a valid identifier")

/-! ### Reading -/

/-- What is read of a stream. -/
structure ReadingManner where
  /-- A backslash is a character like others. -/
  plain : Bool
  /-- The character that ends a line, if one does. -/
  delimiter? : Option Char
  /-- The most characters that are read. -/
  most? : Option Nat

/-- Read characters up to the end of a line.  The number bounds how many characters there are. -/
def readSigns (m : ReadingManner) : Nat → List Char → LineRead → LineRead
  | 0, _, r => r
  | n + 1, cs, r =>
    if m.most?.any (· ≤ r.signs.length) then { r with complete := true }
    else
      match cs with
      | [] => r
      | '\\' :: c :: rest =>
        if m.plain then
          readSigns m n (c :: rest) { r with signs := ⟨'\\', true⟩ :: r.signs, used := r.used + 1 }
        else if c == '\n' then readSigns m n rest { r with used := r.used + 2 }
        else readSigns m n rest { r with signs := ⟨c, true⟩ :: r.signs, used := r.used + 2 }
      | c :: rest =>
        if m.delimiter? == some c then { r with used := r.used + 1, complete := true }
        else if c.toNat == 0 || (c == '\\' && !m.plain) then
          readSigns m n rest { r with used := r.used + 1 }
        else
          readSigns m n rest { r with signs := ⟨c, false⟩ :: r.signs, used := r.used + 1 }

/-- How `read` is called. -/
def readUsage : Usage where
  text := "read [-ers] [-a array] [-d delim] [-i text] [-n nchars] [-N nchars] [-p prompt] "
    ++ "[-t timeout] [-u fd] [name ...]"
  flags := "ers"
  valued := "adinNptu"

/-- The number of a stream that an argument names, if that stream is open. -/
def streamArg (arg : String) : Run (Option Nat) := do
  match (Tool.operandNumber arg).toOption with
  | some n =>
    if 0 ≤ n && ((← shell).streams.lookup n.toNat).isSome then return some n.toNat
    else
      report (arg ++ ": invalid file descriptor: Bad file descriptor")
      return none
  | none =>
    report (arg ++ ": invalid file descriptor specification")
    return none

/-- The first thing that is wrong with the values of the options of `read`. -/
def readFault? (o : GivenOptions) : Option String :=
  o.findSome? fun (c, value) =>
    let number := (Tool.operandNumber value).toOption
    match c with
    | 'n' | 'N' => if number.all (· < 0) then some (value ++ ": invalid number") else none
    | 't' =>
      let cs := value.toList
      if !cs.isEmpty && cs.all fun c => c.isDigit || c == '.' then none
      else some (value ++ ": invalid timeout specification")
    | _ => none

/-- Read a line into variables. -/
def readBuiltin : Builtin := fun args =>
  readUsage.reading args fun o names => do
    let stream ← match o.value? 'u' with
      | some arg => streamArg arg
      | none => pure (some 0)
    match stream, readFault? o, names.find? fun name => !isTarget name with
    | none, _, _ => return 1
    | _, some text, _ => complain 1 text
    | _, _, some name => notIdentifier name
    | some stream, none, none =>
      let count (c : Char) : Option Nat :=
        (o.value? c).bind fun v => ((Tool.operandNumber v).toOption).map Int.toNat
      if let some e := ← streamFault? stream then
        complain 1 ("read error: " ++ Nat.repr stream ++ ": " ++ e.reason)
      else if o.value? 't' == some "0" then return 0
      else
        let delimiter := ((o.value? 'd').map fun v => v.toList.headD (Char.ofNat 0)).getD '\n'
        let manner : ReadingManner :=
          { plain := o.has 'r'
            delimiter? := if o.has 'N' then none else some delimiter
            most? := (count 'N').or (count 'n') }
        let text := (rawContent (← remaining stream)).toList
        let r := readSigns manner (text.length + 1) text {}
        advance stream r.used
        let signs := r.signs.reverse
        let ifs ← separators
        let values : List (String × String) ← match o.value? 'a', names with
          | some name, _ =>
            let items := signs.map fun s => Item.char s.char s.quoted (!s.quoted)
            let fields := if o.has 'N' then [signs] else fieldsOf ifs items
            let _ ← assignArray name false
              (fields.map fun f => { key? := none, appends := false, value := plainSigns f })
            pure []
          | none, [] => pure [("REPLY", plainSigns signs)]
          | none, name :: others =>
            if o.has 'N' then pure ((name, plainSigns signs) :: others.map fun n => (n, ""))
            else pure (shareFields ifs (name :: others) signs)
        let done ← values.mapM fun x => assignTo x.1 x.2
        return if r.complete && done.all id then 0 else 1

/-! ### Lines as arrays -/

/-- How `mapfile` is called. -/
def mapfileUsage (name : String) : Usage where
  text := name ++ " [-d delim] [-n count] [-O origin] [-s count] [-t] [-u fd] [-C callback] "
    ++ "[-c quantum] [array]"
  flags := "t"
  valued := "dnOsuCc"

/-- Lines with the characters that end them. -/
def endedLines (delimiter : Char) (cs : List Char) : List (List Char) :=
  let all := pieces (· == delimiter) cs
  let ended := all.dropLast.map (· ++ [delimiter])
  match all.getLast? with
  | some (c :: cs) => ended ++ [c :: cs]
  | _ => ended

/-- Read lines into an array. -/
def mapfileBuiltin (name : String) : Builtin := fun args =>
  (mapfileUsage name).reading args fun o names => do
    let number (c : Char) : Option Nat :=
      (o.value? c).bind fun v => ((Tool.operandNumber v).toOption).bind fun n =>
        if n < 0 then none else some n.toNat
    let target := names.headD "MAPFILE"
    let wrong := o.findSome? fun (c, value) =>
      if (c == 'n' || c == 's') && (number c).isNone then some (value ++ ": invalid line count")
      else if c == 'O' && (number c).isNone then some (value ++ ": invalid array origin")
      else none
    let stream ← match o.value? 'u' with
      | some arg => streamArg arg
      | none => pure (some 0)
    match wrong, stream with
    | some text, _ => complain 1 text
    | none, none => return 1
    | none, some stream =>
      if names.head? == some "" then complain 1 "empty array variable name"
      else if !isName target then notIdentifier target
      else
        let delimiter := ((o.value? 'd').map fun v => v.toList.headD (Char.ofNat 0)).getD '\n'
        let lines := endedLines delimiter (rawContent (← remaining stream)).toList
        let skipped := lines.take ((number 's').getD 0)
        let rest := lines.drop skipped.length
        let chosen := match number 'n' with
          | some 0 | none => rest
          | some n => rest.take n
        advance stream ((skipped ++ chosen).foldl (fun n line => n + line.length) 0)
        let values := chosen.map fun line =>
          let line := if o.has 't' && line.getLast? == some delimiter then line.dropLast else line
          String.ofList (line.filter fun c => c.toNat != 0)
        let origin := (number 'O').getD 0
        let done ← assignArray target (number 'O').isSome (values.zipIdx.map fun (v, i) =>
          { key? := some (Nat.repr (origin + i)), appends := false, value := v })
        return if done then 0 else 1

/-! ### Printing -/

/-- How `printf` is called. -/
def printfUsage : Usage where
  text := "printf [-v var] format [arguments]"
  valued := "v"

/-- How `printf` prints; it is `now`, in seconds. -/
def printManner (now : Nat) : Tool.PrintManner where
  precision := .wide
  hexLead := 4
  hex := true
  lengths := "hlLjzt".toList
  quote? := some backslashQuoted
  moment? := some fun format seconds =>
    let format := if format.isEmpty then "%X".toList else format
    Tool.formatDate (if seconds < 0 then (now : Int) else seconds) 0 format
  partly arg := arg ++ ": invalid number"
  nothing arg := arg ++ ": invalid number"
  outside arg := "warning: " ++ arg ++ ": Numerical result out of range"
  outsideFails := false
  missing text := "\x60" ++ text ++ "': missing format character"
  unknown _ c := "\x60" ++ c.toString ++ "': invalid format character"

/-- Print a format, perhaps into a variable. -/
def printfBuiltin : Builtin := fun args =>
  printfUsage.reading args fun o args => do
    let target := o.value? 'v'
    match args, target.all isTarget with
    | _, false =>
      let _ ← notIdentifier (target.getD "")
      return 2
    | [], _ => printfUsage.explain
    | format :: args, _ =>
      let p := Tool.printf (printManner ((← files).clock / nanosPerSecond)) format args
      p.complaints.forM report
      let status ← match target with
        | some name => do
          let done ← assignTo name p.text
          pure (if done then 0 else 1)
        | none => put p.text
      match p.fatal with
      | some text => complain 1 text
      | none => return if p.failed then 1 else status

end ShaderBuild.Shell.Extended
