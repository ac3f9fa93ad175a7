import ShaderBuild.Shell.Brace
import ShaderBuild.Shell.Calculation
import ShaderBuild.Shell.Pattern
import ShaderBuild.Shell.Quoting
import ShaderBuild.Shell.Switch

/-! # Expanding words

A word is expanded into items: characters, each quoted or not, and the places where fields end.
Items are then split into fields at the separators that came out of unquoted expansions, and fields
that are patterns are replaced by the paths they match.  Commands whose output is used are run by
the caller's `Runner`. -/

namespace ShaderBuild.Shell

/-- A piece of an expanded word. -/
inductive Item where
  /-- A character.  It may separate fields if it came out of an unquoted expansion. -/
  | char (c : Char) (quoted separates : Bool)
  /-- The end of a field. -/
  | edge
  /-- Quotes, which make a field even if it is empty. -/
  | mark

/-- How the commands in words are run. -/
structure Runner where
  /-- Runs a command and gives what it printed. -/
  substitute : Command → Run String
  /-- Gives the name of a file that holds what a command prints, or whose content it reads. -/
  connect : (reads : Bool) → Command → Run String

/-- How a word is expanded. -/
structure Expander where
  runner : Runner
  /-- Whether several arguments make several fields. -/
  inFields : Bool

/-- Whether the shell is of the extended dialect. -/
def isExtendedShell : Run Bool :=
  return (← shell).dialect = .extended

/-! ### Variables -/

/-- The letters of the options that are set. -/
def State.letters (s : State) : String :=
  match s.dialect with
  | .standard =>
    String.ofList ([(s.settings.unsetIsError, 'u'), (s.settings.exportAll, 'a'),
      (s.settings.protectFiles, 'C'), (s.settings.verbose, 'v'), (s.settings.trace, 'x'),
      (s.settings.noRun, 'n'), (s.settings.noPatterns, 'f'),
      (s.settings.stopAtFailure, 'e')].filterMap fun x => if x.1 then some x.2 else none)
  | .extended =>
    let isSet (c : Char) : Bool := Switch.family.any fun x => x.letter == some c && x.isOn s.settings
    String.ofList ("abefhkmnptuvxBCEHPT".toList.filter isSet) ++ if s.fromText then "c" else ""

/-- The value of a parameter that is no variable, all arguments apart; none if there is no such
parameter. -/
def special? (name : String) : Run (Option (Option String)) := do
  let s ← shell
  match name with
  | "#" => return some (some (Nat.repr s.args.length))
  | "?" => return some (some (Nat.repr s.status.toNat))
  | "-" => return some (some s.letters)
  | "$" => return some (some (Nat.repr s.process))
  | "!" => return some (s.jobs.head?.map fun j => Nat.repr j.1)
  | name =>
    if name.toList.all Char.isDigit then
      match ofDigits 10 (name.toList.filterMap digitValue) with
      | 0 => return some (some s.name)
      | n + 1 => return some s.args[n]?
    else return none

/-- The version of the extended dialect, in parts. -/
def versionParts : List String :=
  ["5", "2", "21", "1", "release", "x86_64-pc-linux-gnu"]

/-- The variables of the extended dialect whose values follow from what the shell does. -/
def State.derived? (s : State) (files : FileTree) (name : String) : Option Variable :=
  let array (values : List String) : Variable := Variable.withValues {} values
  match name with
  | "LINENO" => some (.ofValue (Nat.repr s.line))
  | "PIPESTATUS" => some (array (s.stageStatuses.map fun n => Nat.repr n.toNat))
  | "FUNCNAME" =>
    let names := s.calls.map Frame.name
    some (if names.any fun n => n != "main" && n != "source" then array names else {})
  | "BASH_SOURCE" => some (array (s.calls.map Frame.source))
  | "BASH_LINENO" => some (array (s.calls.map fun c => Nat.repr c.line))
  | "BASH_VERSION" => some (.ofValue "5.2.21(1)-release")
  | "BASH_VERSINFO" => some (array versionParts)
  | "SHELLOPTS" => some (.ofValue (Switch.names Switch.family s.settings))
  | "BASHOPTS" => some (.ofValue (Switch.names Switch.finerFamily s.settings))
  | "BASHPID" => some (.ofValue (Nat.repr s.process))
  | "BASH_SUBSHELL" => some (.ofValue (Nat.repr s.depth))
  | "SECONDS" => some (.ofValue "0")
  | "EPOCHSECONDS" => some (.ofValue (Nat.repr (files.clock / nanosPerSecond)))
  | "RANDOM" => some (.ofValue (Nat.repr ((s.line * 7919 + s.process) % 32768)))
  | "DIRSTACK" => some (array (((s.bindings.lookup "PWD").bind Variable.value).toList ++ s.leftDirs))
  | "_" => some (.ofValue s.lastWord)
  | _ => none

/-- A variable as parameters see it. -/
def findVariable (name : String) : Run (Option Variable) := do
  let s ← shell
  match s.dialect with
  | .standard => return s.bindings.lookup name
  | .extended =>
    let name := s.meant 8 name
    match s.derived? (← files) name with
    | some v => if name == "SECONDS" then return (s.bindings.lookup name).or (some v) else return some v
    | none => return s.bindings.lookup name

/-! ### Arithmetic -/

/-- The cells that an expression reads and writes, and what a mistake in it leads to. -/
structure Cells where
  read : Place → Run Int64
  write : Place → Int64 → Run Unit
  refused : ExprFault → String → Run Int64

/-- The result of an operation. -/
def Cells.result (cells : Cells) (text : String) : Except ExprFault Int64 → Run Int64
  | .ok n => return n
  | .error fault => cells.refused fault text

/-- The value of an expression. -/
def Expr.eval (cells : Cells) : Expr → Run Int64
  | .number n => return n
  | .place p => cells.read p
  | .unary op e => do return op.apply (← e.eval cells)
  | .binary op a b text => do
    let x ← a.eval cells
    let y ← b.eval cells
    cells.result text (op.apply x y)
  | .both a b => do
    if (← a.eval cells) == 0 then return 0 else return truth ((← b.eval cells) != 0)
  | .either a b => do
    if (← a.eval cells) != 0 then return 1 else return truth ((← b.eval cells) != 0)
  | .choice c a b => do
    if (← c.eval cells) != 0 then a.eval cells else b.eval cells
  | .assign p op e text => do
    let n ← match op with
      | none => e.eval cells
      | some op => do
        let old ← cells.read p
        let n ← e.eval cells
        cells.result text (op.apply old n)
    cells.write p n
    return n
  | .step before up p => do
    let old ← cells.read p
    let new := if up then old + 1 else old - 1
    cells.write p new
    return if before then old else new
  | .series a b => do
    let _ ← a.eval cells
    b.eval cells

/-- The number that a variable holds. -/
def numberOf (name : String) : Run Int64 := do
  match ← value? name with
  | none =>
    if (← shell).settings.unsetIsError then die (name ++ ": parameter not set") else return 0
  | some text =>
    if text.isEmpty then return 0
    else
      match integer? text with
      | some n => return n
      | none => die ("Illegal number: " ++ text)

/-- The value of an expression of the standard dialect. -/
def arithmetic (text : String) : Run Int64 := do
  let refused (fault : ExprFault) (_ : String) : Run Int64 :=
    die ("arithmetic expression: " ++ fault.message ++ ": \"" ++ text ++ "\"")
  match Expr.parse text with
  | .error fault => refused fault ""
  | .ok e =>
    e.eval
      { read := fun p => numberOf p.name
        write := fun p n => assign p.name (toString n.toInt)
        refused }

/-- The key that a text is of an array: a number for numbered values, where negative ones count from
the end.  None if there is no such key. -/
def keyOf? (number : String → Run Int64) (v : Variable) (text : String) : Run (Option String) := do
  match v.shape with
  | .keyed =>
    let cs := text.toList
    let inner := cs.tail.dropLast
    match cs.head?, cs.getLast? with
    | some '"', some '"' | some '\'', some '\'' =>
      return some (if cs.length < 2 then text else String.ofList inner)
    | _, _ => return some text
  | _ =>
    let n ← number text
    if 0 ≤ n then return some (toString n.toInt)
    else
      let fromEnd := (v.nextNumber : Int) + n.toInt
      return if fromEnd < 0 then none else some (toString fromEnd)

/-- The value of an expression of the extended dialect.  Variables may hold expressions themselves,
at most `n` through each other. -/
def calculate : Nat → String → Run Int64
  | 0, text => do
    report (text ++ ": " ++ ExprFault.tooDeep.message ++ " (error token is \"" ++ text ++ "\")")
    setStatus 1
    throw .discarding
  | n + 1, text => do
    let shown := String.ofList (Calculation.trimmed text.toList)
    let refused (fault : ExprFault) (token : String) : Run Int64 := do
      let message := if fault = .divisionByZero then "division by 0" else fault.message
      report (shown ++ ": " ++ message ++ " (error token is \"" ++ token ++ "\")")
      setStatus 1
      throw .discarding
    let keyAt (p : Place) (v : Variable) : Run String := do
      match p.key? with
      | none => return "0"
      | some text =>
        match ← keyOf? (calculate n) v text with
        | some key => return key
        | none => discard (p.name ++ ": bad array subscript")
    match Calculation.parse text with
    | .error (fault, token) => refused fault token
    | .ok e =>
      e.eval
        { read := fun p => do
            let v ← findVariable p.name
            let key ← keyAt p (v.getD {})
            match v.bind fun v => v.get? key with
            | none =>
              if (← shell).settings.unsetIsError then
                dieOfParameter (p.name ++ ": unbound variable")
              else return 0
            | some text =>
              let isPlain := !text.isEmpty && text.toList.all Char.isDigit && text.front != '0'
              match if isPlain then integer? text else none with
              | some n => return n
              | none => calculate n text
          write := fun p value => do
            let name ← meant p.name
            let key ← keyAt p (((← shell).bindings.lookup name).getD {})
            let array (v : Variable) : Variable := if p.key?.isSome then v.asArray else v
            if !(← updateVariable name fun v => (array v).put key (toString value.toInt)) then
              setStatus 1
              throw .discarding
          refused }

/-- How many variables hold expressions through each other. -/
def mostExpressions : Nat := 1024

/-- The value of the expression that a text spells. -/
def evaluated (text : String) : Run Int64 := do
  match (← shell).dialect with
  | .standard => arithmetic text
  | .extended => calculate mostExpressions text

/-! ### Assignments -/

/-- A value as a variable keeps it: as a number, or with letters of one case. -/
def kept (v : Variable) (value : String) : Run String := do
  let value ← if v.integer then do pure (toString (← evaluated value).toInt) else pure value
  return match v.recase with
    | some r => String.ofList (value.toList.map r.apply)
    | none => value

/-- The value that adding to an old one makes. -/
def added (v : Variable) (old : Option String) (value : String) : Run String := do
  if v.integer then
    let n ← evaluated (old.getD "")
    return toString (n + (← evaluated value)).toInt
  else kept v (old.getD "" ++ value)

/-- Give a variable, or an element of it under a key, a value or more of it; whether that was
done. -/
def assignElement (name : String) (key? : Option String) (appends : Bool) (value : String) :
    Run Bool := do
  let name ← meant name
  let v := ((← shell).bindings.lookup name).getD {}
  let found ← match key? with
    | none => pure (some "0")
    | some text => keyOf? evaluated v text
  match found with
  | none =>
    outsideCommand (report (name ++ "[" ++ key?.getD "" ++ "]: bad array subscript"))
    return false
  | some key =>
    let value ← if appends then added v (v.get? key) value else kept v value
    let array (v : Variable) : Variable := if key?.isSome then v.asArray else v
    updateVariable name fun v => (array v).put key value

/-! ### Values -/

/-- The characters that separate fields. -/
def separators : Run (List Char) := do
  return ((← value? "IFS").getD " \t\n").toList

/-- The items of a value. -/
def itemsOf (value : String) (quoted : Bool) : List Item :=
  let cs := value.toList.map fun c => Item.char c quoted (!quoted)
  if quoted then .mark :: cs else cs

/-- The text that items make. -/
def textOf (items : List Item) : String :=
  String.ofList (items.filterMap fun
    | .char c _ _ => some c
    | .edge => some ' '
    | .mark => none)

/-- The pattern that items make. -/
def signsOf (items : List Item) : List Sign :=
  items.filterMap fun
    | .char c quoted _ => some ⟨c, quoted⟩
    | .edge => some ⟨' ', true⟩
    | .mark => none

/-- The items of several values. -/
def listItems (x : Expander) (values : List String) (joined quoted : Bool) : Run (List Item) := do
  let extended := (← shell).dialect = .extended
  let ifs := (← value? "IFS").getD " "
  let blank := ifs.isEmpty || ifs.startsWith " "
  if x.inFields && !quoted && extended && if joined then !ifs.isEmpty else !blank then
    return itemsOf (String.intercalate (String.ofList (ifs.toList.take 1)) values) false
  else if x.inFields && (!joined || !quoted) then
    return [Item.edge].intercalate (values.map fun v => itemsOf v quoted)
  else
    let between ← if joined then do
        match ← value? "IFS" with
        | some ifs => pure (String.ofList (ifs.toList.take 1))
        | none => pure " "
      else pure " "
    return itemsOf (between.intercalate values) quoted

/-- The directory that a tilde with a name after it stands for. -/
def tildeDir? (name : String) : Run (Option String) := do
  match name, (← shell).dialect with
  | "", _ => value? "HOME"
  | "+", .extended => value? "PWD"
  | "-", .extended => value? "OLDPWD"
  | "root", _ => return some "/root"
  | _, _ => return none

/-- The directory in place of a tilde at the front of a word, where a character that `ends` accepts
comes after its name. -/
def expandTildeBefore (ends : Char → Bool) (w : Word) : Run Word := do
  match w with
  | .text chars false :: rest =>
    match chars.toList with
    | '~' :: cs =>
      let name := cs.takeWhile fun c => !ends c
      if name.length == cs.length && !rest.isEmpty then return w
      else
        match ← tildeDir? (String.ofList name) with
        | some dir =>
          return .text dir true :: .text (String.ofList (cs.drop name.length)) false :: rest
        | none => return w
    | _ => return w
  | _ => return w

/-- The home directory in place of a tilde at the front of a word. -/
def expandTilde (w : Word) : Run Word :=
  expandTildeBefore (· == '/') w

/-- The parts of a word between the unquoted characters that `p` accepts. -/
def cutAfter (p : Char → Bool) : Word → List Word
  | [] => [[]]
  | .text chars false :: rest =>
    let cut := pieces p chars.toList
    let ended := cut.dropLast.map fun (cs : List Char) => [Part.text (String.ofList cs) false]
    let last : Word := Word.ofText (String.ofList (cut.getLastD []))
    match cutAfter p rest with
    | first :: more => ended ++ (last ++ first) :: more
    | [] => ended ++ [last]
  | part :: rest =>
    match cutAfter p rest with
    | first :: more => (part :: first) :: more
    | [] => [[part]]

/-- The directories in place of tildes at the front of a value and after the colons in it. -/
def expandTildes (w : Word) : Run Word := do
  let hasTilde : Part → Bool := fun
    | .text chars false => chars.toList.contains '~'
    | _ => false
  if w.any hasTilde then
    let cut ← (cutAfter (· == ':') w).mapM (expandTildeBefore (· == '/'))
    return [Part.text ":" false].intercalate cut
  else return w

/-- The text without the line ends at its end. -/
def withoutLineEnds (s : String) : String :=
  String.ofList (s.toList.reverse.dropWhile (· == '\n')).reverse

/-! ### Parameters -/

/-- What a parameter stands for. -/
structure Subject where
  /-- How messages call it. -/
  label : String
  /-- Its values by their keys; none if it is not set. -/
  entries : Option (List (String × String))
  /-- It stands for any number of values, which may be joined. -/
  isList : Bool := false
  joined : Bool := false
  /-- It stands for the arguments. -/
  isArgs : Bool := false
  holder : Option Variable := none
  /-- What assigns to it. -/
  assign : String → Run Unit := fun _ => pure ()

namespace Subject

/-- The values. -/
def values (s : Subject) : List String :=
  (s.entries.getD []).map Prod.snd

/-- The values as one; none if there are none. -/
def value? (s : Subject) : Option String :=
  s.entries.bind fun es => if es.isEmpty then none else some (" ".intercalate (es.map Prod.snd))

/-- The items of the values, of which each has been changed. -/
def items (s : Subject) (x : Expander) (quoted : Bool) (f : String → String) : Run (List Item) :=
  if s.isList then listItems x (s.values.map f) s.joined quoted
  else return itemsOf ((s.value?.map f).getD "") quoted

end Subject

/-- What a parameter stands for; `text` expands a key. -/
def subjectOf (name : String) (index : Index) (text : Word → Run (List Item)) : Run Subject := do
  let s ← shell
  if name == "@" || name == "*" then
    let entries := s.args.zipIdx.map fun (a, i) => (Nat.repr (i + 1), a)
    return { label := name, entries := if entries.isEmpty then none else some entries
             isList := true, joined := name == "*", isArgs := true }
  else
    match ← special? name with
    | some value =>
      let assign (_ : String) : Run Unit := do
        match s.dialect with
        | .standard => die (name ++ ": bad variable name")
        | .extended => discard ("$" ++ name ++ ": cannot assign in this way")
      return { label := name, entries := value.map fun v => [("0", v)], assign }
    | none =>
      let v ← findVariable name
      match index with
      | .whole =>
        let assign (value : String) : Run Unit := do
          if !(← assignElement name none false value) then throw .discarding
        return { label := name, entries := (v.bind Variable.value).map fun x => [("0", x)]
                 holder := v, assign }
      | .every joined =>
        return { label := name ++ (if joined then "[*]" else "[@]")
                 entries := v.bind fun v => if v.elements.isEmpty then none else some v.elements
                 isList := true, joined, holder := v }
      | .at key =>
        let key := textOf (← text key)
        let label := name ++ "[" ++ key ++ "]"
        match ← keyOf? evaluated (v.getD {}) key with
        | none =>
          report (name ++ ": bad array subscript")
          return { label, entries := none, holder := v }
        | some k =>
          let assign (value : String) : Run Unit := do
            if !(← assignElement name (some key) false value) then throw .discarding
          return { label, entries := (v.bind fun v => v.get? k).map fun x => [(k, x)]
                   holder := v, assign }

/-- The part of a list from a place on, perhaps of some length; negative places count from
`size`. -/
def sliced {α : Type} (place : α → Int) (xs : List α) (size start : Int) (length : Option Int) :
    List α :=
  let start := if start < 0 then size + start else start
  if start < 0 then []
  else
    let rest := xs.filter fun x => start ≤ place x
    match length with
    | some n => rest.take n.toNat
    | none => rest

/-- The letters that stand for the properties of a variable. -/
def Variable.letters (v : Variable) : String :=
  String.ofList ([(v.shape == .indexed, 'a'), (v.shape == .keyed, 'A'), (v.integer, 'i'),
    (v.recase == some .lower, 'l'), (v.refers, 'n'), (v.fixed, 'r'), (v.recase == some .upper, 'u'),
    (v.exported, 'x')].filterMap fun x => if x.1 then some x.2 else none)

/-- A variable as a command that makes it. -/
def Variable.declaration (v : Variable) (name : String) : String :=
  let letters := if v.letters.isEmpty then "-" else v.letters
  let entry (x : String × String) : String :=
    let plain := !x.1.isEmpty && x.1.toList.all isNameChar
    "[" ++ (if plain then x.1 else doubleQuoted x.1) ++ "]=" ++ doubleQuoted x.2
  let value := match v.shape with
    | .single => v.value.elim "" fun x => "=" ++ doubleQuoted x
    | .indexed => "=(" ++ " ".intercalate (v.elements.map entry) ++ ")"
    | .keyed => "=(" ++ String.join (v.elements.map fun x => entry x ++ " ") ++ ")"
  let value := if v.given then value else ""
  "declare -" ++ letters ++ " " ++ name ++ value

/-- A value as a transformation makes it. -/
def transformed (letter : Char) (value : String) : String :=
  match letter with
  | 'Q' => reusable value
  | 'E' => unescapedText value
  | 'U' => String.ofList (value.toList.map Char.toUpper)
  | 'L' => String.ofList (value.toList.map Char.toLower)
  | 'u' => String.ofList ((value.toList.take 1).map Char.toUpper ++ value.toList.drop 1)
  | _ => value

/-- What an unset parameter leads to where that is a mistake. -/
def unsetParameter {α : Type} (label : String) : Run α := do
  match (← shell).dialect with
  | .standard => dieOfParameter (label ++ ": parameter not set")
  | .extended => dieOfParameter (label ++ ": unbound variable")

/-- A pattern, with groups where they are asked for. -/
def patternOf (items : List Item) : Run (List Glob) := do
  return Glob.ofSigns (← shell).settings.groups (signsOf items)

/-- What fills the place of a match: items, of which an unquoted `&` stands for the match. -/
def fillWith (items : List Item) (found : List Char) : List Char :=
  (signsOf items).flatMap fun s => if s.char == '&' && !s.quoted then found else [s.char]

/-- The items of a form of a parameter; `word` expands the word in it and `text` gives its text. -/
def expandForm (x : Expander) (name : String) (index : Index) (form : Form) (quoted : Bool)
    (word text : Word → Run (List Item)) : Run (List Item) := do
  let subject ← subjectOf name index text
  let dialect := (← shell).dialect
  let isBare := form matches .value false && dialect = .extended && !isName name
  let unset : Run (List Item) := unsetParameter ((if isBare then "$" else "") ++ subject.label)
  let value := subject.value?
  let strict := (← shell).settings.unsetIsError && !subject.isList
  let isUnset := value.isNone && strict
  let asIs : Run (List Item) := subject.items x quoted id
  let marked (items : List Item) : List Item := if quoted then .mark :: items else items
  let number (w : Word) : Run Int := do return (← evaluated (textOf (← text w))).toInt
  match form with
  | .value _ => if isUnset then unset else asIs
  | .length =>
    if isUnset then unset
    else if subject.isList && dialect = .extended then
      return itemsOf (Nat.repr subject.values.length) quoted
    else return itemsOf (Nat.repr (value.getD "").length) quoted
  | .fallback kind orEmpty w =>
    let missing := value.isNone || (orEmpty && value == some "")
    match kind with
    | .replace => if missing then return marked (← word w) else asIs
    | .alternative => if missing then return marked [] else return marked (← word w)
    | .assign =>
      if missing then
        let v := textOf (← text w)
        subject.assign v
        return itemsOf v quoted
      else asIs
    | .complain =>
      if missing then
        let message := textOf (← text w)
        let empty := match dialect with
          | .standard => "parameter not set" ++ if orEmpty then " or null" else ""
          | .extended => "parameter " ++ (if orEmpty then "null or " else "") ++ "not set"
        dieOfParameter (subject.label ++ ": " ++ if message.isEmpty then empty else message)
      else asIs
  | .trim back longest w =>
    if isUnset then unset
    else
      let pattern ← patternOf (← text w)
      let trim (value : String) : String :=
        let cs := value.toList
        String.ofList (if back then trimBack pattern longest cs else trimFront pattern longest cs)
      if dialect = .standard then return itemsOf (trim (value.getD "")) quoted
      else subject.items x quoted trim
  | .slice start length =>
    if isUnset then unset
    else if value.isNone && !subject.isList then return itemsOf "" quoted
    else
      let start ← number start
      let length ← length.mapM number
      if subject.isList then
        if length.any (· < 0) then
          discard (toString (length.getD 0) ++ ": substring expression < 0")
        else
          let place (e : String × String) : Int := (keyNumber e.1 : Nat)
          let entries := subject.entries.getD []
          let own := ("0", (← shell).name)
          let all := if subject.isArgs && start == 0 then own :: entries else entries
          let size : Int := ((entries.getLast?.map fun e => keyNumber e.1 + 1).getD 0 : Nat)
          let chosen := sliced place all size start length
          listItems x (chosen.map Prod.snd) subject.joined quoted
      else
        let cs := (value.getD "").toList
        let size : Int := (cs.length : Nat)
        let first := if start < 0 then size + start else start
        let stop := match length with
          | some n => if n < 0 then size + n else min size (first + n)
          | none => size
        if first < 0 || size < first then return itemsOf "" quoted
        else if stop < first then
          discard (toString (length.getD 0) ++ ": substring expression < 0")
        else
          return itemsOf (String.ofList ((cs.drop first.toNat).take (stop - first).toNat)) quoted
  | .replacing places pattern w =>
    if isUnset then unset
    else
      let settings := (← shell).settings
      let seen : Char → Char := if settings.anyCase then Char.toLower else id
      let signs := (signsOf (← text pattern)).map fun s => { s with char := seen s.char }
      let change : Replacement :=
        { pattern := Glob.ofSigns settings.groups signs, seen, fill := fillWith (← text w) }
      subject.items x quoted fun value => String.ofList (change.apply places value.toList)
  | .recased kind all pattern =>
    if isUnset then unset
    else
      let pattern ← match pattern with
        | some w => patternOf (← text w)
        | none => pure [.one]
      let change (c : Char) : Char := if Glob.matches pattern [c] then kind.apply c else c
      subject.items x quoted fun value =>
        String.ofList (if all then value.toList.map change
          else (value.toList.take 1).map change ++ value.toList.drop 1)
  | .transformed letter =>
    if isUnset then unset
    else
      match letter, subject.holder with
      | 'a', some v => return itemsOf v.letters quoted
      | 'A', some v =>
        if v.letters.isEmpty then
          return itemsOf (value.elim "" fun x => name ++ "=" ++ reusable x) quoted
        else return itemsOf (v.declaration name) quoted
      | _, _ => if value.isNone then return [] else subject.items x quoted (transformed letter)
  | .keys joined =>
    listItems x ((subject.entries.getD []).map Prod.fst) joined quoted
  | .names joined =>
    let found := ((← shell).bindings.filter fun x => x.1.startsWith name).map Prod.fst
    listItems x (found.mergeSort fun a b => decide (a ≤ b)) joined quoted
  | .bad text =>
    match dialect with
    | .standard => die "Bad substitution"
    | .extended => discard (text ++ ": bad substitution")

/-- The parameter that a text names, with the key of an element if it has one. -/
def parameterNamed (text : String) : String × Index :=
  let name := String.ofList (text.toList.takeWhile fun c => c != '[')
  match text.toList.drop name.length with
  | '[' :: cs =>
    let key := String.ofList cs.dropLast
    (name, if key == "@" then .every false else if key == "*" then .every true
      else .at [.text key true])
  | _ => (text, .whole)

/-! ### Parts -/

/-- The items of the parts of a word, nested at most `n` deep; `separates` says whether unquoted
text may be split. -/
def expandParts : Nat → Expander → (separates : Bool) → Word → Run (List Item)
  | 0, _, _, _ => return []
  | n + 1, x, separates, w => do
    let text (w : Word) : Run (List Item) := expandParts n { x with inFields := false } false w
    let word (quoted : Bool) (w : Word) : Run (List Item) := do
      expandParts n x (!quoted) (← if quoted then pure w else expandTilde w)
    let items ← w.mapM fun
      | .text chars quoted =>
        return if quoted then .mark :: chars.toList.map fun c => .char c true false
          else chars.toList.map fun c => .char c false separates
      | .parameter name index form quoted =>
        expandForm x name index form quoted (word quoted) text
      | .indirect name index form quoted => do
        match (← subjectOf name index text).value? with
        | some target =>
          let (name, index) := parameterNamed target
          expandForm x name index form quoted (word quoted) text
        | none =>
          match form with
          | .fallback .replace _ w => word quoted w
          | _ =>
            if isName name then discard (name ++ ": invalid indirect expansion")
            else return []
      | .output body quoted => do
        let printed ← x.runner.substitute body
        let text := printed.toList.filter fun c => c.toNat != 0
        if text.length < printed.length && (← isExtendedShell) then
          outsideCommand (report "warning: command substitution: ignored null byte in input")
        return itemsOf (withoutLineEnds (String.ofList text)) quoted
      | .arithmetic expression quoted => do
        let text := textOf (← text expression)
        return itemsOf (toString (← evaluated text).toInt) quoted
      | .process reads body => do
        return (← x.runner.connect reads body).toList.map fun c => .char c true false
      | .elements _ => return []
    return items.flatten

/-- The deepest nesting of words that is expanded. -/
def deepestWord : Nat := 1000

/-! ### Fields -/

/-- Fields that are being split. -/
structure Splitting where
  /-- The fields found, latest first. -/
  fields : List (List Sign) := []
  /-- The field being read, latest character first; none if none has begun. -/
  current : Option (List Sign) := none
  /-- Whether a blank ended the last field, and no other separator has come since. -/
  afterBlank : Bool := false

/-- End the field that is being read. -/
def Splitting.close (s : Splitting) : Splitting :=
  match s.current with
  | some f => { s with fields := f.reverse :: s.fields, current := none }
  | none => s

/-- Take one item into account. -/
def Splitting.step (ifs : List Char) (s : Splitting) (i : Item) : Splitting :=
  match i with
  | .mark => { s with current := some (s.current.getD []), afterBlank := false }
  | .edge => { s.close with afterBlank := false }
  | .char c quoted separates =>
    if separates && ifs.contains c then
      if c == ' ' || c == '\t' || c == '\n' then
        if s.current.isSome then { s.close with afterBlank := true } else s
      else if s.current.isSome then { s.close with afterBlank := false }
      else if s.afterBlank then { s with afterBlank := false }
      else { s with fields := [] :: s.fields }
    else { s with current := some (⟨c, quoted⟩ :: s.current.getD []), afterBlank := false }

/-- The fields that items make. -/
def fieldsOf (ifs : List Char) (items : List Item) : List (List Sign) :=
  (items.foldl (Splitting.step ifs) {}).close.fields.reverse

/-- The text of a field. -/
def plainSigns (signs : List Sign) : String :=
  String.ofList (signs.map Sign.char)

/-- The names in a directory that a pattern matches; hidden ones only if it begins with a dot.  The
directory itself and the one above it are among them if `own` is set. -/
def matchingNames (s : Settings) (own : Bool) (t : FileTree) (dir : String) (pattern : List Sign) :
    List String :=
  let path : Path := ⟨unraw (if dir.isEmpty then "." else dir)⟩
  let names := if !t.isDir path then []
    else if own then [dot] :: [dot, dot] :: t.namesAt path
    else t.namesAt path
  let globs := Glob.ofSigns s.groups pattern
  let hidden := (pattern.head?.map Sign.char) == some '.'
  let fits (n : String) : Bool :=
    if s.anyCasePaths then Glob.matchesAnyCase pattern s.groups n.toList
    else Glob.matches globs n.toList
  (names.map raw).filter fun n =>
    (hidden || !n.startsWith "." || (s.hiddenToo && n != "." && n != "..")) && fits n

/-- How paths are searched for. -/
structure PathSearch where
  settings : Settings
  /-- Whether patterns match a directory's own name. -/
  own : Bool
  files : FileTree

/-- The names in a directory that a star matches. -/
def PathSearch.named (p : PathSearch) (front : String) : List String :=
  matchingNames p.settings false p.files front [⟨'*', false⟩]

/-- The directories below a directory, itself included, at most `n` deep; each ends with a slash.
Links to directories are listed only where `links` is set, and never searched. -/
def PathSearch.below (p : PathSearch) (links : Bool) : Nat → (front : String) → List String
  | 0, front => [front]
  | n + 1, front =>
    front :: (p.named front).flatMap fun name =>
      let path : Path := ⟨unraw (front ++ name)⟩
      if !p.files.isDir path then []
      else if (p.files.linkTarget? path).isNone then p.below links n (front ++ name ++ "/")
      else if links then [front ++ name ++ "/"]
      else []

/-- The deepest directories that are searched. -/
def deepestSearch : Nat := 100

/-- Whether a pattern matches any number of directories. -/
def PathSearch.isDeep (p : PathSearch) (pattern : List Sign) : Bool :=
  p.settings.deepStars && pattern == [⟨'*', false⟩, ⟨'*', false⟩]

/-- The paths that begin with `front` and go on as the patterns say; `plain` says that no pattern
led to `front`. -/
def PathSearch.paths (p : PathSearch) :
    List (List Sign) → (plain : Bool) → (front : String) → List String
  | [], _, front => [front]
  | [last], plain, front =>
    if p.isDeep last then
      let inner := (p.below false deepestSearch front).flatMap fun front =>
        (p.named front).map (front ++ ·)
      let own := if plain then front else String.ofList front.toList.dropLast
      if front.isEmpty then inner else if p.files.isDir ⟨unraw front⟩ then own :: inner else []
    else if isPattern p.settings.groups last then
      (matchingNames p.settings p.own p.files front last).map (front ++ ·)
    else
      let path := front ++ plainSigns last
      let found := match p.files.place false ⟨unraw path⟩ with
        | .ok ⟨_, some _, _⟩ => true
        | _ => false
      if if last.isEmpty then p.files.isDir ⟨unraw path⟩ else found then [path] else []
  | pattern :: next :: rest, plain, front =>
    if p.isDeep pattern then
      if p.isDeep next then p.paths (next :: rest) false front
      else
        let links := !front.isEmpty || (next.isEmpty && rest.isEmpty)
        (p.below links deepestSearch front).flatMap (p.paths (next :: rest) false)
    else if isPattern p.settings.groups pattern then
      (matchingNames p.settings p.own p.files front pattern).flatMap fun n =>
        p.paths (next :: rest) false (front ++ n ++ "/")
    else p.paths (next :: rest) plain (front ++ plainSigns pattern ++ "/")

/-- The fields that a field stands for: the paths it matches in order, or itself; none if that is a
mistake. -/
def PathSearch.expand (p : PathSearch) (field : List Sign) : Option (List String) :=
  if !isPattern p.settings.groups field then some [plainSigns field]
  else
    match p.paths (pieces (fun s => s.char == '/') field) true "" with
    | [] =>
      if p.settings.failIfNone then none
      else some (if p.settings.emptyIfNone then [] else [plainSigns field])
    | paths => some (paths.mergeSort fun a b => (List.compareLex compare (unraw a) (unraw b)).isLE)

/-- The fields that a field stands for. -/
def expandPaths (field : List Sign) : Run (List String) := do
  let s ← shell
  match (PathSearch.mk s.settings (s.dialect = .standard) (← files)).expand field with
  | some paths => return paths
  | none => discard ("no match: " ++ plainSigns field)

/-! ### Words -/

/-- The fields of a word. -/
def expandWord (runner : Runner) (w : Word) : Run (List String) := do
  let s ← shell
  let words := if s.dialect = .extended && !s.settings.noBraces then Brace.expand w else [w]
  let found ← words.mapM fun w => do
    let w ← match s.dialect, assignment? .extended w with
      | .extended, some (.assign _ _ _ value) =>
        let front := w.take (w.length - value.length)
        match w, value with
        | .text chars false :: _, .text rest false :: _ =>
          if front.isEmpty then
            let size := chars.length - rest.length
            pure (.text (String.ofList (chars.toList.take size)) false :: (← expandTildes value))
          else pure (front ++ (← expandTildes value))
        | _, _ => pure w
      | _, _ => expandTilde w
    let items ← expandParts deepestWord ⟨runner, true⟩ false w
    let fields := fieldsOf (← separators) items
    if (← shell).settings.noPatterns then return fields.map plainSigns
    else return (← fields.mapM expandPaths).flatten
  return found.flatten

/-- A word as one text. -/
def expandText (runner : Runner) (w : Word) : Run String := do
  return textOf (← expandParts deepestWord ⟨runner, false⟩ false (← expandTilde w))

/-- A word as the value of an assignment. -/
def expandValue (runner : Runner) (w : Word) : Run String := do
  return textOf (← expandParts deepestWord ⟨runner, false⟩ false (← expandTildes w))

/-- A word as a pattern. -/
def expandPattern (runner : Runner) (w : Word) : Run (List Sign) := do
  return signsOf (← expandParts deepestWord ⟨runner, false⟩ false (← expandTilde w))

/-- Whether a pattern matches a text, as the options say. -/
def fitsPattern (groups : Bool) (pattern : List Sign) (text : String) : Run Bool := do
  let s := (← shell).settings
  if s.anyCase then return Glob.matchesAnyCase pattern groups text.toList
  else return Glob.matches (Glob.ofSigns groups pattern) text.toList

end ShaderBuild.Shell
