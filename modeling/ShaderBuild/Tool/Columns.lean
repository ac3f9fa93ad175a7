import ShaderBuild.Tool.Lines

/-! # Columns and characters

`cut` prints parts of lines, `paste` puts lines side by side, and `tr` replaces, deletes and
squeezes characters. -/

namespace ShaderBuild.Tool

/-! ### Lists of positions -/

/-- Positions from one number to another, or to the end. -/
structure PositionRange where
  low : Nat
  high : Option Nat
deriving DecidableEq, Repr

/-- One range of a list such as `1,3-5,7-`, or what is wrong; `what` names what is counted. -/
def positionRange (what : String) (cs : List Char) : Except String PositionRange :=
  let number (cs : List Char) : Except String Nat :=
    match digitsNumber? cs with
    | some 0 =>
      .error (if what == "field" then "fields are numbered from 1"
        else "byte/character positions are numbered from 1")
    | some n => .ok n
    | none =>
      .error ("invalid " ++ (if what == "field" then "field value " else "byte or character position ")
        ++ quoted (String.ofList cs))
  match pieces (· == '-') cs with
  | [one] => do
    let n ← number one
    return ⟨n, some n⟩
  | [[], []] => .error "invalid range with no endpoint: -"
  | [low, []] => do return ⟨← number low, none⟩
  | [[], high] => do return ⟨1, some (← number high)⟩
  | [low, high] => do
    let l ← number low
    let h ← number high
    if h < l then throw "invalid decreasing range"
    return ⟨l, some h⟩
  | _ => .error ("invalid " ++ what ++ " range")

/-- The ranges of a list in order, those that overlap joined. -/
def positionList (what text : String) : Except String (List PositionRange) := do
  let ranges ← (pieces (fun c => c == ',' || c == ' ') text.toList).mapM (positionRange what)
  let sorted := ranges.mergeSort fun a b => decide (a.low ≤ b.low)
  return (sorted.foldl (fun (found : List PositionRange) r =>
    match found with
    | last :: rest =>
      match last.high with
      | none => found
      | some h =>
        if r.low ≤ h then ⟨last.low, r.high.map (max h)⟩ :: rest else r :: found
    | [] => [r]) []).reverse

/-- Whether a position is in one of the ranges. -/
def inRanges (ranges : List PositionRange) (i : Nat) : Bool :=
  ranges.any fun r => r.low ≤ i && (r.high.map fun h => decide (i ≤ h)).getD true

/-- The ranges of all other positions. -/
def complementRanges (ranges : List PositionRange) : List PositionRange :=
  let (found, next) := ranges.foldl (fun (found, next) r =>
    let gap : List PositionRange := match next with
      | some n => if n < r.low then [⟨n, some (r.low - 1)⟩] else []
      | none => []
    (found ++ gap, r.high.map (· + 1))) (([], some 1) : List PositionRange × Option Nat)
  found ++ (next.map fun n => ⟨n, none⟩).toList

/-- The members of a list at the positions of a range. -/
def rangeMembers {α : Type} (r : PositionRange) (xs : List α) : List α :=
  (match r.high with
    | some h => xs.take h
    | none => xs).drop (r.low - 1)

/-! ### Cutting -/

/-- What is printed of a line by positions of characters. -/
def cutChars (ranges : List PositionRange) (delimiter : Option String) (cs : List Char) : String :=
  let parts := (ranges.map fun r => String.ofList (rangeMembers r cs)).filter fun p => !p.isEmpty
  (delimiter.getD "").intercalate parts

/-- What is printed of a line by positions of fields; none if the line has no delimiter and such
lines are left out. -/
def cutFields (ranges : List PositionRange) (delimiter : Char) (output : String) (onlyDelimited : Bool)
    (cs : List Char) : Option String :=
  if !cs.contains delimiter then
    if onlyDelimited then none else some (String.ofList cs)
  else
    let fields := (pieces (· == delimiter) cs).zipIdx.filterMap fun x =>
      if inRanges ranges (x.2 + 1) then some (String.ofList x.1) else none
    some (output.intercalate fields)

/-- The tool `cut`. -/
def cutTool : Routine :=
  withOptions
    { flags := "nszC", valued := "bcdfO"
      long := [("bytes", 'b'), ("characters", 'c'), ("delimiter", 'd'), ("fields", 'f'),
        ("only-delimited", 's'), ("output-delimiter", 'O'), ("complement", 'C'),
        ("zero-terminated", 'z')] } 1 fun o => do
    let lists := o.given.filter fun x => x.1 == 'b' || x.1 == 'c' || x.1 == 'f'
    match lists with
    | [] => refuse 1 "you must specify a list of bytes, characters, or fields"
    | _ :: _ :: _ => refuse 1 "only one list may be specified"
    | [(kind, list)] =>
      let fields := kind == 'f'
      let given := o.value? 'd'
      if given.isSome && !fields then
        refuse 1 "an input delimiter may be specified only when operating on fields"
      else if o.has 's' && !fields then
        refuse 1 ("suppressing non-delimited lines makes sense\n\tonly when operating on fields")
      else if 1 < (given.getD "").length then refuse 1 "the delimiter must be a single character"
      else
        match positionList (if fields then "field" else "byte or character") list with
        | .error text => refuse 1 text
        | .ok ranges =>
          let ranges := if o.has 'C' then complementRanges ranges else ranges
          let delimiter := match given with
            | none => '\t'
            | some d => d.toList.head?.getD (Char.ofNat 0)
          let lineEnd := if o.has 'z' then Char.ofNat 0 else '\n'
          eachContent o.operands (unreadable 1) fun _ content => do
            let ps := pieces (· == lineEnd) (rawContent content).toList
            let ps := if ps.getLast? == some [] then ps.dropLast else ps
            ps.forM fun cs =>
              let text := if fields then
                  cutFields ranges delimiter ((o.value? 'O').getD delimiter.toString) (o.has 's') cs
                else some (cutChars ranges (o.value? 'O') cs)
              text.elim (pure ()) fun t => say (t ++ lineEnd.toString)

/-! ### Pasting -/

/-- The delimiters that a text spells; an escaped zero is none. -/
def pasteDelimiters : List Char → List String
  | '\\' :: '0' :: rest => "" :: pasteDelimiters rest
  | '\\' :: 'n' :: rest => "\n" :: pasteDelimiters rest
  | '\\' :: 't' :: rest => "\t" :: pasteDelimiters rest
  | '\\' :: c :: rest => c.toString :: pasteDelimiters rest
  | c :: rest => c.toString :: pasteDelimiters rest
  | [] => []

/-- Texts joined by delimiters that are used in turn. -/
def joinInTurn (delimiters : List String) (texts : List String) : String :=
  String.join (texts.zipIdx.map fun x =>
    (if x.2 == 0 then "" else delimiters.getD ((x.2 - 1) % delimiters.length) "") ++ x.1)

/-- Rows of what the columns hold, at most `n` of them. -/
def pasteRows : Nat → List (List String) → List (List String)
  | 0, _ => []
  | n + 1, columns =>
    if columns.all List.isEmpty then []
    else (columns.map fun c => c.headD "") :: pasteRows n (columns.map List.tail)

/-- The lines of the input dealt out to columns in turn. -/
def dealtLines (columns i : Nat) (ls : List String) : List String :=
  ls.zipIdx.filterMap fun x => if x.2 % columns == i then some x.1 else none

/-- The tool `paste`. -/
def pasteTool : Routine :=
  withOptions
    { flags := "sz", valued := "d", long := [("delimiters", 'd'), ("serial", 's')] } 1 fun o => do
    let delimiters := match pasteDelimiters ((o.value? 'd').getD "\t").toList with
      | [] => [""]
      | ds => ds
    let operands := if o.operands.isEmpty then ["-"] else o.operands
    let shared := (operands.filter (· == "-")).length
    let input ← if operands.contains "-" then do
        match ← readInput with
        | .ok content => pure (linesOf (rawContent content))
        | .error e => do
          unreadable 1 "-" e
          pure []
      else pure []
    let (columns, _) ← operands.foldlM (fun (columns, i) arg => do
      if arg == "-" then
        let own := if o.has 's' then (if i == 0 then input else []) else dealtLines shared i input
        return (columns ++ [some own], i + 1)
      match ← operand arg with
      | .ok content => return (columns ++ [some (linesOf (rawContent content))], i)
      | .error e =>
        unreadable 1 arg e
        return (columns ++ [none], i)) (([], 0) : List (Option (List String)) × Nat)
    let found := columns.filterMap id
    if o.has 's' then found.forM fun c => say (joinInTurn delimiters c ++ "\n")
    else if found.length == columns.length then
      (pasteRows ((found.map List.length).foldl max 0) found).forM fun row =>
        say (joinInTurn delimiters row ++ "\n")

/-! ### Sets of characters -/

/-- The characters of a class in order. -/
def classMembers (name : String) : List Char :=
  ((List.range 256).map Char.ofNat).filter (inClass name)

/-- One character of a set, which may be escaped, and what follows it. -/
def setChar : List Char → Option (Char × List Char)
  | '\\' :: 'n' :: rest => some ('\n', rest)
  | '\\' :: 't' :: rest => some ('\t', rest)
  | '\\' :: 'r' :: rest => some ('\r', rest)
  | '\\' :: 'a' :: rest => some (Char.ofNat 7, rest)
  | '\\' :: 'b' :: rest => some (Char.ofNat 8, rest)
  | '\\' :: 'f' :: rest => some (Char.ofNat 12, rest)
  | '\\' :: 'v' :: rest => some (Char.ofNat 11, rest)
  | '\\' :: c :: rest =>
    match ((c :: rest).take 3).takeWhile isOctal with
    | [] => some (c, rest)
    | digits =>
      let n := digits.foldl (fun n d => 8 * n + (d.toNat - '0'.toNat)) 0
      if 255 < n then some (Char.ofNat (n / 8), (c :: rest).drop (digits.length - 1))
      else some (Char.ofNat n, (c :: rest).drop digits.length)
  | c :: rest => some (c, rest)
  | [] => none

/-- A piece of a set of characters. -/
inductive SetPiece where
  | chars (cs : List Char)
  | named (name : String)
  /-- A character so many times, or as often as is needed. -/
  | times (c : Char) (n : Option Nat)
deriving DecidableEq, Repr

/-- The piece between brackets at the front of a set, and what follows it. -/
def bracketPiece? (cs : List Char) : Option (Except String SetPiece × List Char) :=
  match cs with
  | '[' :: ':' :: rest =>
    let name := String.ofList (rest.takeWhile Char.isAlpha)
    match rest.drop name.length with
    | ':' :: ']' :: after =>
      some (if classNames.contains name then .ok (.named name)
        else .error ("invalid character class " ++ quoted name), after)
    | _ => none
  | '[' :: '=' :: c :: '=' :: ']' :: after => some (.ok (.chars [c]), after)
  | '[' :: rest =>
    match setChar rest with
    | some (c, '*' :: after) =>
      let digits := after.takeWhile Char.isDigit
      match after.drop digits.length with
      | ']' :: after =>
        let n := if digits.head? == some '0' then some (octalNumber digits) else digitsNumber? digits
        some (.ok (.times c (if n == some 0 then none else n)), after)
      | _ => none
    | _ => none
  | _ => none

/-- The pieces of a set, at most `n` of them, or what is wrong with it. -/
def setPieces : Nat → List Char → Except String (List SetPiece)
  | 0, _ | _, [] => .ok []
  | n + 1, cs =>
    match bracketPiece? cs with
    | some (piece, after) => do return (← piece) :: (← setPieces n after)
    | none =>
      match setChar cs with
      | none => .ok []
      | some (low, '-' :: c :: rest) =>
        match setChar (c :: rest) with
        | some (high, after) =>
          if high < low then
            .error ("range-endpoints of " ++ quoted (String.ofList [low, '-', high])
              ++ " are in reverse collating sequence order")
          else do
            let range := (List.range (high.toNat + 1 - low.toNat)).map fun i => Char.ofNat (low.toNat + i)
            return .chars range :: (← setPieces n after)
        | none => .ok [.chars [low, '-']]
      | some (c, rest) => do return .chars [c] :: (← setPieces n rest)

/-- The characters of a set, in which one piece may fill up to a size. -/
def setMembers (size : Nat) (ps : List SetPiece) : List Char :=
  let fixed := ps.flatMap fun
    | .chars cs => cs
    | .named name => classMembers name
    | .times c (some n) => List.replicate n c
    | .times _ none => []
  ps.flatMap fun
    | .chars cs => cs
    | .named name => classMembers name
    | .times c (some n) => List.replicate n c
    | .times c none => List.replicate (size - fixed.length) c

/-! ### Translating -/

/-- Characters of a set that repeat the one before are dropped. -/
def squeeze (set : Char → Bool) : List Char → List Char
  | a :: b :: rest =>
    if a == b && set a then squeeze set (b :: rest) else a :: squeeze set (b :: rest)
  | cs => cs

/-- What each character becomes: those of the first set what stands at their last place in the
second, whose last character is repeated. -/
def translation (first second : List Char) : Array Char :=
  let start := ((List.range 256).map Char.ofNat).toArray
  first.zipIdx.foldl (fun table x =>
    table.setIfInBounds x.1.toNat ((second[x.2]?.or second.getLast?).getD x.1)) start

/-- Whether classes of upper and lower case stand against each other. -/
def alignedClasses (first second : List SetPiece) : Bool :=
  let isCase (p : SetPiece) : Bool := p == .named "upper" || p == .named "lower"
  second.zipIdx.all fun x =>
    match x.1 with
    | .named _ => isCase x.1 && (first[x.2]?.map isCase).getD false
    | _ => true

/-- The tool `tr`. -/
def translateTool : Routine :=
  withOptions
    { flags := "cCdst", ordered := true
      long := [("delete", 'd'), ("squeeze-repeats", 's'), ("complement", 'c'),
        ("truncate-set1", 't')] } 1 fun o => do
    let help : Work Unit := emit 2 (contentOf "Try 'tr --help' for more information.\n")
    let deletes := o.has 'd'
    let squeezes := o.has 's'
    match o.operands with
    | [] => refuse 1 "missing operand"
    | first :: more =>
      if more.isEmpty && deletes && squeezes then
        complain 1 ("missing operand after " ++ quoted first)
        emit 2 (contentOf "Two strings must be given when both deleting and squeezing repeats.\n")
        help
      else if more.isEmpty && !deletes && !squeezes then
        complain 1 ("missing operand after " ++ quoted first)
        emit 2 (contentOf "Two strings must be given when translating.\n")
        help
      else if deletes && !squeezes && !more.isEmpty then
        complain 1 ("extra operand " ++ quoted (more.headD ""))
        emit 2 (contentOf
          "Only one string may be given when deleting without squeezing repeats.\n")
        help
      else if 1 < more.length then refuse 1 ("extra operand " ++ quoted (more.getD 1 ""))
      else
        let read (s : String) : Except String (List SetPiece) := setPieces (s.length + 1) s.toList
        match read first, read (more.headD "") with
        | .error e, _ | _, .error e => complain 1 e
        | .ok one, .ok two =>
          let translates := !deletes && !more.isEmpty
          if translates && !alignedClasses one two then
            complain 1 "misaligned [:upper:] and/or [:lower:] construct"
          else if translates && two.isEmpty && !o.has 't' then
            complain 1 "when not truncating set1, string2 must be non-empty"
          else
            let members := setMembers 0 one
            let inverse := o.has 'c' || o.has 'C'
            let set := if inverse then
                ((List.range 256).map Char.ofNat).filter fun c => !members.contains c
              else members
            let second := setMembers set.length two
            let set := if o.has 't' then set.take second.length else set
            let content ← match ← readInput with
              | .ok content => pure content
              | .error e => do
                complain 1 ("read error: " ++ e.reason)
                pure .empty
            let cs := (rawContent content).toList
            let cs := if deletes then cs.filter fun c => !set.contains c
              else if translates then
                let table := translation set second
                cs.map fun c => table.getD c.toNat c
              else cs
            let cs := if squeezes then
                squeeze ((if more.isEmpty then set else second).contains ·) cs
              else cs
            say (String.ofList cs)

end ShaderBuild.Tool
