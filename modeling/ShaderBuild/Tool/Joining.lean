import ShaderBuild.Tool.Sorting

/-! # Two files read side by side

`comm` and `join` read two files whose lines are in order.  Both tell of a line that is out of order
only once a line without a partner has turned up, for until then the order has not mattered. -/

namespace ShaderBuild.Tool

/-! ### Common lines -/

/-- Lines of two files merged: `1` for a line of the first alone, `2` of the second, `3` for one in
both. -/
def mergedLines : Nat → List String → List String → List (Nat × String)
  | 0, _, _ => []
  | n + 1, a :: as, b :: bs =>
    match byteOrder a b with
    | .lt => (1, a) :: mergedLines n as (b :: bs)
    | .gt => (2, b) :: mergedLines n (a :: as) bs
    | .eq => (3, a) :: mergedLines n as bs
  | n + 1, a :: as, [] => (1, a) :: mergedLines n as []
  | n + 1, [], b :: bs => (2, b) :: mergedLines n [] bs
  | _, [], [] => []

/-- Whether lines are in order. -/
def isSorted (ls : List String) : Bool :=
  (ls.zip ls.tail).all fun x => (byteOrder x.1 x.2).isLE

/-- A merged line with the gaps that put it in its column; nothing for a column that is hidden. -/
def columnLine (hidden : Nat → Bool) (gap ending : String) (l : Nat × String) : String :=
  if hidden l.1 then ""
  else
    let gaps := ((List.range (l.1 - 1)).filter fun i => !hidden (i + 1)).map fun _ => gap
    String.join gaps ++ l.2 ++ ending

/-- The tool `comm`. -/
def commonTool : Routine :=
  withOptions
    { flags := "123z", valued := "D"
      long := [("output-delimiter", 'D'), ("check-order", 'C'), ("nocheck-order", 'N'),
        ("total", 'T'), ("zero-terminated", 'z')] } 1 fun o =>
    match o.operands with
    | [a, b] => do
      match ← operand a, ← operand b with
      | .error e, _ => unreadable 1 a e
      | _, .error e => unreadable 1 b e
      | .ok x, .ok y =>
        let ending := if o.has 'z' then Char.ofNat 0 else '\n'
        let xs := delimited ending (rawContent x)
        let ys := delimited ending (rawContent y)
        let gap := match o.value? 'D' with
          | some "" => "\x00"
          | gap => gap.getD "\t"
        let merged := mergedLines (xs.length + ys.length + 1) xs ys
        let bad := [(1, xs), (2, ys)].filter fun p => !isSorted p.2
        let checks := !o.has 'N' && (o.has 'C' || merged.any fun l => l.1 != 3)
        if checks then
          bad.forM fun p => warn ("file " ++ Nat.repr p.1 ++ " is not in sorted order")
        say (String.join
          (merged.map (columnLine (fun n => o.has (Nat.digitChar n)) gap ending.toString)))
        if o.has 'T' then
          let count (n : Nat) : String := Nat.repr (merged.countP fun l => l.1 == n)
          say (gap.intercalate [count 1, count 2, count 3, "total"] ++ ending.toString)
        if checks && !bad.isEmpty then complain 1 "input is not in sorted order"
    | [] => refuse 1 "missing operand"
    | [a] => refuse 1 ("missing operand after " ++ quoted a)
    | operands => refuse 1 ("extra operand " ++ quoted (operands.getD 2 ""))

/-! ### Lines with a field in common -/

/-- A line that is to be joined. -/
structure JoinLine where
  number : Nat
  text : String
  fields : List String

/-- How lines are joined. -/
structure JoinManner where
  separator : Option Char
  ending : Char
  first : Nat
  second : Nat
  unpaired : List Char
  onlyUnpaired : Bool
  ignoresCase : Bool
  filler : String
  /-- Which fields are printed: the file and the field, or file zero for the common field. -/
  format : Option (List (Nat × Nat))
  /-- How many fields of each file are printed; all of them if it is not said. -/
  counts : Option (Nat × Nat)
  /-- Whether the order of lines matters; if it is not said, it does once a line has no partner. -/
  ordered : Option Bool

/-- What has come of joining so far: the lines printed, last first, whether a line had no partner,
and the lines found out of order, each with the file it is from. -/
structure Joining where
  printed : List String := []
  unpaired : Bool := false
  disordered : List (Nat × JoinLine) := []

namespace JoinManner

/-- The fields of a line. -/
def fields (m : JoinManner) (l : String) : List String :=
  match m.separator with
  | some t => (pieces (· == t) l.toList).map String.ofList
  | none => ((pieces isFieldBlank l.toList).filter fun w => !w.isEmpty).map String.ofList

/-- The lines of a file. -/
def lines (m : JoinManner) (content : ByteArray) : List JoinLine :=
  (delimited m.ending (rawContent content)).zipIdx.map fun (l, i) => ⟨i + 1, l, m.fields l⟩

/-- The number of the common field in a file. -/
def place (m : JoinManner) (side : Nat) : Nat :=
  if side == 1 then m.first else m.second

/-- The common field of a line. -/
def key (m : JoinManner) (side : Nat) (l : JoinLine) : String :=
  l.fields.getD (m.place side - 1) ""

/-- The order of two lines by their common fields. -/
def compareKeys (m : JoinManner) (a : Nat × JoinLine) (b : Nat × JoinLine) : Ordering :=
  let folded (s : String) : String := if m.ignoresCase then s.map Char.toLower else s
  byteOrder (folded (m.key a.1 a.2)) (folded (m.key b.1 b.2))

/-- The text of a line made from a line of either file or both. -/
def line (m : JoinManner) (a b : Option JoinLine) : String :=
  let filled (s : String) : String := if s.isEmpty then m.filler else s
  let common : String := match a, b with
    | some a, _ => filled (m.key 1 a)
    | none, some b => filled (m.key 2 b)
    | none, none => m.filler
  let others (side : Nat) (l : Option JoinLine) : List String :=
    let fields := (l.map JoinLine.fields).getD []
    let count := match m.counts with
      | some (x, y) => if side == 1 then x else y
      | none => fields.length
    ((List.range count).eraseIdx (m.place side - 1)).map fun i => filled (fields.getD i "")
  let texts := match m.format with
    | none => common :: (others 1 a ++ others 2 b)
    | some places => places.map fun p =>
      if p.1 == 0 then common
      else
        filled ((((if p.1 == 1 then a else b).map JoinLine.fields).getD []).getD (p.2 - 1) "")
  ((m.separator.map Char.toString).getD " ").intercalate texts ++ m.ending.toString

/-- Go from a line of a file to the rest, and note if the next one is out of order. -/
def passed (m : JoinManner) (side : Nat) (last : JoinLine) (rest : List JoinLine) (j : Joining) :
    Joining :=
  match rest with
  | next :: _ =>
    if m.ordered.getD j.unpaired && !(j.disordered.any fun d => d.1 == side || m.ordered == some true)
        && m.compareKeys (side, last) (side, next) == .gt then
      { j with disordered := j.disordered ++ [(side, next)] }
    else j
  | [] => j

/-- A line that has no partner. -/
def alone (m : JoinManner) (side : Nat) (l : JoinLine) (j : Joining) : Joining :=
  if m.unpaired.contains (Nat.digitChar side) then
    let text := if side == 1 then m.line (some l) none else m.line none (some l)
    { j with printed := text :: j.printed }
  else j

/-- Join what is left of two files; `n` is at least the number of lines. -/
def joined (m : JoinManner) : Nat → List JoinLine → List JoinLine → Joining → Joining
  | 0, _, _, j => j
  | n + 1, as, bs, j =>
    if m.ordered == some true && !j.disordered.isEmpty then j
    else match as, bs with
    | a :: as, b :: bs =>
      match m.compareKeys (1, a) (2, b) with
      | .lt => m.joined n as (b :: bs) { m.passed 1 a as (m.alone 1 a j) with unpaired := true }
      | .gt => m.joined n (a :: as) bs { m.passed 2 b bs (m.alone 2 b j) with unpaired := true }
      | .eq =>
        let sameA := a :: as.takeWhile fun x => m.compareKeys (1, x) (2, b) == .eq
        let sameB := b :: bs.takeWhile fun y => m.compareKeys (1, a) (2, y) == .eq
        let restA := as.drop (sameA.length - 1)
        let restB := bs.drop (sameB.length - 1)
        let j := m.passed 2 (sameB.getLastD b) restB (m.passed 1 (sameA.getLastD a) restA j)
        let stops := m.ordered == some true && !j.disordered.isEmpty
        let pairs := if m.onlyUnpaired || stops then []
          else sameA.flatMap fun x => sameB.map fun y => m.line (some x) (some y)
        m.joined n restA restB { j with printed := pairs.reverse ++ j.printed }
    | a :: as, [] => m.joined n as [] (m.passed 1 a as (m.alone 1 a j))
    | [], b :: bs => m.joined n [] bs (m.passed 2 b bs (m.alone 2 b j))
    | [], [] => j

end JoinManner

/-- What is wrong with the options of `join`. -/
inductive JoinMistake where
  | fieldNumber (text : String)
  | fileNumber (text : String)
  /-- Two common fields for one file, both counted from zero. -/
  | fields (first second : Nat)
  | separator (text : String)

/-- How a mistake is reported. -/
def JoinMistake.message : JoinMistake → String
  | .fieldNumber text => "invalid field number: " ++ quoted text
  | .fileNumber text => "invalid file number in field spec: " ++ quoted text
  | .fields first second =>
    "incompatible join fields " ++ Nat.repr first ++ ", " ++ Nat.repr second
  | .separator text => "multi-character tab " ++ quoted text

/-- The number of a field. -/
def joinField? (text : String) : Except JoinMistake Nat :=
  match digitsNumber? text.toList with
  | some 0 | none => .error (.fieldNumber text)
  | some n => .ok n

/-- A field that is printed. -/
def joinPlace? (text : String) : Except JoinMistake (Nat × Nat) :=
  match text.toList with
  | ['0'] => .ok (0, 0)
  | '1' :: '.' :: field => (joinField? (String.ofList field)).map (1, ·)
  | '2' :: '.' :: field => (joinField? (String.ofList field)).map (2, ·)
  | _ => .error (.fileNumber text)

/-- The fields that are printed. -/
def joinPlaces? (text : String) : Except JoinMistake (List (Nat × Nat)) :=
  let names := (pieces (fun c => c == ',' || isFieldBlank c) text.toList).filter fun p => !p.isEmpty
  names.mapM fun name => joinPlace? (String.ofList name)

/-- The character that separates fields. -/
def joinSeparator? (text : String) : Except JoinMistake (Option Char) :=
  match text.toList with
  | [] => .ok (some '\n')
  | [t] => .ok (some t)
  | ['\\', '0'] => .ok (some (Char.ofNat 0))
  | _ => .error (.separator text)

/-- The manner that options ask for. -/
def joinManner (o : Options) : Except JoinMistake JoinManner := do
  let both ← (o.value? 'j').mapM joinField?
  let place (c : Char) : Except JoinMistake Nat := do
    let own ← (o.value? c).mapM joinField?
    match both, own with
    | some n, some k => if n == k then return n else throw (.fields (n - 1) (k - 1))
    | _, _ => return (own.or both).getD 1
  let sides := o.given.filter fun g => g.1 == 'a' || g.1 == 'v'
  match sides.find? fun g => g.2 != "1" && g.2 != "2" with
  | some g => throw (.fieldNumber g.2)
  | none =>
    let separator ← (o.value? 't').mapM joinSeparator?
    let formats := (o.given.filter fun g => g.1 == 'o').map Prod.snd
    let places ← (formats.filter (· != "auto")).mapM joinPlaces?
    return {
      separator := separator.getD none
      ending := if o.has 'z' then Char.ofNat 0 else '\n'
      first := ← place '1', second := ← place '2'
      unpaired := sides.flatMap fun g => g.2.toList
      onlyUnpaired := o.has 'v', ignoresCase := o.has 'i', filler := (o.value? 'e').getD ""
      format := if places.isEmpty then none else some places.flatten
      counts := if formats.contains "auto" then some (0, 0) else none
      ordered := if o.has 'N' then some false else if o.has 'C' then some true else none }

/-- Join the lines of two files and report those out of order, by the names of the files. -/
def joinLines (m : JoinManner) (header : Bool) (nameA nameB : String) (xs ys : List JoinLine) :
    Work Unit := do
  let width (ls : List JoinLine) : Nat := ((ls.head?.map fun l => l.fields.length)).getD 0
  let m := { m with counts := m.counts.map fun _ => (width xs, width ys) }
  let start : Joining :=
    if header && !(xs.isEmpty && ys.isEmpty) then { printed := [m.line xs.head? ys.head?] } else {}
  let body (ls : List JoinLine) : List JoinLine := if header then ls.tail else ls
  let j := m.joined (xs.length + ys.length + 1) (body xs) (body ys) start
  j.disordered.forM fun d =>
    warn ((if d.1 == 1 then nameA else nameB) ++ ":" ++ Nat.repr d.2.number ++ ": is not sorted: "
      ++ d.2.text)
  say (String.join j.printed.reverse)
  if !j.disordered.isEmpty then
    if m.ordered == some true then fail 1 else complain 1 "input is not in sorted order"

/-- The tool `join`. -/
def joinTool : Routine :=
  withOptions
    { flags := "iz", valued := "a1e2jotv"
      long := [("ignore-case", 'i'), ("check-order", 'C'), ("nocheck-order", 'N'), ("header", 'H'),
        ("zero-terminated", 'z')] } 1 fun o =>
    match joinManner o with
    | .error e => complain 1 e.message
    | .ok m =>
      match o.operands with
      | ["-", "-"] => complain 1 "both files cannot be standard input"
      | [a, b] => do
        match ← operand a, ← operand b with
        | .error e, _ => complain 1 (joinFault a e)
        | _, .error e => complain 1 (joinFault b e)
        | .ok x, .ok y => joinLines m (o.has 'H') a b (m.lines x) (m.lines y)
      | [] => refuse 1 "missing operand"
      | [a] => refuse 1 ("missing operand after " ++ quoted a)
      | operands => refuse 1 ("extra operand " ++ quoted (operands.getD 2 ""))
where
  /-- What is said of a file that cannot be read. -/
  joinFault (name : String) (e : FileFault) : String :=
    if e == .isDirectory then "read error: " ++ e.reason else quotedIfNeeded name ++ ": " ++ e.reason

end ShaderBuild.Tool
