import ShaderBuild.Tool.Lines

/-! # Ordered lines

`sort` orders lines by keys and `uniq` drops repeated lines. -/

namespace ShaderBuild.Tool

/-! ### Comparing texts -/

/-- The order of the bytes of texts. -/
def byteOrder (a b : String) : Ordering :=
  List.compareLex compare (unraw a) (unraw b)

/-- The order of characters in lists. -/
def charOrder (a b : List Char) : Ordering :=
  List.compareLex compare a b

/-- The decimal number at the front of a text: its sign, the digits before the point and those after
it. -/
def leadingNumber (cs : List Char) : Bool × List Char × List Char :=
  let cs := cs.dropWhile fun c => c == ' ' || c == '\t'
  let (negative, body) := match cs with
    | '-' :: rest => (true, rest)
    | cs => (false, cs)
  let whole := body.takeWhile Char.isDigit
  let fraction := match body.drop whole.length with
    | '.' :: rest => rest.takeWhile Char.isDigit
    | _ => []
  (negative, whole, fraction)

/-- The value of digits before and after a point, scaled by a power of ten. -/
def scaledValue (negative : Bool) (whole fraction : List Char) (places : Nat) : Int :=
  let digits := whole ++ fraction ++ List.replicate (places - fraction.length) '0'
  let n : Nat := digits.foldl (fun n c => 10 * n + (c.toNat - '0'.toNat)) 0
  if negative then -(n : Int) else n

/-- The order of the numbers at the front of texts. -/
def numberOrder (a b : List Char) : Ordering :=
  let (na, wa, fa) := leadingNumber a
  let (nb, wb, fb) := leadingNumber b
  let places := max fa.length fb.length
  compare (scaledValue na wa fa places) (scaledValue nb wb fb places)

/-- The power of a thousand that the letter after a number stands for. -/
def unitPower (cs : List Char) : Nat :=
  let cs := cs.dropWhile fun c => c == ' ' || c == '\t'
  let rest := (if cs.head? == some '-' then cs.tail else cs).dropWhile fun c => c.isDigit || c == '.'
  match rest with
  | c :: _ => ((" KMGTPEZY".toList.findIdx? (· == (if c == 'k' then 'K' else c))).getD 0)
  | [] => 0

/-- The order of numbers with units: by sign, unit and number. -/
def unitOrder (a b : List Char) : Ordering :=
  let sign (cs : List Char) : Int :=
    let (negative, w, f) := leadingNumber cs
    if scaledValue negative w f f.length == 0 then 0 else if negative then -1 else 1
  let s := sign a
  (compare s (sign b)).then
    ((if s < 0 then compare (unitPower b) (unitPower a) else compare (unitPower a) (unitPower b)).then
      (numberOrder a b))

/-- The exponent after a number, if one is written. -/
def exponentOf (cs : List Char) : Int :=
  let rest := (if cs.head? == some '-' || cs.head? == some '+' then cs.tail else cs).dropWhile
    fun c => c.isDigit || c == '.'
  match rest with
  | e :: more =>
    if e == 'e' || e == 'E' then
      let (negative, digits) := match more with
        | '-' :: ds => (true, ds.takeWhile Char.isDigit)
        | '+' :: ds => (false, ds.takeWhile Char.isDigit)
        | ds => (false, ds.takeWhile Char.isDigit)
      let n : Int := ((digits.foldl (fun n c => 10 * n + (c.toNat - '0'.toNat)) 0 : Nat) : Int)
      if negative then -n else n
    else 0
  | [] => 0

/-- The order of numbers that may have an exponent; texts that are none come first. -/
def generalOrder (a b : List Char) : Ordering :=
  let key (cs : List Char) : Option (Int × Int) :=
    let cs := cs.dropWhile isGap
    let (negative, w, f) := leadingNumber (if cs.head? == some '+' then cs.tail else cs)
    if w.isEmpty && f.isEmpty then none
    else some (scaledValue negative w f f.length, exponentOf cs - f.length)
  match key a, key b with
  | none, none => .eq
  | none, some _ => .lt
  | some _, none => .gt
  | some (m, e), some (n, f) =>
    let low := min e f
    compare (m * Nat.pow 10 (min (e - low).toNat 400)) (n * Nat.pow 10 (min (f - low).toNat 400))

/-- The number of the month that a text begins with; zero if with none. -/
def monthOf (cs : List Char) : Nat :=
  let name := String.ofList ((cs.dropWhile isGap).take 3) |>.toUpper
  match monthNames.findIdx? fun m => (String.ofList (m.toList.take 3)).toUpper == name with
  | some i => i + 1
  | none => 0

/-- The value of a character in a version: ends come first but after a tilde, then letters. -/
def versionRank (c : Option Char) : Int :=
  match c with
  | none => 0
  | some c =>
    if c == '~' then -1
    else if c.isDigit then 0
    else if c.isAlpha then c.toNat
    else c.toNat + 256

/-- The order of versions, in which runs of digits count as numbers; at most `n` runs. -/
def versionOrder : Nat → List Char → List Char → Ordering
  | 0, _, _ => .eq
  | n + 1, a, b =>
    let ta := a.takeWhile fun c => !c.isDigit
    let tb := b.takeWhile fun c => !c.isDigit
    let ranks (i : Nat) : Ordering := compare (versionRank ta[i]?) (versionRank tb[i]?)
    let texts := (List.range (max ta.length tb.length)).foldl
      (fun (o : Ordering) i => o.then (ranks i)) .eq
    let ra := a.drop ta.length
    let rb := b.drop tb.length
    let da := ra.takeWhile Char.isDigit
    let db := rb.takeWhile Char.isDigit
    let value (ds : List Char) : Nat := ds.foldl (fun n c => 10 * n + (c.toNat - '0'.toNat)) 0
    texts.then ((compare (value da) (value db)).then
      (if ra.isEmpty && rb.isEmpty then .eq
        else versionOrder n (ra.drop da.length) (rb.drop db.length)))

/-! ### Keys -/

/-- How keys are compared. -/
structure KeyManner where
  flags : List Char := []
deriving DecidableEq, Repr

/-- Whether a flag is set. -/
def KeyManner.has (m : KeyManner) (c : Char) : Bool :=
  m.flags.contains c

/-- A place in a line: a field and a character in it, and whether blanks before it are passed
over. -/
structure KeyPlace where
  field : Nat
  char : Nat
  skipBlanks : Bool
deriving DecidableEq, Repr

/-- A part of each line that it is ordered by. -/
structure SortKey where
  start : KeyPlace
  stop : Option KeyPlace
  manner : KeyManner
deriving DecidableEq, Repr

/-- The order of two keys. -/
def KeyManner.order (m : KeyManner) (a b : List Char) : Ordering :=
  let visible (cs : List Char) : List Char :=
    let cs := if m.has 'd' then cs.filter fun c => c.isAlphanum || c == ' ' || c == '\t' else cs
    let cs := if m.has 'i' then cs.filter isShown else cs
    if m.has 'f' then cs.map Char.toUpper else cs
  let o := if m.has 'n' then numberOrder a b
    else if m.has 'g' then generalOrder a b
    else if m.has 'h' then unitOrder a b
    else if m.has 'M' then compare (monthOf a) (monthOf b)
    else if m.has 'V' then versionOrder (a.length + b.length + 1) a b
    else charOrder (visible a) (visible b)
  if m.has 'r' then o.swap else o

/-- Whether a character is a blank. -/
def isFieldBlank (c : Char) : Bool :=
  c == ' ' || c == '\t' || c == '\n'

/-- What is left of a line after some fields. -/
def dropFields (separator : Option Char) : Nat → List Char → List Char
  | 0, cs => cs
  | n + 1, cs =>
    match separator with
    | some t => dropFields separator n (cs.dropWhile (· != t)).tail
    | none => dropFields separator n ((cs.dropWhile isFieldBlank).dropWhile fun c => !isFieldBlank c)

/-- The number of characters of a line before the end of a key. -/
def keyStop (separator : Option Char) (p : KeyPlace) (cs : List Char) : Nat :=
  if p.char == 0 then
    match separator with
    | some t =>
      let before := dropFields separator (p.field - 1) cs
      cs.length - before.length + (before.takeWhile (· != t)).length
    | none => cs.length - (dropFields none p.field cs).length
  else
    let before := dropFields separator (p.field - 1) cs
    let before := if p.skipBlanks then before.dropWhile isFieldBlank else before
    cs.length - (before.drop p.char).length

/-- The part of a line that is a key. -/
def SortKey.part (k : SortKey) (separator : Option Char) (cs : List Char) : List Char :=
  let before := dropFields separator (k.start.field - 1) cs
  let before := if k.start.skipBlanks then before.dropWhile isFieldBlank else before
  let start := cs.length - (before.drop (k.start.char - 1)).length
  let stop := (k.stop.map fun p => keyStop separator p cs).getD cs.length
  (cs.take stop).drop start

/-- A place of a key, and what follows it. -/
def keyPlace? (cs : List Char) : Except String (Nat × Option Nat × List Char × List Char) := do
  let field := cs.takeWhile Char.isDigit
  match digitsNumber? field with
  | none => throw ("invalid count at start of " ++ quoted (String.ofList cs))
  | some n =>
    let rest := cs.drop field.length
    let (char, rest) := match rest with
      | '.' :: more => (digitsNumber? (more.takeWhile Char.isDigit), more.dropWhile Char.isDigit)
      | rest => (none, rest)
    let flags := rest.takeWhile fun c => "bdfghiMnRrV".toList.contains c
    return (n, char, flags, rest.drop flags.length)

/-- The key that an argument describes, or what is wrong with it. -/
def sortKey? (general : KeyManner) (text : String) : Except String SortKey := do
  let cs := text.toList
  let (field, char, flags, rest) ← match keyPlace? cs with
    | .ok x => pure x
    | .error e => throw ("invalid number at field start: " ++ e)
  if field == 0 then throw ("field number is zero: invalid field specification " ++ quoted text)
  if char == some 0 then
    throw ("character offset is zero: invalid field specification " ++ quoted text)
  let (stop, moreFlags, rest) ← match rest with
    | ',' :: more => do
      let (f, c, fl, rest) ← match keyPlace? more with
        | .ok x => pure x
        | .error e => throw ("invalid number after ',': " ++ e)
      if f == 0 then throw ("field number is zero: invalid field specification " ++ quoted text)
      pure (some (f, c.getD 0), fl, rest)
    | rest => pure (none, [], rest)
  if !rest.isEmpty then
    throw ("stray character in field spec: invalid field specification " ++ quoted text)
  let own := flags ++ moreFlags
  let manner : KeyManner := if own.isEmpty then general else ⟨own⟩
  let skip := if own.isEmpty then general.has 'b' else flags.contains 'b'
  let skipEnd := if own.isEmpty then general.has 'b' else moreFlags.contains 'b'
  return ⟨⟨field, char.getD 1, skip⟩, stop.map fun x => ⟨x.1, x.2, skipEnd⟩, manner⟩

/-! ### Sorting -/

/-- Lines without those that repeat the one before. -/
def dropRepeats (same : String → String → Bool) : List String → List String
  | a :: b :: rest =>
    if same a b then dropRepeats same (a :: rest) else a :: dropRepeats same (b :: rest)
  | ls => ls
termination_by ls => ls.length

/-- How lines are ordered. -/
structure SortManner where
  keys : List SortKey
  general : KeyManner
  separator : Option Char
  /-- Whether lines with equal keys stay in their order. -/
  stable : Bool

/-- The order of lines by their keys. -/
def SortManner.order (m : SortManner) (a b : String) : Ordering :=
  if m.keys.isEmpty then
    let cut (s : String) : List Char :=
      if m.general.has 'b' then s.toList.dropWhile isFieldBlank else s.toList
    m.general.order (cut a) (cut b)
  else
    m.keys.foldl (fun o k =>
      o.then (k.manner.order (k.part m.separator a.toList) (k.part m.separator b.toList))) .eq

/-- The order of lines; those with equal keys are ordered by all their bytes unless they stay. -/
def SortManner.fullOrder (m : SortManner) (a b : String) : Ordering :=
  if m.stable then m.order a b
  else
    let last := byteOrder a b
    (m.order a b).then (if m.general.has 'r' then last.swap else last)

/-- The tool `sort`. -/
def sortTool : Routine :=
  withOptions
    { flags := "bcCdfghimMnRrsuVz", valued := "kotSTA"
      long := [("reverse", 'r'), ("unique", 'u'), ("numeric-sort", 'n'), ("output", 'o'),
        ("ignore-case", 'f'), ("key", 'k'), ("field-separator", 't'), ("stable", 's'),
        ("check", 'c'), ("merge", 'm'), ("human-numeric-sort", 'h'), ("version-sort", 'V'),
        ("general-numeric-sort", 'g'), ("month-sort", 'M'), ("dictionary-order", 'd'),
        ("ignore-leading-blanks", 'b'), ("zero-terminated", 'z'), ("parallel", 'A'),
        ("buffer-size", 'S'), ("temporary-directory", 'T')] } 2 fun o => do
    let general : KeyManner := ⟨(o.given.map Prod.fst).filter fun c => "bdfghiMnRrV".toList.contains c⟩
    let keys := (o.given.filter fun x => x.1 == 'k').map fun x => sortKey? general x.2
    let separator : Except String (Option Char) := match o.value? 't' with
      | none => .ok none
      | some "\\0" => .ok (some (Char.ofNat 0))
      | some t =>
        match t.toList with
        | [c] => .ok (some c)
        | [] => .error "empty tab"
        | _ => .error ("multi-character tab " ++ quoted t)
    match keys.findSome? (fun k => match k with | .error e => some e | .ok _ => none), separator with
    | some e, _ => complain 2 e
    | none, .error e => complain 2 e
    | none, .ok separator =>
      let m : SortManner :=
        { keys := keys.filterMap Except.toOption, general, separator, stable := o.has 's' || o.has 'u' }
      let lineEnd := if o.has 'z' then Char.ofNat 0 else '\n'
      let split (text : String) : List String :=
        let ps := pieces (· == lineEnd) text.toList
        (if ps.getLast? == some [] then ps.dropLast else ps).map String.ofList
      let operands := if o.operands.isEmpty then ["-"] else o.operands
      let lines ← operands.mapM fun arg => do
        match ← operand arg with
        | .ok content => return split (rawContent content)
        | .error .isDirectory =>
          complain 2 ("read failed: " ++ quotedIfNeeded arg ++ ": " ++ FileFault.isDirectory.reason)
          return []
        | .error .badDescriptor =>
          complain 2 ("stat failed: " ++ arg ++ ": " ++ FileFault.badDescriptor.reason)
          return []
        | .error e =>
          complain 2 ("cannot read: " ++ quotedIfNeeded arg ++ ": " ++ e.reason)
          return []
      let lines := lines.flatten
      if (← get).status == 0 then
        if o.has 'c' || o.has 'C' then
          let isBad (x : (String × String) × Nat) : Bool :=
            if o.has 'u' then (m.order x.1.1 x.1.2) != .lt else (m.fullOrder x.1.1 x.1.2) == .gt
          match (lines.zip lines.tail).zipIdx.find? isBad with
          | none => pure ()
          | some (x, i) =>
            if o.has 'C' then fail 1
            else
              complain 1 (quotedIfNeeded (operands.headD "-") ++ ":" ++ Nat.repr (i + 2)
                ++ ": disorder: " ++ x.2)
        else
          let sorted := lines.mergeSort fun a b => (m.fullOrder a b).isLE
          let sorted := if o.has 'u' then dropRepeats (fun a b => m.order a b == .eq) sorted else sorted
          let out := String.join (sorted.map (· ++ lineEnd.toString))
          match o.value? 'o' with
          | none => say out
          | some target =>
            match ← store target (contentOf out) with
            | .ok () => pure ()
            | .error e => complain 2 ("open failed: " ++ quotedIfNeeded target ++ ": " ++ e.reason)

/-! ### Repeated lines -/

/-- The part of a line that `uniq` compares. -/
def comparedPart (fields chars : Nat) (most : Option Nat) (anyCase : Bool) (l : String) : List Char :=
  let cs := (dropFields none fields l.toList).drop chars
  let cs := (most.map cs.take).getD cs
  if anyCase then cs.map Char.toUpper else cs

/-- The tool `uniq`. -/
def uniqueTool : Routine :=
  withOptions
    { flags := "cdDiuz", valued := "fsw"
      long := [("count", 'c'), ("repeated", 'd'), ("unique", 'u'), ("ignore-case", 'i'),
        ("skip-fields", 'f'), ("skip-chars", 's'), ("check-chars", 'w'), ("all-repeated", 'D')] }
    1 fun o => do
    let cannot (arg : String) (e : FileFault) : Work Unit :=
      if e = .isDirectory || arg == "-" then
        complain 1 ("error reading " ++ quoted arg ++ ": " ++ e.reason)
      else unreadable 1 arg e
    let text ← allContent (o.operands.take 1) cannot
    let number (c : Char) : Nat := ((o.value? c).bind String.toNat?).getD 0
    let part := comparedPart (number 'f') (number 's') ((o.value? 'w').bind String.toNat?) (o.has 'i')
    let groups := ((linesOf text).splitBy fun a b => part a == part b).filter fun g =>
      (!(o.has 'd' || o.has 'D') || 1 < g.length) && (!o.has 'u' || g.length == 1)
    let out := String.join (groups.flatMap fun g =>
      let shown := if o.has 'D' then g else g.take 1
      shown.map fun l => (if o.has 'c' then rightAligned 7 g.length ++ " " else "") ++ l ++ "\n")
    if (← get).status == 0 then
      match o.operands.drop 1 with
      | [] => say out
      | target :: _ =>
        match ← store target (contentOf out) with
        | .ok () => pure ()
        | .error e => unreadable 1 target e

end ShaderBuild.Tool
