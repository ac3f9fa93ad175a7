import ShaderBuild.Tool.Lines

/-! # Numbers and quantities

`factor` takes numbers apart into primes.  `numfmt` writes quantities with the letters for thousands
and more, or reads such letters. -/

namespace ShaderBuild.Tool

/-! ### Factors -/

/-- The prime factors of `n` that are not below `d`, the smallest first; `fuel` bounds the steps. -/
def primeFactors : (fuel d n : Nat) → List Nat
  | 0, _, n => [n]
  | fuel + 1, d, n =>
    if n ≤ 1 then []
    else if n % d == 0 then d :: primeFactors fuel d (n / d)
    else if n < d * d then [n]
    else primeFactors fuel (if d == 2 then 3 else d + 2) n

/-- How many divisors are tried. -/
def mostDivisors : Nat := 2000000

/-- The factors of a number as a line; with exponents if asked for. -/
def factorLine (exponents : Bool) (n : Nat) : String :=
  let factors := primeFactors mostDivisors 2 n
  let texts := if exponents then
      (factors.splitBy (· == ·)).map fun run =>
        Nat.repr (run.headD 0) ++ if run.length == 1 then "" else "^" ++ Nat.repr run.length
    else factors.map Nat.repr
  Nat.repr n ++ ":" ++ String.join (texts.map (" " ++ ·)) ++ "\n"

/-- The tool `factor`. -/
def factorTool : Routine :=
  withOptions { flags := "h", long := [("exponents", 'h')] } 1 fun o => do
    let words ← if o.operands.isEmpty then do
        let text := rawContent (← takeInput)
        let isGap (c : Char) : Bool := c == ' ' || c == '\t' || c == '\n'
        pure (((pieces isGap text.toList).filter fun w => !w.isEmpty).map String.ofList)
      else pure o.operands
    words.forM fun word => do
      let cs := word.toList
      match digitsNumber? (if cs.head? == some '+' then cs.tail else cs) with
      | some n => say (factorLine (o.has 'h') n)
      | none => complain 1 (quoted word ++ " is not a valid positive integer")

/-! ### Quantities -/

/-- The letters that stand for powers, the first power first. -/
def powerLetters : List Char := "KMGTPEZYRQ".toList

/-- The ways to write letters for powers. -/
inductive Scale where
  | plain
  /-- Powers of 1000. -/
  | si
  /-- Powers of 1024. -/
  | iec
  /-- Powers of 1024, with an `i` after the letter. -/
  | iecWithI
  /-- What stands after the letter tells. -/
  | auto
deriving DecidableEq, Repr

/-- The scale with a name. -/
def Scale.ofName? : String → Option Scale
  | "none" => some .plain
  | "si" => some .si
  | "iec" => some .iec
  | "iec-i" => some .iecWithI
  | "auto" => some .auto
  | _ => none

/-- The base of the powers. -/
def Scale.base (s : Scale) : Nat :=
  if s = .si then 1000 else 1024

/-- How fractions are rounded. -/
inductive Rounding where
  | up
  | down
  | fromZero
  | towardsZero
  | nearest
deriving DecidableEq, Repr

/-- The rounding with a name. -/
def Rounding.ofName? : String → Option Rounding
  | "up" => some .up
  | "down" => some .down
  | "from-zero" => some .fromZero
  | "towards-zero" => some .towardsZero
  | "nearest" => some .nearest
  | _ => none

/-- A quotient as a whole number. -/
def Rounding.apply (r : Rounding) (negative : Bool) (num den : Nat) : Nat :=
  let floor := num / den
  let ceiling := (num + den - 1) / den
  match r with
  | .up => if negative then floor else ceiling
  | .down => if negative then ceiling else floor
  | .fromZero => ceiling
  | .towardsZero => floor
  | .nearest => (2 * num + den) / (2 * den)

/-- A quantity as it is read: a quotient, and the number of places it was written with. -/
structure Quantity where
  negative : Bool := false
  num : Nat
  den : Nat
  places : Nat := 0

/-- The quantity that a text spells, or what is wrong with it. -/
def Quantity.read (scale : Scale) (text : String) : Except String Quantity := do
  let cs := text.toList
  let negative := cs.head? == some '-'
  let cs := if negative then cs.tail else cs
  let whole := cs.takeWhile Char.isDigit
  let after := cs.drop whole.length
  let part := if after.head? == some '.' then after.tail.takeWhile Char.isDigit else []
  let rest := if after.head? == some '.' then after.drop (part.length + 1) else after
  if whole.isEmpty && part.isEmpty then throw ("invalid number: " ++ quoted text)
  else
    let number := (digitsNumber? (whole ++ part)).getD 0
    let den := Nat.pow 10 part.length
    match rest with
    | [] => return { negative, num := number, den, places := part.length }
    | c :: rest =>
      let c := if c == 'k' then 'K' else c
      match powerLetters.findIdx? (· == c) with
      | none => throw ("invalid suffix in input: " ++ quoted text)
      | some i =>
        let power (base : Nat) : Quantity := { negative, num := number * Nat.pow base (i + 1), den }
        let trailing {α : Type} (cs : List Char) : Except String α :=
          .error ("invalid suffix in input " ++ quoted text ++ ": " ++ quoted (String.ofList cs))
        match scale, rest with
        | .plain, _ =>
          throw ("rejecting suffix in input: " ++ quoted text ++ " (consider using --from)")
        | .auto, ['i'] => return power 1024
        | .auto, [] => return power 1000
        | .iecWithI, ['i'] => return power 1024
        | .iecWithI, [] =>
          throw ("missing 'i' suffix in input: " ++ quoted text ++ " (e.g Ki/Mi/Gi)")
        | .si, [] => return power 1000
        | .iec, [] => return power 1024
        | _, rest => trailing rest

/-- The power that a quantity is written with, at most `n`. -/
def powerOf (base num den : Nat) : Nat → Nat
  | 0 => 0
  | n + 1 => if num < base * den then 0 else 1 + powerOf base num (den * base) n

/-- A quotient with some places. -/
def placedText (places n : Nat) : String :=
  if places == 0 then Nat.repr n
  else
    let digits := (Nat.repr n).toList
    let digits := List.replicate (places + 1 - digits.length) '0' ++ digits
    String.ofList (digits.take (digits.length - places) ++ '.' :: digits.drop (digits.length - places))

/-- A quantity with the letter for its power.  Below ten it has one place, else none, unless it is
to have some number of places. -/
def Quantity.scaled (q : Quantity) (scale : Scale) (r : Rounding) (places : Option Nat) : String :=
  let round (num den : Nat) : Nat := r.apply q.negative num den
  let sign := if q.negative && q.num != 0 then "-" else ""
  let text := match scale with
    | .plain =>
      let count := places.getD q.places
      placedText count (round (q.num * Nat.pow 10 count) q.den)
    | scale =>
      let base := scale.base
      let power := powerOf base q.num q.den powerLetters.length
      let count (power : Nat) (whole : Nat) : Nat :=
        places.getD (if power == 0 || 10 ≤ whole then 0 else 1)
      let shown (power : Nat) : Nat × Nat :=
        let den := q.den * Nat.pow base power
        let first := count power (round q.num den)
        let first := if places.isNone && first == 1 && 100 ≤ round (q.num * 10) den then 0 else first
        (round (q.num * Nat.pow 10 first) den, first)
      let (n, c) := shown power
      let (power, n, c) := if n == base * Nat.pow 10 c then
          let next := shown (power + 1)
          (power + 1, next.1, next.2)
        else (power, n, c)
      let letter := if power == 0 then ""
        else (powerLetters.getD (power - 1) '?').toString ++ if scale = .iecWithI then "i" else ""
      placedText c n ++ letter
  sign ++ text

/-- How fields are changed. -/
structure QuantityManner where
  reads : Scale
  writes : Scale
  rounding : Rounding
  suffix : String
  padding : Int
  places : Option Nat
  fromUnit : Nat
  toUnit : Nat

/-- A field with its quantity written anew. -/
def QuantityManner.apply (m : QuantityManner) (field : String) : Except String String := do
  let bare := if !m.suffix.isEmpty && field.endsWith m.suffix then
      String.ofList (field.toList.take (field.length - m.suffix.length))
    else field
  let q ← Quantity.read m.reads bare
  let q := { q with num := q.num * m.fromUnit, den := q.den * m.toUnit }
  let text := q.scaled m.writes m.rounding m.places ++ m.suffix
  return if m.padding < 0 then atLeft m.padding.natAbs text else atRight m.padding.natAbs text

/-- The fields that a list names: numbers and ranges. -/
def fieldIn (list : String) (n : Nat) : Bool :=
  (pieces (· == ',') list.toList).any fun item =>
    match pieces (· == '-') item with
    | [one] => digitsNumber? one == some n
    | [low, high] => ((digitsNumber? low).getD 1 ≤ n) && (digitsNumber? high).all (n ≤ ·)
    | _ => false

/-- The fields of a line: blanks and what follows them, or what stands between delimiters. -/
def quantityFields (delimiter : Option Char) (line : String) : List (String × String) :=
  match delimiter with
  | some d =>
    (pieces (· == d) line.toList).zipIdx.map fun x =>
      (if x.2 == 0 then "" else d.toString, String.ofList x.1)
  | none =>
    let groups := line.toList.splitBy fun a b => isGap a == isGap b
    let rec pair : List (List Char) → List (String × String)
      | [] => []
      | [g] => if (g.headD 'x') |> isGap then [(String.ofList g, "")] else [("", String.ofList g)]
      | g :: h :: rest =>
        if isGap (g.headD 'x') then (String.ofList g, String.ofList h) :: pair rest
        else ("", String.ofList g) :: pair (h :: rest)
    pair groups

/-- The places that a format asks for; none if it is no format. -/
def formatPlaces? (format : String) : Option (Bool × Int × Option Nat) :=
  match format.toList with
  | '%' :: cs =>
    let flags := cs.takeWhile fun c => "0'-".toList.contains c
    let rest := cs.drop flags.length
    let width := rest.takeWhile Char.isDigit
    let after := rest.drop width.length
    let room : Int := ((digitsNumber? width).getD 0 : Nat)
    let room := if flags.contains '-' then -room else room
    match after with
    | ['f'] => some (flags.contains '0', room, none)
    | '.' :: more =>
      if more.getLast? == some 'f' then
        (digitsNumber? more.dropLast).map fun n => (flags.contains '0', room, some n)
      else none
    | _ => none
  | _ => none

/-- Print a line with the fields changed that were asked for. -/
def sayQuantities (m : QuantityManner) (fields : String) (delimiter : Option Char)
    (ignore : Bool) (line : String) : Work Unit := do
  let found := quantityFields delimiter line
  let aligned (n : Nat) (gap old new : String) : String :=
    if delimiter.isSome || m.padding != 0 then gap ++ new
    else if n == 0 then if gap.isEmpty then new else atRight (gap.length + old.length) new
    else " " ++ atRight (gap.length - 1 + old.length) new
  let changed := found.zipIdx.map fun ((gap, field), n) =>
    if fieldIn fields (n + 1) && !field.isEmpty then (m.apply field).map (aligned n gap field)
    else .ok (gap ++ field)
  match changed.findSome? fun x => match x with | .error e => some e | .ok _ => none with
  | some text =>
    if ignore then say (line ++ "\n")
    else complain 2 text
  | none =>
    say (String.join (changed.filterMap Except.toOption) ++ "\n")

/-- The tool `numfmt`. -/
def quantityTool : Routine :=
  withOptions
    { flags := "zDg", valued := "dFTrspfuUiv", glued := "H"
      long := [("delimiter", 'd'), ("from", 'F'), ("to", 'T'), ("round", 'r'), ("suffix", 's'),
        ("padding", 'p'), ("format", 'f'), ("field", 'i'), ("from-unit", 'u'), ("to-unit", 'U'),
        ("header", 'H'), ("invalid", 'v'), ("grouping", 'g'), ("debug", 'D')] } 1 fun o => do
    let value (c : Char) (default : String) : String := (o.value? c).getD default
    let badScale (option text : String) (auto : Bool) : Work Unit := do
      complain 1 ("invalid argument " ++ quoted text ++ " for '--" ++ option ++ "'")
      emit 2 (contentOf ("Valid arguments are:\n  - 'none'\n" ++ (if auto then "  - 'auto'\n" else "")
        ++ "  - 'si'\n  - 'iec'\n  - 'iec-i'\nTry 'numfmt --help' for more information.\n"))
    match Scale.ofName? (value 'F' "none"), Scale.ofName? (value 'T' "none"),
        formatPlaces? (value 'f' "%f") with
    | none, _, _ => badScale "from" (value 'F' "") true
    | _, none, _ => badScale "to" (value 'T' "") false
    | _, _, none =>
      complain 1 ("invalid format " ++ quoted (value 'f' "")
        ++ ", directive must be %[0]['][-][N][.][N]f")
    | some reads, some writes, some (_, room, places) =>
      let number (c : Char) (default : Nat) : Nat := ((o.value? c).bind String.toNat?).getD default
      let m : QuantityManner :=
        { reads, writes, rounding := (Rounding.ofName? (value 'r' "from-zero")).getD .fromZero
          suffix := value 's' "", padding := ((o.value? 'p').bind String.toInt?).getD room, places
          fromUnit := number 'u' 1, toUnit := number 'U' 1 }
      let each := sayQuantities m (value 'i' "1") ((o.value? 'd').bind fun d => d.toList.head?)
        (o.value? 'v' == some "ignore")
      if o.operands.isEmpty then
        let lines := linesOf (rawContent (← takeInput))
        let heads := if o.has 'H' then max 1 ((value 'H' "1").toNat?.getD 1) else 0
        sayLines (lines.take heads)
        (lines.drop heads).forM each
      else o.operands.forM each

end ShaderBuild.Tool
