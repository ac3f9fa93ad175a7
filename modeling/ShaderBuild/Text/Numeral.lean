/-! # Numbers and their texts

A number as a fraction with a sign, read from decimal or hexadecimal digits, rounded to a binary
precision, and written with a fixed number of places, with an exponent, or in whichever of these two
forms is shorter.  All rounding is exact: to the nearest, and a half to the even neighbour. -/

namespace ShaderBuild

/-- A number, or what takes the place of one. -/
inductive Numeral where
  | ratio (negative : Bool) (num den : Nat)
  | infinite (negative : Bool)
  | undefined (negative : Bool)

/-- The quotient rounded to the nearest integer, a half to the even one. -/
def roundDiv (num den : Nat) : Nat :=
  let down := num / den
  let twice := 2 * (num % den)
  if den < twice || (twice == den && down % 2 == 1) then down + 1 else down

namespace Numeral

/-- The number zero. -/
def zero : Numeral := .ratio false 0 1

/-- An integer. -/
def ofInt (n : Int) : Numeral := .ratio (n < 0) n.natAbs 1

/-- Whether the sign is a minus. -/
def isNegative : Numeral → Bool
  | .ratio s _ _ | .infinite s | .undefined s => s

/-- A number with another sign. -/
def withSign (negative : Bool) : Numeral → Numeral
  | .ratio _ n d => .ratio negative n d
  | .infinite _ => .infinite negative
  | .undefined _ => .undefined negative

/-! ### Reading -/

/-- The value of a digit in any base up to 16; 16 if it is none. -/
def digitValue (c : Char) : Nat :=
  if c.isDigit then c.toNat - '0'.toNat
  else if 'a' ≤ c.toLower && c.toLower ≤ 'f' then c.toLower.toNat - 'a'.toNat + 10
  else 16

/-- The number that digits spell in a base. -/
def digitsValue (base : Nat) (ds : List Char) : Nat :=
  ds.foldl (fun n d => base * n + digitValue d) 0

/-- A fraction times a power. -/
def scaled (num den base : Nat) (e : Int) : Numeral :=
  if e < 0 then .ratio false num (den * Nat.pow base e.natAbs)
  else .ratio false (num * Nat.pow base e.toNat) den

/-- Exponents beyond this one are taken as this one. -/
def mostExponent : Int := 100000

/-- The exponent after its mark, if there is one, and what follows it. -/
def readExponent (mark : Char) (cs : List Char) : Int × List Char :=
  match cs with
  | c :: rest =>
    if c.toLower == mark then
      let (negative, body) := match rest with
        | '-' :: body => (true, body)
        | '+' :: body => (false, body)
        | body => (false, body)
      let ds := body.takeWhile Char.isDigit
      if ds.isEmpty then (0, cs)
      else
        let n : Int := min (digitsValue 10 ds) mostExponent.toNat
        (if negative then -n else n, body.drop ds.length)
    else (0, cs)
  | [] => (0, [])

/-- A number in a base with a point and an exponent; none if there are no digits. -/
def readDigits (base : Nat) (mark : Char) (power : Nat) (cs : List Char) :
    Option (Numeral × List Char) :=
  let isDigit (c : Char) : Bool := digitValue c < base
  let whole := cs.takeWhile isDigit
  let (fraction, rest) := match cs.dropWhile isDigit with
    | '.' :: after => (after.takeWhile isDigit, after.dropWhile isDigit)
    | after => ([], after)
  if whole.isEmpty && fraction.isEmpty then none
  else
    let (e, rest) := readExponent mark rest
    let num := digitsValue base (whole ++ fraction)
    some (if num == 0 then zero else scaled num (Nat.pow base fraction.length) power e, rest)

/-- Whether a text begins with a word in any case. -/
def beginsWith (word : String) (cs : List Char) : Bool :=
  word.toList.isPrefixOf (cs.map Char.toLower)

/-- A number without a sign at the front of a text, and what follows it. -/
def readUnsigned (cs : List Char) : Option (Numeral × List Char) :=
  if beginsWith "infinity" cs then some (.infinite false, cs.drop 8)
  else if beginsWith "inf" cs then some (.infinite false, cs.drop 3)
  else if beginsWith "nan" cs then some (.undefined false, cs.drop 3)
  else match cs with
    | '0' :: x :: rest =>
      if x == 'x' || x == 'X' then
        match readDigits 16 'p' 2 rest with
        | some found => some found
        | none => some (zero, x :: rest)
      else readDigits 10 'e' 10 cs
    | cs => readDigits 10 'e' 10 cs

/-- A number at the front of a text, after blanks, and what follows it. -/
def read (cs : List Char) : Option (Numeral × List Char) :=
  match cs.dropWhile fun c => c == ' ' || (9 ≤ c.toNat && c.toNat ≤ 13) with
  | '-' :: rest => (readUnsigned rest).map fun (n, rest) => (n.withSign true, rest)
  | '+' :: rest => readUnsigned rest
  | cs => readUnsigned cs

end Numeral

/-! ### Binary precision -/

/-- How many bits numbers have, and between which powers of 2 they lie. -/
structure Precision where
  bits : Nat
  least : Int
  most : Int

namespace Precision

/-- Numbers of 64 bits. -/
def double : Precision := ⟨53, -1074, 1024⟩

/-- Numbers of 80 bits. -/
def wide : Precision := ⟨64, -16445, 16384⟩

end Precision

namespace Numeral

/-- The least `e` for which a fraction that is not 0 is less than `2 ^ e`. -/
def binaryExponent (num den : Nat) : Int :=
  let guess : Int := (Nat.log2 num : Int) - Nat.log2 den
  let below : Bool :=
    if guess < 0 then num * Nat.pow 2 guess.natAbs < den else num < den * Nat.pow 2 guess.toNat
  if below then guess else guess + 1

/-- The nearest number of a precision, as an integer and the power of 2 it is multiplied by. -/
def toBinary (p : Precision) (num den : Nat) : Nat × Int :=
  if num == 0 then (0, 0)
  else
    let e := max (binaryExponent num den - p.bits) p.least
    let m := if e < 0 then roundDiv (num * Nat.pow 2 e.natAbs) den
      else roundDiv num (den * Nat.pow 2 e.toNat)
    (m, e)

/-- The nearest number of a precision. -/
def rounded (p : Precision) : Numeral → Numeral
  | .ratio negative num den =>
    let (m, e) := toBinary p num den
    if m != 0 && p.most < binaryExponent m 1 + e then .infinite negative
    else (scaled m 1 2 e).withSign negative
  | n => n

/-- Whether rounding to a precision leaves the range of numbers. -/
def overflows (p : Precision) : Numeral → Bool
  | .ratio negative num den =>
    match rounded p (.ratio negative num den) with
    | .infinite _ => true
    | .ratio _ m _ => m == 0 && num != 0
    | _ => false
  | _ => false

/-- A number of 64 bits.  What is no number counts as negative, as the results of operations do. -/
def ofFloat (x : Float) : Numeral :=
  let bits := x.toBits.toNat
  let negative := bits / Nat.pow 2 63 == 1
  let e : Nat := bits / Nat.pow 2 52 % Nat.pow 2 11
  let m := bits % Nat.pow 2 52
  if e == 2047 then (if m == 0 then .infinite negative else .undefined true)
  else if e == 0 then (scaled m 1 2 (-1074)).withSign negative
  else (scaled (Nat.pow 2 52 + m) 1 2 ((e : Int) - 1075)).withSign negative

/-- The nearest number of 64 bits. -/
def toFloat : Numeral → Float
  | .ratio negative num den =>
    let (m, e) := toBinary .double num den
    let sign : Nat := if negative then Nat.pow 2 63 else 0
    let bits :=
      if m < Nat.pow 2 52 then m
      else
        let biased := (e + 1075).toNat + (if m == Nat.pow 2 53 then 1 else 0)
        if 2047 ≤ biased then 2047 * Nat.pow 2 52 else biased * Nat.pow 2 52 + m % Nat.pow 2 52
    Float.ofBits (sign + bits).toUInt64
  | .infinite negative => if negative then -1.0 / 0.0 else 1.0 / 0.0
  | .undefined _ => 0.0 / 0.0

/-! ### Writing -/

/-- Digits with zeros before them, at least `n` in all. -/
def filled (n : Nat) (ds : List Char) : List Char :=
  List.replicate (n - ds.length) '0' ++ ds

/-- A number with a fixed number of places; `point` keeps the point when there are none. -/
def fixedText (places : Nat) (point : Bool) (num den : Nat) : List Char :=
  let ds := filled (places + 1) (Nat.toDigits 10 (roundDiv (num * Nat.pow 10 places) den))
  let whole := ds.take (ds.length - places)
  whole ++ (if places == 0 && !point then [] else '.' :: ds.drop (ds.length - places))

/-- The power of 10 of the first digit of a fraction that is not 0. -/
def decimalExponent (num den : Nat) : Int :=
  let guess : Int := ((Nat.toDigits 10 num).length : Int) - (Nat.toDigits 10 den).length
  let below : Bool :=
    if guess < 0 then num * Nat.pow 10 guess.natAbs < den else num < den * Nat.pow 10 guess.toNat
  if below then guess - 1 else guess

/-- The digits of a number, `places` after the first one, and the power of 10 of the first one. -/
def scientificDigits (places : Nat) (num den : Nat) : List Char × Int :=
  if num == 0 then (List.replicate (places + 1) '0', 0)
  else
    let e := decimalExponent num den
    let shift : Int := places - e
    let n := if shift < 0 then roundDiv num (den * Nat.pow 10 shift.natAbs)
      else roundDiv (num * Nat.pow 10 shift.toNat) den
    if n == Nat.pow 10 (places + 1) then ('1' :: List.replicate places '0', e + 1)
    else (Nat.toDigits 10 n, e)

/-- An exponent of at least two digits. -/
def exponentText (mark : Char) (e : Int) : List Char :=
  mark :: (if e < 0 then '-' else '+') :: filled 2 (Nat.toDigits 10 e.natAbs)

/-- A first digit, a point and the others. -/
def pointed (point : Bool) : List Char → List Char
  | d :: ds => d :: (if ds.isEmpty && !point then [] else '.' :: ds)
  | [] => []

/-- A number with an exponent. -/
def scientificText (places : Nat) (point : Bool) (mark : Char) (num den : Nat) : List Char :=
  let (ds, e) := scientificDigits places num den
  pointed point ds ++ exponentText mark e

/-- Digits without the zeros at their end. -/
def withoutZeros (ds : List Char) : List Char :=
  (ds.reverse.dropWhile (· == '0')).reverse

/-- A number with so many digits in all, in the shorter form; zeros at the end stay if `point` says
so. -/
def generalText (digits : Nat) (point : Bool) (mark : Char) (num den : Nat) : List Char :=
  let digits := max digits 1
  let (ds, e) := scientificDigits (digits - 1) num den
  if -4 ≤ e && e < digits then
    let text := fixedText ((digits : Int) - 1 - e).toNat point num den
    if point || !text.contains '.' then text
    else
      let text := withoutZeros text
      if text.getLast? == some '.' then text.dropLast else text
  else
    let ds := if point then ds else match withoutZeros ds with
      | [] => ['0']
      | ds => ds
    pointed point ds ++ exponentText mark e

/-- A number by hexadecimal digits; `lead` is the number of bits before the point. -/
def hexText (p : Precision) (lead : Nat) (num den : Nat) : List Char :=
  if num == 0 then "0x0p+0".toList
  else
    let (m, e) := toBinary p num den
    let fractionBits := p.bits - lead
    let top := binaryExponent m 1
    let m := m * Nat.pow 2 (p.bits - top).toNat
    let e := e - ((p.bits : Int) - top) + fractionBits
    let whole := m / Nat.pow 2 fractionBits
    let count := (fractionBits + 3) / 4
    let fraction := m % Nat.pow 2 fractionBits * Nat.pow 2 (4 * count - fractionBits)
    let ds := withoutZeros (filled count (Nat.toDigits 16 fraction))
    "0x".toList ++ Nat.toDigits 16 whole ++ (if ds.isEmpty then [] else '.' :: ds)
      ++ 'p' :: (if e < 0 then '-' else '+') :: Nat.toDigits 10 e.natAbs

/-- What a number that is infinite or undefined is written as; none for any other. -/
def specialText? : Numeral → Option (List Char)
  | .ratio _ _ _ => none
  | .infinite _ => some "inf".toList
  | .undefined _ => some "nan".toList

end Numeral

end ShaderBuild
