import ShaderBuild.Tool.Print
import ShaderBuild.Tool.Record.Program

/-! # Values of programs over records

A value is a number, a text, or a text from the input that also counts as a number.  Arrays are
tables of values by text; their keys have an order, in which loops go through them. -/

namespace ShaderBuild.Tool.Record

/-- A value. -/
inductive Value where
  | unset
  | number (x : Float)
  | text (s : String)
  /-- A text from the input that looks like a number. -/
  | input (s : String) (x : Float)

/-! ### Numbers -/

/-- Whether a character is a blank. -/
def isBlank (c : Char) : Bool :=
  c == ' ' || (9 ≤ c.toNat && c.toNat ≤ 13)

/-- The number at the front of a text; zero if there is none. -/
def numberAtFront (s : String) : Float :=
  match Numeral.read s.toList with
  | some (n, _) => n.toFloat
  | none => 0

/-- A text from the input as a value. -/
def Value.ofInput (s : String) : Value :=
  match Numeral.read s.toList with
  | some (n, rest) => if rest.all isBlank then .input s n.toFloat else .text s
  | none => .text s

/-- The integer nearest to a number between it and zero; none if there is no such integer. -/
def truncated (x : Float) : Option Int :=
  match Numeral.ofFloat x with
  | .ratio negative num den =>
    let n : Int := ((num / den : Nat) : Int)
    some (if negative then -n else n)
  | _ => none

/-- The integer of a number, within the range of counts. -/
def countOf (x : Float) : Int :=
  match Numeral.ofFloat x with
  | .ratio negative num den =>
    let n : Int := ((min (num / den) 2147483647 : Nat) : Int)
    if negative then -n else n
  | .infinite negative => if negative then -2147483647 else 2147483647
  | .undefined _ => 0

/-- What is left of a division that goes to zero. -/
def leftOver (x y : Float) : Float :=
  match Numeral.ofFloat x, Numeral.ofFloat y with
  | .ratio negative a b, .ratio _ c d =>
    if c == 0 then 0.0 / 0.0
    else
      let r := (a * d) % (c * b)
      (Numeral.ratio negative r (b * d)).toFloat
  | .ratio _ _ _, .infinite _ => x
  | _, _ => 0.0 / 0.0

/-- The result of an operation. -/
def Arithmetic.apply (op : Arithmetic) (x y : Float) : Float :=
  match op with
  | .add => x + y
  | .subtract => x - y
  | .multiply => x * y
  | .divide => x / y
  | .remainder => leftOver x y
  | .power => Float.pow x y

/-- A number as a text: an integer by all its digits, any other number by a format. -/
def numberText (format : String) (x : Float) : String :=
  match truncated x with
  | some n =>
    if Float.ofInt n == x && n < Nat.pow 2 64 && -(Nat.pow 2 63) ≤ n then toString n else formatted
  | none => formatted
where
  /-- The number by the format. -/
  formatted : String :=
    let cs := match format.toList with
      | '%' :: rest => rest
      | cs => cs
    let isFlag (c : Char) : Bool := "#-+ 0".toList.contains c
    let flags := cs.takeWhile isFlag
    let after := cs.dropWhile isFlag
    let width := sizeOf? (after.takeWhile Char.isDigit)
    let (precision, after) := match after.dropWhile Char.isDigit with
      | '.' :: more => (some ((sizeOf? (more.takeWhile Char.isDigit)).getD 0), more.dropWhile Char.isDigit)
      | more => (none, more)
    match after with
    | letter :: rest =>
      let c : Conversion := { flags, width, precision, letter }
      String.ofList ((if "di".toList.contains letter then c.signed ((truncated x).getD 0)
        else c.floating {} (Numeral.ofFloat x)) ++ rest)
    | [] => ""

namespace Value

/-- A value as a number. -/
def toNumber : Value → Float
  | .unset => 0
  | .number x => x
  | .text s => numberAtFront s
  | .input _ x => x

/-- A value as a text. -/
def toText (format : String) : Value → String
  | .unset => ""
  | .number x => numberText format x
  | .text s => s
  | .input s _ => s

/-- Whether a value counts as true. -/
def isTrue : Value → Bool
  | .unset => false
  | .number x => x != 0
  | .text s => !s.isEmpty
  | .input _ x => x != 0

/-- Whether a value is compared as a number. -/
def isNumeric : Value → Bool
  | .text _ => false
  | _ => true

/-- A truth value. -/
def ofBool (b : Bool) : Value :=
  .number (if b then 1 else 0)

/-- A count. -/
def ofNat (n : Nat) : Value :=
  .number (Float.ofNat n)

end Value

/-- Whether two values are in a relation. -/
def Relation.holds (r : Relation) (format : String) (a b : Value) : Bool :=
  if a.isNumeric && b.isNumeric then
    -- Two numbers that are in no order count as equal.
    let x := a.toNumber
    let y := b.toNumber
    match r with
    | .less => x < y
    | .lessOrEqual => !(y < x : Bool)
    | .equal => !(x < y : Bool) && !(y < x : Bool)
    | .notEqual => x < y || y < x
    | .greater => y < x
    | .greaterOrEqual => !(x < y : Bool)
  else
    let o := compare (a.toText format) (b.toText format)
    match r with
    | .less => o == .lt
    | .lessOrEqual => o != .gt
    | .equal => o == .eq
    | .notEqual => o != .eq
    | .greater => o == .gt
    | .greaterOrEqual => o != .lt

/-! ### Tables -/

/-- An entry of a table. -/
structure Entry where
  key : String
  /-- The integer that the key was given as. -/
  integer? : Option Int
  value : Value

/-- A table: its entries, those that were used last first. -/
abbrev Table := List Entry

namespace Table

/-- The value of a key. -/
def get? (t : Table) (key : String) : Option Value :=
  (t.find? fun e => e.key == key).map Entry.value

/-- Let a key have a value. -/
def put (t : Table) (e : Entry) : Table :=
  match t.find? fun x => x.key == e.key with
  | some old => { e with integer? := old.integer? } :: t.filter fun x => x.key != e.key
  | none => e :: t

/-- Remove a key. -/
def erase (t : Table) (key : String) : Table :=
  t.filter fun e => e.key != key

/-- A number that spreads keys over a table. -/
def keyHash (key : String) : UInt32 :=
  key.toList.foldl (fun h c => (h ^^^ c.toNat.toUInt32) * 16777619) 2166136261

/-- The number of buckets for so many entries, a power of 2. -/
def bucketCount (size : Nat) : Nat → Nat
  | 0 => 64
  | n + 1 => if size ≤ 12 * 64 then 64 else 2 * bucketCount ((size + 1) / 2) n

/-- The keys in the order in which loops go through them: by buckets.  In a bucket, integers come
first, in the reverse of the order of their own buckets. -/
def keys (t : Table) : List String :=
  let count := bucketCount t.length t.length
  let place (e : Entry) : Nat := (keyHash e.key).toNat % count
  let own (i : Int) : Int := i % (count : Int)
  let integers := t.filter fun e => e.integer?.isSome
  let integers := (integers.mergeSort fun a b =>
    own (a.integer?.getD 0) ≤ own (b.integer?.getD 0)).reverse
  let texts := t.filter fun e => e.integer?.isNone
  ((integers ++ texts).mergeSort fun a b => place a ≤ place b).map Entry.key

end Table

end ShaderBuild.Tool.Record
