import ShaderBuild.Shell.Command

/-! # Variables

A variable holds a single value or an array: values under numbers, or under texts.  A single value
is the value under `0`.  Numbered values are kept in the order of their numbers; values under texts
in the order of the buckets that the hash of the text puts them in, the latest first within a
bucket. -/

namespace ShaderBuild.Shell

/-- What the keys of a variable are. -/
inductive Shape where
  | single
  /-- An array by numbers. -/
  | indexed
  /-- An array by texts. -/
  | keyed
deriving DecidableEq, Repr

/-- A variable; it may be marked before it has a value. -/
structure Variable where
  shape : Shape := .single
  elements : List (String × String) := []
  /-- It was given a value, or as an array perhaps none. -/
  given : Bool := false
  exported : Bool := false
  fixed : Bool := false
  /-- Values are expressions, of which the number is kept. -/
  integer : Bool := false
  /-- The case that letters of values get. -/
  recase : Option Recase := none
  /-- The value is the name of the variable that is meant. -/
  refers : Bool := false
deriving DecidableEq, Repr

/-! ### Keys -/

/-- The hash of a key: bytes beyond the first 128 count as negative. -/
def keyHash (key : String) : UInt32 :=
  key.toList.foldl (fun h c =>
    let n := c.toNat.toUInt32
    (h * 16777619) ^^^ (if n < 128 then n else n ||| 0xffffff00)) 2166136261

/-- The bucket that a key is put in. -/
def bucketOf (key : String) : Nat :=
  (keyHash key).toNat % 1024

/-- The number that a key spells. -/
def keyNumber (key : String) : Nat :=
  key.toNat?.getD 0

/-- Whether a key comes before another one that is put in later. -/
def Shape.precedes (s : Shape) (old new : String) : Bool :=
  match s with
  | .keyed => bucketOf old < bucketOf new
  | _ => keyNumber old < keyNumber new

/-! ### Values -/

namespace Variable

/-- A variable with a single value. -/
def ofValue (value : String) : Variable :=
  { elements := [("0", value)], given := true }

/-- The value under a key. -/
def get? (v : Variable) (key : String) : Option String :=
  v.elements.lookup key

/-- The value as a whole. -/
def value (v : Variable) : Option String :=
  v.get? "0"

/-- Let a key have a value. -/
def put (v : Variable) (key value : String) : Variable :=
  if (v.get? key).isSome then
    { v with elements := v.elements.map fun x => if x.1 == key then (key, value) else x }
  else
    let before (x : String × String) : Bool := v.shape.precedes x.1 key
    { v with
      given := true
      elements := v.elements.takeWhile before ++ (key, value) :: v.elements.dropWhile before }

/-- Remove a key. -/
def erase (v : Variable) (key : String) : Variable :=
  { v with elements := v.elements.filter fun x => x.1 != key }

/-- The number after those of all values. -/
def nextNumber (v : Variable) : Nat :=
  (v.elements.getLast?.map fun x => keyNumber x.1 + 1).getD 0

/-- The variable with numbered values. -/
def withValues (v : Variable) (values : List String) : Variable :=
  { v with
    shape := .indexed
    given := true
    elements := values.zipIdx.map fun (x, i) => (Nat.repr i, x) }

/-- The variable as an array. -/
def asArray (v : Variable) : Variable :=
  { v with shape := if v.shape = .keyed then .keyed else .indexed }

@[simp] theorem value_ofValue (value : String) : (ofValue value).value = some value := rfl

end Variable

/-! ### Case -/

/-- A letter in another case. -/
def Recase.apply (r : Recase) (c : Char) : Char :=
  match r with
  | .upper => c.toUpper
  | .lower => c.toLower
  | .swap => if c.isUpper then c.toLower else c.toUpper

end ShaderBuild.Shell
