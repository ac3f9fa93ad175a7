/-! # Classes of characters

The named classes of single-byte characters, and sets of characters that are written as ranges and
named classes. -/

namespace ShaderBuild

/-- A member of a set of characters. -/
inductive CharRange where
  | between (low high : Char)
  /-- A class by its name. -/
  | named (name : String)
deriving DecidableEq, Repr

/-- The names of the classes. -/
def classNames : List String :=
  ["alnum", "alpha", "blank", "cntrl", "digit", "graph", "lower", "print", "punct", "space",
    "upper", "xdigit"]

/-- Whether a character belongs to the class with a name. -/
def inClass (name : String) (c : Char) : Bool :=
  match name with
  | "alnum" => c.isAlphanum
  | "alpha" => c.isAlpha
  | "blank" => c == ' ' || c == '\t'
  | "cntrl" => c.toNat < 32 || c.toNat == 127
  | "digit" => c.isDigit
  | "graph" => 32 < c.toNat && c.toNat < 127
  | "lower" => c.isLower
  | "print" => 32 ≤ c.toNat && c.toNat < 127
  | "punct" => 32 < c.toNat && c.toNat < 127 && !c.isAlphanum
  | "space" => c == ' ' || (9 ≤ c.toNat && c.toNat ≤ 13)
  | "upper" => c.isUpper
  | "xdigit" => c.isDigit || ('a' ≤ c && c ≤ 'f') || ('A' ≤ c && c ≤ 'F')
  | _ => false

/-- Whether a character is in a range. -/
def CharRange.contains (r : CharRange) (c : Char) : Bool :=
  match r with
  | .between low high => low ≤ c && c ≤ high
  | .named name => inClass name c

end ShaderBuild
