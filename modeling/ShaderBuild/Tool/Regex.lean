import ShaderBuild.Text.Class
import ShaderBuild.Tool.Basic

/-! # Regular expressions

Basic and extended regular expressions over raw text, as data and as they are written.  What an
expression matches is defined apart from how it is written. -/

namespace ShaderBuild.Tool

/-- A property of a place between two characters. -/
inductive Edge where
  | lineStart
  | lineEnd
  | textStart
  | textEnd
  | wordStart
  | wordEnd
  /-- Either end of a word. -/
  | wordEdge
  | notWordEdge
deriving DecidableEq, Repr

/-- A regular expression. -/
inductive Regex where
  | empty
  | char (c : Char)
  | any
  | set (negated : Bool) (ranges : List CharRange)
  | edge (e : Edge)
  | group (number : Nat) (r : Regex)
  /-- What a group matched, once more. -/
  | again (number : Nat)
  | sequence (r s : Regex)
  | either (r s : Regex)
  | many (least : Nat) (most : Option Nat) (r : Regex)

/-- The ways in which expressions are written. -/
structure RegexFlavor where
  extended : Bool := false
  /-- Whether escapes such as `\t` stand for control characters. -/
  escapes : Bool := false
  /-- Whether a backslash also escapes between brackets. -/
  escapesInSets : Bool := false
  /-- Whether operators without an operand and closings without an opening are let pass. -/
  lenient : Bool := false
deriving DecidableEq, Repr

namespace Regex

/-! ### Sets of characters -/

/-- The value of a hexadecimal digit. -/
def hexValue (c : Char) : Nat :=
  if c.isDigit then c.toNat - '0'.toNat else c.toLower.toNat - 'a'.toNat + 10

/-- The control character that an escape stands for, and what follows it. -/
def controlEscape? : List Char → Option (Char × List Char)
  | 'n' :: rest => some ('\n', rest)
  | 't' :: rest => some ('\t', rest)
  | 'r' :: rest => some ('\r', rest)
  | 'f' :: rest => some (Char.ofNat 12, rest)
  | 'v' :: rest => some (Char.ofNat 11, rest)
  | 'a' :: rest => some (Char.ofNat 7, rest)
  | 'x' :: rest =>
    match (rest.take 2).takeWhile (inClass "xdigit") with
    | [] => none
    | ds => some (Char.ofNat (ds.foldl (fun n d => 16 * n + hexValue d) 0), rest.drop ds.length)
  | 'o' :: rest =>
    match (rest.take 3).takeWhile fun c => '0' ≤ c && c ≤ '7' with
    | [] => none
    | ds => some (Char.ofNat (ds.foldl (fun n d => 8 * n + hexValue d) 0 % 256), rest.drop ds.length)
  | 'd' :: rest =>
    match (rest.take 3).takeWhile Char.isDigit with
    | [] => none
    | ds => some (Char.ofNat (ds.foldl (fun n d => 10 * n + hexValue d) 0 % 256), rest.drop ds.length)
  | 'c' :: c :: rest => some (Char.ofNat (Nat.xor c.toUpper.toNat 64), rest)
  | _ => none

/-- One character of a set: escaped, named between dots or equals signs, or as it stands. -/
def setCharacter (f : RegexFlavor) (cs : List Char) : Except String (Char × List Char) :=
  match cs with
  | [] => .error "Unmatched [, [^, [:, [., or [="
  | '[' :: '.' :: c :: '.' :: ']' :: rest | '[' :: '=' :: c :: '=' :: ']' :: rest => .ok (c, rest)
  | '\\' :: c :: rest =>
    if f.escapes || f.escapesInSets then
      match controlEscape? (c :: rest) with
      | some x => .ok x
      | none => if f.escapesInSets then .ok (c, rest) else .ok ('\\', c :: rest)
    else .ok ('\\', c :: rest)
  | c :: rest => .ok (c, rest)

/-- The members of a set of characters, at most `n` of them. -/
def readSet (f : RegexFlavor) : Nat → Bool → List Char → Except String (List CharRange × List Char)
  | 0, _, _ | _, _, [] => .error "Unmatched [, [^, [:, [., or [="
  | n + 1, first, cs =>
    match first, cs with
    | false, ']' :: rest => .ok ([], rest)
    | _, '[' :: ':' :: after =>
      let name := String.ofList (after.takeWhile Char.isAlpha)
      match after.drop name.length with
      | ':' :: ']' :: after =>
        if classNames.contains name then do
          let (more, rest) ← readSet f n false after
          return (.named name :: more, rest)
        else .error "Invalid character class name"
      | _ => .error "Unmatched [, [^, [:, [., or [="
    | _, cs => do
      let (low, rest) ← setCharacter f cs
      match rest with
      | '-' :: ']' :: _ => do
        let (more, rest) ← readSet f n false rest
        return (.between low low :: more, rest)
      | '-' :: after => do
        let (high, rest) ← setCharacter f after
        if high < low then throw "Invalid range end"
        let (more, rest) ← readSet f n false rest
        return (.between low high :: more, rest)
      | rest => do
        let (more, rest) ← readSet f n false rest
        return (.between low low :: more, rest)

/-! ### Repetitions -/

/-- How often an expression is repeated. -/
structure Bounds where
  least : Nat
  most : Option Nat

/-- The greatest number in braces. -/
def repeatLimit : Nat := 32767

/-- The number that digits spell; none without digits. -/
def count? (cs : List Char) : Option Nat :=
  if cs.isEmpty then none
  else some (cs.foldl (fun n c => 10 * n + (c.toNat - '0'.toNat)) 0)

/-- The bounds in braces; none if there is no closing brace or no number. -/
def bounds? (extended : Bool) (cs : List Char) : Option (Bounds × List Char) :=
  let low := cs.takeWhile Char.isDigit
  let close (cs : List Char) : Option (List Char) :=
    match extended, cs with
    | true, '\x7d' :: rest => some rest
    | false, '\\' :: '\x7d' :: rest => some rest
    | _, _ => none
  match cs.drop low.length with
  | ',' :: rest =>
    let high := rest.takeWhile Char.isDigit
    (close (rest.drop high.length)).map fun rest => (⟨(count? low).getD 0, count? high⟩, rest)
  | rest =>
    match count? low, close rest with
    | some n, some rest => some (⟨n, some n⟩, rest)
    | _, _ => none

/-- Check bounds. -/
def checkedBounds (x : Bounds × List Char) : Except String (Option Bounds × List Char) :=
  if (x.1.most.map fun m => decide (m < x.1.least)).getD false then
    .error "Invalid content of \\\x7b\\\x7d"
  else if repeatLimit < x.1.least || repeatLimit < x.1.most.getD 0 then
    .error "Regular expression too big"
  else .ok (some x.1, x.2)

/-- How often the expression before is repeated, if the text says so. -/
def readRepeat (f : RegexFlavor) (cs : List Char) : Except String (Option Bounds × List Char) :=
  let braces (rest : List Char) : Except String (Option Bounds × List Char) :=
    match bounds? f.extended rest with
    | some x => checkedBounds x
    | none => if f.extended && f.lenient then .ok (none, cs) else .error "Unmatched \\\x7b"
  match f.extended, cs with
  | _, '*' :: rest => .ok (some ⟨0, none⟩, rest)
  | true, '+' :: rest => .ok (some ⟨1, none⟩, rest)
  | true, '?' :: rest => .ok (some ⟨0, some 1⟩, rest)
  | true, '\x7b' :: rest => braces rest
  | false, '\\' :: '+' :: rest => .ok (some ⟨1, none⟩, rest)
  | false, '\\' :: '?' :: rest => .ok (some ⟨0, some 1⟩, rest)
  | false, '\\' :: '\x7b' :: rest => braces rest
  | _, cs => .ok (none, cs)

/-- Repeat an expression as often as the text asks for, at most `n` times over. -/
def repeated (f : RegexFlavor) : Nat → Bool → Regex → List Char → Except String (Regex × List Char)
  | 0, _, r, cs => .ok (r, cs)
  | n + 1, starred, r, cs => do
    let (bounds, rest) ← readRepeat f cs
    match bounds with
    | some b =>
      if starred && !f.extended && !f.lenient then throw "Invalid preceding regular expression"
      repeated f n true (.many b.least b.most r) rest
    | none => return (r, rest)

/-! ### Expressions -/

/-- Whether the text goes on with a closing or an alternative. -/
def endsBranch (f : RegexFlavor) (depth : Nat) (cs : List Char) : Bool :=
  match f.extended, cs with
  | _, [] => true
  | true, '|' :: _ => true
  | true, ')' :: _ => 0 < depth || !f.lenient
  | false, '\\' :: '|' :: _ | false, '\\' :: ')' :: _ => true
  | _, _ => false

/-- The characters of words. -/
def wordChars : List CharRange := [.named "alnum", .between '_' '_']

/-- The expression behind an escape, where there are `groups` groups before it. -/
def escaped (f : RegexFlavor) (groups : Nat) (cs : List Char) : Except String (Regex × List Char) :=
  match cs with
  | [] => .error "Trailing backslash"
  | '<' :: rest => .ok (.edge .wordStart, rest)
  | '>' :: rest => .ok (.edge .wordEnd, rest)
  | 'b' :: rest => .ok (.edge .wordEdge, rest)
  | 'B' :: rest => .ok (.edge .notWordEdge, rest)
  | '\x60' :: rest => .ok (.edge .textStart, rest)
  | '\'' :: rest => .ok (.edge .textEnd, rest)
  | 'w' :: rest => .ok (.set false wordChars, rest)
  | 'W' :: rest => .ok (.set true wordChars, rest)
  | 's' :: rest => .ok (.set false [.named "space"], rest)
  | 'S' :: rest => .ok (.set true [.named "space"], rest)
  | c :: rest =>
    if c.isDigit && c != '0' && !f.escapesInSets then
      if groups < c.toNat - '0'.toNat then .error "Invalid back reference"
      else .ok (.again (c.toNat - '0'.toNat), rest)
    else
      match if f.escapes || f.escapesInSets then controlEscape? (c :: rest) else none with
      | some (d, rest) => .ok (.char d, rest)
      | none => .ok (.char c, rest)

/-- An expression, and the number of groups up to its end. -/
structure Read where
  regex : Regex
  groups : Nat

/-- Read one expression without repetition; `whole` reads what is in a group. -/
def readAtom (f : RegexFlavor) (whole : Nat → Nat → List Char → Except String (Read × List Char))
    (groups depth : Nat) (first : Bool) (cs : List Char) : Except String (Read × List Char) := do
  let opened (rest : List Char) : Except String (Read × List Char) := do
    let (inner, rest) ← whole (groups + 1) (depth + 1) rest
    match f.extended, rest with
    | true, ')' :: rest => return (⟨.group (groups + 1) inner.regex, inner.groups⟩, rest)
    | false, '\\' :: ')' :: rest => return (⟨.group (groups + 1) inner.regex, inner.groups⟩, rest)
    | _, _ => throw "Unmatched ( or \\("
  let plain (r : Regex) (rest : List Char) : Except String (Read × List Char) := .ok (⟨r, groups⟩, rest)
  let bracketed (negated : Bool) (rest : List Char) : Except String (Read × List Char) := do
    if rest.isEmpty && !negated then throw "Invalid regular expression"
    let (ranges, rest) ← readSet f (rest.length + 1) true rest
    return (⟨.set negated ranges, groups⟩, rest)
  match f.extended, cs with
  | _, [] => plain .empty []
  | true, '(' :: rest => opened rest
  | false, '\\' :: '(' :: rest => opened rest
  | false, '\\' :: '\x7b' :: rest =>
    if f.lenient then plain (.char '\x7b') rest
    else throw "Invalid preceding regular expression"
  | _, '\\' :: rest =>
    let (r, rest) ← escaped f groups rest
    plain r rest
  | _, '.' :: rest => plain .any rest
  | _, '[' :: '^' :: rest => bracketed true rest
  | _, '[' :: rest => bracketed false rest
  | true, '^' :: rest => plain (.edge .lineStart) rest
  | true, '$' :: rest => plain (.edge .lineEnd) rest
  | false, '^' :: rest => plain (if first then .edge .lineStart else .char '^') rest
  | false, '$' :: rest =>
    plain (if endsBranch f depth rest then .edge .lineEnd else .char '$') rest
  | true, c :: rest =>
    if c == '*' || c == '+' || c == '?' || (c == '\x7b' && (bounds? true rest).isSome) then
      if f.lenient then plain .empty cs else throw "Invalid preceding regular expression"
    else plain (.char c) rest
  | _, c :: rest => plain (.char c) rest

/-- Read the expressions of a branch, at most `n` of them. -/
def readBranch (f : RegexFlavor) (whole : Nat → Nat → List Char → Except String (Read × List Char)) :
    Nat → Nat → Nat → Bool → List Char → Except String (Read × List Char)
  | 0, groups, _, _, cs => .ok (⟨.empty, groups⟩, cs)
  | n + 1, groups, depth, first, cs => do
    if endsBranch f depth cs then return (⟨.empty, groups⟩, cs)
    let (x, rest) ← readAtom f whole groups depth first cs
    let anchored := match x.regex with
      | .edge .lineStart => true
      | _ => false
    let (r, rest) ← if anchored then
        if f.extended && !f.lenient && (rest.head? == some '*' || rest.head? == some '+') then
          throw "Invalid preceding regular expression"
        else pure (x.regex, rest)
      else repeated f n false x.regex rest
    let (y, rest) ← readBranch f whole n x.groups depth (anchored && first) rest
    return (⟨.sequence r y.regex, y.groups⟩, rest)

/-- Read branches, at most `n` of them. -/
def readBranches (f : RegexFlavor) (whole : Nat → Nat → List Char → Except String (Read × List Char)) :
    Nat → Nat → Nat → List Char → Except String (Read × List Char)
  | 0, groups, _, cs => .ok (⟨.empty, groups⟩, cs)
  | n + 1, groups, depth, cs => do
    let (x, rest) ← readBranch f whole (cs.length + 1) groups depth true cs
    let more (rest : List Char) : Except String (Read × List Char) := do
      let (y, rest) ← readBranches f whole n x.groups depth rest
      return (⟨.either x.regex y.regex, y.groups⟩, rest)
    match f.extended, rest with
    | true, '|' :: rest => more rest
    | false, '\\' :: '|' :: rest => more rest
    | _, rest => return (x, rest)

/-- Read an expression with at most `n` nested groups. -/
def readWhole (f : RegexFlavor) : Nat → Nat → Nat → List Char → Except String (Read × List Char)
  | 0, _, _, _ => .error "Regular expression too big"
  | n + 1, groups, depth, cs => readBranches f (readWhole f n) (cs.length + 1) groups depth cs

/-- The expression that a text spells, with the number of its groups, or what is wrong. -/
def parse (f : RegexFlavor) (text : List Char) : Except String Read := do
  let (x, rest) ← readWhole f (text.length + 1) 0 0 text
  match rest with
  | [] => return x
  | _ => throw "Unmatched ) or \\)"

/-- The expression that matches a text as it stands. -/
def literal (text : List Char) : Regex :=
  text.foldr (fun c r => .sequence (.char c) r) .empty

end Regex

end ShaderBuild.Tool
