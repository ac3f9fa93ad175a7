import ShaderBuild.Tool.Regex

/-! # Matching regular expressions

A text of `n` characters has `n + 1` places between and around them.  A set of places is a natural
number, with bit `i` set if place `i` is a member.  Over one text an expression becomes a
`Program`, in which every set of characters is the set of places that such a character follows;
`Program.reach` then gives all places at which matches end that begin at given places.  A match
begins as early as it can and is as long as it can be; within it, what stands further to the left
is matched by as much as possible.  Expressions that repeat what a group matched are tried out
instead. -/

namespace ShaderBuild.Tool.Regex

/-- An expression over one text. -/
inductive Program where
  | empty
  /-- Go past the character after one of these places. -/
  | step (places : Nat)
  /-- Stay, at one of these places. -/
  | check (places : Nat)
  | group (number : Nat) (p : Program)
  | again (number : Nat)
  | sequence (p q : Program)
  | either (p q : Program)
  | many (least : Nat) (most : Option Nat) (p : Program)

/-- A piece of a text, from one place to another. -/
structure Span where
  start : Nat
  stop : Nat
deriving DecidableEq, Repr

/-- A match, and what the groups matched, those that were set last first. -/
structure Match where
  span : Span
  groups : List (Nat × Span)
deriving DecidableEq, Repr

/-! ### Expressions over a text -/

/-- How a text is compared with an expression. -/
structure Comparison where
  anyCase : Bool := false
  /-- Whether lines inside the text have a start and an end. -/
  multiline : Bool := false
deriving DecidableEq, Repr

/-- The set of the places from 0 on that satisfy a predicate, at most `n` of them. -/
def placesWhere (p : Nat → Bool) (n : Nat) : Nat :=
  (List.range n).foldl (fun set i => if p i then set ||| (1 <<< i) else set) 0

/-- Whether a character belongs to a word. -/
def isWordChar (c : Char) : Bool :=
  c.isAlphanum || c == '_'

/-- Whether a character is in a set, perhaps up to case. -/
def inSet (anyCase : Bool) (ranges : List CharRange) (c : Char) : Bool :=
  ranges.any (·.contains c)
    || (anyCase && (ranges.any (·.contains c.toLower) || ranges.any (·.contains c.toUpper)))

/-- Whether a place of a text has a property. -/
def Edge.holds (e : Edge) (multiline : Bool) (text : Array Char) (i : Nat) : Bool :=
  let before : Option Char := if i == 0 then none else text[i - 1]?
  let after : Option Char := text[i]?
  let inWord (c : Option Char) : Bool := (c.map isWordChar).getD false
  match e with
  | .textStart => i == 0
  | .textEnd => i == text.size
  | .lineStart => i == 0 || (multiline && before == some '\n')
  | .lineEnd => i == text.size || (multiline && after == some '\n')
  | .wordStart => !inWord before && inWord after
  | .wordEnd => inWord before && !inWord after
  | .wordEdge => inWord before != inWord after
  | .notWordEdge => inWord before == inWord after

/-- An expression over a text. -/
def programOn (c : Comparison) (text : Array Char) : Regex → Program
  | .empty => .empty
  | .char d => .step (placesWhere (fun i => (text[i]?.map fun x =>
      x == d || (c.anyCase && x.toLower == d.toLower)).getD false) text.size)
  | .any => .step (placesWhere (fun _ => true) text.size)
  | .set negated ranges => .step (placesWhere (fun i => (text[i]?.map fun x =>
      inSet c.anyCase ranges x != negated).getD false) text.size)
  | .edge e => .check (placesWhere (Edge.holds e c.multiline text) (text.size + 1))
  | .group number r => .group number (programOn c text r)
  | .again number => .again number
  | .sequence r s => .sequence (programOn c text r) (programOn c text s)
  | .either r s => .either (programOn c text r) (programOn c text s)
  | .many least most r => .many least most (programOn c text r)

/-! ### Places that matches lead to -/

/-- The members of `a` that are not in `b`. -/
def without (a b : Nat) : Nat :=
  a ^^^ (a &&& b)

/-- All that `f` leads to from `seen`, whose members in `fresh` have not been followed yet, in at
most `n` rounds. -/
def closure (f : Nat → Nat) : Nat → (fresh seen : Nat) → Nat
  | 0, _, seen => seen
  | n + 1, fresh, seen =>
    let found := without (f fresh) seen
    if found = 0 then seen else closure f n found (seen ||| found)

/-- Follow `f` exactly `n` times. -/
def iterate (f : Nat → Nat) : Nat → Nat → Nat
  | 0, here => here
  | n + 1, here => if here = 0 then 0 else iterate f n (f here)

/-- The places at which matches end that begin at one of the places in a set; the text has `size`
characters. -/
def Program.reach (size : Nat) : Program → Nat → Nat
  | .empty, here => here
  | .step places, here => (here &&& places) <<< 1
  | .check places, here => here &&& places
  | .group _ p, here => p.reach size here
  | .again _, here => here
  | .sequence p q, here => q.reach size (p.reach size here)
  | .either p q, here => p.reach size here ||| q.reach size here
  | .many least most p, here =>
    let start := iterate (p.reach size) least here
    let rounds := (most.map (· - least)).getD (size + 1)
    closure (p.reach size) rounds start start

/-- Whether an expression repeats what a group matched. -/
def Program.refersBack : Program → Bool
  | .again _ => true
  | .group _ p | .many _ _ p => p.refersBack
  | .sequence p q | .either p q => p.refersBack || q.refersBack
  | _ => false

/-! ### Groups -/

/-- The members of a set from `i` down to 0. -/
def membersDown (set : Nat) : Nat → List Nat
  | 0 => if set.testBit 0 then [0] else []
  | i + 1 => if set.testBit (i + 1) then (i + 1) :: membersDown set i else membersDown set i

/-- What the groups match in the rounds of a repetition that matches a span: `ends` gives the places
where a round may end, `inner` the groups of a round, and `rest` says whether the rounds after some
rounds can lead from a place to the end of the span.  At most `n` rounds. -/
def roundGroups (ends : Nat → Nat) (inner : Span → List (Nat × Span)) (rest : Nat → Nat → Bool)
    (least : Nat) (s : Span) : Nat → Nat → Nat → List (Nat × Span) → List (Nat × Span)
  | 0, _, _, found => found
  | n + 1, done, start, found =>
    let next := (membersDown (ends start) s.stop).find? fun i =>
      (start < i || (done < least && s.start == s.stop)) && rest (done + 1) i
    match next with
    | none => found
    | some i =>
      if start == i then inner ⟨start, i⟩ ++ found
      else roundGroups ends inner rest least s n (done + 1) i (inner ⟨start, i⟩ ++ found)

/-- What the groups match if the program matches a span; those that are set last come first. -/
def Program.groups (size : Nat) : Program → Span → List (Nat × Span)
  | .group number p, s => (number, s) :: p.groups size s
  | .sequence p q, s =>
    let ends := p.reach size (1 <<< s.start)
    match (membersDown ends s.stop).find? fun i => (q.reach size (1 <<< i)).testBit s.stop with
    | some i => q.groups size ⟨i, s.stop⟩ ++ p.groups size ⟨s.start, i⟩
    | none => []
  | .either p q, s =>
    if (p.reach size (1 <<< s.start)).testBit s.stop then p.groups size s else q.groups size s
  | .many least most p, s =>
    roundGroups (fun i => p.reach size (1 <<< i)) (p.groups size)
      (fun done i =>
        ((Program.many (least - done) (most.map (· - done)) p).reach size (1 <<< i)).testBit s.stop)
      least s (s.stop - s.start + 1) 0 s.start []
  | _, _ => []

/-! ### Trying out -/

/-- The number of nodes. -/
def Program.size : Program → Nat
  | .group _ p | .many _ _ p => p.size + 1
  | .sequence p q | .either p q => p.size + q.size + 1
  | _ => 1

/-- The characters of a span. -/
def Span.chars (s : Span) (text : Array Char) : List Char :=
  (text.extract s.start s.stop).toList

/-- Match from a place and continue with `next`; nested at most `n` times. -/
def Program.attempt (text : Array Char) : Nat → Program → Nat → List (Nat × Span) →
    (Nat → List (Nat × Span) → Option Match) → Option Match
  | 0, _, _, _, _ => none
  | n + 1, p, i, found, next =>
    match p with
    | .empty => next i found
    | .step places => if places.testBit i then next (i + 1) found else none
    | .check places => if places.testBit i then next i found else none
    | .group number p =>
      p.attempt text n i found fun j found => next j ((number, ⟨i, j⟩) :: found)
    | .again number =>
      match found.lookup number with
      | some s =>
        let j := i + (s.stop - s.start)
        if Span.chars ⟨i, j⟩ text == s.chars text && j ≤ text.size then next j found else none
      | none => none
    | .sequence p q =>
      p.attempt text n i found fun j found => q.attempt text n j found next
    | .either p q =>
      (p.attempt text n i found next).orElse fun _ => q.attempt text n i found next
    | .many least most p =>
      if most == some 0 then next i found
      else
        let more := p.attempt text n i found fun j inner =>
          if i == j then none
          else (Program.many (least - 1) (most.map (· - 1)) p).attempt text n j inner next
        more.orElse fun _ =>
          if least == 0 then next i found
          else p.attempt text n i found fun j inner => if i == j then next j inner else none

/-! ### Matches -/

/-- An expression that is ready to be matched in a text. -/
structure Matcher where
  text : Array Char
  program : Program
  refersBack : Bool

/-- Make an expression ready for a text. -/
def matcher (r : Regex) (c : Comparison) (text : List Char) : Matcher :=
  let text := text.toArray
  let program := r.programOn c text
  ⟨text, program, program.refersBack⟩

namespace Matcher

/-- The longest match that begins at a place. -/
def at? (m : Matcher) (i : Nat) : Option Match :=
  if m.refersBack then
    m.program.attempt m.text (2 * m.program.size + m.text.size + 2) i [] fun j found =>
      some ⟨⟨i, j⟩, found⟩
  else
    let ends := m.program.reach m.text.size (1 <<< i)
    if ends = 0 then none
    else
      let s : Span := ⟨i, ends.log2⟩
      some ⟨s, m.program.groups m.text.size s⟩

/-- The first match that begins at one of `n` places from `i` on. -/
def firstOf (m : Matcher) : Nat → Nat → Option Match
  | 0, _ => none
  | n + 1, i => (m.at? i).orElse fun _ => m.firstOf n (i + 1)

/-- The first match that begins at or after a place. -/
def find (m : Matcher) (start : Nat) : Option Match :=
  if m.text.size < start then none
  else
    let later := placesWhere (start ≤ ·) (m.text.size + 1)
    if !m.refersBack && m.program.reach m.text.size later = 0 then none
    else m.firstOf (m.text.size + 1 - start) start

end Matcher

/-- What a group matched; group zero is the whole match. -/
def Match.group (m : Match) (n : Nat) (text : Array Char) : List Char :=
  if n == 0 then m.span.chars text
  else ((m.groups.lookup n).map fun s => s.chars text).getD []

/-- The first match in a text. -/
def find (r : Regex) (c : Comparison) (text : List Char) : Option Match :=
  (r.matcher c text).find 0

end ShaderBuild.Tool.Regex
