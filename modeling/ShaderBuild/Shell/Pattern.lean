import ShaderBuild.Shell.Command
import ShaderBuild.Text.Class

/-! # Patterns

A pattern is written with characters some of which are quoted and then stand for themselves.
Unquoted, `*` stands for any characters, `?` for one, and brackets for one of a set.  Where groups
are asked for, parentheses after one of `?*+@!` hold patterns that may match at most once, any
number of times, at least once, once, or not at all.  `matches` compares a pattern with all of a
text. -/

namespace ShaderBuild.Shell

/-- A character of a pattern, quoted or not. -/
structure Sign where
  char : Char
  quoted : Bool
deriving DecidableEq, Repr

/-- A piece of a pattern. -/
inductive Glob where
  | char (c : Char)
  | one
  | many
  | set (negated : Bool) (ranges : List CharRange)
  /-- Patterns in parentheses, the character before these, and how long the group is written. -/
  | group (kind : Char) (size : Nat) (choices : List (List Glob))
deriving Repr

/-! ### Executable definitions -/

/-- The name of a class and what follows it, after `[:`. -/
def className? (signs : List Sign) : Option (String × List Sign) :=
  let name := signs.takeWhile fun s => s.char.isAlpha
  match signs.drop name.length with
  | ⟨':', false⟩ :: ⟨']', false⟩ :: rest => some (String.ofList (name.map Sign.char), rest)
  | _ => none

/-- The members of a set and what follows it; `first` says that a closing bracket is a member. -/
def ranges? : Nat → Bool → List Sign → Option (List CharRange × List Sign)
  | 0, _, _ => none
  | _ + 1, _, [] => none
  | n + 1, first, s :: rest =>
    if s == ⟨']', false⟩ && !first then some ([], rest)
    else
      let single := fun _ : Unit =>
        match rest with
        | ⟨'-', false⟩ :: high :: after =>
          if high == ⟨']', false⟩ then
            (ranges? n false rest).map fun x => (.between s.char s.char :: x.1, x.2)
          else (ranges? n false after).map fun x => (.between s.char high.char :: x.1, x.2)
        | _ => (ranges? n false rest).map fun x => (.between s.char s.char :: x.1, x.2)
      match s, rest with
      | ⟨'[', false⟩, ⟨':', false⟩ :: after =>
        match className? after with
        | some (name, after) => (ranges? n false after).map fun x => (.named name :: x.1, x.2)
        | none => single ()
      | _, _ => single ()

/-- The set after an opening bracket, and what follows it. -/
def set? (signs : List Sign) : Option (Glob × List Sign) :=
  match signs with
  | ⟨'!', false⟩ :: rest | ⟨'^', false⟩ :: rest =>
    (ranges? (rest.length + 1) true rest).map fun x => (.set true x.1, x.2)
  | rest => (ranges? (rest.length + 1) true rest).map fun x => (.set false x.1, x.2)

/-- Whether a character begins a group where a parenthesis follows it. -/
def beginsGroup (s : Sign) : Bool :=
  !s.quoted && "?*+@!".toList.contains s.char

/-- The choices of a group, after its opening parenthesis, and what follows it; none if the group is
not closed.  `depth` parentheses are open inside the choice that is being read. -/
def choices? : (depth : Nat) → List Sign → List Sign → Option (List (List Sign) × List Sign)
  | _, _, [] => none
  | depth, current, s :: rest =>
    if s == ⟨'(', false⟩ then choices? (depth + 1) (s :: current) rest
    else if s == ⟨')', false⟩ then
      if depth = 0 then some ([current.reverse], rest) else choices? (depth - 1) (s :: current) rest
    else if s == ⟨'|', false⟩ && depth = 0 then
      (choices? depth [] rest).map fun x => (current.reverse :: x.1, x.2)
    else choices? depth (s :: current) rest

/-- The group that a text begins with, and what follows it. -/
def group? (signs : List Sign) : Option (Char × List (List Sign) × List Sign) :=
  match signs with
  | s :: ⟨'(', false⟩ :: rest =>
    if beginsGroup s then (choices? 0 [] rest).map fun x => (s.char, x.1, x.2) else none
  | _ => none

/-- The pieces of a pattern, at most `n` of them inside each other or side by side. -/
def globsOf (groups : Bool) : Nat → List Sign → List Glob
  | 0, _ | _, [] => []
  | n + 1, s :: rest =>
    match if groups then group? (s :: rest) else none with
    | some (kind, choices, after) =>
      .group kind (rest.length - after.length) (choices.map (globsOf groups n))
        :: globsOf groups n after
    | none =>
      if s.quoted then .char s.char :: globsOf groups n rest
      else
        match s.char with
        | '*' => .many :: globsOf groups n rest
        | '?' => .one :: globsOf groups n rest
        | '[' =>
          match set? rest with
          | some (g, rest) => g :: globsOf groups n rest
          | none => .char '[' :: globsOf groups n rest
        | c => .char c :: globsOf groups n rest

/-- A pattern; it may have groups if `groups` is set. -/
def Glob.ofSigns (groups : Bool) (signs : List Sign) : List Glob :=
  globsOf groups signs.length signs

/-- Whether some tail of a list satisfies `p`. -/
def anyTail (p : List Char → Bool) : List Char → Bool
  | [] => p []
  | c :: cs => p (c :: cs) || anyTail p cs

/-- Whether a pattern without groups matches all of a text. -/
def Glob.matchesPlainly : List Glob → List Char → Bool
  | [], cs => cs.isEmpty
  | .many :: g, cs => anyTail (Glob.matchesPlainly g) cs
  | .one :: g, _ :: cs => Glob.matchesPlainly g cs
  | .char c :: g, d :: cs => c == d && Glob.matchesPlainly g cs
  | .set negated ranges :: g, c :: cs =>
    (ranges.any (·.contains c) != negated) && Glob.matchesPlainly g cs
  | .group _ _ _ :: _, _ => false
  | _ :: _, [] => false

/-- Whether a pattern matches the front of a text and `goesOn` accepts what follows.  Each step down
uses up a piece of the pattern or a character, which bounds them by `n`. -/
def Glob.matchesThen : Nat → List Glob → (List Char → Bool) → List Char → Bool
  | 0, _, _, _ => false
  | _ + 1, [], goesOn, cs => goesOn cs
  | n + 1, .many :: g, goesOn, cs => anyTail (Glob.matchesThen n g goesOn) cs
  | n + 1, .one :: g, goesOn, _ :: cs => Glob.matchesThen n g goesOn cs
  | n + 1, .char c :: g, goesOn, d :: cs => c == d && Glob.matchesThen n g goesOn cs
  | n + 1, .set negated ranges :: g, goesOn, c :: cs =>
    (ranges.any (·.contains c) != negated) && Glob.matchesThen n g goesOn cs
  | n + 1, .group kind size choices :: g, goesOn, cs =>
    let after (cs : List Char) : Bool := Glob.matchesThen n g goesOn cs
    let once (goesOn : List Char → Bool) : Bool :=
      choices.any fun c => Glob.matchesThen n c goesOn cs
    let again (rest : List Char) : Bool :=
      rest.length < cs.length && Glob.matchesThen n (.group '*' size choices :: g) goesOn rest
    match kind with
    | '@' => once after
    | '?' => after cs || once after
    | '*' => after cs || once again
    | '+' => once fun rest => after rest || again rest
    | _ =>
      (List.range (cs.length + 1)).any fun k =>
        !(choices.any fun c => Glob.matchesThen n c List.isEmpty (cs.take k)) && after (cs.drop k)
  | _ + 1, _ :: _, _, [] => false

/-- How long a piece of a pattern is written. -/
def Glob.size : Glob → Nat
  | .group _ size _ => size + 1
  | _ => 1

/-- Whether a pattern matches all of a text. -/
def Glob.matches (g : List Glob) (cs : List Char) : Bool :=
  let isGroup : Glob → Bool := fun
    | .group _ _ _ => true
    | _ => false
  if g.any isGroup then
    Glob.matchesThen ((g.foldl (fun n p => n + p.size) 2) * (cs.length + 2)) g List.isEmpty cs
  else Glob.matchesPlainly g cs

/-- Whether a pattern matches a text whatever the case of letters. -/
def Glob.matchesAnyCase (signs : List Sign) (groups : Bool) (cs : List Char) : Bool :=
  Glob.matches (Glob.ofSigns groups (signs.map fun s => { s with char := s.char.toLower }))
    (cs.map Char.toLower)

/-- Whether unquoted characters make a pattern more than a text. -/
def isPattern (groups : Bool) (signs : List Sign) : Bool :=
  signs.any (fun s => !s.quoted && (s.char == '*' || s.char == '?' || s.char == '['))
    || (groups && (signs.zip signs.tail).any fun x => beginsGroup x.1 && x.2 == ⟨'(', false⟩)

/-- How many characters a pattern matches, if that is always the same. -/
def Glob.fixedLength? (pattern : List Glob) : Option Nat :=
  let isFixed : Glob → Bool := fun
    | .many | .group _ _ _ => false
    | _ => true
  if pattern.all isFixed then some pattern.length else none

/-- The longest front of a text that a pattern matches, by its length. -/
def longestFront? (pattern : List Glob) (value : List Char) : Option Nat :=
  match Glob.fixedLength? pattern with
  | some n => if Glob.matches pattern (value.take n) then some n else none
  | none => (List.range (value.length + 1)).reverse.find? fun n => Glob.matches pattern (value.take n)

/-- What replaces the matches of a pattern. -/
structure Replacement where
  pattern : List Glob
  /-- Letters as the pattern is compared with them. -/
  seen : Char → Char := id
  /-- What comes in the place of a match. -/
  fill : List Char → List Char

namespace Replacement

/-- A value with each match replaced, or only the first one; `n` bounds the number of steps. -/
def inside (r : Replacement) (all : Bool) : Nat → List Char → List Char
  | 0, value => value
  | n + 1, value =>
    let found := if value.isEmpty then none
      else (longestFront? r.pattern (value.map r.seen)).filter (0 < ·)
    match found, value with
    | some k, value =>
      r.fill (value.take k) ++ if all then r.inside all n (value.drop k) else value.drop k
    | none, c :: cs => c :: r.inside all n cs
    | none, [] => []

/-- A value with the matches in these places replaced. -/
def apply (r : Replacement) (places : Occurrence) (value : List Char) : List Char :=
  match places with
  | .front =>
    match longestFront? r.pattern (value.map r.seen) with
    | some n => r.fill (value.take n) ++ value.drop n
    | none => value
  | .back =>
    let fits (n : Nat) : Bool := Glob.matches r.pattern ((value.drop n).map r.seen)
    match (List.range (value.length + 1)).find? fits with
    | some n => value.take n ++ r.fill (value.drop n)
    | none => value
  | .first => r.inside false value.length value
  | .all => r.inside true value.length value

end Replacement

/-- A value without what a pattern matches at its front. -/
def trimFront (pattern : List Glob) (longest : Bool) (value : List Char) : List Char :=
  let cuts := List.range (value.length + 1)
  let cuts := if longest then cuts.reverse else cuts
  match cuts.find? fun n => Glob.matches pattern (value.take n) with
  | some n => value.drop n
  | none => value

/-- A value without what a pattern matches at its back. -/
def trimBack (pattern : List Glob) (longest : Bool) (value : List Char) : List Char :=
  let cuts := List.range (value.length + 1)
  let cuts := if longest then cuts else cuts.reverse
  match cuts.find? fun n => Glob.matches pattern (value.drop n) with
  | some n => value.take n
  | none => value

end ShaderBuild.Shell
