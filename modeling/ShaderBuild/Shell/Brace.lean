import ShaderBuild.Shell.Arithmetic

/-! # Braces

A word with braces stands for several words: one for each of the texts between commas, or for each
member of a sequence such as `1..5`.  Braces that hold neither stand for themselves.  Only unquoted
characters count; the other parts of a word go with it as they are. -/

namespace ShaderBuild.Shell.Brace

/-- A piece of a word: an unquoted character, or another part. -/
inductive Piece where
  | char (c : Char)
  | part (p : Part)

/-- Whether a piece is this character. -/
def Piece.is (p : Piece) (c : Char) : Bool :=
  match p with
  | .char d => d == c
  | .part _ => false

/-- The pieces of a word. -/
def piecesOf (w : Word) : List Piece :=
  w.flatMap fun
    | .text chars false => chars.toList.map .char
    | p => [.part p]

/-- The word that pieces make. -/
def wordOf (ps : List Piece) : Word :=
  ps.foldr (fun p rest =>
    match p, rest with
    | .char c, .text chars false :: more => .text (String.ofList (c :: chars.toList)) false :: more
    | .char c, rest => .text c.toString false :: rest
    | .part p, rest => p :: rest) []

/-- The pieces up to the brace that closes one opened before them, with a comma or two points on the
way outside of other braces, and the pieces after it; `depth` braces are open. -/
def upToClosing : (depth : Nat) → (divided : Bool) → List Piece → List Piece →
    Option (List Piece × List Piece)
  | _, _, _, [] => none
  | depth, divided, before, p :: rest =>
    if p.is '\x7d' && depth = 0 && divided then some (before.reverse, rest)
    else
      let depth' := if p.is '\x7b' then depth + 1 else if p.is '\x7d' then depth - 1 else depth
      let divides := depth = 0
        && (p.is ',' || (p.is '.' && (rest.head?.map (·.is '.')).getD false
          && !(rest.tail.head?.map (·.is '\x7d')).getD false))
      upToClosing depth' (divided || divides) (p :: before) rest

/-- The first braces that stand for several texts: what comes before, between and after them.  An
opening brace at the front that is closed at once is passed over. -/
def firstBraces : (isFront : Bool) → List Piece → List Piece →
    Option (List Piece × List Piece × List Piece)
  | _, _, [] => none
  | isFront, before, p :: rest =>
    let closedAtOnce := isFront && (rest.head?.map (·.is '\x7d')).getD true
    match if p.is '\x7b' && !closedAtOnce then upToClosing 0 false [] rest else none with
    | some (inside, after) => some (before.reverse, inside, after)
    | none => firstBraces false (p :: before) rest

/-- The pieces between the commas outside of braces. -/
def alternatives : (depth : Nat) → List Piece → List Piece → List (List Piece)
  | _, current, [] => [current.reverse]
  | depth, current, p :: rest =>
    if p.is ',' && depth = 0 then current.reverse :: alternatives depth [] rest
    else
      let depth' := if p.is '\x7b' then depth + 1 else if p.is '\x7d' then depth - 1 else depth
      alternatives depth' (p :: current) rest

/-! ### Sequences -/

/-- The integer that a text of digits spells, perhaps with a sign. -/
def integerOf? (cs : List Char) : Option Int :=
  let (negative, ds) : Bool × List Char := match cs with
    | '-' :: ds => (true, ds)
    | '+' :: ds => (false, ds)
    | ds => (false, ds)
  if ds.isEmpty || !ds.all Char.isDigit then none
  else
    let n : Int := (ofDigits 10 (ds.filterMap digitValue) : Nat)
    some (if negative then -n else n)

/-- The members from one integer to another by steps of some size. -/
def members (first last step : Int) : List Int :=
  let size := if step = 0 then 1 else step.natAbs
  let count := (last - first).natAbs / size + 1
  (List.range count).map fun (i : Nat) =>
    let way : Int := ((i * size : Nat) : Int)
    if first ≤ last then first + way else first - way

/-- An integer with zeros before its digits up to a width, the sign included. -/
def zeroFilled (width : Nat) (n : Int) : List Char :=
  let ds := (Nat.repr n.natAbs).toList
  if n < 0 then '-' :: List.replicate (width - 1 - ds.length) '0' ++ ds
  else List.replicate (width - ds.length) '0' ++ ds

/-- Whether an end of a sequence is written with zeros that are to be kept. -/
def isFilled (cs : List Char) : Bool :=
  match cs with
  | '0' :: _ :: _ | '-' :: '0' :: _ :: _ => true
  | _ => false

/-- The texts between pairs of points. -/
def betweenPoints : List Char → List Char → List (List Char)
  | current, [] => [current.reverse]
  | current, '.' :: '.' :: cs => current.reverse :: betweenPoints [] cs
  | current, c :: cs => betweenPoints (c :: current) cs

/-- The members of a sequence, from its two ends and perhaps the size of its steps. -/
def sequence? (inside : List Piece) : Option (List (List Piece)) :=
  let chars := inside.filterMap fun
    | .char c => some c
    | .part _ => none
  if chars.length != inside.length then none
  else
    let ends? : Option (List Char × List Char × Int) := match betweenPoints [] chars with
      | [a, b] => some (a, b, 1)
      | [a, b, step] => (integerOf? step).map fun n => (a, b, n)
      | _ => none
    ends?.bind fun (a, b, step) =>
      match integerOf? a, integerOf? b, a, b with
      | some m, some n, _, _ =>
        let width := if isFilled a || isFilled b then max a.length b.length else 0
        some ((members m n step).map fun i => (zeroFilled width i).map .char)
      | none, none, [c], [d] =>
        if c.isAlpha && d.isAlpha then
          some ((members (c.toNat : Int) (d.toNat : Int) step).map fun i => [.char (Char.ofNat i.toNat)])
        else none
      | _, _, _, _ => none

/-! ### Words -/

/-- The words that pieces stand for, with braces at most `n` inside or after each other. -/
def expandPieces : Nat → List Piece → List (List Piece)
  | 0, ps => [ps]
  | n + 1, ps =>
    match firstBraces true [] ps with
    | none => [ps]
    | some (before, inside, after) =>
      let rest := if after.isEmpty then [[]] else expandPieces n after
      let middles : List (List Piece) :=
        if inside.any (·.is ',') then (alternatives 0 [] inside).flatMap (expandPieces n)
        else
          match sequence? inside with
          | some ms => ms
          | none => [.char '\x7b' :: inside ++ [.char '\x7d']]
      middles.flatMap fun middle => rest.map fun after => before ++ middle ++ after

/-- The words that a word stands for. -/
def expand (w : Word) : List Word :=
  let ps := piecesOf w
  if ps.any (·.is '\x7b') then (expandPieces (ps.length + 1) ps).map wordOf else [w]

end ShaderBuild.Shell.Brace
