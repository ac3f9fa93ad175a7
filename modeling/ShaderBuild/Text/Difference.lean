/-! # Differences between two texts

Which lines of two texts are not common to both.  A shortest way from one text to the other is found
by a search from both ends that meets in the middle, so that the two halves can be searched alone.
Runs of changed lines are then moved as far down as the lines allow, and joined where they meet. -/

namespace ShaderBuild.Difference

/-! ### A shortest way -/

/-- Two texts as arrays of lines. -/
structure Pair where
  old : Array String
  new : Array String

namespace Pair

/-- Whether a line of one text is a line of the other. -/
def same (p : Pair) (x y : Nat) : Bool :=
  p.old.getD x "" == p.new.getD y ""

/-- How many lines are the same from a place on, at most `n`. -/
def commonFrom (p : Pair) (x y : Nat) : Nat → Nat
  | 0 => 0
  | n + 1 => if p.same x y then p.commonFrom (x + 1) (y + 1) n + 1 else 0

/-- How many lines are the same before a place, at most `n`. -/
def commonBefore (p : Pair) (x y : Nat) : Nat → Nat
  | 0 => 0
  | n + 1 => if p.same (x - 1) (y - 1) then p.commonBefore (x - 1) (y - 1) n + 1 else 0

end Pair

/-- A part of each text. -/
structure Box where
  left : Nat
  right : Nat
  top : Nat
  bottom : Nat

/-- How far a search has come on each diagonal between `low` and `high`. -/
structure Front where
  places : Array Int
  low : Int
  high : Int
  /-- The index of the diagonal 0. -/
  origin : Nat

namespace Front

/-- How far the search has come on a diagonal. -/
def reached (f : Front) (d : Int) : Int :=
  f.places.getD (d + f.origin).toNat 0

/-- The search has come to `x` on a diagonal. -/
def reach (f : Front) (d x : Int) : Front :=
  { f with places := f.places.setIfInBounds (d + f.origin).toNat x }

/-- A search that stands at one place. -/
def start (size origin : Nat) (d x : Int) : Front :=
  reach { places := Array.replicate size 0, low := d, high := d, origin } d x

/-- Let the search go on to one diagonal more on each side, unless these lie outside; nothing was
reached beyond them, which `nothing` stands for. -/
def widen (f : Front) (least most nothing : Int) : Front :=
  let f := if least < f.low then
      Front.reach { f with low := f.low - 1 } (f.low - 2) nothing
    else { f with low := f.low + 1 }
  if f.high < most then Front.reach { f with high := f.high + 1 } (f.high + 2) nothing
  else { f with high := f.high - 1 }

/-- Whether a diagonal is among those searched. -/
def covers (f : Front) (d : Int) : Bool :=
  f.low ≤ d && d ≤ f.high

end Front

namespace Pair

/-- One step of the search from the front on the diagonals from `d` down; the place where it meets
the other search. -/
def stepDown (p : Pair) (b : Box) (meets : Int → Int → Bool) :
    Nat → Int → Front → Front × Option (Int × Int)
  | 0, _, f => (f, none)
  | n + 1, d, f =>
    if d < f.low then (f, none)
    else
      let below := f.reached (d - 1)
      let above := f.reached (d + 1)
      let x := if below < above then above else below + 1
      let y := x - d
      let room := min ((b.right : Int) - x).toNat ((b.bottom : Int) - y).toNat
      let x := x + p.commonFrom x.toNat y.toNat room
      let f := f.reach d x
      if meets d x then (f, some (x, x - d)) else p.stepDown b meets n (d - 2) f

/-- One step of the search from the end. -/
def stepUp (p : Pair) (b : Box) (meets : Int → Int → Bool) :
    Nat → Int → Front → Front × Option (Int × Int)
  | 0, _, f => (f, none)
  | n + 1, d, f =>
    if d < f.low then (f, none)
    else
      let below := f.reached (d - 1)
      let above := f.reached (d + 1)
      let x := if below < above then below else above - 1
      let y := x - d
      let room := min (x - b.left).toNat (y - b.top).toNat
      let x := x - p.commonBefore x.toNat y.toNat room
      let f := f.reach d x
      if meets d x then (f, some (x, x - d)) else p.stepUp b meets n (d - 2) f

/-- Search from both ends in turn, at most `n` times, until the searches meet. -/
def meeting (p : Pair) (b : Box) : Nat → Front → Front → Option (Int × Int)
  | 0, _, _ => none
  | n + 1, front, back =>
    let least : Int := b.left - b.bottom
    let most : Int := b.right - b.top
    let odd := ((b.left : Int) - b.top - (b.right - b.bottom)) % 2 != 0
    let front := front.widen least most (-1)
    let size := p.old.size + p.new.size + 2
    match p.stepDown b (fun d x => odd && back.covers d && back.reached d ≤ x) size front.high front with
    | (_, some found) => some found
    | (front, none) =>
      let back := back.widen least most (size + 1)
      match p.stepUp b (fun d x => !odd && front.covers d && x ≤ front.reached d) size back.high back with
      | (_, some found) => some found
      | (back, none) => p.meeting b n front back

end Pair

/-- Which lines of each text are changed. -/
structure Marks where
  old : Array Bool
  new : Array Bool

namespace Marks

/-- Mark lines from one place to another as changed. -/
def mark (marks : Array Bool) (start stop : Nat) : Array Bool :=
  (List.range (stop - start)).foldl (fun m i => m.setIfInBounds (start + i) true) marks

end Marks

/-- Mark the changed lines of a part; the parts of a part are handled `n` deep. -/
def Pair.compare (p : Pair) : Nat → Box → Marks → Marks
  | 0, _, m => m
  | n + 1, b, m =>
    let front := p.commonFrom b.left b.top (min (b.right - b.left) (b.bottom - b.top))
    let b := { b with left := b.left + front, top := b.top + front }
    let back := p.commonBefore b.right b.bottom (min (b.right - b.left) (b.bottom - b.top))
    let b := { b with right := b.right - back, bottom := b.bottom - back }
    if b.left == b.right then { m with new := Marks.mark m.new b.top b.bottom }
    else if b.top == b.bottom then { m with old := Marks.mark m.old b.left b.right }
    else
      let size := p.old.size + p.new.size + 3
      let origin := p.new.size + 1
      match p.meeting b size (.start size origin ((b.left : Int) - b.top) b.left)
          (.start size origin ((b.right : Int) - b.bottom) b.right) with
      | none => m
      | some (x, y) =>
        p.compare n { b with left := x.toNat, top := y.toNat }
          (p.compare n { b with right := x.toNat, bottom := y.toNat } m)

/-! ### Lines without a partner -/

/-- The places of the lines that the other text has too. -/
def partnered (xs ys : Array String) : Array Nat :=
  ((List.range xs.size).filter fun i => ys.contains (xs.getD i "")).toArray

/-- Which lines are changed, before runs of them are moved. -/
def Pair.rough (p : Pair) : Marks :=
  let olds := partnered p.old p.new
  let news := partnered p.new p.old
  let inner : Pair :=
    { old := olds.map fun i => p.old.getD i "", new := news.map fun i => p.new.getD i "" }
  let m := inner.compare (olds.size + news.size + 1) ⟨0, olds.size, 0, news.size⟩
    { old := Array.replicate olds.size false, new := Array.replicate news.size false }
  let back (size : Nat) (places : Array Nat) (marks : Array Bool) : Array Bool :=
    (List.range places.size).foldl
      (fun all i => all.setIfInBounds (places.getD i 0) (marks.getD i false))
      (Array.replicate size true)
  { old := back p.old.size olds m.old, new := back p.new.size news m.new }

/-! ### Moving runs of changed lines -/

/-- Whether a line is changed; there is none outside the text. -/
def isChanged (marks : Array Bool) (i : Int) : Bool :=
  0 ≤ i && marks.getD i.toNat false

/-- A run of changed lines and the place in the other text that goes with its end. -/
structure Run where
  marks : Array Bool
  start : Int
  stop : Int
  partner : Int
  /-- Where the run ends beside a run of the other text. -/
  beside : Option Int := none

/-- The first place from `i` on, going up or down, whose line is not changed. -/
def unchangedFrom (marks : Array Bool) (step : Int) : Nat → Int → Int
  | 0, i => i
  | n + 1, i => if isChanged marks i then unchangedFrom marks step n (i + step) else i

namespace Run

/-- Move a run up while the line before it is the same as its last one. -/
def moveUp (lines : Array String) (other : Array Bool) : Nat → Run → Run
  | 0, r => r
  | n + 1, r =>
    if 0 < r.start && lines.getD (r.start - 1).toNat "" == lines.getD (r.stop - 1).toNat "" then
      let marks := (r.marks.setIfInBounds (r.start - 1).toNat true).setIfInBounds
        (r.stop - 1).toNat false
      let start := unchangedFrom marks (-1) lines.size (r.start - 2) + 1
      moveUp lines other n
        { r with marks, start, stop := r.stop - 1,
                 partner := unchangedFrom other (-1) other.size (r.partner - 1) }
    else r

/-- Move a run down while its first line is the same as the line after it. -/
def moveDown (lines : Array String) (other : Array Bool) : Nat → Run → Run
  | 0, r => r
  | n + 1, r =>
    if r.stop < lines.size && lines.getD r.start.toNat "" == lines.getD r.stop.toNat "" then
      let marks := (r.marks.setIfInBounds r.start.toNat false).setIfInBounds r.stop.toNat true
      let stop := unchangedFrom marks 1 lines.size (r.stop + 1)
      let partner := unchangedFrom other 1 other.size (r.partner + 1)
      let beside := if isChanged other (r.partner + 1) then some stop else r.beside
      moveDown lines other n { marks, start := r.start + 1, stop, partner, beside }
    else r

/-- Move a run up and down until it has joined all the runs it can. -/
def settle (lines : Array String) (other : Array Bool) : Nat → Run → Run
  | 0, r => r
  | n + 1, r =>
    let length := r.stop - r.start
    let up := r.moveUp lines other lines.size
    let up := { up with beside := if isChanged other (up.partner - 1) then some up.stop else none }
    let down := up.moveDown lines other lines.size
    if down.stop - down.start == length then down else settle lines other n down

/-- Move a run back up to where it ended beside a run of the other text. -/
def comeBack (other : Array Bool) : Nat → Run → Run
  | 0, r => r
  | n + 1, r =>
    match r.beside with
    | none => r
    | some place =>
      if place < r.stop then
        let marks := (r.marks.setIfInBounds (r.start - 1).toNat true).setIfInBounds
          (r.stop - 1).toNat false
        comeBack other n
          { r with marks, start := r.start - 1, stop := r.stop - 1,
                   partner := unchangedFrom other (-1) other.size (r.partner - 1) }
      else r

end Run

/-- Move the runs of changed lines from `i` on; `j` is the place in the other text. -/
def moveRuns (lines : Array String) (other : Array Bool) :
    Nat → Int → Int → Array Bool → Array Bool
  | 0, _, _, marks => marks
  | n + 1, i, j, marks =>
    if lines.size ≤ i then marks
    else if isChanged marks i then
      let stop := unchangedFrom marks 1 lines.size i
      let partner := unchangedFrom other 1 other.size j
      let r := Run.comeBack other lines.size
        (Run.settle lines other (lines.size + 1) { marks, start := i, stop, partner })
      moveRuns lines other n r.stop r.partner r.marks
    else moveRuns lines other n (i + 1) (unchangedFrom other 1 other.size j + 1) marks

/-- Which lines of the two texts are changed. -/
def Pair.marks (p : Pair) : Marks :=
  let m := p.rough
  let old := moveRuns p.old m.new (2 * p.old.size + 1) 0 0 m.old
  { old, new := moveRuns p.new old (2 * p.new.size + 1) 0 0 m.new }

/-! ### Changes -/

/-- A change: lines of the old text are replaced by lines of the new one. -/
structure Change where
  oldStart : Nat
  oldCount : Nat
  newStart : Nat
  newCount : Nat

/-- The number of changed lines from a place on. -/
def runLength (marks : Array Bool) (i : Nat) : Nat :=
  (unchangedFrom marks 1 marks.size i).toNat - i

/-- The changes from two places on, at most `n` steps. -/
def changesFrom (m : Marks) : Nat → Nat → Nat → List Change
  | 0, _, _ => []
  | n + 1, i, j =>
    if m.old.size ≤ i && m.new.size ≤ j then []
    else
      let gone := runLength m.old i
      let come := runLength m.new j
      if gone == 0 && come == 0 then changesFrom m n (i + 1) (j + 1)
      else ⟨i, gone, j, come⟩ :: changesFrom m n (i + gone) (j + come)

/-- The changes that lead from one text to another.  Lines are the same if `key` makes them so.  The
lines that the texts begin and end with in common are left out before, but for `around` of them. -/
def changes (key : String → String) (around : Nat) (old new : Array String) : List Change :=
  let p : Pair := { old, new }
  let front := p.commonFrom 0 0 (min old.size new.size) - around
  let back := p.commonBefore old.size new.size (min old.size new.size - front) - around
  let inner : Pair :=
    { old := (old.extract front (old.size - back)).map key
      new := (new.extract front (new.size - back)).map key }
  (changesFrom inner.marks (old.size + new.size + 1) 0 0).map fun c =>
    { c with oldStart := c.oldStart + front, newStart := c.newStart + front }

end ShaderBuild.Difference
