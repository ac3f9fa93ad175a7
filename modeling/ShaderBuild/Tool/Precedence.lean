import ShaderBuild.Tool.Lines

/-! # Orders that pairs ask for

`tsort` reads pairs of words, of which the first is to come before the second, and prints the words
in an order that keeps to that.  Where the pairs lead round in a circle, one of them is given
up. -/

namespace ShaderBuild.Tool

/-- What is known about a word. -/
structure Ranked where
  word : String
  /-- How many words that are to come before it have not been printed. -/
  waits : Nat := 0
  /-- The words that come after it, the latest pair first. -/
  after : List String := []
  /-- The word that comes after it on the circle that is being looked for. -/
  link : Option String := none
  printed : Bool := false

namespace Ranked

/-- Change what is known about a word. -/
def alter (word : String) (f : Ranked → Ranked) (all : List Ranked) : List Ranked :=
  all.map fun x => if x.word == word then f x else x

/-- What is known about a word. -/
def of? (word : String) (all : List Ranked) : Option Ranked :=
  all.find? fun x => x.word == word

/-- Take a pair into account. -/
def addPair (all : List Ranked) (pair : String × String) : List Ranked :=
  if pair.1 == pair.2 then all
  else
    alter pair.2 (fun x => { x with waits := x.waits + 1 })
      (alter pair.1 (fun x => { x with after := pair.2 :: x.after }) all)

/-- The words in the order of their bytes, and what pairs say about them. -/
def ofPairs (pairs : List (String × String)) : List Ranked :=
  let words := (pairs.flatMap fun p => [p.1, p.2]).mergeSort fun a b =>
    (List.compareLex compare (unraw a) (unraw b)).isLE
  pairs.foldl addPair (words.eraseDups.map fun word => { word })

/-- Print words that wait for none and those that come free then, at most `n` of them. -/
def release : Nat → (ready : List String) → List Ranked → List String × List Ranked
  | 0, _, all | _, [], all => ([], all)
  | n + 1, word :: ready, all =>
    let after := ((of? word all).map Ranked.after).getD []
    let all := alter word (fun x => { x with printed := true }) all
    let (free, all) := after.foldl (fun ((free, all) : List String × List Ranked) next =>
      let all := alter next (fun x => { x with waits := x.waits - 1 }) all
      if (of? next all).any fun x => x.waits == 0 then (free ++ [next], all) else (free, all))
      ([], all)
    let (out, all) := release n (ready ++ free) all
    (word :: out, all)

/-- The words on a circle from one of them to another, at most `n`. -/
def circle (all : List Ranked) (last : String) : Nat → String → List String
  | 0, _ => []
  | n + 1, word =>
    if word == last then [word]
    else word :: (((of? word all).bind Ranked.link).map (circle all last n)).getD []

/-- Look at a word while looking for a circle that leads to `goal`: the circle if it is found, and
otherwise where to go on from. -/
def inspect (all : List Ranked) (goal : Option String) (word : String) :
    List Ranked × Option String × Option (List String) :=
  match of? word all, goal with
  | some x, none => (all, if 0 < x.waits then some word else none, none)
  | some x, some goal =>
    if x.waits = 0 || !x.after.contains goal then (all, some goal, none)
    else if x.link.isSome then
      let found := circle all word (all.length + 1) goal
      let all := alter word (fun x => { x with after := x.after.erase goal }) all
      let all := alter goal (fun x => { x with waits := x.waits - 1 }) all
      (all.map fun x => { x with link := none }, none, some found)
    else (alter word (fun x => { x with link := some goal }) all, some word, none)
  | none, goal => (all, goal, none)

/-- Look for a circle, going through all words at most `n` times. -/
def findCircle : Nat → (goal : Option String) → List Ranked → List Ranked × List String
  | 0, _, all => (all, [])
  | n + 1, goal, all =>
    let (all, goal, found) := all.foldl
      (fun ((now, goal, found) : List Ranked × Option String × Option (List String)) x =>
        if found.isSome then (now, goal, found) else inspect now goal x.word) (all, goal, none)
    match found, goal with
    | some words, _ => (all, words)
    | none, some goal => findCircle n (some goal) all
    | none, none => (all, [])

/-- Print all words, giving up at most `n` pairs. -/
def printAll (name : String) : Nat → List Ranked → Work Unit
  | 0, _ => pure ()
  | n + 1, all => do
    let ready := (all.filter fun x => x.waits == 0 && !x.printed).map Ranked.word
    let (out, all) := release all.length ready all
    sayLines out
    if all.any fun x => !x.printed then
      let (all, words) := findCircle (all.length + 2) none all
      complain 1 (quotedIfNeeded name ++ ": input contains a loop:")
      words.forM warn
      if !words.isEmpty then printAll name n all

end Ranked

/-- Words as pairs; none if one is left over. -/
def pairsOf? : List String → Option (List (String × String))
  | a :: b :: rest => (pairsOf? rest).map ((a, b) :: ·)
  | [_] => none
  | [] => some []

/-- The tool `tsort`. -/
def precedenceTool : Routine :=
  withOptions {} 1 fun o => do
    match o.operands with
    | _ :: extra :: _ => refuse 1 ("extra operand " ++ quoted extra)
    | operands =>
      let name := operands.headD "-"
      match ← operand name with
      | .error .isDirectory => complain 1 (quotedIfNeeded name ++ ": read error: Is a directory")
      | .error e => complain 1 (quotedIfNeeded name ++ ": " ++ e.reason)
      | .ok content =>
        let words := (pieces (fun c => c == ' ' || c == '\t' || c == '\n') (rawContent content).toList)
        let words := (words.filter fun w => !w.isEmpty).map String.ofList
        match pairsOf? words with
        | none => complain 1 (quotedIfNeeded name ++ ": input contains an odd number of tokens")
        | some pairs => Ranked.printAll name (pairs.length + 1) (Ranked.ofPairs pairs)

end ShaderBuild.Tool
