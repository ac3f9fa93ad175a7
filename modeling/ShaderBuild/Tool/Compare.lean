import ShaderBuild.Text.Difference
import ShaderBuild.Tool.Lines

/-! # Comparing files

The tools `cmp`, which looks for the first byte that differs, and `diff`, which prints the lines
that lead from one file to the other. -/

namespace ShaderBuild.Tool

/-- Refuse the arguments with the name of the tool before each line. -/
def refuseNamed (status : UInt8) (text : String) : Work Unit := do
  complain status text
  warn ("Try '" ++ (← read).name ++ " --help' for more information.")

/-! ### Bytes -/

/-- The position of the first difference, from 1 on. -/
def firstDifference : Nat → List Char → List Char → Option Nat
  | n, a :: as, b :: bs => if a == b then firstDifference (n + 1) as bs else some n
  | _, _, _ => none

/-- Each difference: its position and the two bytes. -/
def byteDifferences : Nat → List Char → List Char → List (Nat × Nat × Nat)
  | n, a :: as, b :: bs =>
    if a == b then byteDifferences (n + 1) as bs
    else (n, a.toNat, b.toNat) :: byteDifferences (n + 1) as bs
  | _, _, _ => []

/-- A byte by its octal digits. -/
def octalByte (n : Nat) : String :=
  atRight 3 (String.ofList (Nat.toDigits 8 n))

/-- Where the shorter file ends. -/
def endPlace (cs : List Char) : String :=
  let lines := cs.count '\n'
  if cs.getLast? == some '\n' then "line " ++ Nat.repr lines
  else "in line " ++ Nat.repr (lines + 1)

/-- The tool `cmp`. -/
def compareTool : Routine := do
  let table : OptionTable :=
    { flags := "bls", valued := "in"
      long := [("silent", 's'), ("quiet", 's'), ("verbose", 'l'), ("print-bytes", 'b'),
        ("bytes", 'n'), ("ignore-initial", 'i')] }
  let args := (← read).args
  match table.readFrom (args.length + 1) args with
  | .error text => refuseNamed 2 text
  | .ok o =>
    match o.operands with
    | [] => refuseNamed 2 "missing operand after 'cmp'"
    | a :: more =>
      let b := more.headD "-"
      let skips := ((o.value? 'i').getD "0").toList
      let number (cs : List Char) : Nat := ((String.ofList cs).toNat?).getD 0
      let skip (place : Nat) (ifNone : Nat) : Nat :=
        ((more[place]?).map fun s => number s.toList).getD ifNone
      let skipA := skip 1 (number (skips.takeWhile (· != ':')))
      let skipB := skip 2 (number (match skips.dropWhile (· != ':') with
        | _ :: cs => cs
        | [] => skips))
      let limit (cs : List Char) : List Char :=
        match o.value? 'n' with
        | some n => cs.take (number n.toList)
        | none => cs
      match ← operand a, ← operand b with
      | .error e, _ => if o.has 's' then fail 2 else complain 2 (a ++ ": " ++ e.reason)
      | _, .error e => if o.has 's' then fail 2 else complain 2 (b ++ ": " ++ e.reason)
      | .ok x, .ok y =>
        let s := limit ((rawContent x).toList.drop skipA)
        let t := limit ((rawContent y).toList.drop skipB)
        let shorter := if s.length < t.length then some (a, s)
          else if t.length < s.length then some (b, t) else none
        let differences := byteDifferences 1 s t
        if !differences.isEmpty || shorter.isSome then fail 1
        if !o.has 's' then
          if o.has 'l' then
            let width := (Nat.repr (min s.length t.length)).length
            differences.forM fun (n, p, q) =>
              let shown (c : Nat) : String :=
                if o.has 'b' then " " ++ atLeft 4 (String.ofList (marked (Char.ofNat c))) else ""
              say (rightAligned width n ++ " " ++ octalByte p ++ shown p ++ " " ++ octalByte q
                ++ (if o.has 'b' then " " ++ String.ofList (marked (Char.ofNat q)) else "") ++ "\n")
          else if let (n, p, q) :: _ := differences then
            let line := ", line " ++ Nat.repr ((s.take (n - 1)).count '\n' + 1)
            let shown (c : Nat) : String :=
              octalByte c ++ " " ++ String.ofList (marked (Char.ofNat c))
            say (a ++ " " ++ b ++ " differ: " ++ (if o.has 'b' then "byte " else "char ") ++ Nat.repr n
              ++ line ++ (if o.has 'b' then " is " ++ shown p ++ " " ++ shown q else "") ++ "\n")
          if o.has 'l' || differences.isEmpty then
            if let some (short, cs) := shorter then
              if cs.isEmpty then warn ("EOF on " ++ short ++ " which is empty")
              else
                warn ("EOF on " ++ short ++ " after byte " ++ Nat.repr cs.length
                  ++ (if o.has 'l' then "" else ", " ++ endPlace cs))

/-! ### Lines -/

/-- How lines are compared and changes are printed. -/
structure DiffManner where
  foldCase : Bool := false
  /-- Blanks do not count at all. -/
  noBlanks : Bool := false
  /-- Each run of blanks counts as one, and none at the end. -/
  fewBlanks : Bool := false
  /-- Changes of empty lines do not count. -/
  noEmpty : Bool := false
  text : Bool := false
  brief : Bool := false
  sayEqual : Bool := false
  deep : Bool := false
  asEmpty : Bool := false
  /-- How many lines are shown around changes; by none the changes stand alone. -/
  context : Option Nat := none
  labels : List String := []
  /-- The options as they were written. -/
  written : String := ""

/-- A text with each run of blanks as one. -/
def fewerBlanks : List Char → List Char
  | [] => []
  | c :: cs =>
    if isBlankChar c then
      match fewerBlanks cs with
      | [] => []
      | ' ' :: rest => ' ' :: rest
      | rest => ' ' :: rest
    else c :: fewerBlanks cs
where
  isBlankChar (c : Char) : Bool := c == ' ' || (9 ≤ c.toNat && c.toNat ≤ 13)

/-- What two lines must have in common to be the same; a line that ends is told from one that does
not, unless blanks are left out. -/
def DiffManner.key (m : DiffManner) (line : String) : String :=
  let cs := line.toList
  let cs := if m.foldCase then cs.map Char.toLower else cs
  if m.noBlanks then String.ofList (cs.filter fun c => !(fewerBlanks.isBlankChar c))
  else if m.fewBlanks then String.ofList (fewerBlanks cs)
  else String.ofList cs

/-- The lines of a text that changes are printed with. -/
def shownLines (mark : String) (lines : Array String) (start count : Nat) : String :=
  String.join ((List.range count).map fun i =>
    let line := lines.getD (start + i) ""
    mark ++ line ++ (if line.endsWith "\n" then "" else "\n\\ No newline at end of file\n"))

/-- A range of lines, the first and the last by their numbers. -/
def rangeText (start count : Nat) : String :=
  if 1 < count then Nat.repr (start + 1) ++ "," ++ Nat.repr (start + count)
  else Nat.repr (start + count)

/-- A change alone. -/
def changeText (old new : Array String) (c : Difference.Change) : String :=
  let letter := if c.oldCount == 0 then "a" else if c.newCount == 0 then "d" else "c"
  rangeText c.oldStart c.oldCount ++ letter ++ rangeText c.newStart c.newCount ++ "\n"
    ++ shownLines "< " old c.oldStart c.oldCount
    ++ (if letter == "c" then "---\n" else "")
    ++ shownLines "> " new c.newStart c.newCount

/-- The changes that stand so near to each other that they are shown together. -/
def hunks (context : Nat) (cs : List Difference.Change) : List (List Difference.Change) :=
  cs.splitBy fun a b => b.oldStart - (a.oldStart + a.oldCount) ≤ 2 * context

/-- A range of lines, its first line by its number, and their count. -/
def countedRange (start count : Nat) : String :=
  if count == 0 then Nat.repr start ++ ",0"
  else if count == 1 then Nat.repr (start + 1)
  else Nat.repr (start + 1) ++ "," ++ Nat.repr count

/-- Changes that are shown together. -/
def hunkText (context : Nat) (old new : Array String) (cs : List Difference.Change) : String :=
  match cs.head?, cs.getLast? with
  | some first, some last =>
    let front := min context first.oldStart
    let start := first.oldStart - front
    let newStart := first.newStart - front
    let stop := min old.size (last.oldStart + last.oldCount + context)
    let newStop := min new.size (last.newStart + last.newCount + context)
    let (text, place) := cs.foldl (fun (text, place) c =>
      (text ++ shownLines " " old place (c.oldStart - place)
        ++ shownLines "-" old c.oldStart c.oldCount
        ++ shownLines "+" new c.newStart c.newCount, c.oldStart + c.oldCount)) ("", start)
    "@@ -" ++ countedRange start (stop - start) ++ " +" ++ countedRange newStart (newStop - newStart)
      ++ " @@\n" ++ text ++ shownLines " " old place (stop - place)
  | _, _ => ""

/-- Whether a content is not text. -/
def looksBinary (content : ByteArray) : Bool :=
  content.data.contains 0

/-- Print the changes between two contents. -/
def sayChanges (m : DiffManner) (a b : String) (x y : ByteArray) : Work Unit := do
  if x.data == y.data then
    if m.sayEqual then say ("Files " ++ a ++ " and " ++ b ++ " are identical\n")
  else if !m.text && (looksBinary x || looksBinary y) then
    fail 1
    say ((if m.brief then "Files " else "Binary files ") ++ a ++ " and " ++ b ++ " differ\n")
  else
    let old := (linesWithEnds (rawContent x)).toArray
    let new := (linesWithEnds (rawContent y)).toArray
    let changes := (Difference.changes m.key (m.context.getD 0) old new).filter fun c =>
      !(m.noEmpty && (List.range c.oldCount).all (fun i => old.getD (c.oldStart + i) "" == "\n")
        && (List.range c.newCount).all (fun i => new.getD (c.newStart + i) "" == "\n"))
    if changes.isEmpty then
      if m.sayEqual then say ("Files " ++ a ++ " and " ++ b ++ " are identical\n")
    else
      fail 1
      if m.brief then say ("Files " ++ a ++ " and " ++ b ++ " differ\n")
      else
        if !m.written.isEmpty then say (m.written ++ " " ++ a ++ " " ++ b ++ "\n")
        match m.context with
        | none => say (String.join (changes.map (changeText old new)))
        | some context =>
          say ("--- " ++ (m.labels[0]?).getD a ++ "\n+++ " ++ (m.labels[1]?).getD b ++ "\n")
          say (String.join ((hunks context changes).map (hunkText context old new)))

/-- The content of a file to compare; with `asEmpty` a missing file is empty. -/
def compared (m : DiffManner) (arg : String) : Work (Except FileFault ByteArray) := do
  match ← operand arg with
  | .error .notFound => if m.asEmpty then return .ok .empty else return .error .notFound
  | r => return r

/-- Compare two files. -/
def diffFiles (m : DiffManner) (a b : String) : Work Unit := do
  match ← compared m a, ← compared m b with
  | .ok x, .ok y => sayChanges m a b x y
  | r, s =>
    if let .error e := r then complain 2 (a ++ ": " ++ e.reason)
    if let .error e := s then complain 2 (b ++ ": " ++ e.reason)

/-- What a file is called when it is compared with one of another kind. -/
def kindText (files : FileTree) (arg : String) : String :=
  match files.find (pathOf arg) with
  | .ok (_, .dir _ _) => "directory"
  | .ok (_, .file n) =>
    if (files.body? n).all fun b => b.content.isEmpty then "regular empty file" else "regular file"
  | _ => "regular file"

/-- A name in a directory. -/
def within (dir name : String) : String :=
  if dir.endsWith "/" then dir ++ name else dir ++ "/" ++ name

/-- Compare two directories, and those in them at most `n` deep. -/
def diffDirs (m : DiffManner) : Nat → String → String → Work Unit
  | 0, _, _ => pure ()
  | n + 1, a, b => do
    let files ← tree
    let xs := (files.namesAt (pathOf a)).map raw
    let ys := (files.namesAt (pathOf b)).map raw
    let names := (xs ++ ys.filter fun y => !xs.contains y).mergeSort (fun s t => s ≤ t)
    names.forM fun name => do
      if !ys.contains name then
        say ("Only in " ++ a ++ ": " ++ name ++ "\n")
        fail 1
      else if !xs.contains name then
        say ("Only in " ++ b ++ ": " ++ name ++ "\n")
        fail 1
      else
        let p := within a name
        let q := within b name
        match files.isDir (pathOf p), files.isDir (pathOf q) with
        | true, true =>
          if m.deep then diffDirs m n p q
          else say ("Common subdirectories: " ++ p ++ " and " ++ q ++ "\n")
        | false, false => diffFiles m p q
        | _, _ =>
          fail 1
          say ("File " ++ p ++ " is a " ++ kindText files p ++ " while file " ++ q ++ " is a "
            ++ kindText files q ++ "\n")

/-- The tool `diff`. -/
def diffTool : Routine := do
  let table : OptionTable :=
    { flags := "aBbdeiNnpqrsTtuwc0123456789", valued := "ULIxS"
      long := [("brief", 'q'), ("report-identical-files", 's'), ("unified", 'u'), ("recursive", 'r'),
        ("new-file", 'N'), ("ignore-case", 'i'), ("ignore-all-space", 'w'),
        ("ignore-space-change", 'b'), ("ignore-blank-lines", 'B'), ("text", 'a'), ("label", 'L'),
        ("minimal", 'd'), ("normal", 'T')] }
  let args := (← read).args
  match table.readFrom (args.length + 1) args with
  | .error text => refuseNamed 2 text
  | .ok o =>
    let options := args.filter fun s => s.startsWith "-" && s != "-" && s != "--"
    let digits := String.ofList ((o.given.map Prod.fst).filter Char.isDigit)
    let m : DiffManner :=
      { foldCase := o.has 'i', noBlanks := o.has 'w', fewBlanks := o.has 'b', noEmpty := o.has 'B'
        text := o.has 'a', brief := o.has 'q', sayEqual := o.has 's', deep := o.has 'r'
        asEmpty := o.has 'N'
        labels := o.given.filterMap fun x => if x.1 == 'L' then some x.2 else none
        context := match (o.value? 'U').bind String.toNat?, o.has 'u', digits.toNat? with
          | some n, _, _ => some n
          | none, true, some n => some n
          | none, true, none => some 3
          | none, false, _ => none }
    match o.operands with
    | [] => refuseNamed 2 "missing operand after 'diff'"
    | [a] => refuseNamed 2 ("missing operand after '" ++ a ++ "'")
    | [a, b] =>
      let files ← tree
      match files.isDir (pathOf a), files.isDir (pathOf b) with
      | true, true =>
        let written := " ".intercalate ("diff" :: options)
        diffDirs { m with written } 100 a b
      | true, false => diffFiles m (within a (lastName b)) b
      | false, true => diffFiles m a (within b (lastName a))
      | false, false => diffFiles m a b
    | _ :: _ :: c :: _ => refuseNamed 2 ("extra operand '" ++ c ++ "'")

end ShaderBuild.Tool
