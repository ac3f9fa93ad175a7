import ShaderBuild.Tool.Lines
import ShaderBuild.Tool.Regex.Matching
import ShaderBuild.Tool.Transfer

/-! # Searching lines

`grep` prints the lines that match one of its expressions, from operands or from all files below
directories, with or without what stands around them. -/

namespace ShaderBuild.Tool

/-! ### Lines that match -/

/-- What counts as a match in a line. -/
inductive MatchScope where
  | anywhere
  | words
  | wholeLine
deriving DecidableEq, Repr

/-- The longest match at a place, within a scope. -/
def scopedMatch? (m : Regex.Matcher) (scope : MatchScope) (i : Nat) : Option Regex.Span :=
  let isWord (c : Option Char) : Bool := (c.map Regex.isWordChar).getD false
  let before : Option Char := if i == 0 then none else m.text[i - 1]?
  let stops : List Nat := if m.refersBack then
      ((m.at? i).map fun x => x.span.stop).toList
    else Regex.membersDown (m.program.reach m.text.size (1 <<< i)) m.text.size
  let stop := match scope with
    | .anywhere => stops.head?
    | .wholeLine => if i == 0 then stops.find? (· == m.text.size) else none
    | .words => if isWord before then none else stops.find? fun j => !isWord (m.text[j]?)
  stop.map fun j => ⟨i, j⟩

/-- The first and longest match of one of the expressions from a place on, looked for at `n`
places. -/
def firstMatch? (ms : List Regex.Matcher) (scope : MatchScope) : Nat → Nat → Option Regex.Span
  | 0, _ => none
  | n + 1, i =>
    let found := ms.filterMap fun m => scopedMatch? m scope i
    match found.foldl (fun best s => match best with
      | none => some s
      | some (b : Regex.Span) => some (if b.stop < s.stop then s else b)) none with
    | some s => some s
    | none => firstMatch? ms scope n (i + 1)

/-- The expressions made ready for a line; those that match nowhere are left out. -/
def readyFor (rs : List Regex) (c : Regex.Comparison) (line : List Char) : List Regex.Matcher :=
  (rs.map fun r => r.matcher c line).filter fun m =>
    m.refersBack
      || m.program.reach m.text.size (Regex.placesWhere (fun _ => true) (m.text.size + 1)) != 0

/-- Whether a line matches one of the expressions. -/
def lineMatches (rs : List Regex) (c : Regex.Comparison) (scope : MatchScope) (line : List Char) :
    Bool :=
  (firstMatch? (readyFor rs c line) scope (line.length + 1) 0).isSome

/-- All matches in a line that are not empty, at most `n` of them. -/
def allMatches (ms : List Regex.Matcher) (scope : MatchScope) (size : Nat) :
    Nat → Nat → List Regex.Span
  | 0, _ => []
  | n + 1, i =>
    match firstMatch? ms scope (size + 1 - i) i with
    | none => []
    | some s =>
      if s.start == s.stop then allMatches ms scope size n (s.stop + 1)
      else s :: allMatches ms scope size n s.stop

/-! ### How to search -/

/-- How lines are searched and printed. -/
structure SearchManner where
  regexes : List Regex
  comparison : Regex.Comparison
  scope : MatchScope
  inverted : Bool
  flags : List Char
  /-- Lines to print before and after a match. -/
  before : Nat := 0
  after : Nat := 0
  most : Option Nat := none
  named : Bool := false
  lineEnd : Char := '\n'

/-- Whether an option was given. -/
def SearchManner.has (m : SearchManner) (c : Char) : Bool :=
  m.flags.contains c

/-- A line, its number, where it begins, and whether it is selected. -/
structure SearchLine where
  text : String
  number : Nat
  offset : Nat
  selected : Bool

/-- Whether a line is near a selected one. -/
def nearSelected (m : SearchManner) (selected : List Nat) (n : Nat) : Bool :=
  selected.any fun s => (s ≤ n && n ≤ s + m.after) || (n < s && s ≤ n + m.before)

/-- The lines of a text, of which those up to the last that counts may be selected. -/
def searchLines (m : SearchManner) (text : String) : List SearchLine :=
  let ps := pieces (· == m.lineEnd) text.toList
  let ps := if ps.getLast? == some [] then ps.dropLast else ps
  let (found, _, _, _) := ps.foldl (fun (found, number, offset, count) line =>
    let counts := (m.most.map fun n => decide (count < n)).getD true
    let hit := counts && lineMatches m.regexes m.comparison m.scope line != m.inverted
    (⟨String.ofList line, number, offset, hit⟩ :: found, number + 1, offset + line.length + 1,
      if hit then count + 1 else count)) (([], 1, 0, 0) : List SearchLine × Nat × Nat × Nat)
  found.reverse

/-- Print the selected lines and those around them. -/
def sayFound (m : SearchManner) (title : String) (lines : List SearchLine) : Work Unit := do
  let selected := (lines.filter SearchLine.selected).map SearchLine.number
  let finish := m.lineEnd.toString
  let front (mark : String) (l : SearchLine) (offset : Nat) : String :=
    (if m.named then title ++ (if m.has 'Z' then (Char.ofNat 0).toString else mark) else "")
      ++ (if m.has 'n' then Nat.repr l.number ++ mark else "")
      ++ (if m.has 'b' then Nat.repr offset ++ mark else "")
  let context := 0 < m.before || 0 < m.after
  let shown := if context then lines.filter fun l => nearSelected m selected l.number
    else lines.filter SearchLine.selected
  let _ ← shown.foldlM (fun (last : Option Nat) l => do
    if context && (last.map fun n => decide (n + 1 < l.number)).getD false then say "--\n"
    if l.selected then
      if m.has 'o' then
        if !m.inverted then
          let cs := l.text.toList
          let spans := allMatches (readyFor m.regexes m.comparison cs) m.scope cs.length
            (cs.length + 1) 0
          spans.forM fun s =>
            say (front ":" l (l.offset + s.start) ++ String.ofList (s.chars cs.toArray) ++ finish)
      else say (front ":" l l.offset ++ l.text ++ finish)
    else if !m.has 'o' then say (front "-" l l.offset ++ l.text ++ finish)
    return some l.number) none

/-- Search one content; whether a line was selected. -/
def searchContent (m : SearchManner) (title : String) (content : ByteArray) : Work Bool := do
  let text := rawContent content
  let lines := searchLines m text
  let hits := (lines.filter SearchLine.selected).length
  let binary := !m.has 'a' && !m.has 'z' && content.data.contains 0
  let titleEnd := if m.has 'Z' then (Char.ofNat 0).toString else "\n"
  if binary && m.has 'I' then return false
  if m.has 'q' then pure ()
  else if m.has 'l' then
    if 0 < hits then say (title ++ titleEnd)
  else if m.has 'L' then
    if hits == 0 then say (title ++ titleEnd)
  else if m.has 'c' then
    say ((if m.named then title ++ ":" else "") ++ Nat.repr hits ++ "\n")
  else if binary then
    if 0 < hits then
      flush
      warn (title ++ ": binary file matches")
  else sayFound m title lines
  return 0 < hits

/-! ### Files -/

/-- Search one file, or all below a directory; nested at most `n` deep.  `inner` says that it was
found in a directory. -/
def searchPath (m : SearchManner) (wanted : String → Bool) : Nat → Bool → String → Work Bool
  | 0, _, _ => return false
  | n + 1, inner, arg => do
    let files ← tree
    let recursive := m.has 'r' || m.has 'R'
    let cannot (e : FileFault) : Work Bool := do
      if m.has 's' then fail 2 else complain 2 (arg ++ ": " ++ e.reason)
      return false
    if arg == "-" && !inner then
      match ← readInput with
      | .ok content => searchContent m "(standard input)" content
      | .error e =>
        complain 2 ("(standard input): " ++ e.reason)
        return false
    else if inner && !m.has 'R' && (files.linkTarget? (pathOf arg)).isSome then return false
    else
      match files.find (pathOf arg) with
      | .error e => if inner && m.has 'R' then return false else cannot e
      | .ok (_, .dir mode children) =>
        if !recursive then cannot .isDirectory
        else if !mode.mayRead then cannot .accessDenied
        else
          children.foldlM (fun found child => do
            let hit ← searchPath m wanted n true (inside arg (raw child.1))
            return found || hit) false
      | .ok (_, e) =>
        if inner && !wanted (lastName arg) then return false
        else
          let itself := match (← read).outputFile, e with
            | some out, .file body => out.body == body
            | _, _ => false
          if itself && !m.has 'q' && !m.has 'l' && !m.has 'L' then
            if m.has 's' then fail 2
            else complain 2 (arg ++ ": input file is also the output")
            return false
          else
            match ← contentAt arg with
            | .error e => cannot e
            | .ok content => searchContent m (shownName arg) content
where
  /-- Names below the working directory, if no operand was given, do without it. -/
  shownName (arg : String) : String :=
    if m.has 'W' && arg.startsWith "./" then String.ofList (arg.toList.drop 2) else arg

/-- The message that the usage of `grep` is explained with. -/
def searchUsage : String :=
  "Usage: grep [OPTION]... PATTERNS [FILE]...\nTry 'grep --help' for more information.\n"

/-- The options of `grep`. -/
def searchOptions : OptionTable :=
  { flags := "EFGHILPRabchilnoqrsvwxyzTUZ", valued := "ABCefm", glued := "KX"
    long := [("quiet", 'q'), ("silent", 'q'), ("count", 'c'), ("invert-match", 'v'),
      ("ignore-case", 'i'), ("line-number", 'n'), ("files-with-matches", 'l'),
      ("files-without-match", 'L'), ("extended-regexp", 'E'), ("fixed-strings", 'F'),
      ("basic-regexp", 'G'), ("perl-regexp", 'P'), ("word-regexp", 'w'), ("line-regexp", 'x'),
      ("regexp", 'e'), ("file", 'f'), ("only-matching", 'o'), ("no-messages", 's'),
      ("no-filename", 'h'), ("with-filename", 'H'), ("max-count", 'm'), ("recursive", 'r'),
      ("dereference-recursive", 'R'), ("text", 'a'), ("null", 'Z'), ("null-data", 'z'),
      ("byte-offset", 'b'), ("after-context", 'A'), ("before-context", 'B'), ("context", 'C'),
      ("include", 'K'), ("exclude", 'X'), ("color", 'U'), ("colour", 'U')] }

/-- Whether a name matches a pattern of `--include`, in which only stars and question marks are
special. -/
def nameMatches : Nat → List Char → List Char → Bool
  | 0, _, _ => false
  | _, [], [] => true
  | _, [], _ => false
  | n + 1, '*' :: ps, cs =>
    nameMatches n ps cs || match cs with
      | [] => false
      | _ :: rest => nameMatches n ('*' :: ps) rest
  | _, _ :: _, [] => false
  | n + 1, p :: ps, c :: cs => (p == '?' || p == c) && nameMatches n ps cs

/-- The tool `grep`; `letter` is an option that is always given. -/
def grepTool (letter : Option Char) : Routine := do
  let args := (← read).args.flatMap fun a =>
    match a.toList with
    | '-' :: c :: cs => if (c :: cs).all Char.isDigit then ["-C", String.ofList (c :: cs)] else [a]
    | _ => [a]
  match searchOptions.readFrom (args.length + 1) args with
  | .error text =>
    complain 2 text
    emit 2 (contentOf searchUsage)
  | .ok o =>
    let o := { o with given := (letter.map fun c => (c, "")).toList ++ o.given }
    let fromFiles ← (o.given.filter fun x => x.1 == 'f').mapM fun x => do
      match ← operand x.2 with
      | .ok content => return some (linesOf (rawContent content))
      | .error e =>
        complain 2 (x.2 ++ ": " ++ e.reason)
        return none
    let split (p : String) : List String := (pieces (· == '\n') p.toList).map String.ofList
    let direct := (o.given.filter fun x => x.1 == 'e').flatMap fun x => split x.2
    let isGiven := o.given.any fun x => x.1 == 'e' || x.1 == 'f'
    if fromFiles.any Option.isNone then pure ()
    else if !isGiven && o.operands.isEmpty then
      emit 2 (contentOf searchUsage)
      fail 2
    else
      let patterns := if isGiven then direct ++ (fromFiles.filterMap id).flatten
        else split (o.operands.headD "")
      let operands := if isGiven then o.operands else o.operands.tail
      let kind := (o.given.reverse.find? fun x => "EFGP".toList.contains x.1).map Prod.fst
      let flavor : RegexFlavor :=
        { extended := kind == some 'E' || kind == some 'P', lenient := true, escapes := kind == some 'P' }
      let expressions := patterns.map fun p =>
        if kind == some 'F' then .ok (Regex.literal p.toList)
        else (Regex.parse flavor p.toList).map Regex.Read.regex
      match expressions.findSome? fun x => match x with | .error e => some e | .ok _ => none with
      | some text => complain 2 text
      | none =>
        let recursive := o.has 'r' || o.has 'R'
        let number (c : Char) : Nat := ((o.value? c).bind String.toNat?).getD 0
        let around := number 'C'
        let m : SearchManner :=
          { regexes := expressions.filterMap Except.toOption
            comparison := { anyCase := o.has 'i' || o.has 'y' }
            scope := if o.has 'x' then .wholeLine else if o.has 'w' then .words else .anywhere
            inverted := o.has 'v'
            flags := o.given.map Prod.fst ++ if operands.isEmpty then ['W'] else []
            before := if (o.value? 'B').isSome then number 'B' else around
            after := if (o.value? 'A').isSome then number 'A' else around
            most := (o.value? 'm').bind String.toNat?
            named := !o.has 'h' && (o.has 'H' || 1 < operands.length || recursive)
            lineEnd := if o.has 'z' then Char.ofNat 0 else '\n' }
        let patternsOf (c : Char) : List String :=
          (o.given.filter fun x => x.1 == c).map Prod.snd
        let fits (name p : String) : Bool :=
          nameMatches (name.length + p.length + 1) p.toList name.toList
        let wanted (name : String) : Bool :=
          ((patternsOf 'K').isEmpty || (patternsOf 'K').any (fits name))
            && !(patternsOf 'X').any (fits name)
        let operands := if !operands.isEmpty then operands
          else if recursive then ["."] else ["-"]
        let found ← operands.foldlM (fun found arg => do
          let hit ← searchPath m wanted deepest false arg
          return found || hit) false
        if found && o.has 'q' then fail 0
        else if (← get).status == 0 && !found then fail 1

end ShaderBuild.Tool
