import ShaderBuild.Tool.Lines
import ShaderBuild.Tool.Print

/-! # Files cut into pieces

`split` puts the parts of a file into files of their own, all of the same size; `csplit` cuts where
a line has a number or matches an expression. -/

namespace ShaderBuild.Tool

/-! ### Names of parts -/

/-- The digits of a number, as many as `width` says. -/
def digitsIn (letters : List Char) : (width : Nat) → Nat → List Char
  | 0, _ => []
  | width + 1, n =>
    digitsIn letters width (n / letters.length) ++ [letters.getD (n % letters.length) 'a']

/-- The ending of the name of a part, at least `width` long: when the endings that do not begin with
the last letter are used up, that letter comes first and the rest gets longer.  This happens at most
`n` times. -/
def partEnding (letters : List Char) : (n width : Nat) → Nat → List Char
  | 0, width, i => digitsIn letters width i
  | n + 1, width, i =>
    let room := (letters.length - 1) * Nat.pow letters.length (width - 1)
    if i < room then digitsIn letters width i
    else letters.getLastD 'z' :: partEnding letters n (width + 1) (i - room)

/-- How the parts are named. -/
structure PartNames where
  front : String
  back : String := ""
  letters : List Char := "abcdefghijklmnopqrstuvwxyz".toList
  /-- How long the endings are; none if they may get longer. -/
  width : Option Nat := none
  first : Nat := 0
  /-- A format for the number of a part, in place of letters. -/
  format : Option String := none

/-- The name of a part; none if there are no names left. -/
def PartNames.name? (p : PartNames) (i : Nat) : Option String :=
  let i := i + p.first
  match p.width, p.format with
  | _, some format => some (p.front ++ (printf .tool format [Nat.repr i]).text)
  | none, none => some (p.front ++ String.ofList (partEnding p.letters 8 2 i) ++ p.back)
  | some width, none =>
    if i < Nat.pow p.letters.length width then
      some (p.front ++ String.ofList (digitsIn p.letters width i) ++ p.back)
    else none

/-! ### Equal parts -/

/-- How a file is cut. -/
inductive Cutting where
  | lines (count : Nat)
  | bytes (count : Nat)
  /-- Whole lines of at most so many bytes together. -/
  | lineBytes (count : Nat)
  | parts (count : Nat)
  /-- Parts of whole lines. -/
  | lineParts (count : Nat)
  /-- Each line to the next part in turn. -/
  | turns (count : Nat)

/-- Lines together as long as they are no longer than a limit; a longer line is cut. -/
def packed (limit : Nat) (lines : List String) : List String :=
  let cut := lines.flatMap fun l => (grouped limit l.length l.toList).map String.ofList
  (cut.foldl (fun parts l =>
    match parts with
    | part :: rest => if part.length + l.length ≤ limit then (part ++ l) :: rest else l :: parts
    | [] => [l]) ([] : List String)).reverse

/-- Where parts of a size end, of which the first ones are longer by one as long as something is
left over. -/
def partEnd (size count i : Nat) : Nat :=
  size / count * (i + 1) + min (size % count) (i + 1)

/-- The parts of a text. -/
def Cutting.apply (text : String) : Cutting → List String
  | .lines count =>
    let lines := linesWithEnds text
    (grouped count lines.length lines).map String.join
  | .bytes count => (grouped count text.length text.toList).map String.ofList
  | .lineBytes count => packed count (linesWithEnds text)
  | .parts count =>
    let cs := text.toList
    (List.range count).map fun i =>
      let start := if i == 0 then 0 else partEnd cs.length count (i - 1)
      String.ofList ((cs.take (partEnd cs.length count i)).drop start)
  | .lineParts count =>
    let size := text.length
    let placed := (linesWithEnds text).foldl (fun ((start, out) : Nat × List (Nat × String)) l =>
      let part := ((List.range count).find? fun i => start < partEnd size count i).getD (count - 1)
      (start + l.length, (part, l) :: out)) (0, [])
    let lines := placed.2.reverse
    (List.range count).map fun i => String.join ((lines.filter fun x => x.1 == i).map Prod.snd)
  | .turns count =>
    let lines := (linesWithEnds text).zipIdx
    (List.range count).map fun i =>
      String.join ((lines.filter fun x => x.2 % count == i).map Prod.fst)

/-- Write parts to files of their own. -/
def storeParts (names : PartNames) (verbose : Bool) (parts : List String) : Work Unit := do
  let _ ← parts.zipIdx.foldlM (fun ok x => do
    if !ok then return false
    else
      match names.name? x.2 with
      | none =>
        complain 1 "output file suffixes exhausted"
        return false
      | some name =>
        if verbose then say ("creating file " ++ quoted name ++ "\n")
        match ← store name (contentOf x.1) with
        | .ok () => return true
        | .error e =>
          complain 1 (quotedIfNeeded name ++ ": " ++ e.reason)
          return false) true

/-- How a file is to be cut, as the options say, or what is wrong with them. -/
def cuttingOf (o : Options) : Except String Cutting :=
  let asked := o.given.filter fun x => "lbCn".toList.contains x.1
  let positive (what text : String) : Except String Nat :=
    match (sizeNumber? text.toList).filter (0 < ·) with
    | some n => .ok n
    | none => .error ("invalid number of " ++ what ++ ": " ++ quoted text)
  match asked with
  | [] => .ok (.lines 1000)
  | [('l', text)] => (positive "lines" text).map .lines
  | [('b', text)] => (positive "bytes" text).map .bytes
  | [('C', text)] => (positive "lines" text).map .lineBytes
  | [(_, text)] =>
    match text.toList with
    | 'l' :: '/' :: cs => (positive "chunks" (String.ofList cs)).map .lineParts
    | 'r' :: '/' :: cs => (positive "chunks" (String.ofList cs)).map .turns
    | _ => (positive "chunks" text).map .parts
  | _ => .error "cannot split in more than one way"

/-- The tool `split`. -/
def splitTool : Routine := do
  let args := (← read).args.map fun a =>
    match a.toList with
    | '-' :: c :: cs => if (c :: cs).all Char.isDigit then "-l" ++ String.ofList (c :: cs) else a
    | _ => a
  let table : OptionTable :=
    { flags := "dxeuV", valued := "lbCnatS", glued := "NX"
      long := [("lines", 'l'), ("bytes", 'b'), ("line-bytes", 'C'), ("number", 'n'),
        ("suffix-length", 'a'), ("additional-suffix", 'S'), ("numeric-suffixes", 'N'),
        ("hex-suffixes", 'X'), ("elide-empty-files", 'e'), ("unbuffered", 'u'), ("verbose", 'V'),
        ("separator", 't')] }
  match table.readFrom (args.length + 1) args with
  | .error text => refuse 1 text
  | .ok o =>
    match cuttingOf o, o.operands with
    | .error text, _ =>
      if text.startsWith "cannot" then refuse 1 text else complain 1 text
    | _, _ :: _ :: extra :: _ => refuse 1 ("extra operand " ++ quoted extra)
    | .ok cutting, operands =>
      let file := operands.headD "-"
      match ← operand file with
      | .error .isDirectory => complain 1 (quotedIfNeeded file ++ ": Is a directory")
      | .error e => complain 1 ("cannot open " ++ quoted file ++ " for reading: " ++ e.reason)
      | .ok content =>
        let first := (o.value? 'N').or (o.value? 'X')
        let width := (o.value? 'a').bind String.toNat?
        let names : PartNames :=
          { front := operands.getD 1 "x", back := (o.value? 'S').getD ""
            letters := if o.has 'd' || o.has 'N' then "0123456789".toList
              else if o.has 'x' || o.has 'X' then "0123456789abcdef".toList
              else "abcdefghijklmnopqrstuvwxyz".toList
            width := width.filter (0 < ·)
            first := (first.bind String.toNat?).getD 0 }
        let parts := cutting.apply (rawContent content)
        storeParts names (o.has 'V') (if o.has 'e' then parts.filter fun p => !p.isEmpty else parts)

/-! ### Parts by their content -/

/-- Where a part ends. -/
inductive Border where
  /-- Before the line with this number. -/
  | line (n : Nat)
  /-- Some lines from the next one that matches; `dropped` says that the part is not kept. -/
  | found (spelling : String) (r : Regex) (offset : Int) (dropped : Bool)

/-- A border, and how often it comes again; none stands for as often as it can be found. -/
abbrev Repeated := Border × Option Nat

/-- The border that an argument asks for, or what is wrong with it. -/
def Border.read (arg : String) : Except String Border :=
  match arg.toList with
  | c :: cs =>
    if c == '/' || c == '%' then
      let body := cs.takeWhile (· != c)
      match cs.drop body.length with
      | [] => .error (arg ++ ": closing delimiter '" ++ c.toString ++ "' missing")
      | _ :: after =>
        let sign : Int := if after.head? == some '-' then -1 else 1
        let digits := if after.head? == some '-' || after.head? == some '+' then after.tail else after
        match if after.isEmpty then some 0 else digitsNumber? digits with
        | none => .error (quoted arg ++ ": integer expected after delimiter")
        | some n =>
          match Regex.parse {} body with
          | .ok parsed => .ok (.found arg parsed.regex (sign * n) (c == '%'))
          | .error text => .error (quoted arg ++ ": invalid regular expression: " ++ text)
    else
      match digitsNumber? (c :: cs) with
      | some 0 => .error (arg ++ ": line number must be greater than zero")
      | some n => .ok (.line n)
      | none => .error (quoted arg ++ ": invalid pattern")
  | [] => .error (quoted arg ++ ": invalid pattern")

/-- How often an argument says that the border before it comes again. -/
def repetition? (arg : String) : Option (Option Nat) :=
  match arg.toList with
  | '\x7b' :: cs =>
    if cs.getLast? != some '\x7d' then none
    else if cs == ['*', '\x7d'] then some none
    else (digitsNumber? cs.dropLast).map some
  | _ => none

/-- The borders that arguments ask for. -/
def Border.readAll : List String → Except String (List Repeated)
  | [] => .ok []
  | arg :: rest => do
    let b ← Border.read arg
    match rest with
    | next :: rest' =>
      match repetition? next with
      | some n => return (b, n) :: (← Border.readAll rest')
      | none => return (b, some 0) :: (← Border.readAll (next :: rest'))
    | [] => return [(b, some 0)]

/-- What is wrong with the order of the numbers of borders after a number, and whether that is only
worth a warning. -/
def Border.disorder : (last : Nat) → List Repeated → List (String × Bool)
  | _, [] => []
  | last, (.found _ _ _ _, _) :: rest => Border.disorder last rest
  | last, (.line n, _) :: rest =>
    let fault := if n < last then
        [("line number " ++ quoted (Nat.repr n) ++ " is smaller than preceding line number, "
          ++ Nat.repr last, false)]
      else if n == last then
        [("warning: line number " ++ quoted (Nat.repr n)
          ++ " is the same as preceding line number", true)]
      else []
    fault ++ Border.disorder n rest

/-- Where cutting stands. -/
structure CutState where
  /-- The parts, latest first, and whether each is kept. -/
  parts : List (List String) := []
  rest : List String
  /-- The number of the first line of the rest. -/
  number : Nat := 1
  /-- How many lines at the front of the rest are not looked at. -/
  passed : Nat := 0

/-- Cut at a border, perhaps without the line there; none if it is not found. -/
def CutState.cut (s : CutState) (without : Bool) (b : Border) (round : Nat) : Option CutState :=
  let take (n : Nat) (kept : Bool) (passed : Nat) : CutState :=
    let gone := if without then n + 1 else n
    { s with
      parts := if kept then s.rest.take n :: s.parts else s.parts
      rest := s.rest.drop gone, number := s.number + gone, passed := if without then 0 else passed }
  match b with
  | .line n =>
    let n := n * (round + 1)
    if n < s.number || s.number + s.rest.length ≤ n - 1 then none else some (take (n - s.number) true 0)
  | .found _ r offset dropped =>
    let places := s.rest.zipIdx.drop s.passed
    match places.find? fun x => lineFits r x.1 with
    | none => none
    | some (_, i) =>
      let place := (i : Int) + offset
      if place < 0 || s.rest.length < place.toNat then none
      else some (take place.toNat (!dropped) (if 0 < offset then 0 else (1 - offset).toNat))
where
  /-- Whether an expression matches in a line. -/
  lineFits (r : Regex) (line : String) : Bool :=
    let cs := if line.endsWith "\n" then line.toList.dropLast else line.toList
    (Regex.find r {} cs).isSome

/-- Cut at a border and as often again as it asks for; `n` bounds the rounds.  What is wrong, if it
is not found. -/
def CutState.cutAll (s : CutState) (without : Bool) (x : Repeated) :
    (n round : Nat) → CutState × Option String
  | 0, _ => (s, none)
  | n + 1, round =>
    if x.2.any (· < round) then (s, none)
    else
      match s.cut without x.1 round with
      | some next => next.cutAll without x n (round + 1)
      | none =>
        if x.2.isNone then (s, none)
        else
          let on := if round = 0 then "" else " on repetition " ++ Nat.repr round
          match x.1 with
          | .line k =>
            (s, some (quoted (Nat.repr (k * (round + 1))) ++ ": line number out of range" ++ on))
          | .found spelling _ _ _ => (s, some (quoted spelling ++ ": match not found" ++ on))

/-- The tool `csplit`. -/
def contextSplitTool : Routine :=
  withOptions
    { flags := "kqszm", valued := "bfn"
      long := [("suppress-matched", 'm'), ("prefix", 'f'), ("digits", 'n'), ("keep-files", 'k'),
        ("quiet", 's'), ("silent", 's'), ("elide-empty-files", 'z'), ("suffix-format", 'b')] } 1
    fun o => do
    match o.operands with
    | [] => refuse 1 "missing operand"
    | [file] => refuse 1 ("missing operand after " ++ quoted file)
    | file :: args =>
      match ← operand file with
      | .error e => complain 1 ("cannot open " ++ quoted file ++ " for reading: " ++ e.reason)
      | .ok content =>
        match Border.readAll args with
        | .error text => complain 1 text
        | .ok borders => do
          let disorder := Border.disorder 0 borders
          disorder.forM fun x => warn x.1
          if disorder.any fun x => !x.2 then fail 1
          else
            let lines := linesWithEnds (rawContent content)
            let start : CutState := { rest := lines }
            let (s, fault) := borders.foldl (fun (s, fault) x =>
              if fault.isSome then (s, fault) else s.cutAll (o.has 'm') x (lines.length + 2) 0)
              (start, none)
            let parts := ((s.rest :: s.parts).reverse).map String.join
            let parts := if o.has 'z' then parts.filter fun p => !p.isEmpty else parts
            if !(o.has 's' || o.has 'q') then
              sayLines (parts.map fun p => Nat.repr p.length)
            let names : PartNames :=
              { front := (o.value? 'f').getD "xx", letters := "0123456789".toList
                width := some (((o.value? 'n').bind String.toNat?).getD 2), format := o.value? 'b' }
            if fault.isNone || o.has 'k' then storeParts names false parts
            if let some text := fault then complain 1 text

end ShaderBuild.Tool
