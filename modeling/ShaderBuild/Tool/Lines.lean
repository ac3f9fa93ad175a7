import ShaderBuild.Tool.Files
import ShaderBuild.Tool.Regex.Matching

/-! # Reading and printing lines

The tools that read their operands, or the input if there are none, and print them numbered, cut,
turned around or counted: `cat`, `tac`, `rev`, `head`, `tail`, `wc`, `nl`, `fold`, `expand`,
`unexpand` and `tee`. -/

namespace ShaderBuild.Tool

/-- The content of each operand that can be read; `body` gets its name.  Without operands the input
is read. -/
def eachContent (operands : List String) (cannot : String → FileFault → Work Unit)
    (body : String → ByteArray → Work Unit) : Work Unit :=
  (if operands.isEmpty then ["-"] else operands).forM fun arg => do
    match ← operand arg with
    | .ok content => body arg content
    | .error e => cannot arg e

/-- Complain about an operand by its name. -/
def unreadable (status : UInt8) (arg : String) (e : FileFault) : Work Unit :=
  complain status (quotedIfNeeded arg ++ ": " ++ e.reason)

/-- All that the operands hold. -/
def allContent (operands : List String) (cannot : String → FileFault → Work Unit) :
    Work String := do
  let texts ← (if operands.isEmpty then ["-"] else operands).mapM fun arg => do
    match ← operand arg with
    | .ok content => return rawContent content
    | .error e =>
      cannot arg e
      return ""
  return String.join texts

/-- Print lines. -/
def sayLines (lines : List String) : Work Unit :=
  say (String.join (lines.map (· ++ "\n")))

/-- A text at the right of a field of some width. -/
def atRight (width : Nat) (text : String) : String :=
  String.ofList (List.replicate (width - text.length) ' ') ++ text

/-- A text at the left of a field of some width. -/
def atLeft (width : Nat) (text : String) : String :=
  text ++ String.ofList (List.replicate (width - text.length) ' ')

/-- A number at the right of a field of some width. -/
def rightAligned (width n : Nat) : String :=
  atRight width (Nat.repr n)

/-- The lines of a text with their ends; the last one may lack it. -/
def linesWithEnds (text : String) : List String :=
  let ls := linesOf text
  if text.endsWith "\n" then ls.map (· ++ "\n")
  else (ls.dropLast.map (· ++ "\n")) ++ ls.getLast?.toList

/-- A list in groups of at most `size`, at most `n` groups. -/
def grouped {α : Type} (size : Nat) : Nat → List α → List (List α)
  | 0, _ => []
  | n + 1, xs => if xs.isEmpty then [] else xs.take size :: grouped size n (xs.drop size)

/-! ### Whole files -/

/-- How `cat` shows characters. -/
structure ShowManner where
  numbers : Bool
  /-- Only lines that are not blank have numbers. -/
  filledOnly : Bool
  squeeze : Bool
  ends : Bool
  tabs : Bool
  controls : Bool

/-- Where `cat` is in its output. -/
structure ShowState where
  number : Nat := 1
  atStart : Bool := true
  blanks : Nat := 0
  /-- The text so far, the latest first. -/
  out : List Char := []

/-- A character that cannot be shown, with marks. -/
def marked (c : Char) : List Char :=
  let low (n : Nat) : List Char :=
    if n == 127 then ['^', '?'] else if n < 32 then ['^', Char.ofNat (n + 64)] else [Char.ofNat n]
  if c.toNat < 128 then low c.toNat else 'M' :: '-' :: low (c.toNat - 128)

/-- Show the next character; `next` comes after it. -/
def ShowState.add (m : ShowManner) (s : ShowState) (c : Char) (next : Option Char) : ShowState :=
  let blank := s.atStart && c == '\n'
  let blanks := if blank then s.blanks + 1 else if s.atStart then 0 else s.blanks
  if m.squeeze && blank && 1 < blanks then { s with blanks }
  else
    let numbered := s.atStart && m.numbers && !(m.filledOnly && c == '\n')
    let front := if numbered then (rightAligned 6 s.number ++ "\t").toList else []
    let text := if c == '\n' then (if m.ends then ['$', '\n'] else ['\n'])
      else if c == '\t' then (if m.tabs then ['^', 'I'] else ['\t'])
      else if c == '\r' && m.ends && next == some '\n' then ['^', 'M']
      else if m.controls then marked c
      else [c]
    { number := if numbered then s.number + 1 else s.number
      atStart := c == '\n'
      blanks
      out := text.reverse ++ front.reverse ++ s.out }

/-- Show a text. -/
def ShowState.addAll (m : ShowManner) (s : ShowState) : List Char → ShowState
  | [] => s
  | c :: cs => (s.add m c cs.head?).addAll m cs

/-- Whether a file is what the output goes to, at a place before its end. -/
def isOutput (arg : String) : Work Bool := do
  let call ← read
  let files ← tree
  let input : Option StreamFile := if arg == "-" then call.inputFile
    else match files.find (pathOf arg) with
      | .ok (_, .file n) => some ⟨n, 0⟩
      | _ => none
  let written := ((← get).written.map fun x => if x.1 == 1 then x.2.size else 0).foldl (· + ·) 0
  match input, call.outputFile with
  | some i, some o => return i.body == o.body && i.position < o.position + written
  | _, _ => return false

/-- The tool `cat`. -/
def concatenateTool : Routine :=
  withOptions
    { flags := "AbeEnstTuv"
      long := [("number", 'n'), ("number-nonblank", 'b'), ("show-all", 'A'), ("show-ends", 'E'),
        ("show-tabs", 'T'), ("show-nonprinting", 'v'), ("squeeze-blank", 's')] } 1 fun o => do
    let m : ShowManner :=
      { numbers := o.has 'n' || o.has 'b'
        filledOnly := o.has 'b'
        squeeze := o.has 's'
        ends := o.has 'E' || o.has 'A' || o.has 'e'
        tabs := o.has 'T' || o.has 'A' || o.has 't'
        controls := o.has 'v' || o.has 'A' || o.has 'e' || o.has 't' }
    let plain := !(m.numbers || m.squeeze || m.ends || m.tabs || m.controls)
    let _ ← (if o.operands.isEmpty then ["-"] else o.operands).foldlM (fun (s : ShowState) arg => do
      if ← isOutput arg then
        complain 1 (quotedIfNeeded arg ++ ": input file is output file")
        return s
      match ← operand arg with
      | .error e =>
        unreadable 1 arg e
        if e = .badDescriptor then complain 1 ("closing standard input: " ++ e.reason)
        return s
      | .ok content =>
        if plain then
          emit 1 content
          return s
        else
          let s := s.addAll m (rawContent content).toList
          emit 1 (contentOf (String.ofList s.out.reverse))
          return { s with out := [] }) {}

/-- Pieces of a text that each end with a separator, but for the last. -/
def separatedBy (separator : List Char) : Nat → List Char → List Char → List (List Char)
  | 0, found, cs => [found.reverse ++ cs]
  | _, found, [] => if found.isEmpty then [] else [found.reverse]
  | n + 1, found, c :: cs =>
    if separator.isPrefixOf (c :: cs) then
      (found.reverse ++ separator) :: separatedBy separator n [] ((c :: cs).drop separator.length)
    else separatedBy separator n (c :: found) cs

/-- The tool `tac`. -/
def backwardsTool : Routine :=
  withOptions { flags := "br", valued := "s", long := [("separator", 's')] } 1 fun o =>
    let cannot (arg : String) (e : FileFault) : Work Unit :=
      if e = .isDirectory then complain 1 (shownOperand arg ++ ": read error: Invalid argument")
      else if arg == "-" then complain 1 (shownOperand arg ++ ": read error: " ++ e.reason)
      else complain 1 ("failed to open " ++ quoted arg ++ " for reading: " ++ e.reason)
    eachContent o.operands cannot fun _ content =>
      let text := (rawContent content).toList
      let separator := ((o.value? 's').getD "\n").toList
      say (String.join ((separatedBy separator (text.length + 1) [] text).map String.ofList).reverse)

/-- The tool `rev`. -/
def reverseTool : Routine :=
  withOptions {} 1 fun o =>
    eachContent o.operands (fun arg e => complain 1 ("cannot open " ++ arg ++ ": " ++ e.reason))
      fun _ content =>
        say (String.join ((linesWithEnds (rawContent content)).map fun l =>
          if l.endsWith "\n" then String.ofList l.toList.dropLast.reverse ++ "\n"
          else String.ofList l.toList.reverse))

/-! ### Parts of files -/

/-- A number of lines or bytes, and the sign it was given with. -/
def amount? (s : String) : Option (Option Char × Nat) :=
  let (sign, digits) := match s.toList with
    | '-' :: rest => (some '-', rest)
    | '+' :: rest => (some '+', rest)
    | cs => (none, cs)
  (sizeNumber? digits).map fun n => (sign, n)

/-- The first of some pieces, or all but the last ones. -/
def firstPieces {α : Type} (sign : Option Char) (n : Nat) (xs : List α) : List α :=
  if sign == some '-' then xs.take (xs.length - n) else xs.take n

/-- The last of some pieces, or all from a piece on. -/
def lastPieces {α : Type} (sign : Option Char) (n : Nat) (xs : List α) : List α :=
  if sign == some '+' then xs.drop (n - 1) else xs.drop (xs.length - n)

/-- Arguments in which a number alone is an option has become the option for lines. -/
def modernArgs : List String → List String
  | [] => []
  | arg :: args =>
    match arg.toList with
    | '-' :: c :: cs =>
      if (c :: cs).all Char.isDigit then "-n" :: String.ofList (c :: cs) :: args else arg :: args
    | _ => arg :: args

/-- Print a part of each operand.  If `returns` is set, what is not printed of a file that is the
input stays there. -/
def partTool (returns : Bool) (part : {α : Type} → Option Char → Nat → List α → List α) : Routine := do
  let table : OptionTable :=
    { flags := "qvfFz", valued := "nc"
      long := [("lines", 'n'), ("bytes", 'c'), ("quiet", 'q'), ("silent", 'q'), ("verbose", 'v'),
        ("follow", 'f'), ("zero-terminated", 'z')] }
  let call ← read
  let args := modernArgs call.args
  match table.readFrom (args.length + 1) args with
  | .error text => refuse 1 text
  | .ok o =>
    let counted := o.given.reverse.find? fun x => x.1 == 'c' || x.1 == 'n'
    let bytes := (counted.map Prod.fst) == some 'c'
    match amount? ((counted.map Prod.snd).getD "10") with
    | none =>
      let what := if bytes then "bytes" else "lines"
      complain 1 ("invalid number of " ++ what ++ ": " ++ quoted ((counted.map Prod.snd).getD ""))
    | some (sign, n) =>
      let titled := 1 < o.operands.length && !o.has 'q' || o.has 'v'
      let _ ← (if o.operands.isEmpty then ["-"] else o.operands).foldlM (fun first arg => do
        let before := (← get).consumed
        match ← operand arg with
        | .ok content =>
          if titled then
            let name := if arg == "-" then "standard input" else arg
            say ((if first then "" else "\n") ++ "==> " ++ name ++ " <==\n")
          let text := rawContent content
          let shown := if bytes then String.ofList (part sign n text.toList)
            else String.join (part sign n (linesWithEnds text))
          say shown
          if returns && arg == "-" && call.inputFile.isSome then
            modify fun p => { p with consumed := before + shown.length }
          return false
        | .error .isDirectory =>
          if titled then say ((if first then "" else "\n") ++ "==> " ++ arg ++ " <==\n")
          let shown := if arg == "-" then shownOperand arg else quoted arg
          complain 1 ("error reading " ++ shown ++ ": " ++ FileFault.isDirectory.reason)
          return false
        | .error .badDescriptor =>
          complain 1 ((if returns then "error reading " else "cannot fstat ")
            ++ shownOperand arg ++ ": " ++ FileFault.badDescriptor.reason)
          warn (arg ++ ": " ++ FileFault.badDescriptor.reason)
          return false
        | .error e =>
          complain 1 ("cannot open " ++ quoted arg ++ " for reading: " ++ e.reason)
          return first) true

/-- The tool `head`. -/
def headTool : Routine := partTool true firstPieces

/-- The tool `tail`. -/
def tailTool : Routine := partTool false lastPieces

/-! ### Counting -/

/-- Whether a character separates words. -/
def isGap (c : Char) : Bool :=
  c == ' ' || (9 ≤ c.toNat && c.toNat ≤ 13)

/-- The number of columns that a line takes. -/
def lineColumns (cs : List Char) : Nat :=
  cs.foldl (fun n c => if c == '\t' then (n / 8 + 1) * 8 else if isShown c then n + 1 else n) 0

/-- The numbers of lines, words, characters and bytes, and the length of the longest line. -/
def counts (text : String) : List Nat :=
  let cs := text.toList
  let words := (pieces isGap cs).filter fun w => w.any isShown
  let endsLine (c : Char) : Bool := c == '\n' || c == '\r' || c.toNat == 12
  let longest := ((pieces endsLine cs).map lineColumns).foldl max 0
  [cs.count '\n', words.length, cs.length, cs.length, longest]

/-- The tool `wc`. -/
def countTool : Routine :=
  withOptions
    { flags := "lwcmL"
      long := [("lines", 'l'), ("words", 'w'), ("bytes", 'c'), ("chars", 'm'),
        ("max-line-length", 'L')] } 1 fun o => do
    let all := !("lwcmL".toList.any o.has)
    let wanted := [all || o.has 'l', all || o.has 'w', o.has 'm', all || o.has 'c', o.has 'L']
    let pick (ns : List Nat) : List Nat :=
      (ns.zip wanted).filterMap fun x => if x.2 then some x.1 else none
    let operands := if o.operands.isEmpty then ["-"] else o.operands
    let call ← read
    let files ← tree
    let sizes : List (Option Nat) := operands.map fun arg =>
      if arg == "-" then
        call.inputFile.map fun f => ((files.body? f.body).map fun b => b.content.size).getD 0
      else match files.find (pathOf arg) with
        | .ok (_, .file n) => some (sizeOf files (.file n))
        | .ok _ => none
        | .error _ => some 0
    let none_ : List Nat := [0, 0, 0, 0, 0]
    let rows ← operands.filterMapM fun arg => do
      match ← operand arg with
      | .ok content => return some (arg, counts (rawContent content))
      | .error .isDirectory =>
        complain 1 (shownOperand arg ++ ": " ++ FileFault.isDirectory.reason)
        return some (arg, none_)
      | .error .badDescriptor =>
        complain 1 (shownOperand arg ++ ": " ++ FileFault.badDescriptor.reason)
        return some (arg, none_)
      | .error e =>
        unreadable 1 arg e
        return none
    let total := rows.foldl (fun t r =>
      (t.take 4).zipWith (· + ·) r.2 ++ [max (t.getD 4 0) (r.2.getD 4 0)]) none_
    let single := (pick none_).length == 1 && operands.length ≤ 1
    let digits := (Nat.repr ((sizes.map (·.getD 0)).foldl (· + ·) 0)).length
    let width := if single then 1 else if sizes.any Option.isNone then max 7 digits else digits
    let show_ (ns : List Nat) (name : String) : Work Unit :=
      say (" ".intercalate ((pick ns).map (rightAligned width)) ++ name ++ "\n")
    rows.forM fun r => show_ r.2 (if o.operands.isEmpty then "" else " " ++ r.1)
    if 1 < operands.length then show_ total " total"

/-! ### Numbering and folding -/

/-- How `nl` writes numbers. -/
structure NumberManner where
  format : String := "rn"
  width : Nat := 6
  separator : String := "\t"
  step : Nat := 1
  start : Nat := 1

/-- A number in its field. -/
def NumberManner.field (m : NumberManner) (n : Nat) : String :=
  match m.format with
  | "ln" => atLeft m.width (Nat.repr n)
  | "rz" => zeroPadded m.width n
  | _ => rightAligned m.width n

/-- Whether a line gets a number in a style. -/
def isNumbered (style : String) (line : String) : Bool :=
  match style.toList with
  | ['a'] => true
  | ['n'] => false
  | 'p' :: pattern =>
    match Regex.parse {} pattern with
    | .ok r => (r.regex.find {} line.toList).isSome
    | .error _ => false
  | _ => !line.isEmpty

/-- The tool `nl`. -/
def numberTool : Routine :=
  withOptions
    { flags := "p", valued := "bdfhilnsvw"
      long := [("body-numbering", 'b'), ("number-format", 'n'), ("number-separator", 's'),
        ("number-width", 'w'), ("starting-line-number", 'v'), ("line-increment", 'i')] } 1 fun o => do
    let text ← allContent o.operands (unreadable 1)
    let number (c : Char) (missing : Nat) : Nat := ((o.value? c).bind String.toNat?).getD missing
    let m : NumberManner :=
      { format := (o.value? 'n').getD "rn", width := number 'w' 6
        separator := (o.value? 's').getD "\t", step := number 'i' 1, start := number 'v' 1 }
    let blank := String.ofList (List.replicate (m.width + m.separator.length) ' ')
    let bodyStyle := (o.value? 'b').getD "t"
    let _ ← (linesOf text).foldlM (fun (n, style) line => do
      let section? := match line with
        | "\\:\\:\\:" => some ((o.value? 'h').getD "n")
        | "\\:\\:" => some bodyStyle
        | "\\:" => some ((o.value? 'f').getD "n")
        | _ => none
      match section? with
      | some style =>
        say "\n"
        return (if o.has 'p' then n else m.start, style)
      | none =>
        if isNumbered style line then
          say (m.field n ++ m.separator ++ line ++ "\n")
          return (n + m.step, style)
        else
          say (blank ++ line ++ "\n")
          return (n, style)) (m.start, bodyStyle)

/-- The column after a character. -/
def nextColumn (bytes : Bool) (column : Nat) (c : Char) : Nat :=
  if bytes then column + 1
  else if c == '\t' then column + 8 - column % 8
  else if c.toNat == 8 then column - 1
  else if c == '\r' then 0
  else column + 1

/-- The columns of some characters. -/
def columnsOf (bytes : Bool) (cs : List Char) : Nat :=
  cs.foldl (nextColumn bytes) 0

/-- Break a line into pieces of limited width, at blanks if asked; the piece that is being filled is
kept with the latest character first. -/
def foldLine (bytes atBlanks : Bool) (width : Nat) :
    Nat → (piece : List Char) → List Char → List (List Char)
  | 0, piece, cs => [piece.reverse ++ cs]
  | _, piece, [] => [piece.reverse]
  | n + 1, piece, c :: cs =>
    let column := nextColumn bytes (columnsOf bytes piece.reverse) c
    if column ≤ width || piece.isEmpty then foldLine bytes atBlanks width n (c :: piece) cs
    else
      let tail := piece.takeWhile fun d => !(d == ' ' || d == '\t')
      if atBlanks && tail.length < piece.length then
        (piece.drop tail.length).reverse :: foldLine bytes atBlanks width n tail (c :: cs)
      else piece.reverse :: foldLine bytes atBlanks width n [] (c :: cs)

/-- The tool `fold`. -/
def foldTool : Routine := do
  let args := (← read).args.map fun a =>
    match a.toList with
    | '-' :: c :: cs => if (c :: cs).all Char.isDigit then "-w" ++ String.ofList (c :: cs) else a
    | _ => a
  let table : OptionTable :=
    { flags := "bs", valued := "w", long := [("bytes", 'b'), ("spaces", 's'), ("width", 'w')] }
  match table.readFrom (args.length + 1) args with
  | .error text => refuse 1 text
  | .ok o =>
    match (o.value? 'w').getD "80" |>.toNat? with
    | none => complain 1 ("invalid number of columns: " ++ quoted ((o.value? 'w').getD ""))
    | some width =>
      eachContent o.operands (unreadable 1) fun _ content =>
        (linesWithEnds (rawContent content)).forM fun l => do
          let finish := if l.endsWith "\n" then "\n" else ""
          let cs := if l.endsWith "\n" then l.toList.dropLast else l.toList
          let folded := foldLine (o.has 'b') (o.has 's') width (2 * cs.length + 2) [] cs
          say ("\n".intercalate (folded.map String.ofList) ++ finish)

/-- Where tabs end: at multiples of a width, or in listed columns. -/
inductive TabStops where
  | every (width : Nat)
  | listed (columns : List Nat)

/-- The column that a tab leads to; none if no stop follows. -/
def TabStops.next? (t : TabStops) (column : Nat) : Option Nat :=
  match t with
  | .every width => some (column + (width - column % width))
  | .listed columns => columns.find? (column < ·)

/-- The stops that an option asks for. -/
def TabStops.ofText (text : String) : TabStops :=
  match (pieces (fun c => c == ',' || c == ' ') text.toList).filterMap digitsNumber? with
  | [] => .every 8
  | [width] => .every (max 1 width)
  | columns => .listed columns

/-- A line with blanks in place of tabs; `initial` leaves the tabs after other characters. -/
def expandLine (initial : Bool) (stops : TabStops) : Bool → Nat → List Char → List Char
  | _, _, [] => []
  | leading, column, c :: cs =>
    if c == '\t' && (leading || !initial) then
      let next := (stops.next? column).getD (column + 1)
      List.replicate (next - column) ' ' ++ expandLine initial stops leading next cs
    else if c == '\n' then c :: expandLine initial stops true 0 cs
    else c :: expandLine initial stops (leading && c == ' ') (column + 1) cs

/-- The tool `expand`. -/
def expandTool : Routine :=
  withOptions { flags := "i", valued := "t", long := [("tabs", 't'), ("initial", 'i')] } 1 fun o =>
    let stops := TabStops.ofText ((o.value? 't').getD "8")
    eachContent o.operands (unreadable 1) fun _ content =>
      say (String.ofList (expandLine (o.has 'i') stops true 0 (rawContent content).toList))

/-- Blanks from one column to another as tabs and blanks; a single blank stays one, unless `front`
says that a line begins with it.  At most `n` tabs are made. -/
def tabbed (stops : TabStops) (front : Bool) : (n start stop : Nat) → List Char
  | 0, start, stop => List.replicate (stop - start) ' '
  | n + 1, start, stop =>
    match stops.next? start with
    | some next =>
      if next ≤ stop && (front || 1 < stop - start) then '\t' :: tabbed stops true n next stop
      else List.replicate (stop - start) ' '
    | none => List.replicate (stop - start) ' '

/-- A text with tabs in place of blanks, also after other characters if `all` is set; `blanks` is
the column at which the blanks before the place began. -/
def unexpandLine (all : Bool) (stops : TabStops) :
    (leading : Bool) → (blanks : Option Nat) → (column : Nat) → List Char → List Char
  | leading, blanks, column, [] =>
    blanks.elim [] fun start => tabbed stops leading (column + 1) start column
  | leading, blanks, column, c :: cs =>
    if (c == ' ' || c == '\t') && (leading || all) then
      let next := if c == ' ' then column + 1 else (stops.next? column).getD (column + 1)
      unexpandLine all stops leading (some (blanks.getD column)) next cs
    else
      let gap := blanks.elim [] fun start => tabbed stops leading (column + 1) start column
      if c == '\n' then gap ++ c :: unexpandLine all stops true none 0 cs
      else gap ++ c :: unexpandLine all stops false none (column + 1) cs

/-- The tool `unexpand`. -/
def unexpandTool : Routine :=
  withOptions
    { flags := "af", valued := "t"
      long := [("all", 'a'), ("tabs", 't'), ("first-only", 'f')] } 1 fun o =>
    let stops := TabStops.ofText ((o.value? 't').getD "8")
    let all := (o.has 'a' || o.has 't') && !o.has 'f'
    eachContent o.operands (unreadable 1) fun _ content =>
      say (String.ofList (unexpandLine all stops true none 0 (rawContent content).toList))

/-! ### Copies -/

/-- The tool `tee`. -/
def teeTool : Routine :=
  withOptions { flags := "aip", long := [("append", 'a')] } 1 fun o => do
    let content ← match ← readInput with
      | .ok content => pure content
      | .error e => do
        complain 1 ("read error: " ++ e.reason)
        pure .empty
    emit 1 content
    o.operands.forM fun arg => do
      let files ← tree
      let before := if o.has 'a' then (files.read (pathOf arg)).toOption.getD .empty else .empty
      match ← store arg (before ++ content) with
      | .ok () => pure ()
      | .error e => unreadable 1 arg e

end ShaderBuild.Tool
