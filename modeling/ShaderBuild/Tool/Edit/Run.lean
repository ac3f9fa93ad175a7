import ShaderBuild.Tool.Edit.Script
import ShaderBuild.Tool.Lines

/-! # Running the stream editor

The editor reads a line into its pattern space, runs the commands of the script on it, and prints
it at the end, over and over.  `drive` runs one command after the other and counts them. -/

namespace ShaderBuild.Tool.Edit

/-! ### State -/

/-- A line of input, whether it has an end, and the file it is from. -/
structure InputLine where
  text : List Char
  ended : Bool
  file : String

/-- Whether the lines of a range are being selected. -/
inductive RangeState where
  | inactive
  | active
  /-- Up to a line. -/
  | until_ (line : Nat)
deriving DecidableEq, Repr

/-- What is printed at the end of a cycle. -/
inductive Queued where
  | text (t : String)
  | file (path : String)

/-- What the editor is run with. -/
structure Setting where
  commands : Array EditCommand
  labels : List (String × Nat)
  quiet : Bool
  /-- What ends a line. -/
  lineEnd : Char := '\n'
  width : Nat := 70
  readFile : String → Option String

/-- The state of the editor. -/
structure Editor where
  space : List Char := []
  ended : Bool := true
  file : String := "-"
  held : List Char := []
  number : Nat := 0
  pending : List InputLine := []
  replaced : Bool := false
  ranges : Array RangeState := #[]
  queue : List Queued := []
  /-- What was printed, the latest first. -/
  out : List String := []
  /-- Whether the line that was printed last still lacks its end. -/
  lacksEnd : Bool := false
  lastPattern : Option Pattern := none
  /-- What is left of files that are read line by line. -/
  readers : List (String × List String) := []
  /-- What was written to files. -/
  written : List (String × String) := []
  code : Option UInt8 := none

/-- What comes after a command. -/
inductive Next where
  | jump (place : Nat)
  /-- The end of the cycle, at which the line is printed or not. -/
  | cycle (printed : Bool)
  /-- A new cycle with the same line. -/
  | again
  | quit

/-! ### Printing -/

/-- Print text that has its end. -/
def Editor.say (e : Editor) (s : Setting) (text : String) : Editor :=
  let text := if e.lacksEnd then s.lineEnd.toString ++ text else text
  { e with out := text :: e.out, lacksEnd := false }

/-- Print a line, with its end if the line that was read had one. -/
def Editor.sayLine (e : Editor) (s : Setting) (line : List Char) : Editor :=
  let text := String.ofList line
  if e.ended then e.say s (text ++ s.lineEnd.toString)
  else { e.say s text with lacksEnd := true }

/-- Write text to a file, which may be the output. -/
def Editor.write (e : Editor) (s : Setting) (path text : String) : Editor :=
  if path == "/dev/stdout" then e.say s text
  else
    let before := (e.written.lookup path).getD ""
    { e with written := (path, before ++ text) :: e.written.filter fun x => x.1 != path }

/-- Print what was kept for the end of the cycle. -/
def Editor.flush (e : Editor) (s : Setting) : Editor :=
  { e.queue.foldl (fun e q => match q with
      | .text t => e.say s t
      | .file path => (s.readFile path).elim e fun text => if text.isEmpty then e else e.say s text) e
    with queue := [] }

/-- Read the next line, perhaps after the ones in the pattern space. -/
def Editor.readNext (e : Editor) (s : Setting) (appended : Bool) : Option Editor :=
  match e.pending with
  | [] => none
  | line :: pending =>
    let e := e.flush s
    some { e with
      space := if appended then e.space ++ '\n' :: line.text else line.text
      ended := line.ended, file := line.file, number := e.number + 1, pending }

/-- A line as `l` prints it. -/
def visibleLine (width : Nat) (line : List Char) : String :=
  let shown (c : Char) : String :=
    if c == '\\' then "\\\\" else if isShown c then c.toString else escaped c
  let (out, _) := line.foldl (fun (out, n) c =>
    let text := shown c
    if 1 < width && width - 1 < n + text.length then (out ++ "\\\n" ++ text, text.length)
    else (out ++ text, n + text.length)) (("", 0) : String × Nat)
  out ++ "$\n"

/-! ### Selecting lines -/

/-- Whether an expression matches the pattern space. -/
def Editor.search (e : Editor) (p : Pattern) : Bool × Editor :=
  match p.regex.map (fun _ => p) |>.or e.lastPattern with
  | some used =>
    match used.regex with
    | some r => ((r.find used.comparison e.space).isSome, { e with lastPattern := some used })
    | none => (false, e)
  | none => (false, e)

/-- Whether an address names the line. -/
def Editor.isAt (e : Editor) (a : Address) : Bool × Editor :=
  match a with
  | .line n => (n == e.number, e)
  | .last => (e.pending.isEmpty, e)
  | .every first step =>
    (if step == 0 then e.number == first
      else first ≤ e.number && (e.number - first) % step == 0, e)
  | .pattern p => e.search p

/-- Whether the command at a place is for the line. -/
def Editor.selects (e : Editor) (c : EditCommand) (place : Nat) : Bool × Editor :=
  let setRange (e : Editor) (r : RangeState) : Editor :=
    { e with ranges := e.ranges.setIfInBounds place r }
  match c.first, c.second with
  | none, _ => (true, e)
  | some a, none => e.isAt a
  | some a, some b =>
    match e.ranges[place]?.getD .inactive with
    | .until_ line =>
      (decide (e.number ≤ line), if line ≤ e.number then setRange e .inactive else e)
    | .active =>
      match b with
      | .address b =>
        let (found, e) := e.isAt b
        (true, if found then setRange e .inactive else e)
      | _ => (true, setRange e .inactive)
    | .inactive =>
      let (found, e) := e.isAt a
      let upTo (line : Nat) : Editor := if e.number < line then setRange e (.until_ line) else e
      if !found then (false, e)
      else
        match b with
        | .address (.line n) => (true, upTo n)
        | .plus n => (true, upTo (e.number + n))
        | .multiple n => (true, if n == 0 then e else upTo ((e.number + n - 1) / n * n))
        | .address _ => (true, setRange e .active)

/-- The state of each range before the first line. -/
def startRanges (commands : Array EditCommand) : Array RangeState :=
  commands.map fun c => match c.first with
    | some (.line 0) => .active
    | _ => .inactive

/-! ### Substituting -/

/-- How the case of characters is changed. -/
structure CaseState where
  lasting : Option CaseChange := none
  once : Option CaseChange := none

/-- Add characters, with their case changed. -/
def addChars (st : CaseState) (cs : List Char) : List Char × CaseState :=
  match cs with
  | [] => ([], st)
  | c :: rest =>
    let change (x : Option CaseChange) (c : Char) : Char := match x with
      | some .upper | some .upperOne => c.toUpper
      | some .lower | some .lowerOne => c.toLower
      | _ => c
    (change (st.once.or st.lasting) c :: rest.map (change st.lasting), { st with once := none })

/-- What takes the place of a match. -/
def replacement (pieces : List Piece) (m : Regex.Match) (text : Array Char) : List Char :=
  let (out, _) := pieces.foldl (fun (out, st) p => match p with
    | .caseChange .upperOne => (out, { st with once := some .upperOne })
    | .caseChange .lowerOne => (out, { st with once := some .lowerOne })
    | .caseChange .stop => (out, {})
    | .caseChange c => (out, { st with lasting := some c })
    | .text c =>
      let (cs, st) := addChars st [c]
      (out ++ cs, st)
    | .group n =>
      let (cs, st) := addChars st (m.group n text)
      (out ++ cs, st)) (([], {}) : List Char × CaseState)
  out

/-- The text with matches replaced from a place on, and whether any was; at most `n` matches are
looked at.  `count` were before, the last of which ended at `last`. -/
def substitute (m : Regex.Matcher) (s : Substitution) :
    Nat → (start count : Nat) → (last : Option Nat) → List Char × Bool
  | 0, start, _, _ => ((m.text.extract start m.text.size).toList, false)
  | n + 1, start, count, last =>
    let tail (start : Nat) : List Char := (m.text.extract start m.text.size).toList
    match m.find start with
    | none => (tail start, false)
    | some found =>
      let span := found.span
      let before := (m.text.extract start span.start).toList
      let one := (m.text.extract span.stop (span.stop + 1)).toList
      if span.start == span.stop && last == some span.start then
        if m.text.size ≤ span.stop then (before, false)
        else
          let (rest, changed) := substitute m s n (span.stop + 1) count none
          (before ++ one ++ rest, changed)
      else
        let counts := s.nth ≤ count + 1
        let text := if counts then replacement s.pieces found m.text else span.chars m.text
        if counts && !s.all then (before ++ text ++ tail span.stop, true)
        else if span.start == span.stop then
          if m.text.size ≤ span.stop then (before ++ text, counts)
          else
            let (rest, changed) := substitute m s n (span.stop + 1) (count + 1) none
            (before ++ text ++ one ++ rest, counts || changed)
        else
          let (rest, changed) := substitute m s n span.stop (count + 1) (some span.stop)
          (before ++ text ++ rest, counts || changed)

/-- Run a substitution on the pattern space. -/
def Editor.substituteHere (e : Editor) (s : Setting) (sub : Substitution) : Editor :=
  match (sub.pattern.regex.map fun _ => sub.pattern).or e.lastPattern with
  | none => e
  | some used =>
    match used.regex with
    | none => e
    | some r =>
      let e := { e with lastPattern := some used }
      let (space, changed) :=
        substitute (r.matcher used.comparison e.space) sub (e.space.length + 2) 0 0 none
      if !changed then e
      else
        let e := { e with space, replaced := true }
        let e := if sub.printed then e.sayLine s space else e
        match sub.writtenTo with
        | some path => e.write s path (String.ofList space ++ "\n")
        | none => e

/-! ### Commands -/

/-- The first line of the pattern space. -/
def Editor.firstLine (e : Editor) : List Char :=
  e.space.takeWhile (· != '\n')

/-- Run the command at a place, which is for the line. -/
def Editor.perform (e : Editor) (s : Setting) (place : Nat) (c : EditCommand) : Editor × Next :=
  let go (e : Editor) : Editor × Next := (e, .jump (place + 1))
  match c.action with
  | .block _ | .nothing | .label _ => go e
  | .substitute sub => go (e.substituteHere s sub)
  | .exchange first second =>
    go { e with space := e.space.map fun c =>
      ((first.zip second).lookup c).getD c }
  | .print => go (e.sayLine s e.space)
  | .printFirst => go (e.say s (String.ofList e.firstLine ++ s.lineEnd.toString))
  | .delete => ({ e with space := [] }, .cycle false)
  | .deleteFirst =>
    if e.space.contains '\n' then
      ({ e with space := e.space.drop (e.firstLine.length + 1) }, .again)
    else ({ e with space := [] }, .cycle false)
  | .next =>
    let shown := if s.quiet then e else e.sayLine s e.space
    match shown.readNext s false with
    | some e => go e
    | none => (shown, .quit)
  | .nextAppended =>
    match e.readNext s true with
    | some e => go e
    | none => (if s.quiet then e else e.sayLine s e.space, .quit)
  | .hold => go { e with held := e.space }
  | .holdAppended => go { e with held := e.held ++ '\n' :: e.space }
  | .fetch => go { e with space := e.held }
  | .fetchAppended => go { e with space := e.space ++ '\n' :: e.held }
  | .swap => go { e with space := e.held, held := e.space }
  | .addBefore text => go (e.say s text)
  | .addAfter text => go { e with queue := e.queue ++ [.text text] }
  | .change text =>
    let inside := c.second.isSome && (e.ranges[place]?.getD .inactive) != .inactive && !c.negated
    ({ (if inside then e else e.say s text) with space := [] }, .cycle false)
  | .number => go (e.say s (Nat.repr e.number ++ "\n"))
  | .list width => go (e.say s (visibleLine (width.getD s.width) e.space))
  | .fileName => go (e.say s (e.file ++ "\n"))
  | .branch time target =>
    let taken := match time with
      | .always => true
      | .replaced => e.replaced
      | .notReplaced => !e.replaced
    let e := if time != .always && e.replaced then { e with replaced := false } else e
    if !taken then go e
    else if target.isEmpty then (e, .cycle true)
    else (e, .jump ((s.labels.lookup target).getD s.commands.size))
  | .quit code silent =>
    let e := if silent then { e with queue := [] } else if s.quiet then e else e.sayLine s e.space
    ({ e with code := some code }, .quit)
  | .readFile path => go { e with queue := e.queue ++ [.file path] }
  | .readLine path =>
    let lines := (e.readers.lookup path).getD (linesOf ((s.readFile path).getD ""))
    let e := { e with readers := (path, lines.tail) :: e.readers.filter fun x => x.1 != path }
    match lines with
    | [] => go e
    | line :: _ => go { e with queue := e.queue ++ [.text (line ++ "\n")] }
  | .writeFile path => go (e.write s path (String.ofList e.space ++ "\n"))
  | .writeFirst path => go (e.write s path (String.ofList e.firstLine ++ "\n"))
  | .clear => go { e with space := [] }

/-- Run commands from a place on, at most `n` of them. -/
def drive (s : Setting) : Nat → Nat → Editor → Editor
  | 0, _, e => e
  | n + 1, place, e =>
    let finish (e : Editor) : Editor := e.flush s
    let newCycle (e : Editor) : Editor :=
      match { e with replaced := false }.readNext s false with
      | some e => drive s n 0 e
      | none => finish e
    match s.commands[place]? with
    | none => newCycle (if s.quiet then e else e.sayLine s e.space)
    | some c =>
      let (found, e) := e.selects c place
      if found == c.negated then
        match c.action with
        | .block stop => drive s n stop e
        | _ => drive s n (place + 1) e
      else
        match e.perform s place c with
        | (e, .jump place) => drive s n place e
        | (e, .cycle printed) => newCycle (if printed && !s.quiet then e.sayLine s e.space else e)
        | (e, .again) => drive s n 0 (e.flush s)
        | (e, .quit) => finish e

/-- The most commands that one run of the editor takes. -/
def longestRun : Nat := 10000000

/-- Edit lines, after what was done before. -/
def editLines (s : Setting) (lines : List InputLine) (e : Editor) : Editor :=
  match { e with pending := lines, replaced := false }.readNext s false with
  | some e => drive s longestRun 0 e
  | none => e

/-! ### The tool -/

/-- The lines of a file. -/
def inputLines (lineEnd : Char) (file text : String) : List InputLine :=
  let ps := pieces (· == lineEnd) text.toList
  let ended := ps.getLast? == some []
  let lines := if ended then ps.dropLast else ps
  lines.zipIdx.map fun x => ⟨x.1, ended || x.2 + 1 < lines.length, file⟩

/-- Pieces of a script; one that ends in a backslash goes on in the next. -/
def joinPieces : List String → List String
  | a :: b :: rest =>
    if a.endsWith "\\" then joinPieces ((a ++ "\n" ++ b) :: rest) else a :: joinPieces (b :: rest)
  | ps => ps
termination_by ps => ps.length

/-- The files that a script writes. -/
def writtenFiles (commands : Array EditCommand) : List String :=
  (commands.toList.filterMap fun c => match c.action with
    | .writeFile path | .writeFirst path => some path
    | .substitute sub => sub.writtenTo
    | _ => none).filter (· != "/dev/stdout")

/-- The name under which a file is kept when it is edited in place. -/
def keptName (ending arg : String) : String :=
  let base := lastOf arg
  let dir := String.ofList (arg.toList.take (arg.length - base.length))
  if ending.toList.contains '*' then
    let name := ending.replace "*" base
    if name.toList.contains '/' then name else dir ++ name
  else arg ++ ending
where
  /-- The name that a path ends in. -/
  lastOf (arg : String) : String := String.ofList ((pieces (· == '/') arg.toList).getLast?.getD [])

/-- What each piece of a script is called in messages. -/
structure NamedPiece where
  text : String
  /-- The number of the piece, if it is an argument. -/
  place : Except String Nat

/-- Read all pieces of a script, or say what is wrong. -/
def readPieces (extended : Bool) : List NamedPiece → Progress → Except String Progress
  | [], p =>
    if p.opened.isEmpty then .ok p
    else .error "-e expression #1, char 0: unmatched \x60\x7b'"
  | piece :: rest, p =>
    match readPiece extended p piece.text with
    | .ok p => readPieces extended rest p
    | .error m =>
      match piece.place with
      | .ok n =>
        .error ("-e expression #" ++ Nat.repr n ++ ", char " ++ Nat.repr m.place ++ ": " ++ m.text)
      | .error file =>
        let line := ((piece.text.toList.take (m.place - 1)).count '\n') + 1
        .error ("file " ++ file ++ " line " ++ Nat.repr line ++ ": " ++ m.text)

/-- The pieces of the script that the options give, in order, with what cannot be read. -/
def scriptPieces (o : Options) : Work (Except String (List NamedPiece)) := do
  let given := o.given.filter fun x => x.1 == 'e' || x.1 == 'f'
  if given.isEmpty then
    return .ok (o.operands.head?.toList.map fun text => ⟨text, .ok 1⟩)
  if given.all fun x => x.1 == 'e' then
    return .ok ((joinPieces (given.map Prod.snd)).zipIdx.map fun x => ⟨x.1, .ok (x.2 + 1)⟩)
  given.zipIdx.foldlM (fun (found : Except String (List NamedPiece)) x => do
    match found with
    | .error e => return .error e
    | .ok pieces =>
      if x.1.1 == 'e' then return .ok (pieces ++ [⟨x.1.2, .ok (x.2 + 1)⟩])
      else
        match ← operand x.1.2 with
        | .ok content => return .ok (pieces ++ [⟨rawContent content, .error x.1.2⟩])
        | .error e => return .error ("couldn't open file " ++ x.1.2 ++ ": " ++ e.reason)) (.ok [])

/-- Edit a file in place. -/
def editInPlace (s : Setting) (ending : String) (arg : String) (e : Editor) : Work Editor := do
  let files ← tree
  match files.find (pathOf arg) with
  | .error cause =>
    complain 4 ("can't read " ++ arg ++ ": " ++ cause.reason)
    return e
  | .ok (_, .file n) =>
    match files.read (pathOf arg) with
    | .error cause =>
      complain 4 ("can't read " ++ arg ++ ": " ++ cause.reason)
      return e
    | .ok content =>
      let lines := inputLines s.lineEnd arg (rawContent content)
      let done := editLines s lines
        { e with number := 0, ranges := startRanges s.commands, out := [], lacksEnd := false }
      let new := contentOf (String.join done.out.reverse)
      let mode := files.modeOf (.file n)
      if !ending.isEmpty then
        let _ ← change fun t => t.rename (pathOf arg) (pathOf (keptName ending arg))
      else
        let _ ← change fun t => t.removeFile (pathOf arg)
      let _ ← change fun t => t.writeAs mode (pathOf arg) new
      return { done with out := [] }
  | .ok _ =>
    complain 4 ("couldn't edit " ++ arg ++ ": not a regular file")
    return e

/-- The lines of an operand; a complaint if it cannot be read. -/
def operandLines (s : Setting) (arg : String) : Work (List InputLine) := do
  match ← operand arg with
  | .ok content => return inputLines s.lineEnd arg (rawContent content)
  | .error .isDirectory =>
    complain 4 ("read error on " ++ (if arg == "-" then "stdin" else arg) ++ ": "
      ++ FileFault.isDirectory.reason)
    return []
  | .error .badDescriptor =>
    complain 4 ("read error on stdin: " ++ FileFault.badDescriptor.reason)
    return []
  | .error e =>
    complain 2 ("can't read " ++ arg ++ ": " ++ e.reason)
    return []

/-- Edit the operands one after the other until the editor quits. -/
def editSeparately (s : Setting) (each : String → Editor → Work Editor) :
    List String → Editor → Work Editor
  | [], e => return e
  | arg :: args, e => do
    let e ← each arg e
    if e.code.isSome then return e else editSeparately s each args e

/-- The tool `sed`. -/
def sedTool : Routine :=
  withOptions
    { flags := "nErsuzP", valued := "efl", glued := "i"
      long := [("quiet", 'n'), ("silent", 'n'), ("expression", 'e'), ("file", 'f'),
        ("regexp-extended", 'E'), ("in-place", 'i'), ("separate", 's'), ("null-data", 'z'),
        ("line-length", 'l'), ("posix", 'P'), ("unbuffered", 'u'), ("debug", 'P')] } 1 fun o => do
    let given := o.given.any fun x => x.1 == 'e' || x.1 == 'f'
    let operands := if given then o.operands else o.operands.tail
    match ← scriptPieces o with
    | .error text => complain 4 text
    | .ok [] =>
      emit 2 (contentOf ("Usage: sed [OPTION]... \x7bscript-only-if-no-other-script\x7d "
        ++ "[input-file]...\n"))
      fail 1
    | .ok pieces =>
      match readPieces (o.has 'E' || o.has 'r') pieces {} with
      | .error text => complain 1 text
      | .ok p =>
        match missingLabel? p.commands with
        | some name => complain 4 ("can't find label for jump to \x60" ++ name ++ "'")
        | none =>
          let files ← tree
          let silent := (pieces.head?.map fun x => x.text == "#n" || x.text.startsWith "#n\n").getD false
          let s : Setting :=
            { commands := p.commands
              labels := labels p.commands
              quiet := o.has 'n' || silent
              lineEnd := if o.has 'z' then Char.ofNat 0 else '\n'
              width := ((o.value? 'l').bind String.toNat?).getD 70
              readFile := fun path => (files.read (pathOf path)).toOption.map rawContent }
          (writtenFiles p.commands).forM fun path => do
            let _ ← store path .empty
          let operands := if operands.isEmpty then ["-"] else operands
          let start : Editor := { ranges := startRanges p.commands }
          let done ← match o.value? 'i' with
            | some ending => editSeparately s (editInPlace s ending) operands start
            | none =>
              if o.has 's' then
                editSeparately s (fun arg e => do
                  let lines ← operandLines s arg
                  return editLines s lines { e with number := 0, ranges := startRanges p.commands })
                  operands start
              else
                let lines ← operands.mapM (operandLines s)
                pure (editLines s lines.flatten start)
          say (String.join done.out.reverse)
          done.written.forM fun x => do
            let _ ← store x.1 (contentOf x.2)
          if let some code := done.code then
            if code != 0 || (← get).status == 0 then fail code

end ShaderBuild.Tool.Edit
