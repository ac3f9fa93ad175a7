import ShaderBuild.Tool.Lines

/-! # Paragraphs

`fmt` breaks paragraphs into lines of about equal length.  Each way to break a paragraph has a
cost: for lines that are shorter or longer than the goal, for lines that differ in length from the
next one, and for breaks at bad places.  From the last word on, the best break after each word is
found. -/

namespace ShaderBuild.Tool.Paragraph

/-! ### Words -/

/-- A word of a paragraph, and the width of the space after it. -/
structure Word where
  text : List Char
  space : Nat
  /-- It ends a sentence. -/
  final : Bool

namespace Word

/-- Whether the word begins with a bracket or quote. -/
def opens (w : Word) : Bool :=
  w.text.head?.any fun c => "(['\x60\"".toList.contains c

/-- Whether the word ends with punctuation. -/
def isPunctuated (w : Word) : Bool :=
  w.text.getLast?.any (inClass "punct")

/-- Whether the word ends with a full stop, perhaps in brackets or quotes. -/
def isStopped (w : Word) : Bool :=
  let cs := w.text.reverse
  let bare := cs.dropWhile fun c => ")]'\"".toList.contains c
  ((bare.head?.or cs.getLast?).any fun c => ".?!".toList.contains c)

end Word

/-! ### Costs -/

/-- The cost that a measure counts for. -/
def square (n : Int) : Int := n * n

/-- The cost of a break before a word; `before` are the words before it, the nearest first. -/
def breakCost (before : List Word) (this : Word) : Int :=
  let front : Int := match before with
    | [] => 0
    | w :: earlier =>
      if w.isStopped then if w.final then -square 50 else square 600
      else if w.isPunctuated then -square 40
      else match earlier with
        | v :: _ => if v.final then square 200 / (w.text.length + 2 : Nat) else 0
        | [] => 0
  let own : Int := if this.opens then -square 40
    else if this.final then square 150 / (this.text.length + 2 : Nat)
    else 0
  square 70 + front + own

/-- How lines are broken. -/
structure Shape where
  width : Nat
  goal : Nat
  first : Nat
  other : Nat

/-- The best way to break what begins with a word. -/
structure Plan where
  cost : Int
  /-- The length of the line, and the number of words on it. -/
  length : Nat
  count : Nat

/-- The cost of a line of some length before the words for which there is a plan. -/
def lineCost (s : Shape) (length : Nat) : List Plan → Int
  | [] => 0
  | next :: rest =>
    let short := square (10 * ((s.goal : Int) - length))
    if (rest.drop (next.count - 1)).isEmpty then short
    else short + square (10 * ((length : Int) - next.length)) / 2

/-- The best line that begins with a word, where the line has `length` with the words so far. -/
def bestLine (s : Shape) : (words : List Word) → (plans : List Plan) →
    (space length count : Nat) → Option Plan → Option Plan
  | words, plans, space, length, count, best =>
    let cost := lineCost s length plans + (plans.head?.map Plan.cost).getD 0
    let best := match best with
      | some b => if cost < b.cost then some ⟨cost, length, count⟩ else some b
      | none => some ⟨cost, length, count⟩
    match words, plans with
    | w :: words, _ :: plans =>
      let length := length + space + w.text.length
      if length < s.width then bestLine s words plans w.space length (count + 1) best else best
    | _, _ => best

/-- Plans for the words from each one on; `before` are the words before them, the nearest first. -/
def plans (s : Shape) : (before words : List Word) → List Plan
  | _, [] => []
  | before, w :: rest =>
    let later := plans s (w :: before) rest
    let start := if before.isEmpty then s.first else s.other
    match bestLine s rest later w.space (start + w.text.length) 1 none with
    | some best => { best with cost := best.cost + breakCost before w } :: later
    | none => later

/-- The lines that plans make of words. -/
def linesBy : (n : Nat) → List Word → List Plan → List (List Word)
  | 0, _, _ | _, _, [] => []
  | n + 1, words, p :: rest =>
    words.take p.count :: linesBy n (words.drop p.count) (rest.drop (p.count - 1))

/-! ### Reading -/

/-- How paragraphs are told apart. -/
inductive Manner where
  | plain
  /-- The first two lines of a paragraph may begin differently. -/
  | crown
  /-- They must. -/
  | tagged
  /-- Lines are only cut, not joined. -/
  | cut
deriving DecidableEq, Repr

/-- The column after blanks, and what follows them. -/
def indent : Nat → List Char → Nat × List Char
  | column, ' ' :: cs => indent (column + 1) cs
  | column, '\t' :: cs => indent ((column / 8 + 1) * 8) cs
  | column, cs => (column, cs)

/-- The words of a line from a column on, at most `n` of them. -/
def lineWords (uniform : Bool) : (n column : Nat) → List Char → List Word
  | 0, _, _ | _, _, [] => []
  | n + 1, column, cs =>
    let text := cs.takeWhile fun c => !inClass "space" c
    let column := column + text.length
    let (next, rest) := indent column (cs.drop text.length)
    let word : Word := { text, space := next - column, final := false }
    let final := word.isStopped && (rest.isEmpty || 1 < word.space)
    let space := if rest.isEmpty || uniform then if final then 2 else 1 else word.space
    { word with space, final } :: lineWords uniform n next rest

/-- The lines that belong to a paragraph after its first one, all of them begin at a column. -/
def followers (column : Nat) (lines : List String) : List String :=
  lines.takeWhile fun l =>
    match indent 0 l.toList with
    | (_, []) => false
    | (c, _) => c == column

/-- The lines of a paragraph after its first one, and the column at which they begin. -/
def paragraph (m : Manner) (before first : Nat) (rest : List String) : List String × Nat :=
  let next := (rest.head?.map fun l => indent 0 l.toList).filter fun x => !x.2.isEmpty
  match m with
  | .cut => ([], first)
  | .plain => (followers first rest, first)
  | .crown =>
    match next with
    | some (column, _) => (followers column rest, column)
    | none => ([], first)
  | .tagged =>
    match next with
    | some (column, _) =>
      if column != first then (followers column rest, column)
      else ([], if before == first then (if first == 0 then 3 else 0) else before)
    | none => ([], if before == first then (if first == 0 then 3 else 0) else before)

/-- Space from one column to another; perhaps with tabs, where these are more than one column
long. -/
def gap (tabs : Bool) (start stop : Nat) : List Char :=
  let target := stop / 8 * 8
  if tabs && start + 1 < target then
    List.replicate (target / 8 - start / 8) '\t' ++ List.replicate (stop - target) ' '
  else List.replicate (stop - start) ' '

/-- Words from a column on. -/
def shown (tabs : Bool) : (column : Nat) → List Word → List Char
  | _, [] => []
  | _, [w] => w.text
  | column, w :: rest =>
    let stop := column + w.text.length
    w.text ++ gap tabs stop (stop + w.space) ++ shown tabs (stop + w.space) rest

/-- Print lines with their paragraphs broken anew, at most `n` of them; `before` is the column at
which the lines of the paragraph before began. -/
def sayAll (m : Manner) (tabs uniform : Bool) (width goal : Nat) :
    (n before : Nat) → List String → Work Unit
  | 0, _, _ | _, _, [] => pure ()
  | n + 1, before, l :: rest => do
    match indent 0 l.toList with
    | (_, []) =>
      say "\n"
      sayAll m tabs uniform width goal n before rest
    | (first, _) =>
      let (more, other) := paragraph m before first rest
      let words := (l :: more).flatMap fun l =>
        let (column, cs) := indent 0 l.toList
        lineWords uniform cs.length column cs
      let count := words.length
      let words := words.zipIdx.map fun (w, i) => if i + 1 == count then { w with final := true } else w
      let lines := linesBy count words (plans ⟨width, goal, first, other⟩ [] words)
      sayLines (lines.zipIdx.map fun (ws, i) =>
        let start := if i == 0 then first else other
        String.ofList (gap tabs 0 start ++ shown tabs start ws))
      sayAll m tabs uniform width goal n other (rest.drop more.length)

/-- The tool `fmt`. -/
def paragraphTool : Routine := do
  let args := (← read).args.map fun a =>
    match a.toList with
    | '-' :: c :: cs => if (c :: cs).all Char.isDigit then "-w" ++ String.ofList (c :: cs) else a
    | _ => a
  let table : OptionTable :=
    { flags := "cstu", valued := "wpg"
      long := [("width", 'w'), ("goal", 'g'), ("crown-margin", 'c'), ("tagged-paragraph", 't'),
        ("split-only", 's'), ("uniform-spacing", 'u'), ("prefix", 'p')] }
  match table.readFrom (args.length + 1) args with
  | .error text => refuse 1 text
  | .ok o =>
    let width := (o.value? 'w').getD "75"
    match width.toNat? with
    | none => complain 1 ("invalid width: " ++ quoted width)
    | some width =>
      let goal := ((o.value? 'g').bind String.toNat?).getD (width * 187 / 200)
      let m : Manner := if o.has 's' then .cut else if o.has 'c' then .crown
        else if o.has 't' then .tagged else .plain
      let cannot (arg : String) (e : FileFault) : Work Unit :=
        complain 1 (if e = .isDirectory || arg == "-" then "read error"
          else "cannot open " ++ quoted arg ++ " for reading: " ++ e.reason)
      eachContent o.operands cannot fun _ content => do
        let text := rawContent content
        let lines := linesOf text
        sayAll m (text.toList.contains '\t') (o.has 'u') width goal (lines.length + 1) 0 lines

end ShaderBuild.Tool.Paragraph
