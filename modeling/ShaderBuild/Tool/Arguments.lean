import ShaderBuild.Tool.Lines

/-! # Arguments from the input

The tool `xargs` reads words, or lines, from its input and starts a program with them. -/

namespace ShaderBuild.Tool

/-- Why words cannot be read. -/
inductive WordFault where
  | unmatched (quote : Char)

/-- What is wrong with the words. -/
def WordFault.message : WordFault → String
  | .unmatched quote =>
    "unmatched " ++ (if quote == '"' then "double" else "single")
      ++ " quote; by default quotes are special to xargs unless you use the -0 option"

/-- Where reading of words stands. -/
structure WordState where
  /-- The words of the lines so far, the latest first, and whether a blank ends the line. -/
  lines : List (List String) := [[]]
  /-- The word that is being read, the latest character first. -/
  word : Option (List Char) := none
  quote : Option Char := none
  escaped : Bool := false
  /-- Whether the last character of the line was a blank. -/
  blank : Bool := false

namespace WordState

/-- End the word that is being read. -/
def endWord (s : WordState) : WordState :=
  match s.word, s.lines with
  | some w, line :: lines =>
    { s with word := none, lines := (line ++ [String.ofList w.reverse]) :: lines }
  | _, _ => s

/-- Add a character to the word. -/
def push (s : WordState) (c : Char) : WordState :=
  { s with word := some (c :: s.word.getD []), escaped := false, blank := false }

/-- End the line; a line that ends with a blank goes on. -/
def endLine (s : WordState) : WordState :=
  if s.blank then { s.endWord with blank := false }
  else
    let s := s.endWord
    if s.lines.head? == some [] then s else { s with lines := [] :: s.lines }

/-- Read one character. -/
def step (whole : Bool) (s : WordState) (c : Char) : WordState :=
  if s.escaped then s.push c
  else match s.quote with
    | some q => if c == q then { s with quote := none } else s.push c
    | none =>
      if c == '\\' then { s with escaped := true, word := some (s.word.getD []) }
      else if c == '"' || c == '\'' then { s with quote := some c, word := some (s.word.getD []) }
      else if c == '\n' then s.endLine
      else if c == ' ' || c == '\t' then
        if whole then (if s.word.isNone then s else s.push c) else { s.endWord with blank := true }
      else s.push c

/-- Read words by lines; with `whole` a line is one word from its first character that is no
blank. -/
def readAll (whole : Bool) (cs : List Char) : List (List String) × Option WordFault :=
  let s := cs.foldl (step whole) {}
  let last := { s with blank := false }.endWord
  let fault := s.quote.map WordFault.unmatched
  let lines := (if fault.isSome then s.lines else last.lines).reverse
  (lines.filter fun l => !l.isEmpty, fault)

end WordState

/-- The character that a delimiter option names. -/
def delimiterChar (text : String) : Char :=
  match text.toList with
  | ['\\', 'n'] => '\n'
  | ['\\', 't'] => '\t'
  | ['\\', '0'] => Char.ofNat 0
  | c :: _ => c
  | [] => '\n'

/-- A text in which each place of a mark holds a word; `n` bounds the length. -/
def filledIn (mark word : List Char) : Nat → List Char → List Char
  | 0, cs => cs
  | _, [] => []
  | n + 1, c :: cs =>
    if !mark.isEmpty && mark.isPrefixOf (c :: cs) then
      word ++ filledIn mark word n ((c :: cs).drop mark.length)
    else c :: filledIn mark word n cs

/-- Start a program with each list of arguments in turn, until one must be the last. -/
def startEach (trace : Bool) (program : String) : List (List String) → Work Unit
  | [] => pure ()
  | args :: rest => do
    if trace then emit 2 (contentOf (" ".intercalate (program :: args) ++ "\n"))
    match ← startProgram program args .empty with
    | .error e =>
      complain (if e == .notFound then 127 else 126) (program ++ ": " ++ e.reason)
    | .ok (.signaled n) =>
      complain 125 (program ++ ": terminated by signal " ++ Nat.repr n)
    | .ok (.exited 255) => complain 124 (program ++ ": exited with status 255; aborting")
    | .ok (.exited code) =>
      if code != 0 then fail 123
      startEach trace program rest

/-- The tool `xargs`. -/
def argumentsTool : Routine :=
  withOptions
    { flags := "0rtxop", valued := "ndILsPEa", glued := "ile"
      long := [("null", '0'), ("no-run-if-empty", 'r'), ("verbose", 't'), ("max-args", 'n'),
        ("delimiter", 'd'), ("max-lines", 'l'), ("replace", 'i'), ("max-chars", 's'),
        ("max-procs", 'P'), ("arg-file", 'a'), ("exit", 'x')]
      ordered := true } 1 fun o => do
    let content ← match o.value? 'a' with
      | some file => operand file
      | none => do
        let content ← takeInput
        pure (.ok content)
    match content with
    | .error e =>
      complain 1 ("Cannot open input file " ++ quoted ((o.value? 'a').getD "") ++ ": " ++ e.reason)
    | .ok content =>
      let program := o.operands.headD "echo"
      let fixed := o.operands.drop 1
      let mark := match o.value? 'I', o.value? 'i' with
        | some mark, _ => some mark
        | none, some "" => some "{}"
        | none, mark => mark
      let text := rawContent content
      let (lines, fault) :=
        if o.has '0' then ((delimited (Char.ofNat 0) text).map fun w => [w], none)
        else match o.value? 'd' with
          | some d => ((delimited (delimiterChar d) text).map fun w => [w], none)
          | none => WordState.readAll mark.isSome text.toList
      let words := lines.flatten
      let words := match o.value? 'E' with
        | some stop => words.takeWhile (· != stop)
        | none => words
      let perLine := match o.value? 'L', o.value? 'l' with
        | some n, _ => n.toNat?
        | none, some "" => some 1
        | none, n => n.bind String.toNat?
      let count := o.value? 'n'
      if count == some "0" then
        complain 1 "value 0 for -n option should be >= 1"
        emit 2 (contentOf "Try 'xargs --help' for more information.\n")
      else
        let calls := match mark with
          | some mark => words.map fun w => fixed.map fun arg =>
              String.ofList (filledIn mark.toList w.toList (arg.length + 1) arg.toList)
          | none =>
            match count.bind String.toNat?, perLine with
            | some n, _ => (grouped n words.length words).map (fixed ++ ·)
            | none, some n => (grouped n lines.length lines).map fun ls => fixed ++ ls.flatten
            | none, none => if words.isEmpty then [] else [fixed ++ words]
        let calls := if calls.isEmpty && !o.has 'r' && mark.isNone && fault.isNone then [fixed]
          else calls
        startEach (o.has 't') program calls
        if let some fault := fault then complain 1 fault.message

end ShaderBuild.Tool
