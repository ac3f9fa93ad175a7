import ShaderBuild.Shell.Command
import ShaderBuild.Text.Pieces

/-! # Reading a script

A script is read character by character, and one command at a time, since the commands before a
mistake are run before it is noticed.  This module holds the state of the reader and its smallest
steps; every loop is bounded by the number of characters left.  Where a command begins, the name of
an alias is replaced by its text. -/

namespace ShaderBuild.Shell

/-- What a script is made of: words, operators, and the ends of lines. -/
inductive Token where
  | finish
  | newline
  | operator (text : String)
  | redirect (stream : Option Nat) (text : String)
  /-- A redirection of a new stream, whose number a variable gets. -/
  | allotted (name text : String)
  | keyword (text : String)
  | word (w : Word)

/-- A here-document whose lines are still to come. -/
structure Announced where
  number : Nat
  /-- The line at which it was announced. -/
  line : Nat
  delimiter : String
  expands : Bool
  stripsTabs : Bool

/-- The text of an alias that is being read in place of its name. -/
structure Substituted where
  name : String
  /-- How many characters are left of the script where the text ends. -/
  rest : Nat
  /-- Whether the text ends with a blank, so that the next word may be an alias too. -/
  goesOn : Bool

/-- Where parentheses belong to a word. -/
inductive Grouping where
  | nowhere
  /-- After the characters that begin a group in a pattern. -/
  | patterns
  /-- Anywhere, as in a regular expression. -/
  | everywhere
deriving DecidableEq, Repr

/-- A script that is being read. -/
structure Reader where
  rest : List Char
  dialect : Dialect := .standard
  /-- All of the script, whose lines are shown with what is wrong with them. -/
  script : List Char := []
  /-- The number of its first line. -/
  firstLine : Nat := 1
  grouping : Grouping := .nowhere
  /-- Whether the next word may be an assignment. -/
  assigns : Bool := false
  aliases : List (String × String) := []
  /-- The aliases in whose texts the reader is. -/
  substituted : List Substituted := []
  line : Nat := 1
  /-- A token that was looked at and not used. -/
  held : Option Token := none
  announced : List Announced := []
  documents : Array Word := #[]
  /-- What is strange and yet not wrong, and the lines at which that was seen, the latest first. -/
  warnings : List (Nat × String) := []

/-- What is wrong with a script, in lines, and the line at which that was seen; the line itself may
be shown. -/
structure Misspelling where
  line : Nat
  text : String
  shown : Option String := none
  /-- The status that this leads to. -/
  status : UInt8 := 2
  /-- The status stays what it was if it was that of a failure. -/
  keeps : Bool := false
deriving DecidableEq, Repr

/-- A reader at the beginning of a script. -/
def Reader.ofText (dialect : Dialect) (text : String) (firstLine : Nat) : Reader :=
  { rest := text.toList, dialect, script := text.toList, firstLine, line := firstLine }

/-- A step of reading. -/
abbrev Read := StateT Reader (Except Misspelling)

/-! ### Executable definitions -/

/-- Whether the script is of the extended dialect. -/
def isExtended : Read Bool :=
  return (← get).dialect = .extended

/-- Give up. -/
def misspelled {α : Type} (text : String) : Read α := do
  throw { line := (← get).line, text := "Syntax error: " ++ text }

/-- Give up where the script ends before `closing`, which is looked for from a line on. -/
def unclosed {α : Type} (line : Nat) (closing : String) (text : String) (keeps : Bool := true) :
    Read α := do
  match (← get).dialect with
  | .standard => misspelled text
  | .extended =>
    throw { line, keeps
            text := "unexpected EOF while looking for matching \x60" ++ closing ++ "'" }

/-- How a token is called in a message. -/
def Token.description : Token → String
  | .finish => "end of file"
  | .newline => "newline"
  | .operator text | .keyword text => "\"" ++ text ++ "\""
  | .redirect _ _ | .allotted _ _ => "redirection"
  | .word _ => "word"

/-- The text of a word without its quotes. -/
def bareText (w : Word) : String :=
  String.join (w.map fun
    | .text chars _ => chars
    | .parameter name _ _ _ => "$" ++ name
    | _ => "")

/-- A token as it is written. -/
def Token.spelling : Token → String
  | .finish | .newline => "newline"
  | .operator text | .keyword text | .redirect _ text | .allotted _ text => text
  | .word w => bareText w

/-- A line of the script. -/
def Reader.lineText (r : Reader) (line : Nat) : String :=
  String.ofList ((pieces (· == '\n') r.script).getD (line - r.firstLine) [])

/-- How many lines the script has when its last line is ended. -/
def Reader.lastLine (r : Reader) : Nat :=
  let ends := r.script.count '\n'
  r.firstLine + if r.script.getLast? == some '\n' then ends else ends + 1

/-- Give up at a token; `wanted` would have been right. -/
def unexpected {α : Type} (t : Token) (wanted : Option Token) : Read α := do
  let r ← get
  match r.dialect, t with
  | .standard, t =>
    misspelled (t.description ++ " unexpected"
      ++ wanted.elim "" fun w => " (expecting " ++ w.description ++ ")")
  | .extended, .finish => throw { line := r.lastLine, text := "syntax error: unexpected end of file" }
  | .extended, t =>
    let line := if t.description == "newline" then r.line - 1 else r.line
    throw { line, text := "syntax error near unexpected token \x60" ++ t.spelling ++ "'"
            shown := some (r.lineText line) }

/-- Repeat a step until it says that nothing more is to be done, at most `n` times. -/
def repeatStep {m : Type → Type} [Monad m] {α : Type} (step : α → m (α × Bool)) : Nat → α → m α
  | 0, a => pure a
  | n + 1, a => do
    let (a', more) ← step a
    if more then repeatStep step n a' else pure a'

/-- More than the number of characters that can still be read, those of aliases included. -/
def Reader.bound (r : Reader) : Nat :=
  (r.rest.length + 2) * r.aliases.foldl (fun n a => n + a.2.length + 1) 1

/-- Repeat a reading step; each repetition but the last ones uses up a character. -/
def untilDone {α : Type} (step : α → Read (α × Bool)) (a : α) : Read α := do
  repeatStep step (← get).bound a

/-- The next character. -/
def look : Read (Option Char) := do
  return (← get).rest.head?

/-- Go past the next character. -/
def skip : Read Unit :=
  modify fun r => match r.rest with
    | '\n' :: cs => { r with rest := cs, line := r.line + 1 }
    | cs => { r with rest := cs.tail }

/-- The characters after line ends that a backslash hides, and how many of these there are. -/
def dropJoins : List Char → List Char × Nat
  | '\\' :: '\n' :: cs => ((dropJoins cs).1, (dropJoins cs).2 + 1)
  | cs => (cs, 0)

/-- The next character after line ends that a backslash hides. -/
def lookJoined : Read (Option Char) := do
  modify fun r => { r with rest := (dropJoins r.rest).1, line := r.line + (dropJoins r.rest).2 }
  look

/-- Go past the next character if it is `c`. -/
def accept (c : Char) : Read Bool := do
  if (← lookJoined) == some c then
    skip
    return true
  else return false

/-- The longest run of characters of a kind. -/
def takeChars (p : Char → Bool) : Read String := do
  let cs ← untilDone (fun cs => do
    match ← lookJoined with
    | some c =>
      if p c then
        skip
        return (c :: cs, true)
      else return (cs, false)
    | none => return (cs, false)) []
  return String.ofList cs.reverse

/-- Read another text with `act`, and go on with this one. -/
def reading {α : Type} (text : List Char) (act : Read α) : Read α := do
  let outer ← get
  set { outer with rest := text, held := none, announced := [] }
  let a ← act
  let inner ← get
  set { outer with documents := inner.documents, warnings := inner.warnings }
  return a

/-- Read with parentheses in words where `grouping` says. -/
def withGrouping {α : Type} (grouping : Grouping) (act : Read α) : Read α := do
  let before := (← get).grouping
  modify fun r => { r with grouping }
  let a ← act
  modify fun r => { r with grouping := before }
  return a

/-- Read with `act` if that works; otherwise nothing is read. -/
def attempt {α : Type} (act : Read α) : Read (Option α) := fun r =>
  match act r with
  | .ok (a, r) => .ok (some a, r)
  | .error _ => .ok (none, r)

/-- Keep a token for later. -/
def hold (t : Token) : Read Unit :=
  modify fun r => { r with held := some t }

end ShaderBuild.Shell
