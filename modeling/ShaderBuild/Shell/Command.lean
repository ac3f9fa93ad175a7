import ShaderBuild.Text.Raw

/-! # Shell commands

The commands of the shell language as data.  A word is a list of parts, each of them quoted or not;
parts may hold commands, whose output they stand for, and commands hold words.  Here-documents come
after the line that announces them, so a redirection names its document by number.  The language has
two dialects; what only the extended one has is marked as such where it is not plain. -/

namespace ShaderBuild.Shell

/-- The ways in which shells differ. -/
inductive Dialect where
  | standard
  /-- With arrays, tests and arithmetic as commands, and more forms of parameters. -/
  | extended
deriving DecidableEq, Repr

/-- What a parameter is compared for before a word is used in its place. -/
inductive Fallback where
  /-- `-`: use the word instead of a missing value. -/
  | replace
  /-- `=`: also assign it. -/
  | assign
  /-- `?`: complain with it. -/
  | complain
  /-- `+`: use it instead of a value. -/
  | alternative
deriving DecidableEq, Repr

/-- Which of the places where a pattern matches are replaced. -/
inductive Occurrence where
  | first
  | all
  | front
  | back
deriving DecidableEq, Repr

/-- How the case of letters is changed. -/
inductive Recase where
  | upper
  | lower
  | swap
deriving DecidableEq, Repr

/-- How a redirection opens a file. -/
inductive Access where
  | read
  | write
  | append
  | readWrite
  /-- Write even if files are protected. -/
  | clobber
deriving DecidableEq, Repr

/-- How a selection goes on after an arm. -/
inductive ArmEnd where
  | stop
  /-- `;&`: with the commands of the next arm. -/
  | fall
  /-- `;;&`: with the patterns of the next arm. -/
  | resume
deriving DecidableEq, Repr

mutual

/-- A part of a word. -/
inductive Part where
  | text (chars : String) (quoted : Bool)
  | parameter (name : String) (index : Index) (form : Form) (quoted : Bool)
  /-- The parameter that a parameter names. -/
  | indirect (name : String) (index : Index) (form : Form) (quoted : Bool)
  /-- The output of a command. -/
  | output (body : Command) (quoted : Bool)
  | arithmetic (expression : List Part) (quoted : Bool)
  /-- The name of a file from which a command's output is read, or to which its input is written. -/
  | process (reads : Bool) (body : Command)
  /-- The elements that an assignment gives to an array. -/
  | elements (items : List Element)

/-- Which elements of a variable are meant. -/
inductive Index where
  /-- The variable itself. -/
  | whole
  /-- All of them, perhaps joined to one text. -/
  | every (joined : Bool)
  | at (key : List Part)

/-- What a parameter contributes to a word. -/
inductive Form where
  /-- The value, where the name stands in braces or without them. -/
  | value (inBraces : Bool)
  | length
  /-- A word in place of a value that is unset, or also of an empty one. -/
  | fallback (kind : Fallback) (orEmpty : Bool) (word : List Part)
  /-- The value without what a pattern matches at its front or back. -/
  | trim (back longest : Bool) (pattern : List Part)
  /-- The part of the value from a place on, perhaps of some length. -/
  | slice (start : List Part) (length : Option (List Part))
  /-- The value with a word in the places that a pattern matches. -/
  | replacing (places : Occurrence) (pattern word : List Part)
  /-- The value with the case of the letters that a pattern matches changed. -/
  | recased (kind : Recase) (all : Bool) (pattern : Option (List Part))
  /-- The value as one of the transformations with a letter makes it. -/
  | transformed (letter : Char)
  /-- The keys of an array. -/
  | keys (joined : Bool)
  /-- The names of the variables whose names begin as the parameter's. -/
  | names (joined : Bool)
  /-- No form of the language; its text. -/
  | bad (text : String)

/-- An element that an assignment gives to an array: after the last one, or under a key. -/
inductive Element where
  | next (word : List Part)
  | keyed (key : List Part) (appends : Bool) (word : List Part)

/-- An assignment to a variable or an element of one; it may add to the old value. -/
inductive Assignment where
  | assign (name : String) (index : Index) (appends : Bool) (value : List Part)

/-- A redirection of a stream, which is known by its number. -/
inductive Redirect where
  | file (stream : Nat) (access : Access) (target : List Part)
  /-- Make a stream the same as another one, or close it. -/
  | duplicate (stream : Nat) (source : List Part)
  | document (stream : Nat) (number : Nat)
  /-- Read a word as a line. -/
  | line (stream : Nat) (word : List Part)
  /-- Write the output and the errors to a file. -/
  | outputs (appends : Bool) (target : List Part)
  /-- A redirection of a new stream, whose number a variable gets; what closes a stream closes the
  one that the variable names. -/
  | allotted (name : String) (redirect : Redirect)

/-- A question between double brackets. -/
inductive Question where
  | one (operator : String) (operand : List Part)
  | two (operator : String) (left right : List Part)
  | not (q : Question)
  | both (p q : Question)
  | either (p q : Question)

/-- A command. -/
inductive Command where
  | empty
  | simple (line : Nat) (assignments : List Assignment) (words : List (List Part))
      (redirects : List Redirect)
  | pipeline (stages : List Command)
  | negation (body : Command)
  | sequence (first second : Command)
  | both (first second : Command)
  | either (first second : Command)
  | background (body : Command)
  | redirected (line : Nat) (body : Command) (redirects : List Redirect)
  | subshell (line : Nat) (body : Command) (redirects : List Redirect)
  | choice (condition yes no : Command)
  /-- `while`, or `until` if it is negated. -/
  | loop (negated : Bool) (condition body : Command)
  | each (line : Nat) (name : String) (words : List (List Part)) (body : Command)
  | select (line : Nat) (subject : List Part) (arms : List (List (List Part) × Command × ArmEnd))
  | define (name : String) (body : Command)
  /-- A question in double brackets. -/
  | ask (line : Nat) (q : Question)
  /-- An expression in double parentheses. -/
  | compute (line : Nat) (expression : List Part)
  /-- A loop with expressions for its start, its condition and its steps. -/
  | counted (line : Nat) (start condition next : List Part) (body : Command)
  /-- A loop over the words that are chosen from a list. -/
  | menu (line : Nat) (name : String) (words : List (List Part)) (body : Command)

end

/-- A word: its parts in order. -/
abbrev Word := List Part

/-! ### Names -/

/-- Whether a character may begin the name of a variable. -/
def isNameStart (c : Char) : Bool :=
  c.isAlpha || c == '_'

/-- Whether a character may stand in the name of a variable. -/
def isNameChar (c : Char) : Bool :=
  c.isAlphanum || c == '_'

/-- Whether a text is the name of a variable. -/
def isName (s : String) : Bool :=
  match s.toList with
  | c :: cs => isNameStart c && cs.all isNameChar
  | [] => false

/-- Whether a character alone is the name of a parameter. -/
def isSpecial (c : Char) : Bool :=
  c.isDigit || "@*#?-$!".toList.contains c

/-! ### Words -/

/-- A word of one unquoted text. -/
def Word.ofText (text : String) : Word :=
  if text.isEmpty then [] else [.text text false]

/-- The text of a word that is nothing but unquoted text. -/
def plainText? (w : Word) : Option String :=
  match w with
  | [.text chars false] => some chars
  | _ => none

/-- A word without its first characters, which are in its first part. -/
def dropFront (n : Nat) (w : Word) : Word :=
  match w with
  | .text chars quoted :: rest =>
    let after := chars.toList.drop n
    if after.isEmpty then rest else .text (String.ofList after) quoted :: rest
  | w => w

/-- The parts of a word up to an unquoted bracket that closes one opened before it, and what follows
the bracket; `depth` brackets are open. -/
def splitBracket : Nat → Word → Option (Word × Word)
  | _, [] => none
  | depth, .text chars false :: rest =>
    match closing depth [] chars.toList with
    | .inl (inside, after) =>
      some (Word.ofText (String.ofList inside.reverse), Word.ofText (String.ofList after) ++ rest)
    | .inr depth => (splitBracket depth rest).map fun x => (.text chars false :: x.1, x.2)
  | depth, p :: rest => (splitBracket depth rest).map fun x => (p :: x.1, x.2)
where
  /-- The characters before the bracket, latest first, and those after it, or how many brackets are
  open at the end. -/
  closing (depth : Nat) (before : List Char) : List Char → (List Char × List Char) ⊕ Nat
    | [] => .inr depth
    | ']' :: cs =>
      if depth ≤ 1 then .inl (before, cs) else closing (depth - 1) (']' :: before) cs
    | c :: cs => closing (if c == '[' then depth + 1 else depth) (c :: before) cs

/-- The assignment that a word makes. -/
def assignment? (dialect : Dialect) (w : Word) : Option Assignment :=
  match w with
  | .text chars false :: _ =>
    let name := String.ofList (chars.toList.takeWhile isNameChar)
    if !isName name then none
    else
      let after := dropFront name.length w
      let valued (index : Index) (w : Word) : Option Assignment :=
        match w with
        | .text chars false :: _ =>
          match chars.toList with
          | '=' :: _ => some (.assign name index false (dropFront 1 w))
          | '+' :: '=' :: _ =>
            if dialect = .extended then some (.assign name index true (dropFront 2 w)) else none
          | _ => none
        | _ => none
      match dialect, after with
      | .extended, .text chars false :: _ =>
        if chars.startsWith "[" then
          match splitBracket 1 (dropFront 1 after) with
          | some (key, rest) => valued (.at key) rest
          | none => none
        else valued .whole after
      | _, _ => valued .whole after
  | _ => none

/-- The element that a word gives to an array. -/
def Element.ofWord (w : Word) : Element :=
  match w with
  | .text chars false :: _ =>
    if chars.startsWith "[" then
      match splitBracket 1 (dropFront 1 w) with
      | some (key, .text after false :: rest) =>
        match after.toList with
        | '=' :: _ => .keyed key false (dropFront 1 (.text after false :: rest))
        | '+' :: '=' :: _ => .keyed key true (dropFront 2 (.text after false :: rest))
        | _ => .next w
      | _ => .next w
    else .next w
  | _ => .next w

end ShaderBuild.Shell
