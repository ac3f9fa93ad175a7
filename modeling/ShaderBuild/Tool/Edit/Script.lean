import ShaderBuild.Tool.Regex.Matching

/-! # Scripts of the stream editor

A script is a list of commands.  Each is for the lines that its addresses select, and blocks of
commands are kept flat: the command that opens a block knows where the block ends.  Reading a script
gives the commands or says at which character something is wrong. -/

namespace ShaderBuild.Tool.Edit

/-! ### Commands -/

/-- An expression to look for; none stands for the one that was used last. -/
structure Pattern where
  regex : Option Regex
  comparison : Regex.Comparison := {}

/-- Which lines a command is for, or where they begin. -/
inductive Address where
  | line (n : Nat)
  | last
  /-- Every so many lines from a line on. -/
  | every (first step : Nat)
  | pattern (p : Pattern)

/-- Where the lines end that a command is for. -/
inductive Ending where
  | address (a : Address)
  /-- So many lines later. -/
  | plus (n : Nat)
  /-- At the next line whose number is a multiple. -/
  | multiple (n : Nat)

/-- A change of case in what takes the place of a match. -/
inductive CaseChange where
  | upper
  | lower
  | upperOne
  | lowerOne
  | stop
deriving DecidableEq, Repr

/-- A piece of what takes the place of a match. -/
inductive Piece where
  | text (c : Char)
  | group (n : Nat)
  | caseChange (c : CaseChange)

/-- What is looked for and what takes its place. -/
structure Substitution where
  pattern : Pattern
  pieces : List Piece
  /-- Whether all matches from the first one that counts are replaced. -/
  all : Bool := false
  nth : Nat := 1
  printed : Bool := false
  writtenTo : Option String := none

/-- When a branch is taken. -/
inductive BranchTime where
  | always
  /-- If something was replaced since the last line was read or the last such branch taken. -/
  | replaced
  | notReplaced
deriving DecidableEq, Repr

/-- What a command does. -/
inductive Action where
  /-- Begin a block that ends before a place in the script. -/
  | block (stop : Nat)
  | nothing
  | label (name : String)
  | substitute (s : Substitution)
  | exchange (first second : List Char)
  | print
  | printFirst
  | delete
  | deleteFirst
  | next
  | nextAppended
  | hold
  | holdAppended
  | fetch
  | fetchAppended
  | swap
  | addBefore (text : String)
  | addAfter (text : String)
  | change (text : String)
  | number
  | list (width : Option Nat)
  | fileName
  | branch (time : BranchTime) (target : String)
  | quit (code : UInt8) (silent : Bool)
  | readFile (path : String)
  | readLine (path : String)
  | writeFile (path : String)
  | writeFirst (path : String)
  | clear

/-- A command with the lines that it is for. -/
structure EditCommand where
  first : Option Address := none
  second : Option Ending := none
  negated : Bool := false
  action : Action

/-! ### Reading -/

/-- What is left of a script, and how many characters it had. -/
structure Source where
  rest : List Char
  size : Nat

/-- A mistake in a script, at a character. -/
structure Mistake where
  place : Nat
  text : String

/-- A step of reading a script. -/
abbrev Read := StateT Source (Except Mistake)

/-- Say what is wrong at the character that was read last. -/
def wrong {α : Type} (text : String) : Read α := do
  let s ← get
  throw ⟨s.size - s.rest.length, text⟩

/-- The next character. -/
def nextChar? : Read (Option Char) := do
  let s ← get
  match s.rest with
  | [] => return none
  | c :: rest =>
    set { s with rest }
    return some c

/-- The next character, which stays. -/
def peek? : Read (Option Char) :=
  return (← get).rest.head?

/-- Take characters as long as they satisfy a predicate. -/
def takeWhile (p : Char → Bool) : Read (List Char) := do
  let s ← get
  let taken := s.rest.takeWhile p
  set { s with rest := s.rest.drop taken.length }
  return taken

/-- Whether a character is a blank within a line. -/
def isBlank (c : Char) : Bool :=
  c == ' ' || c == '\t' || c == '\r' || c.toNat == 11 || c.toNat == 12

/-- Pass over blanks. -/
def skipBlanks : Read Unit := do
  let _ ← takeWhile isBlank

/-- A number, if digits come next. -/
def number? : Read (Option Nat) := do
  return Regex.count? (← takeWhile Char.isDigit)

mutual

/-- The rest of a set between brackets up to its end; `first` says that a closing bracket is a
member. -/
def bracketEnd : Bool → List Char → Option (List Char × List Char)
  | _, [] => none
  | true, '^' :: ']' :: rest => (bracketEnd false rest).map fun x => ('^' :: ']' :: x.1, x.2)
  | _, '[' :: ':' :: rest => (classEnd rest).map fun x => ('[' :: ':' :: x.1, x.2)
  | first, c :: rest =>
    if c == '\n' then none
    else if c == ']' && !first then some ([c], rest)
    else (bracketEnd false rest).map fun x => (c :: x.1, x.2)

/-- The rest of a class and of the set that it is in. -/
def classEnd : List Char → Option (List Char × List Char)
  | [] => none
  | ':' :: ']' :: rest => (bracketEnd false rest).map fun x => (':' :: ']' :: x.1, x.2)
  | c :: rest =>
    if c == '\n' then none else (classEnd rest).map fun x => (c :: x.1, x.2)

end

/-- The text up to a delimiter that is not escaped.  In an expression a set between brackets may
hold the delimiter, and an escaped `n` is a line end. -/
def delimited (delimiter : Char) (isRegex : Bool) : Nat → List Char → Read (Option (List Char))
  | 0, _ => return none
  | n + 1, found => do
    match ← nextChar? with
    | none => return none
    | some c =>
      if c == delimiter then return some found.reverse
      else if c == '\\' then
        match ← nextChar? with
        | none => return none
        | some d =>
          if d == delimiter then
            let kept := if !isRegex && d == '&' then d :: '\\' :: found else d :: found
            delimited delimiter isRegex n kept
          else delimited delimiter isRegex n (d :: '\\' :: found)
      else if c == '\n' && isRegex then return none
      else if c == '[' && isRegex then
        let s ← get
        match bracketEnd true s.rest with
        | some (inside, rest) =>
          set { s with rest }
          delimited delimiter isRegex n (inside.reverse ++ '[' :: found)
        | none => delimited delimiter isRegex n (c :: found)
      else delimited delimiter isRegex n (c :: found)

/-- The way in which expressions are written in scripts. -/
def flavor (extended : Bool) : RegexFlavor :=
  { extended, escapes := true }

/-- The expression that a text spells; an empty one stands for the last one. -/
def readPattern (extended : Bool) (text : List Char) (c : Regex.Comparison) :
    Read (Pattern × Nat) := do
  if text.isEmpty then return (⟨none, c⟩, 9)
  match Regex.parse (flavor extended) text with
  | .ok r => return (⟨some r.regex, c⟩, r.groups)
  | .error text => wrong text

/-- An address, if one comes next. -/
def readAddress (extended : Bool) : Read (Option Address) := do
  let pattern (delimiter : Char) : Read (Option Address) := do
    match ← delimited delimiter true ((← get).rest.length + 1) [] with
    | none => wrong "unterminated address regex"
    | some text =>
      let flags ← takeWhile fun c => c == 'I' || c == 'M'
      let c : Regex.Comparison := { anyCase := flags.contains 'I', multiline := flags.contains 'M' }
      return some (.pattern (← readPattern extended text c).1)
  match (← get).rest with
  | '$' :: _ =>
    let _ ← nextChar?
    return some .last
  | '/' :: _ =>
    let _ ← nextChar?
    pattern '/'
  | '\\' :: delimiter :: _ =>
    let _ ← nextChar?
    let _ ← nextChar?
    pattern delimiter
  | c :: _ =>
    if !c.isDigit then return none
    let n := (← number?).getD 0
    skipBlanks
    match ← peek? with
    | some '~' =>
      let _ ← nextChar?
      return some (.every n ((← number?).getD 0))
    | _ => return some (.line n)
  | [] => return none

/-- The address after a comma. -/
def readEnding (extended : Bool) : Read Ending := do
  skipBlanks
  match ← peek? with
  | some '+' =>
    let _ ← nextChar?
    return .plus ((← number?).getD 0)
  | some '~' =>
    let _ ← nextChar?
    return .multiple ((← number?).getD 0)
  | _ =>
    match ← readAddress extended with
    | some a => return .address a
    | none =>
      let _ ← nextChar?
      wrong "unexpected \x60,'"

/-- Check that a command ends here. -/
def endCommand : Read Unit := do
  skipBlanks
  match ← peek? with
  | none | some '\x7d' | some '#' => pure ()
  | some c =>
    let _ ← nextChar?
    if c != '\n' && c != ';' then wrong "extra characters after command"

/-- A name that ends at a blank, a semicolon or a brace. -/
def readLabel : Read String := do
  skipBlanks
  let name ← takeWhile fun c => !(isBlank c || c == '\n' || c == ';' || c == '\x7d')
  return String.ofList name

/-- The name of a file, up to the end of the line. -/
def readFileName : Read String := do
  skipBlanks
  let name ← takeWhile (· != '\n')
  if name.isEmpty then wrong "missing filename in r/R/w/W commands"
  return String.ofList name

/-- Lines of text, with escapes removed, up to a line end that is not escaped. -/
def textLines : List Char → List Char × List Char
  | [] => ([], [])
  | '\n' :: rest => ([], rest)
  | '\\' :: c :: rest => let (text, after) := textLines rest; (c :: text, after)
  | ['\\'] => ([], [])
  | c :: rest => let (text, after) := textLines rest; (c :: text, after)

/-- The text of a command that adds lines. -/
def readText : Read String := do
  skipBlanks
  let s ← get
  let take (cs : List Char) : Read String := do
    let (text, rest) := textLines cs
    set { s with rest }
    return String.ofList text ++ "\n"
  match s.rest with
  | [] => wrong "expected \\ after \x60a', \x60c' or \x60i'"
  | '\\' :: rest =>
    match rest.dropWhile isBlank with
    | '\n' :: after => take after
    | [] =>
      set { s with rest := [] }
      return ""
    | _ => take rest
  | rest => take rest

/-- The pieces of what takes the place of a match. -/
def replacementPieces : Nat → List Char → List Piece
  | 0, _ | _, [] => []
  | n + 1, '&' :: rest => .group 0 :: replacementPieces n rest
  | n + 1, '\\' :: c :: rest =>
    match c with
    | 'U' => .caseChange .upper :: replacementPieces n rest
    | 'L' => .caseChange .lower :: replacementPieces n rest
    | 'u' => .caseChange .upperOne :: replacementPieces n rest
    | 'l' => .caseChange .lowerOne :: replacementPieces n rest
    | 'E' => .caseChange .stop :: replacementPieces n rest
    | c =>
      if c.isDigit then .group (c.toNat - '0'.toNat) :: replacementPieces n rest
      else
        match Regex.controlEscape? (c :: rest) with
        | some (d, rest) => .text d :: replacementPieces n rest
        | none => .text c :: replacementPieces n rest
  | n + 1, c :: rest => .text c :: replacementPieces n rest

/-- The options of a substitution, at most `n` of them. -/
def readOptions : Nat → Substitution → Regex.Comparison → Bool → Read (Substitution × Regex.Comparison)
  | 0, s, c, _ => return (s, c)
  | n + 1, s, c, numbered => do
    match ← peek? with
    | some 'g' =>
      let _ ← nextChar?
      if s.all then wrong "multiple \x60g' options to \x60s' command"
      readOptions n { s with all := true } c numbered
    | some 'p' =>
      let _ ← nextChar?
      if s.printed then wrong "multiple \x60p' options to \x60s' command"
      readOptions n { s with printed := true } c numbered
    | some 'i' | some 'I' =>
      let _ ← nextChar?
      readOptions n s { c with anyCase := true } numbered
    | some 'm' | some 'M' =>
      let _ ← nextChar?
      readOptions n s { c with multiline := true } numbered
    | some 'w' =>
      let _ ← nextChar?
      return ({ s with writtenTo := some (← readFileName) }, c)
    | some d =>
      if d.isDigit then
        if numbered then
          let _ ← nextChar?
          wrong "multiple number options to \x60s' command"
        match ← number? with
        | some 0 => wrong "number option to \x60s' command may not be zero"
        | k => readOptions n { s with nth := k.getD 1 } c true
      else if d == '\x7d' || d == '#' || d == ';' || d == '\n' || isBlank d then
        endCommand
        return (s, c)
      else
        let _ ← nextChar?
        wrong "unknown option to \x60s'"
    | none => return (s, c)

/-- A substitution, after its letter. -/
def readSubstitution (extended : Bool) : Read Action := do
  let unterminated {α : Type} : Read α := wrong "unterminated \x60s' command"
  match ← nextChar? with
  | none => unterminated
  | some delimiter =>
    let size := (← get).rest.length + 1
    let some text ← delimited delimiter true size [] | unterminated
    let some by_ ← delimited delimiter false size [] | unterminated
    let pieces := replacementPieces (by_.length + 1) by_
    let start : Substitution := { pattern := ⟨none, {}⟩, pieces }
    let (s, c) ← readOptions size start {} false
    let (pattern, groups) ← readPattern extended text c
    let highest := pieces.foldl (fun n p => match p with | .group k => max n k | _ => n) 0
    if groups < highest then
      wrong ("invalid reference \\" ++ Nat.repr highest ++ " on \x60s' command's RHS")
    return .substitute { s with pattern }

/-- The characters of an exchange, with escapes removed. -/
def exchangeChars : List Char → List Char
  | '\\' :: '\\' :: rest => '\\' :: exchangeChars rest
  | '\\' :: 'n' :: rest => '\n' :: exchangeChars rest
  | '\\' :: 't' :: rest => '\t' :: exchangeChars rest
  | c :: rest => c :: exchangeChars rest
  | [] => []

/-- An exchange of characters, after its letter. -/
def readExchange : Read Action := do
  let unterminated {α : Type} : Read α := wrong "unterminated \x60y' command"
  match ← nextChar? with
  | none => unterminated
  | some delimiter =>
    let size := (← get).rest.length + 1
    let some first ← delimited delimiter false size [] | unterminated
    let some second ← delimited delimiter false size [] | unterminated
    let first := exchangeChars first
    let second := exchangeChars second
    if first.length != second.length then
      wrong "strings for \x60y' command are different lengths"
    endCommand
    return .exchange first second

/-- The commands that stand alone after their letter. -/
def plainAction? (c : Char) : Option Action :=
  match c with
  | 'p' => some .print
  | 'P' => some .printFirst
  | 'd' => some .delete
  | 'D' => some .deleteFirst
  | 'n' => some .next
  | 'N' => some .nextAppended
  | 'h' => some .hold
  | 'H' => some .holdAppended
  | 'g' => some .fetch
  | 'G' => some .fetchAppended
  | 'x' => some .swap
  | '=' => some .number
  | 'F' => some .fileName
  | 'z' => some .clear
  | _ => none

/-- What a command does; its letter has been read. -/
def readAction (extended : Bool) (c : Char) (addresses : Nat) : Read Action := do
  let single : Read Unit := do
    if 1 < addresses then wrong "command only uses one address"
  match plainAction? c with
  | some action =>
    endCommand
    return action
  | none =>
    match c with
    | 's' => readSubstitution extended
    | 'y' => readExchange
    | 'a' => return .addAfter (← readText)
    | 'i' => return .addBefore (← readText)
    | 'c' => return .change (← readText)
    | ':' =>
      if 0 < addresses then wrong ": doesn't want any addresses"
      skipBlanks
      let name ← takeWhile fun c => !(isBlank c || c == '\n' || c == ';')
      if name.isEmpty then wrong "\":\" lacks a label"
      return .label (String.ofList name)
    | 'b' => return .branch .always (← readLabel)
    | 't' => return .branch .replaced (← readLabel)
    | 'T' => return .branch .notReplaced (← readLabel)
    | 'q' | 'Q' =>
      single
      skipBlanks
      let code := (← number?).getD 0
      endCommand
      return .quit (UInt8.ofNat code) (c == 'Q')
    | 'l' | 'L' =>
      skipBlanks
      let width ← number?
      endCommand
      return .list width
    | 'r' => return .readFile (← readFileName)
    | 'R' => return .readLine (← readFileName)
    | 'w' => return .writeFile (← readFileName)
    | 'W' => return .writeFirst (← readFileName)
    | c => wrong ("unknown command: \x60" ++ c.toString ++ "'")

/-- What has been read of a script: the commands, the latest first, and the places of the blocks
that are open. -/
structure Progress where
  commands : Array EditCommand := #[]
  opened : List Nat := []

/-- Check the first line address. -/
def checkAddresses (first : Option Address) (second : Option Ending) : Read Unit := do
  match first, second with
  | some (.line 0), some (.address (.pattern _)) => pure ()
  | some (.line 0), _ => wrong "invalid usage of line address 0"
  | _, _ => pure ()

/-- Read the commands of one piece of a script, at most `n` of them. -/
def readCommands (extended : Bool) : Nat → Progress → Read Progress
  | 0, p => return p
  | n + 1, p => do
    let _ ← takeWhile fun c => isBlank c || c == ';' || c == '\n'
    if (← peek?).isNone then return p
    let first ← readAddress extended
    skipBlanks
    let second ← match first, ← peek? with
      | some _, some ',' => do
        let _ ← nextChar?
        pure (some (← readEnding extended))
      | _, _ => pure none
    skipBlanks
    let negated := (← peek?) == some '!'
    let _ ← takeWhile fun c => c == '!' || isBlank c
    let addresses := (if first.isSome then 1 else 0) + if second.isSome then 1 else 0
    match ← nextChar? with
    | none => wrong "missing command"
    | some '#' =>
      if 0 < addresses then wrong "comments don't accept any addresses"
      let _ ← takeWhile (· != '\n')
      readCommands extended n p
    | some '\x7b' =>
      checkAddresses first second
      let command : EditCommand := ⟨first, second, negated, .block 0⟩
      readCommands extended n
        { commands := p.commands.push command, opened := p.commands.size :: p.opened }
    | some '\x7d' =>
      match p.opened with
      | [] => wrong "unexpected \x60\x7d'"
      | start :: opened =>
        if 0 < addresses then wrong "\x7d doesn't want any addresses"
        let stop := p.commands.size
        let commands := p.commands.modify start fun c => { c with action := .block stop }
        endCommand
        readCommands extended n { commands, opened }
    | some c =>
      if c == '\n' || c == ';' then wrong "missing command"
      checkAddresses first second
      let action ← readAction extended c addresses
      readCommands extended n
        { p with commands := p.commands.push ⟨first, second, negated, action⟩ }

/-- Read one piece of a script after others. -/
def readPiece (extended : Bool) (p : Progress) (text : String) : Except Mistake Progress :=
  let cs := text.toList
  ((readCommands extended (cs.length + 1) p).run ⟨cs, cs.length⟩).map Prod.fst

/-- The labels of a script and where they stand. -/
def labels (commands : Array EditCommand) : List (String × Nat) :=
  commands.toList.zipIdx.filterMap fun x => match x.1.action with
    | .label name => some (name, x.2)
    | _ => none

/-- A label that a branch leads to and that does not exist. -/
def missingLabel? (commands : Array EditCommand) : Option String :=
  let known := labels commands
  commands.toList.findSome? fun c => match c.action with
    | .branch _ target =>
      if target.isEmpty || known.any (fun x => x.1 == target) then none else some target
    | _ => none

end ShaderBuild.Tool.Edit
