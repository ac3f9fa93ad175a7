import ShaderBuild.Shell.Quoting
import ShaderBuild.Shell.Reader.Basic

/-! # Reading words

A word is read in one of several settings, which differ in the characters that end it and in those
that have a meaning of their own.  Whatever nests inside a word, such as quotes, parameters with a
word and commands, is read by the readers of the next level in. -/

namespace ShaderBuild.Shell

/-- Where parts of words are read. -/
inductive Setting where
  /-- Outside quotes; a blank or an operator ends the word. -/
  | plain
  /-- Between double quotes. -/
  | double
  /-- In the braces of a parameter, which stands in double quotes or not. -/
  | braces (quoted : Bool)
  /-- In an arithmetic expression. -/
  | arithmetic
  /-- In a here-document. -/
  | document
  /-- In the brackets after the name of an array. -/
  | subscript
  /-- In the first number of a slice, which a colon or a closing brace ends. -/
  | offset
  /-- In the pattern of a replacement, which a slash or a closing brace ends. -/
  | replaced
deriving DecidableEq, Repr

/-- How far a list of commands extends. -/
inductive Extent where
  /-- To the end of the line. -/
  | line
  /-- To a token that ends lists; there is at least one command. -/
  | block
  /-- To a token that ends lists, which may come at once. -/
  | body
deriving DecidableEq, Repr

/-- The readers of the next level in. -/
structure Inner where
  list : Extent → Read Command
  command : Read Command
  parts : Setting → Read Word

/-- The parts of a word read so far, and the characters of the part that is being read, both latest
first. -/
structure Draft where
  parts : List Part := []
  chars : List Char := []
  quoted : Bool := false
  /-- The number of parentheses or brackets that are open. -/
  depth : Nat := 0
  /-- The number of choices in an expression whose colon is still to come. -/
  choices : Nat := 0

namespace Setting

/-- Whether characters are quoted. -/
def quotes : Setting → Bool
  | .plain | .braces false | .subscript | .offset | .replaced => false
  | _ => true

/-- Whether a backslash takes the meaning of a character. -/
def escapes (s : Setting) (c : Char) : Bool :=
  !s.quotes || c == '\\' || c == '$' || c == '\x60'
    || (c == '"' && s != .document) || (c == '\x7d' && s == .braces true)

end Setting

namespace Draft

/-- End the part that is being read. -/
def flush (d : Draft) : Draft :=
  if d.chars.isEmpty then d
  else { d with parts := .text (String.ofList d.chars.reverse) d.quoted :: d.parts, chars := [] }

/-- Add a character. -/
def push (d : Draft) (c : Char) (quoted : Bool) : Draft :=
  if d.quoted == quoted then { d with chars := c :: d.chars }
  else { d.flush with chars := [c], quoted }

/-- Add a part. -/
def add (d : Draft) (p : Part) : Draft :=
  { d.flush with parts := p :: d.flush.parts }

/-- The word. -/
def word (d : Draft) : Word :=
  d.flush.parts.reverse

end Draft

/-- Whether a character ends a word outside quotes. -/
def endsWord (c : Char) : Bool :=
  " \t\n;&|<>()".toList.contains c

/-! ### Parameters -/

/-- The kind of fallback that a character asks for. -/
def fallbackOf? : Char → Option Fallback
  | '-' => some .replace
  | '=' => some .assign
  | '?' => some .complain
  | '+' => some .alternative
  | _ => none

/-- The slice after a colon, up to the closing brace; `text` begins with the parameter. -/
def readSlice (inner : Inner) (text : List Char) : Read Form := do
  let start ← inner.parts .offset
  if start.isEmpty && (← look) == some '\x7d' then
    skip
    return .bad (String.ofList (text.take (text.length - (← get).rest.length)))
  else if ← accept ':' then return .slice start (some (← inner.parts (.braces false)))
  else
    let _ ← accept '\x7d'
    return .slice start none

/-- The replacement after a slash, up to the closing brace. -/
def readReplacement (inner : Inner) : Read Form := do
  let places : Occurrence ← match ← look with
    | some '/' => do
      skip
      pure .all
    | some '#' => do
      skip
      pure .front
    | some '%' => do
      skip
      pure .back
    | _ => pure .first
  let pattern ← inner.parts .replaced
  if ← accept '/' then return .replacing places pattern (← inner.parts (.braces false))
  else
    let _ ← accept '\x7d'
    return .replacing places pattern []

/-- How the case of letters is changed after a character. -/
def recaseOf? : Char → Option Recase
  | '^' => some .upper
  | ',' => some .lower
  | '~' => some .swap
  | _ => none

/-- A form that only the extended dialect has, after the name of a parameter in braces. -/
def readExtendedForm? (inner : Inner) (c : Char) : Read (Option Form) := do
  match recaseOf? c with
  | some kind =>
    skip
    let all ← accept c
    let pattern ← inner.parts (.braces false)
    return some (.recased kind all (if pattern.isEmpty then none else some pattern))
  | none =>
    if c == '/' then
      skip
      return some (← readReplacement inner)
    else if c == '@' then
      match (← get).rest with
      | '@' :: letter :: '\x7d' :: rest =>
        modify fun r => { r with rest }
        return some (.transformed letter)
      | _ => return none
    else return none

/-- The form after the name of a parameter in braces, up to the closing brace.  A character that
begins no form is passed over, whatever it is; `start` is the text from the opening brace on. -/
def readForm (inner : Inner) (quoted : Bool) (start : List Char) : Read Form := do
  let word := inner.parts (.braces quoted)
  let line := (← get).line
  let bad : Read Form := do
    modify fun r =>
      let isQuote := r.rest.head? == some '"' || r.rest.head? == some '\''
      if isQuote && r.dialect = .extended then r else { r with rest := r.rest.tail }
    let _ ← word
    let left := (← get).rest.length
    return .bad (String.ofList (start.take (start.length - left)))
  match ← lookJoined with
  | some '\x7d' =>
    skip
    return .value true
  | some ':' =>
    skip
    match (← lookJoined).bind fallbackOf? with
    | some kind =>
      skip
      return .fallback kind true (← word)
    | none => if ← isExtended then readSlice inner start else bad
  | some c =>
    if c == '%' || c == '#' then
      skip
      let longest ← accept c
      return .trim (c == '%') longest (← inner.parts (.braces false))
    else
      match fallbackOf? c with
      | some kind =>
        skip
        return .fallback kind false (← word)
      | none =>
        match ← (if ← isExtended then readExtendedForm? inner c else pure none) with
        | some form => return form
        | none => bad
  | none => unclosed line "\x7d" "Missing '\x7d'"

/-- The name of a parameter in braces; none if there is no such parameter. -/
def readName : Read (Option String) := do
  match ← lookJoined with
  | some c =>
    if isNameStart c then return some (← takeChars isNameChar)
    else if c.isDigit then return some (← takeChars Char.isDigit)
    else if isSpecial c then
      skip
      return some c.toString
    else return none
  | none => misspelled "Missing '\x7d'"

/-- Whether the text goes on with one parameter and the closing brace; a parameter may be an element
of an array if `arrays` is set. -/
def namesOne (arrays : Bool) (cs : List Char) : Bool :=
  match cs with
  | c :: rest =>
    if isNameStart c then
      let next := (rest.dropWhile isNameChar).head?
      next == some '\x7d' || (arrays && next == some '[')
    else if c.isDigit then (rest.dropWhile Char.isDigit).head? == some '\x7d'
    else isSpecial c && rest.head? == some '\x7d'
  | [] => false

/-- The brackets after the name of a variable, if they come next. -/
def readIndex (inner : Inner) (name : String) : Read Index := do
  if !(← isExtended) || !isName name || (← look) != some '[' then return .whole
  else
    skip
    match (← get).rest with
    | '@' :: ']' :: rest =>
      modify fun r => { r with rest }
      return .every false
    | '*' :: ']' :: rest =>
      modify fun r => { r with rest }
      return .every true
    | _ => return .at (← inner.parts .subscript)

/-- Whether the text goes on with an exclamation mark and the name of a parameter. -/
def isIndirect (cs : List Char) : Bool :=
  match cs with
  | '!' :: c :: rest =>
    isNameStart c || c.isDigit || ((c == '#' || c == '@' || c == '*') && rest.head? == some '\x7d')
  | _ => false

/-- A parameter in braces, after the opening brace. -/
def readBraces (inner : Inner) (quoted : Bool) : Read Part := do
  let r ← get
  let start := '$' :: '\x7b' :: r.rest
  let arrays := r.dialect = .extended
  if r.rest.head? == some '#' && namesOne arrays r.rest.tail then
    skip
    let name := (← readName).getD "#"
    let index ← readIndex inner name
    skip
    return .parameter name index .length quoted
  else
    let isIndirect := arrays && isIndirect r.rest
    if isIndirect then skip
    match ← readName with
    | some name =>
      let index ← readIndex inner name
      match isIndirect, index, (← get).rest with
      | true, .every joined, '\x7d' :: _ =>
        skip
        return .parameter name index (.keys joined) quoted
      | true, .whole, c :: '\x7d' :: _ =>
        if (c == '*' || c == '@') && isName name then
          skip
          skip
          return .parameter name .whole (.names (c == '*')) quoted
        else return .indirect name index (← readForm inner quoted start) quoted
      | true, _, _ => return .indirect name index (← readForm inner quoted start) quoted
      | false, _, _ => return .parameter name index (← readForm inner quoted start) quoted
    | none =>
      let _ ← inner.parts (.braces quoted)
      let left := (← get).rest.length
      let text := String.ofList (start.take (start.length - left))
      return .parameter "" .whole (.bad text) quoted

/-! ### Commands whose output is used -/

/-- The text between back quotes, after the first of them. -/
def readBackquoted (quoted : Bool) : Read (List Char) := do
  let line := (← get).line
  let cs ← untilDone (fun cs => do
    match ← look with
    | none => unclosed line "\x60" "EOF in backquote substitution"
    | some '\x60' =>
      skip
      return (cs, false)
    | some '\\' =>
      skip
      match ← look with
      | none => return ('\\' :: cs, true)
      | some c =>
        skip
        if c == '\n' then return (cs, true)
        else if c == '\\' || c == '$' || c == '\x60' || (quoted && c == '"') then
          return (c :: cs, true)
        else return (c :: '\\' :: cs, true)
    | some c =>
      skip
      return (c :: cs, true)) []
  return cs.reverse

/-- A token that was held, and must be `t`. -/
def expectHeld (t : Token) : Read Unit := do
  let found := (← get).held.getD .finish
  modify fun r => { r with held := none }
  if found.description == t.description then pure () else unexpected found (some t)

/-- The commands up to a closing parenthesis. -/
def readEnclosed (inner : Inner) : Read Command := do
  let outer := (← get).announced
  modify fun r => { r with announced := [] }
  let body ← withGrouping .nowhere (inner.list .body)
  let r ← get
  match r.dialect, r.held with
  | .extended, some .finish => unclosed r.lastLine ")" "" false
  | _, _ => expectHeld (.operator ")")
  modify fun r => { r with announced := outer }
  return body

/-- The text between single quotes with escapes, after the first of them. -/
def readEscaped : Read String := do
  let line := (← get).line
  let cs ← untilDone (fun cs => do
    match ← look with
    | none => unclosed line "'" ""
    | some '\'' =>
      skip
      return (cs, false)
    | some '\\' =>
      skip
      match ← look with
      | none => return (cs, true)
      | some c =>
        skip
        return (c :: '\\' :: cs, true)
    | some c =>
      skip
      return (c :: cs, true)) []
  return unescapedText (String.ofList cs.reverse)

/-- Whether the text goes on to the parenthesis that closes the ones that are open, `depth` of them;
parentheses in quotes do not count. -/
def closesAll : Nat → Nat → List Char → Bool
  | 0, _, _ => false
  | _, 0, _ => true
  | n + 1, depth, cs =>
    match cs with
    | [] => false
    | '\\' :: _ :: rest => closesAll n depth rest
    | '\'' :: rest => closesAll n depth ((rest.dropWhile (· != '\'')).drop 1)
    | '"' :: rest => closesAll n depth ((rest.dropWhile (· != '"')).drop 1)
    | '(' :: rest => closesAll n (depth + 1) rest
    | ')' :: rest => closesAll n (depth - 1) rest
    | _ :: rest => closesAll n depth rest

/-- What a dollar sign stands for. -/
def readDollar (inner : Inner) (quoted : Bool) : Read (Option Part) := do
  match ← lookJoined with
  | some '(' =>
    skip
    if (← look) == some '(' then
      match (← get).dialect with
      | .standard =>
        skip
        return some (.arithmetic (← inner.parts .arithmetic) quoted)
      | .extended =>
        let r ← get
        if !closesAll (r.rest.length + 1) 1 r.rest then unclosed r.line ")" ""
        let expression? ← attempt do
          skip
          inner.parts .arithmetic
        match expression? with
        | some expression => return some (.arithmetic expression quoted)
        | none => return some (.output (← readEnclosed inner) quoted)
    else return some (.output (← readEnclosed inner) quoted)
  | some '[' =>
    if ← isExtended then
      skip
      return some (.arithmetic (← inner.parts .subscript) quoted)
    else return none
  | some '\x7b' =>
    skip
    return some (← readBraces inner quoted)
  | some '\'' =>
    if quoted || !(← isExtended) then return none
    else
      skip
      return some (.text (← readEscaped) true)
  | some c =>
    if isNameStart c then return some (.parameter (← takeChars isNameChar) .whole (.value false) quoted)
    else if isSpecial c then
      skip
      return some (.parameter c.toString .whole (.value false) quoted)
    else return none
  | none => return none

/-! ### Parts -/

/-- The text between single quotes, after the first of them. -/
def readSingle (d : Draft) : Read Draft := do
  let start := d.flush.add (.text "" true)
  let line := (← get).line
  untilDone (fun d => do
    match ← look with
    | none => unclosed line "'" "Unterminated quoted string"
    | some '\'' =>
      skip
      return (d, false)
    | some c =>
      skip
      return (d.push c true, true)) start

/-- What the end of the script means in a setting that began at a line. -/
def atFinish (s : Setting) (line : Nat) (d : Draft) : Read (Draft × Bool) :=
  match s with
  | .plain | .document => return (d, false)
  | .double => unclosed line "\"" "Unterminated quoted string"
  | .braces true => unclosed line "\x7d" "Unterminated quoted string"
  | .braces false | .offset | .replaced => unclosed line "\x7d" "Missing '\x7d'"
  | .arithmetic => unclosed line ")" "Missing '))'"
  | .subscript => unclosed line "]" ""

/-- What an opening parenthesis outside quotes does: it ends the word, unless it belongs to it. -/
def openGroup (d : Draft) : Read (Draft × Bool) := do
  let begins := match (← get).grouping with
    | .nowhere => false
    | .everywhere => true
    | .patterns => 0 < d.depth || (!d.quoted && (d.chars.head?.map "?*+@!".toList.contains).getD false)
  if begins then
    skip
    return ({ d.push '(' false with depth := d.depth + 1 }, true)
  else return (d, false)

/-- A command whose output or input has the name of a file, after the arrow. -/
def readProcess (inner : Inner) (reads : Bool) : Read Part := do
  skip
  skip
  return .process reads (← readEnclosed inner)

/-- Read one character and what belongs to it; whether there is more to the word, which began at
a line. -/
def partStep (inner : Inner) (s : Setting) (line : Nat) (d : Draft) : Read (Draft × Bool) := do
  match ← look with
  | none => atFinish s line d
  | some c =>
    let plainly : Read (Draft × Bool) := do
      skip
      return (d.push c s.quotes, true)
    match c with
    | '\\' =>
      skip
      match ← look with
      | none => return (d.push '\\' true, true)
      | some '\n' =>
        skip
        return (d, true)
      | some e =>
        skip
        if s.escapes e then return (d.push e true, true)
        else return ((d.push '\\' true).push e true, true)
    | '\'' =>
      if s.quotes then plainly
      else
        skip
        return (← readSingle d, true)
    | '"' =>
      match s with
      | .document => plainly
      | .double =>
        skip
        return (d, false)
      | .arithmetic =>
        skip
        return (d, true)
      | _ =>
        skip
        let parts ← inner.parts .double
        return ((if parts.isEmpty then [.text "" true] else parts).foldl Draft.add d, true)
    | '\x60' =>
      skip
      let text ← readBackquoted (s == .double)
      let body ← reading text do
        let body ← inner.list .body
        expectHeld .finish
        return body
      return (d.add (.output body s.quotes), true)
    | '$' =>
      skip
      if s == .plain && (← look) == some '"' && (← isExtended) then return (d, true)
      match ← readDollar inner s.quotes with
      | some p => return (d.add p, true)
      | none => return (d.push '$' s.quotes, true)
    | '\x7d' =>
      match s with
      | .braces _ =>
        skip
        return (d, false)
      | .offset | .replaced => return (d, false)
      | _ => plainly
    | '(' =>
      match s with
      | .arithmetic | .offset =>
        skip
        return ({ d.push c s.quotes with depth := d.depth + 1 }, true)
      | .plain => openGroup d
      | _ => plainly
    | ')' =>
      match s with
      | .arithmetic =>
        skip
        if d.depth = 0 then
          if ← accept ')' then return (d, false)
          else if ← isExtended then unclosed line ")" ""
          else return (d.push c true, true)
        else return ({ d.push c true with depth := d.depth - 1 }, true)
      | .offset =>
        skip
        return ({ d.push c false with depth := d.depth - 1 }, true)
      | .plain =>
        if d.depth = 0 then return (d, false)
        else
          skip
          return ({ d.push c false with depth := d.depth - 1 }, true)
      | _ => plainly
    | '[' =>
      if s == .subscript then
        skip
        return ({ d.push c false with depth := d.depth + 1 }, true)
      else plainly
    | ']' =>
      if s == .subscript then
        skip
        if d.depth = 0 then return (d, false)
        else return ({ d.push c false with depth := d.depth - 1 }, true)
      else plainly
    | '?' =>
      if s == .offset then
        skip
        return ({ d.push c false with choices := d.choices + 1 }, true)
      else plainly
    | ':' =>
      if s == .offset && d.depth = 0 then
        if d.choices = 0 then return (d, false)
        else
          skip
          return ({ d.push c false with choices := d.choices - 1 }, true)
      else plainly
    | '/' => if s == .replaced then return (d, false) else plainly
    | _ =>
      if s == .plain && endsWord c then
        let r ← get
        if r.dialect = .extended && (c == '<' || c == '>') && r.rest.tail.head? == some '(' then
          return (d.add (← readProcess inner (c == '<')), true)
        else if 0 < d.depth || (r.grouping == .everywhere && c == '|') then plainly
        else return (d, false)
      else plainly

/-- The parts of a word. -/
def readParts (inner : Inner) (s : Setting) : Read Word := do
  let line := (← get).line
  return (← untilDone (partStep inner s line) {}).word

end ShaderBuild.Shell
