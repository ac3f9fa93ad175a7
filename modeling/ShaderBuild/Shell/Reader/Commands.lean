import ShaderBuild.Shell.Arithmetic
import ShaderBuild.Shell.Reader.Words

/-! # Reading commands

Tokens are cut from the script where a command needs them.  A word is a keyword only where a
command may begin, so whether keywords are looked for is said with each token that is read.
`readLine` reads the commands up to the end of a line; nesting is bounded by the length of the
script. -/

namespace ShaderBuild.Shell

/-! ### Tokens -/

/-- The words that have a meaning where a command may begin. -/
def keywords (dialect : Dialect) : List String :=
  ["!", "case", "do", "done", "elif", "else", "esac", "fi", "for", "if", "in", "then", "until",
    "while", "\x7b", "\x7d"]
    ++ if dialect = .extended then ["[[", "function", "select", "time"] else []

/-- The operators that end an arm, and how the selection goes on. -/
def armEnds : List (String × ArmEnd) :=
  [(";;", .stop), (";&", .fall), (";;&", .resume)]

/-- The tokens that end a list of commands. -/
def Token.endsList : Token → Bool
  | .finish => true
  | .operator text => text == ")" || armEnds.any fun x => x.1 == text
  | .keyword text =>
    ["do", "done", "elif", "else", "esac", "fi", "then", "\x7d"].contains text
  | _ => false

/-- Whether a token is this operator. -/
def Token.isOperator (t : Token) (text : String) : Bool :=
  match t with
  | .operator found => found == text
  | _ => false

/-- Whether a token is this keyword. -/
def Token.isKeyword (t : Token) (text : String) : Bool :=
  match t with
  | .keyword found => found == text
  | _ => false

/-- Go past blanks and a comment. -/
def skipBlanks : Read Unit :=
  untilDone (fun _ => do
    match ← lookJoined with
    | some ' ' | some '\t' =>
      skip
      return ((), true)
    | some '#' =>
      modify fun r => { r with rest := r.rest.dropWhile (· != '\n') }
      return ((), false)
    | _ => return ((), false)) ()

/-- The operators that only the extended dialect has, by their first character. -/
def longOperators : List (Char × List String) :=
  [(';', [";;&", ";&"]), ('|', ["|&"])]

/-- An operator that is written once or twice, or one of the longer ones. -/
def readOperator (c : Char) : Read Token := do
  let r ← get
  let long := if r.dialect = .extended then (longOperators.lookup c).getD [] else []
  match long.find? fun text => text.toList.isPrefixOf r.rest with
  | some text =>
    set { r with rest := r.rest.drop text.length }
    return .operator text
  | none =>
    skip
    if c == '(' || c == ')' then return .operator c.toString
    else if ← accept c then return .operator (String.ofList [c, c])
    else return .operator c.toString

/-- The operator of a redirection. -/
def readArrow (stream : Option Nat) (c : Char) : Read Token := do
  skip
  let second := if c == '>' then ['>', '|', '&'] else ['<', '&', '>']
  match ← lookJoined with
  | some d =>
    if second.contains d then
      skip
      if c == '<' && d == '<' then
        if ← accept '-' then return .redirect stream "<<-"
        else if (← isExtended) && (← look) == some '<' then
          skip
          return .redirect stream "<<<"
      return .redirect stream (String.ofList [c, d])
    else return .redirect stream c.toString
  | none => return .redirect stream c.toString

/-- The number of the stream that a word right before a redirection names. -/
def streamOf? (dialect : Dialect) (w : Word) : Option (Option Nat) :=
  match w with
  | [] => some none
  | [.text chars false] =>
    let cs := chars.toList
    if cs.all Char.isDigit && (cs.length == 1 || dialect = .extended) then
      some (some (ofDigits 10 (cs.filterMap digitValue)))
    else none
  | _ => none

/-- The name in braces right before a redirection. -/
def allottedName? (dialect : Dialect) (w : Word) : Option String :=
  match dialect, (plainText? w).map String.toList with
  | .extended, some ('\x7b' :: cs) =>
    let name := String.ofList cs.dropLast
    if cs.getLast? == some '\x7d' && isName name then some name else none
  | _, _ => none

/-! ### Assignments -/

/-- Whether the text goes on, after an opening bracket, with a key in brackets and an assignment. -/
def assignsKey : Nat → Nat → List Char → Bool
  | 0, _, _ => false
  | n + 1, depth, cs =>
    match cs with
    | [] => false
    | '\\' :: _ :: rest => assignsKey n depth rest
    | '\'' :: rest => assignsKey n depth ((rest.dropWhile (· != '\'')).drop 1)
    | '"' :: rest => assignsKey n depth ((rest.dropWhile (· != '"')).drop 1)
    | '[' :: rest => assignsKey n (depth + 1) rest
    | ']' :: rest =>
      if depth = 0 then
        match rest with
        | '=' :: _ | '+' :: '=' :: _ => true
        | _ => false
      else assignsKey n (depth - 1) rest
    | '\n' :: _ => false
    | _ :: rest => assignsKey n depth rest

/-- A word, which may assign to the element of an array whose name comes first; `named` says that
there has to be a name. -/
def readAssigning (inner : Inner) (named : Bool) : Read Word := do
  let r ← get
  let name := r.rest.takeWhile isNameChar
  let isFit := if named then isName (String.ofList name) else name.isEmpty
  match r.rest.drop name.length with
  | '[' :: rest =>
    if isFit && assignsKey (rest.length + 1) 0 rest then
      set { r with rest }
      let key ← inner.parts .subscript
      let value ← inner.parts .plain
      return .text (String.ofList (name ++ ['['])) false :: key ++ .text "]" false :: value
    else inner.parts .plain
  | _ => inner.parts .plain

/-- Go past blanks, comments and ends of lines. -/
def skipLines : Read Unit :=
  untilDone (fun _ => do
    skipBlanks
    if (← look) == some '\n' then
      skip
      return ((), true)
    else return ((), false)) ()

/-- The elements of an array, after the opening parenthesis. -/
def readElements (inner : Inner) : Read (List Element) := do
  let line := (← get).line
  let items ← untilDone (fun items => do
    skipLines
    match ← look with
    | none =>
      throw { line, status := 1, text := "unexpected EOF while looking for matching \x60)'" }
    | some ')' =>
      skip
      return (items, false)
    | some c =>
      if "&|;<>(".toList.contains c && !((← get).rest.tail.head? == some '(') then
        unexpected (.operator c.toString) none
      else return (.ofWord (mergeText (← readAssigning inner false)) :: items, true)) []
  return items.reverse
where
  /-- A word whose unquoted texts that follow each other are one. -/
  mergeText (w : Word) : Word :=
    w.foldr (fun p rest =>
      match p, rest with
      | .text a false, .text b false :: more => .text (a ++ b) false :: more
      | p, rest => p :: rest) []

/-- A word where an assignment may stand, which may be to an array. -/
def readAssignable (inner : Inner) : Read Word := do
  let w := readElements.mergeText (← readAssigning inner true)
  match assignment? .extended w, ← look with
  | some (.assign _ _ _ []), some '(' =>
    skip
    return w ++ [.elements (← readElements inner)]
  | _, _ => return w

/-- Cut the next token from the script. -/
def cutToken (inner : Inner) : Read Token := do
  skipBlanks
  let r ← get
  match r.rest.head? with
  | none => return .finish
  | some c =>
    if c == '\n' then
      skip
      return .newline
    else if r.dialect = .extended && ['&', '>'].isPrefixOf r.rest then
      skip
      skip
      return .redirect none (if ← accept '>' then "&>>" else "&>")
    else if "&|;()".toList.contains c then readOperator c
    else
      set { r with assigns := false }
      let w ← if r.dialect = .extended && r.assigns then readAssignable inner
        else inner.parts .plain
      let next := (← get).rest.head?.filter fun c => c == '<' || c == '>'
      match next, streamOf? r.dialect w, allottedName? r.dialect w with
      | some c, some stream, _ => readArrow stream c
      | some c, none, some name =>
        match ← readArrow none c with
        | .redirect _ text => return .allotted name text
        | t => return t
      | _, _, _ => return .word w

/-! ### Here-documents -/

/-- Note that a here-document ends where the script does. -/
def warnOfEnd (a : Announced) : Read Unit := do
  let r ← get
  if r.dialect = .extended then
    let text := "here-document at line " ++ Nat.repr a.line
      ++ " delimited by end-of-file (wanted \x60" ++ a.delimiter ++ "')"
    set { r with warnings := (r.lastLine - 1, text) :: r.warnings }

/-- The lines of a here-document, up to the line with the delimiter. -/
def documentLines (a : Announced) : Read (List Char) := do
  let lines ← untilDone (fun lines => do
    let r ← get
    let full := r.rest.takeWhile (· != '\n')
    let line := if a.stripsTabs then full.dropWhile (· == '\t') else full
    match r.rest.drop full.length with
    | [] =>
      set { r with rest := [] }
      if String.ofList line == a.delimiter then return (lines, false)
      else
        warnOfEnd a
        return (line :: lines, false)
    | _ :: after =>
      set { r with rest := after, line := r.line + 1 }
      if String.ofList line == a.delimiter then return (lines, false)
      else return ((line ++ ['\n']) :: lines, true)) []
  return lines.reverse.flatten

/-- Read the here-documents that were announced on the line. -/
def readDocuments (inner : Inner) : Read Unit := do
  let announced := (← get).announced
  modify fun r => { r with announced := [] }
  announced.forM fun a => do
    let text ← documentLines a
    let w ← if a.expands then reading text (inner.parts .document)
      else pure [.text (String.ofList text) true]
    modify fun r => { r with documents := r.documents.setIfInBounds a.number w }

/-- Leave the texts of aliases that have been read; whether the next word may be an alias because of
that. -/
def leaveAliases : Read Bool := do
  skipBlanks
  let r ← get
  let left := r.rest.length
  let ended := r.substituted.takeWhile fun a => left ≤ a.rest
  set { r with substituted := r.substituted.drop ended.length }
  return ended.any Substituted.goesOn

/-- The text of an alias that a word may be replaced by. -/
def aliasFor? (w : Word) : Read (Option (String × String)) := do
  let r ← get
  return (plainText? w).bind fun name =>
    if r.substituted.any fun a => a.name == name then none
    else (r.aliases.lookup name).map fun text => (name, text)

/-- Cut the next token from the script, where a word may be an alias: its text is read in its place.
The number bounds how many aliases replace each other. -/
def cutAliased (inner : Inner) (words : Bool) : Nat → Read Token
  | 0 => cutToken inner
  | n + 1 => do
    let _ ← leaveAliases
    let t ← cutToken inner
    match t with
    | .word w =>
      let all := keywords (← get).dialect
      let isKeyword := words && ((plainText? w).map all.contains).getD false
      if isKeyword then return t
      else
        match ← aliasFor? w with
        | some (name, text) =>
          modify fun r =>
            let entry : Substituted :=
              ⟨name, r.rest.length, text.endsWith " " || text.endsWith "\t"⟩
            { r with rest := text.toList ++ r.rest, substituted := entry :: r.substituted }
          cutAliased inner words n
        | none => return t
    | t => return t

/-- The next token.  Line ends before it are passed over if `lines` is set, a word may be a keyword
if `words` is set, and an alias if `aliases` is set. -/
def readTokenWith (inner : Inner) (words lines aliases : Bool) : Read Token := do
  let fetch : Read Token := do
    let r ← get
    match r.held with
    | some t =>
      modify fun r => { r with held := none }
      return t
    | none =>
      if r.aliases.isEmpty then cutToken inner
      else
        let goesOn ← leaveAliases
        if aliases || goesOn then cutAliased inner words r.aliases.length else cutToken inner
  let t ← untilDone (fun t => do
    match t with
    | .newline =>
      if lines then
        readDocuments inner
        return (← fetch, true)
      else return (t, false)
    | t => return (t, false)) (← fetch)
  match t with
  | .word w =>
    let all := keywords (← get).dialect
    match plainText? w with
    | some text => return if words && all.contains text then .keyword text else t
    | none => return t
  | t => return t

/-- The next token, where a word may be an alias just where it may be a keyword. -/
def readToken (inner : Inner) (words lines : Bool) : Read Token :=
  readTokenWith inner words lines words

/-- Read a token that has to be `wanted`. -/
def expect (inner : Inner) (words lines : Bool) (wanted : Token) : Read Unit := do
  let t ← readToken inner words lines
  if t.description == wanted.description then pure () else unexpected t (some wanted)

/-! ### Redirections -/

/-- Whether some part of a word is quoted. -/
def hasQuotes (w : Word) : Bool :=
  w.any fun
    | .text _ quoted | .parameter _ _ _ quoted | .indirect _ _ _ quoted | .output _ quoted
    | .arithmetic _ quoted => quoted
    | .process _ _ | .elements _ => false

/-- The number of a stream that comes next, right before another redirection. -/
def takeStream? (text : String) : Read (Option Word) := do
  if !(← isExtended) || !(text == ">&" || text == "<&") then return none
  else
    skipBlanks
    let r ← get
    let digits := r.rest.takeWhile Char.isDigit
    let next := (r.rest.drop digits.length).head?
    if !digits.isEmpty && (next == some '<' || next == some '>') then
      set { r with rest := r.rest.drop digits.length }
      return some [.text (String.ofList digits) false]
    else return none

/-- The redirection that an operator and the word after it make. -/
def readRedirect (inner : Inner) (stream : Option Nat) (text : String) : Read Redirect := do
  let target ← match ← takeStream? text with
    | some w => pure w
    | none =>
      match ← readToken inner false false with
      | .word w => pure w
      | t => unexpected t none
  let input := stream.getD 0
  let output := stream.getD 1
  match text with
  | "<" => return .file input .read target
  | "<>" => return .file input .readWrite target
  | "<&" => return .duplicate input target
  | ">" => return .file output .write target
  | ">>" => return .file output .append target
  | ">|" => return .file output .clobber target
  | ">&" => return .duplicate output target
  | "<<<" => return .line input target
  | "&>" => return .outputs false target
  | "&>>" => return .outputs true target
  | _ =>
    let r ← get
    let a : Announced :=
      { number := r.documents.size
        line := r.line
        delimiter := bareText target
        expands := !hasQuotes target
        stripsTabs := text == "<<-" }
    set { r with announced := r.announced ++ [a], documents := r.documents.push [] }
    return .document input a.number

/-- The redirections after a compound command. -/
def readRedirects (inner : Inner) : Read (List Redirect) := do
  let rs ← untilDone (fun rs => do
    match ← readToken inner true false with
    | .redirect stream text => return ((← readRedirect inner stream text) :: rs, true)
    | .allotted name text => return (.allotted name (← readRedirect inner none text) :: rs, true)
    | t =>
      hold t
      return (rs, false)) []
  return rs.reverse

/-! ### Commands -/

/-- The names that no function may have. -/
def reservedNames : List String :=
  [".", ":", "break", "continue", "eval", "exec", "exit", "export", "readonly", "return", "set",
    "shift", "times", "trap", "unset"]

/-- What has been read of a simple command; words and redirections latest first. -/
structure SimpleDraft where
  assignments : List Assignment := []
  words : List Word := []
  redirects : List Redirect := []
  function : Option Command := none
  /-- The line at which the second word ends, once it has been read. -/
  line? : Option Nat := none

/-- Read the body of a function; in the extended dialect it is no simple command. -/
def readFunctionBody (inner : Inner) (name : String) : Read Command := do
  let t ← readToken inner true true
  match (← get).dialect, t with
  | .extended, .word _ | .extended, .redirect _ _ | .extended, .allotted _ _ => unexpected t none
  | _, _ =>
    hold t
    return .define name (← inner.command)

/-- Read the body of a function whose name and opening parenthesis have just been read. -/
def readFunction (inner : Inner) (name : Word) : Read Command := do
  expect inner false false (.operator ")")
  match (← get).dialect, plainText? name with
  | .extended, some text => readFunctionBody inner text
  | .standard, some text =>
    if isName text && !reservedNames.contains text then readFunctionBody inner text
    else misspelled "Bad function name"
  | _, none => misspelled "Bad function name"

/-- The commands whose arguments may be assignments. -/
def declaringCommands : List String :=
  ["declare", "export", "local", "readonly", "typeset"]

/-- Read a simple command or the definition of a function. -/
def readSimple (inner : Inner) : Read Command := do
  let line := (← get).line
  let d ← untilDone (fun (d : SimpleDraft) => do
    let declares := ((d.words.getLast?.bind plainText?).map declaringCommands.contains).getD false
    modify fun r => { r with assigns := d.words.isEmpty || declares }
    match ← readTokenWith inner false false d.words.isEmpty with
    | .word w =>
      let dialect := (← get).dialect
      let now := (← get).line
      match if d.words.isEmpty then assignment? dialect w else none with
      | some a => return ({ d with assignments := a :: d.assignments }, true)
      | none =>
        let isSecond := dialect = .extended && d.words.length == 1
        let line? := if isSecond then some now else d.line?
        return ({ d with words := w :: d.words, line? }, true)
    | .redirect stream text =>
      let r ← readRedirect inner stream text
      return ({ d with redirects := r :: d.redirects }, true)
    | .allotted name text =>
      let r ← readRedirect inner none text
      return ({ d with redirects := .allotted name r :: d.redirects }, true)
    | t =>
      match t.isOperator "(", d with
      | true, ⟨[], [name], [], none, _⟩ =>
        return ({ d with function := some (← readFunction inner name) }, false)
      | _, _ =>
        hold t
        return (d, false)) {}
  match d.function with
  | some f => return f
  | none =>
    return .simple (d.line?.getD line) d.assignments.reverse d.words.reverse d.redirects.reverse

/-- The rest of a conditional, after `if` or `elif`. -/
def readConditional (inner : Inner) : Read Command := do
  let branch : Read (Command × Command) := do
    let condition ← inner.list .block
    expect inner true false (.keyword "then")
    return (condition, ← inner.list .block)
  let first ← branch
  let (branches, last) ← untilDone (fun (x : List (Command × Command) × Command) => do
    let t ← readToken inner true false
    if t.isKeyword "elif" then return (((← branch) :: x.1, x.2), true)
    else if t.isKeyword "else" then return ((x.1, ← inner.list .block), false)
    else
      hold t
      return (x, false)) ([first], .empty)
  expect inner true false (.keyword "fi")
  return branches.foldl (fun no b => .choice b.1 b.2 no) last

/-- The parts of an expression between semicolons. -/
def splitSemicolons (w : Word) : List Word :=
  let pieces := w.map fun
    | .text chars quoted =>
      (ShaderBuild.pieces (· == ';') chars.toList).map fun (cs : List Char) =>
        if cs.isEmpty then [] else [Part.text (String.ofList cs) quoted]
    | p => [[p]]
  pieces.foldr (fun ps rest =>
    match ps.reverse, rest with
    | last :: before, first :: more => before.reverse ++ (last ++ first) :: more
    | _, rest => rest) [[]]

/-- The body of a loop over words: between `do` and `done`, or between braces. -/
def readLoopBody (inner : Inner) : Read Command := do
  let t ← readToken inner true true
  if t.isKeyword "\x7b" && (← isExtended) then
    let body ← inner.list .block
    expect inner true false (.keyword "\x7d")
    return body
  else
    hold t
    expect inner true true (.keyword "do")
    let body ← inner.list .block
    expect inner true false (.keyword "done")
    return body

/-- The rest of a loop with expressions, after the first of its parentheses. -/
def readCounted (inner : Inner) (line : Nat) : Read Command := do
  skip
  let before := (← get).rest
  match splitSemicolons (← inner.parts .arithmetic) with
  | [start, condition, next] =>
    let t ← readToken inner true false
    if !t.isOperator ";" then hold t
    return .counted line start condition next (← readLoopBody inner)
  | _ =>
    let size := before.length - (← get).rest.length
    throw { line
            text := "syntax error: arithmetic expression required\nsyntax error: \x60(("
              ++ String.ofList (before.take size) ++ "'" }

/-- The rest of a loop over words, after `for`, or after `select` if it is a menu. -/
def readEach (inner : Inner) (line : Nat) (isMenu : Bool) : Read Command := do
  let dialect := (← get).dialect
  let name ← match ← readToken inner false false with
    | .word w =>
      match plainText? w with
      | some name =>
        if isName name || dialect = .extended then pure name
        else misspelled "Bad for loop variable"
      | none => misspelled "Bad for loop variable"
    | t =>
      match dialect with
      | .standard => misspelled "Bad for loop variable"
      | .extended =>
        if t.isOperator "(" && !isMenu && (← look) == some '(' then
          return ← readCounted inner line
        else unexpected t none
  let t ← readToken inner true true
  let words ← if t.isKeyword "in" then do
      let words ← untilDone (fun words => do
        match ← readToken inner false false with
        | .word w => return (w :: words, true)
        | .newline => return (words, false)
        | t =>
          if t.isOperator ";" then return (words, false) else unexpected t none) []
      pure words.reverse
    else do
      if !t.isOperator ";" then hold t
      pure [[.parameter "@" .whole (.value false) true]]
  let body ← readLoopBody inner
  return if isMenu then .menu line name words body else .each line name words body

/-- The patterns of an arm, after the token that begins them. -/
def readPatterns (inner : Inner) (first : Token) : Read (List Word) := do
  let asWord (t : Token) : Read Word :=
    match t with
    | .word w => pure w
    | .keyword text => pure [.text text false]
    | t => unexpected t (some (.operator ")"))
  let start ← asWord first
  let ws ← untilDone (fun ws => do
    let t ← readToken inner false false
    if t.isOperator "|" then
      return ((← asWord (← readToken inner false false)) :: ws, true)
    else if t.isOperator ")" then return (ws, false)
    else unexpected t (some (.operator ")"))) [start]
  return ws.reverse

/-- The rest of a selection, after `case`. -/
def readSelect (inner : Inner) (line : Nat) : Read Command := do
  let subject ← match ← readToken inner false false with
    | .word w => pure w
    | t => unexpected t (some (.word []))
  expect inner true true (.keyword "in")
  let arms ← untilDone (fun (arms : List (List Word × Command × ArmEnd)) => do
    let t ← readToken inner true true
    if t.isKeyword "esac" then return (arms, false)
    else
      let first ← if t.isOperator "(" then readToken inner false false else pure t
      let patterns ← readPatterns inner first
      let body ← inner.list .body
      let t ← readToken inner true true
      if t.isKeyword "esac" then return ((patterns, body, .stop) :: arms, false)
      else
        match armEnds.find? fun x => t.isOperator x.1 with
        | some x => return ((patterns, body, x.2) :: arms, true)
        | none => unexpected t (some (.operator ";;"))) []
  return .select line subject arms.reverse

/-! ### Questions -/

/-- The operators of questions with one operand. -/
def oneOperators : List String :=
  "abcdefghknoprstuvwxzGLNORS".toList.map fun c => String.ofList ['-', c]

/-- The operators of questions with two operands. -/
def twoOperators : List String :=
  ["=", "==", "!=", "=~", "<", ">", "-eq", "-ne", "-lt", "-le", "-gt", "-ge", "-nt", "-ot", "-ef"]

/-- The next token of a question. -/
def questionToken (inner : Inner) : Read Token := do
  skipLines
  let r ← get
  match ["&&", "||", "<", ">", "(", ")"].find? fun s => s.toList.isPrefixOf r.rest with
  | some s =>
    set { r with rest := r.rest.drop s.length }
    return .operator s
  | none => if r.rest.isEmpty then return .finish else cutToken inner

/-- A token after a word, with which a question goes on: on the same line. -/
def operatorToken (inner : Inner) : Read Token := do
  skipBlanks
  if (← look) == some '\n' then return .newline else questionToken inner

/-- A token as messages about questions name it. -/
def Token.named : Token → String
  | .finish => "EOF"
  | t => t.spelling

/-- Give up in a question at a token. -/
def misasked {α : Type} (t : Token) (text : String) : Read α := do
  let r ← get
  let first := if text.isEmpty then "" else text ++ "\n"
  match t with
  | .finish => throw { line := r.lastLine, text := first ++ "syntax error: unexpected end of file" }
  | t =>
    throw { line := r.line, text := first ++ "syntax error near \x60" ++ t.spelling ++ "'"
            shown := some (r.lineText r.line) }

/-- Give up at a token that a question cannot have there. -/
def misaskedAt {α : Type} (t : Token) : Read α :=
  match t with
  | .word w =>
    misasked t (if plainText? w == some "]]" then "" else "syntax error in conditional expression")
  | .finish => misasked t "unexpected token \x60EOF' in conditional command"
  | t =>
    misasked t ("syntax error in conditional expression: unexpected token \x60" ++ t.named ++ "'")

/-- The operator among `all` that a token is. -/
def operatorIn (all : List String) : Token → Option String
  | .word w => (plainText? w).filter all.contains
  | .operator text => if all.contains text then some text else none
  | _ => none

/-- Whether a token is the end of a question. -/
def Token.endsQuestion : Token → Bool
  | .word w => plainText? w == some "]]"
  | _ => false

/-- Whether a token joins questions, or closes a parenthesis. -/
def Token.joinsQuestions (t : Token) : Bool :=
  t.isOperator "&&" || t.isOperator "||" || t.isOperator ")"

/-- An operand of a question. -/
def questionWord (inner : Inner) (kind : String) (expression : Bool) : Read Word := do
  skipLines
  let t ← if expression && !(← get).rest.isEmpty then cutWord else questionToken inner
  match t with
  | .word w =>
    if plainText? w == some "]]" then refuse t else return w
  | t => refuse t
where
  /-- A word that may begin with a parenthesis. -/
  cutWord : Read Token := do
    return .word (← inner.parts .plain)
  /-- Complain about what stands in the place of the operand. -/
  refuse (t : Token) : Read Word :=
    misasked t ("unexpected argument \x60" ++ t.named ++ "' to conditional " ++ kind ++ " operator")

/-- A question with two operands. -/
def readTwo (inner : Inner) (operator : String) (left : Word) : Read Question := do
  let before := (← get).grouping
  let grouping : Grouping := if operator == "=~" then .everywhere
    else if operator == "=" || operator == "==" || operator == "!=" then .patterns else before
  return .two operator left
    (← withGrouping grouping (questionWord inner "binary" (operator == "=~")))

/-- A question of one or two words, whose first one has been read. -/
def readWordQuestion (inner : Inner) (first : Word) : Read Question := do
  let before ← get
  let t ← operatorToken inner
  match operatorIn twoOperators t, operatorIn oneOperators (.word first) with
  | some operator, none => readTwo inner operator first
  | some operator, some one =>
    let after ← get
    let next ← operatorToken inner
    set after
    match next, t with
    | .word v, _ =>
      if plainText? v == some "]]" then
        match t with
        | .word w => return .one one w
        | t => misaskedAt t
      else readTwo inner operator first
    | _, .word w => return .one one w
    | _, t => misaskedAt t
  | none, some one =>
    match t with
    | .word w =>
      if t.endsQuestion then
        misasked t "unexpected argument \x60]]' to conditional unary operator"
      else return .one one w
    | t =>
      misasked t ("unexpected argument \x60" ++ t.named ++ "' to conditional unary operator")
  | none, none =>
    if t.endsQuestion || t.joinsQuestions then
      set before
      return .one "-n" first
    else
      match t with
      | .word _ => misasked t "conditional binary operator expected"
      | .newline =>
        misasked (.word first)
          "unexpected token \x60newline', conditional binary operator expected"
      | t =>
        misasked t ("unexpected token \x60" ++ t.named ++ "', conditional binary operator expected")

/-- A question that is negated, in parentheses, or neither, with at most `n` signs before it. -/
def readOneQuestion (inner : Inner) (whole : Read Question) : Nat → Read Question
  | 0 => misasked .finish ""
  | n + 1 => do
    let t ← questionToken inner
    match t with
    | .word w =>
      match plainText? w with
      | some "!" => return .not (← readOneQuestion inner whole n)
      | some "]]" => misasked t ""
      | _ => readWordQuestion inner w
    | .operator "(" =>
      let q ← whole
      let t ← questionToken inner
      if t.isOperator ")" then return q
      else misasked t ("unexpected token \x60" ++ t.named ++ "', expected \x60)'")
    | t => misaskedAt t

/-- Questions that an operator joins. -/
def readJoinedQuestions (inner : Inner) (operator : String) (join : Question → Question → Question)
    (item : Read Question) : Read Question := do
  let qs ← untilDone (fun qs => do
    let before ← get
    let t ← questionToken inner
    if t.isOperator operator then return ((← item) :: qs, true)
    else
      set before
      return (qs, false)) [← item]
  match qs with
  | last :: before => return before.foldl (fun q p => join p q) last
  | [] => misasked .finish ""

/-- A question with at most `n` parentheses inside each other. -/
def readQuestion (inner : Inner) : Nat → Read Question
  | 0 => misasked .finish ""
  | n + 1 => do
    let depth := (← get).rest.length + 1
    readJoinedQuestions inner "||" .either <| readJoinedQuestions inner "&&" .both <|
      readOneQuestion inner (readQuestion inner n) depth

/-! ### All commands -/

/-- A command that begins with two parentheses, after the first of them: an expression, or else a
command in a shell of its own. -/
def readParenthesized (inner : Inner) (line : Nat) : Read Command := do
  let expression? ← if (← isExtended) && (← look) == some '(' then
      attempt do
        skip
        inner.parts .arithmetic
    else pure none
  match expression? with
  | some expression => return .compute line expression
  | none =>
    let body ← inner.list .block
    expect inner true false (.operator ")")
    return .subshell line body []

/-- The rest of the definition of a function, after `function`. -/
def readNamedFunction (inner : Inner) : Read Command := do
  match ← readToken inner false false with
  | .word w =>
    let before ← get
    let t ← readToken inner false false
    let empty ← if t.isOperator "(" then do
        let t ← readToken inner false false
        pure (t.isOperator ")")
      else pure false
    if !empty then set before
    readFunctionBody inner ((plainText? w).getD "")
  | t => unexpected t none

/-- Read a command. -/
def readCommand (inner : Inner) : Read Command := do
  modify fun r => { r with assigns := true }
  let t ← readToken inner true false
  let line := (← get).line
  let redirected (c : Command) : Read Command := do
    let rs ← readRedirects inner
    match c, rs with
    | .subshell line body _, rs => return .subshell line body rs
    | c, [] => return c
    | c, rs => return .redirected line c rs
  match t with
  | .keyword "if" => redirected (← readConditional inner)
  | .keyword "for" => redirected (← readEach inner line false)
  | .keyword "select" => redirected (← readEach inner line true)
  | .keyword "case" => redirected (← readSelect inner line)
  | .keyword "\x7b" =>
    let body ← inner.list .block
    expect inner true false (.keyword "\x7d")
    redirected body
  | .keyword "[[" =>
    let q ← readQuestion inner ((← get).rest.length + 1)
    let t ← questionToken inner
    if t.endsQuestion then redirected (.ask line q) else misaskedAt t
  | .keyword "function" => redirected (← readNamedFunction inner)
  | .keyword text =>
    if text == "while" || text == "until" then
      let condition ← inner.list .block
      expect inner true false (.keyword "do")
      let body ← inner.list .block
      expect inner true false (.keyword "done")
      redirected (.loop (text == "until") condition body)
    else unexpected t none
  | .operator "(" => redirected (← readParenthesized inner line)
  | .word _ | .redirect _ _ | .allotted _ _ =>
    hold t
    readSimple inner
  | t => unexpected t none

/-- What stands before a pipeline. -/
structure PipelineFront where
  negated : Bool := false
  /-- There was a sign, so that the pipeline may be empty. -/
  mayEnd : Bool := false

/-- Read what stands before a pipeline. -/
def readFront (inner : Inner) (lines : Bool) : Read PipelineFront := do
  modify fun r => { r with assigns := true }
  let first ← readToken inner true lines
  hold first
  untilDone (fun (f : PipelineFront) => do
    modify fun r => { r with assigns := true }
    let t ← readToken inner true false
    let extended ← isExtended
    if t.isKeyword "!" && (!f.negated || extended) then
      return ({ negated := !f.negated, mayEnd := extended }, true)
    else if t.isKeyword "time" then
      let before ← get
      match ← readToken inner false false with
      | .word w => if plainText? w != some "-p" then set before
      | _ => set before
      return ({ f with mayEnd := true }, true)
    else
      hold t
      return (f, false)) {}

/-- Read commands joined by `|`. -/
def readPipeline (inner : Inner) (lines : Bool) : Read Command := do
  let front ← readFront inner lines
  let t ← readToken inner true false
  hold t
  let isEnd := match t with
    | .finish | .newline => true
    | t => t.isOperator ";"
  let first ← if front.mayEnd && isEnd then do
      pure (Command.simple (← get).line [] [] [])
    else readCommand inner
  let stages ← untilDone (fun stages => do
    let t ← readToken inner false false
    if t.isOperator "|" || t.isOperator "|&" then
      modify fun r => { r with assigns := true }
      let next ← readToken inner true true
      hold next
      let stages := match stages with
        | stage :: rest =>
          if t.isOperator "|&" then
            .redirected 0 stage [.duplicate 2 [.text "1" false]] :: rest
          else stages
        | [] => []
      return ((← readCommand inner) :: stages, true)
    else
      hold t
      return (stages, false)) [first]
  let c : Command := match stages with
    | [c] => c
    | stages => .pipeline stages.reverse
  return if front.negated then .negation c else c

/-- Read pipelines joined by `&&` and `||`. -/
def readAndOr (inner : Inner) : Read Command := do
  let first ← readPipeline inner false
  untilDone (fun (c : Command) => do
    let t ← readToken inner false false
    if t.isOperator "&&" then return (.both c (← readPipeline inner true), true)
    else if t.isOperator "||" then return (.either c (← readPipeline inner true), true)
    else
      hold t
      return (c, false)) first

/-- What has been read of a list, and whether a token that ends lists may end it. -/
structure ListDraft where
  found : Option Command := none
  mayEnd : Bool := false

/-- Read the next command of a list. -/
def listStep (inner : Inner) (extent : Extent) (d : ListDraft) : Read (ListDraft × Bool) := do
  modify fun r => { r with assigns := true }
  match ← readToken inner true (extent != .line) with
  | .newline =>
    readDocuments inner
    return (d, false)
  | .finish =>
    readDocuments inner
    hold .finish
    return (d, false)
  | t =>
    hold t
    if extent != .line && d.mayEnd && t.endsList then return (d, false)
    let c ← readAndOr inner
    let t ← readToken inner false false
    let c := if t.isOperator "&" then .background c else c
    let d : ListDraft := ⟨some (d.found.elim c fun f => .sequence f c), true⟩
    match t with
    | .finish =>
      readDocuments inner
      hold .finish
      return (d, false)
    | .newline =>
      hold .newline
      return (d, true)
    | t =>
      if t.isOperator "&" || t.isOperator ";" then return (d, true)
      else if extent == .line then unexpected t none
      else
        hold t
        return (d, false)

/-- Read a list of commands; none if there are none. -/
def readList (inner : Inner) (extent : Extent) : Read (Option Command) := do
  return (← untilDone (listStep inner extent) { mayEnd := extent == .body }).found

/-- The readers `n` levels deep. -/
def levels : Nat → Inner
  | 0 =>
    { list := fun _ => misspelled "too deep", command := misspelled "too deep"
      parts := fun _ => misspelled "too deep" }
  | n + 1 =>
    { list := fun extent => do return (← readList (levels n) extent).getD .empty
      command := fun r => readCommand (levels n) r
      parts := fun s r => readParts (levels n) s r }

/-- Read the commands up to the end of the line; none at the end of the script. -/
def readLine (r : Reader) : Except Misspelling (Option Command × Reader) := do
  let step : Read (Option Command) := do
    modify fun r => { r with held := none, announced := [] }
    let found ← readList (levels r.bound) .line
    let r ← get
    match found, r.held with
    | none, some .finish => return none
    | found, _ => return some (found.getD .empty)
  step.run r

end ShaderBuild.Shell
