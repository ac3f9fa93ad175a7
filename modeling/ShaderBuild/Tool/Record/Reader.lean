import ShaderBuild.Text.Numeral
import ShaderBuild.Tool.Record.Program

/-! # Reading programs over records

Tokens are cut from the text where they are needed, since a slash may divide or begin a regular
expression.  The operators bind, from the loosest to the tightest: assignments, the choice, `||`,
`&&`, `in`, matches, comparisons, joining, sums, products, signs, powers, commands that are read
from, steps.  Whatever nests is read by the readers of the next level in. -/

namespace ShaderBuild.Tool.Record

/-! ### Tokens -/

/-- A token. -/
inductive Token where
  | finish
  | newline
  | number (x : Float)
  | text (s : String)
  | word (name : String)
  /-- A name right before an opening parenthesis. -/
  | calling (name : String)
  | symbol (s : String)
  | unknown (c : Char)
deriving BEq

/-- A text that is being read. -/
structure Source where
  rest : List Char
  line : Nat := 1
  /-- Whether it is read inside a function, and inside the action of a rule. -/
  inFunction : Bool := false
  inRule : Bool := false
  /-- The number of loops it is read inside of. -/
  loops : Nat := 0
  /-- The names that stand for arrays, and those that stand for values. -/
  arrays : List String := []
  scalars : List String := []
  /-- The functions that are called. -/
  called : List String := []

/-- What is wrong with a program. -/
structure Misread where
  text : String

/-- A step of reading. -/
abbrev Parse := StateT Source (Except Misread)

/-- The operators, the longer ones first. -/
def operators : List String :=
  ["&&", "||", "++", "--", "+=", "-=", "*=", "/=", "%=", "^=", "==", "<=", ">=", "!=", "!~", ">>",
    "\x7b", "\x7d", "(", ")", "[", "]", ";", ",", "+", "-", "*", "/", "%", "^", "!", ">", "<", "|",
    "?", ":", "~", "$", "="]

/-- Whether a character may begin a name. -/
def isNameStart (c : Char) : Bool :=
  c.isAlpha || c == '_'

/-- Whether a character may stand in a name. -/
def isNameChar (c : Char) : Bool :=
  c.isAlphanum || c == '_'

/-- The text after blanks, hidden line ends and a comment, and how many line ends there were. -/
def skipBlank : Nat → List Char → Nat → List Char × Nat
  | 0, cs, lines => (cs, lines)
  | n + 1, cs, lines =>
    match cs with
    | ' ' :: rest | '\t' :: rest | '\r' :: rest => skipBlank n rest lines
    | '\\' :: '\n' :: rest => skipBlank n rest (lines + 1)
    | '\\' :: '\r' :: '\n' :: rest => skipBlank n rest (lines + 1)
    | '#' :: rest => (rest.dropWhile (· != '\n'), lines)
    | cs => (cs, lines)

/-- The characters that a text in double quotes stands for, from its escapes. -/
def unescaped : Nat → List Char → List Char
  | 0, _ | _, [] => []
  | n + 1, '\\' :: c :: rest =>
    match c with
    | '"' => '"' :: unescaped n rest
    | '\\' => '\\' :: unescaped n rest
    | '/' => '\\' :: '/' :: unescaped n rest
    | 'n' => '\n' :: unescaped n rest
    | 't' => '\t' :: unescaped n rest
    | 'r' => '\r' :: unescaped n rest
    | 'a' => Char.ofNat 7 :: unescaped n rest
    | 'b' => Char.ofNat 8 :: unescaped n rest
    | 'f' => Char.ofNat 12 :: unescaped n rest
    | 'v' => Char.ofNat 11 :: unescaped n rest
    | '\n' => unescaped n rest
    | 'x' =>
      match (rest.take 2).takeWhile fun d => Numeral.digitValue d < 16 with
      | [] => '\\' :: 'x' :: unescaped n rest
      | ds => Char.ofNat (Numeral.digitsValue 16 ds) :: unescaped n (rest.drop ds.length)
    | c =>
      match ((c :: rest).take 3).takeWhile fun d => Numeral.digitValue d < 8 with
      | [] => '\\' :: c :: unescaped n rest
      | ds =>
        Char.ofNat (Numeral.digitsValue 8 ds % 256) :: unescaped n ((c :: rest).drop ds.length)
  | n + 1, c :: rest => c :: unescaped n rest

/-- The characters up to a mark that no backslash hides, and what follows the mark; none if there is
no such mark on the line. -/
def upTo (mark : Char) : Bool → List Char → List Char → Option (List Char × List Char)
  | _, [], _ => none
  | inSet, '\\' :: c :: rest, found => upTo mark inSet rest (c :: '\\' :: found)
  | inSet, c :: rest, found =>
    if c == mark && !inSet then some (found.reverse, rest)
    else if c == '\n' then none
    else upTo mark inSet rest (c :: found)

/-- Cut a token from the front of a text without blanks at its front. -/
def cutToken (cs : List Char) : Except Misread (Token × List Char) :=
  match cs with
  | [] => .ok (.finish, [])
  | '\n' :: rest => .ok (.newline, rest)
  | '"' :: rest =>
    match upTo '"' false rest [] with
    | some (chars, rest) => .ok (.text (String.ofList (unescaped chars.length chars)), rest)
    | none =>
      let shown := (rest.takeWhile (· != '\n')).take 10
      .error ⟨"runaway string constant \"" ++ String.ofList shown ++ " ..."⟩
  | c :: rest =>
    if c.isDigit || (c == '.' && (rest.head?.map Char.isDigit).getD false) then
      match Numeral.readDigits 10 'e' 10 cs with
      | some (x, rest) => .ok (.number x.toFloat, rest)
      | none => .ok (.unknown c, rest)
    else if isNameStart c then
      let name := String.ofList (cs.takeWhile isNameChar)
      let rest := cs.dropWhile isNameChar
      if keywords.contains name || builtins.contains name then .ok (.word name, rest)
      else if rest.head? == some '(' then .ok (.calling name, rest)
      else .ok (.word name, rest)
    else
      match operators.find? fun s => s.toList.isPrefixOf cs with
      | some s => .ok (.symbol s, cs.drop s.length)
      | none => .ok (.unknown c, rest)

/-- Go past blanks. -/
def skipBlanks : Parse Unit :=
  modify fun s =>
    let (rest, lines) := skipBlank (s.rest.length + 1) s.rest 0
    { s with rest, line := s.line + lines }

/-- Look at the next token. -/
def peek : Parse Token := do
  skipBlanks
  match cutToken (← get).rest with
  | .ok (t, _) => return t
  | .error e => throw ⟨"line " ++ Nat.repr (← get).line ++ ": " ++ e.text⟩

/-- Go past the next token. -/
def advance : Parse Unit := do
  skipBlanks
  match cutToken (← get).rest with
  | .ok (t, rest) =>
    modify fun s => { s with rest, line := if t == .newline then s.line + 1 else s.line }
  | .error _ => pure ()

/-- How a token is called. -/
def Token.description : Token → String
  | .finish | .newline => "end of line"
  | .number x => (toString x)
  | .text s => s
  | .word name | .calling name => name
  | .symbol s => s
  | .unknown c => c.toString

/-- Give up, with what is said of the line. -/
def refuse {α : Type} (text : String) : Parse α := do
  throw ⟨"line " ++ Nat.repr (← get).line ++ ": " ++ text⟩

/-- Refuse the next token. -/
def refuseToken {α : Type} : Parse α := do
  match ← peek with
  | .unknown c =>
    throw ⟨Nat.repr (← get).line ++ ": unexpected character '" ++ c.toString ++ "'"⟩
  | t => refuse ("syntax error at or near " ++ t.description)

/-- Whether the next token is this symbol, which is passed then. -/
def accept (s : String) : Parse Bool := do
  if (← peek) == .symbol s then
    advance
    return true
  else return false

/-- Whether the next token is this word, which is passed then. -/
def acceptWord (s : String) : Parse Bool := do
  if (← peek) == .word s then
    advance
    return true
  else return false

/-- Pass a symbol that has to come next. -/
def expect (s : String) : Parse Unit := do
  if !(← accept s) then refuseToken

/-- Repeat a step until it says that nothing more is to be done; each repetition uses up a character
of the text. -/
def untilDone {α : Type} (step : α → Parse (α × Bool)) (a : α) : Parse α := do
  go ((← get).rest.length + 2) a
where
  go : Nat → α → Parse α
    | 0, a => pure a
    | n + 1, a => do
      let (a, more) ← step a
      if more then go n a else pure a

/-- Go past line ends. -/
def skipLines : Parse Unit :=
  untilDone (fun _ => do
    if (← peek) == .newline then
      advance
      return ((), true)
    else return ((), false)) ()

/-- Go past line ends and semicolons. -/
def skipEnds : Parse Unit :=
  untilDone (fun _ => do
    let t ← peek
    if t == .newline || t == .symbol ";" then
      advance
      return ((), true)
    else return ((), false)) ()

/-! ### Expressions -/

/-- What may not stand in an expression where it is read. -/
structure Place where
  /-- A `>` is where printing goes. -/
  noGreater : Bool := false
  /-- An `in` belongs to the loop. -/
  noIn : Bool := false

/-- The readers of the next level in. -/
structure Inner where
  whole : Place → Parse Expr
  /-- An expression without operators that join it to another, steps and signs apart. -/
  unary : Place → Parse Expr
  statement : Parse Statement

/-- Read expressions with commas between them. -/
def readMany (inner : Inner) (p : Place) : Parse (List Expr) := do
  let first ← inner.whole p
  let es ← untilDone (fun es => do
    if ← accept "," then
      skipLines
      return ((← inner.whole p) :: es, true)
    else return (es, false)) [first]
  return es.reverse

/-- Read expressions with commas between them up to a closing symbol; there may be none. -/
def readArgs (inner : Inner) (closing : String) : Parse (List Expr) := do
  skipLines
  if ← accept closing then return []
  let es ← readMany inner {}
  skipLines
  expect closing
  return es

/-- Note that a name stands for an array, or for a value; it cannot stand for both.  What is said of
names in functions is known only when they are called. -/
def noteName (isArray : Bool) (name : String) : Parse Unit := do
  let s ← get
  if s.inFunction then pure ()
  else if isArray then
    if s.scalars.contains name then refuse ("illegal reference to variable " ++ name)
    else set { s with arrays := name :: s.arrays }
  else if s.arrays.contains name then refuse ("illegal reference to array " ++ name)
  else set { s with scalars := name :: s.scalars }

/-- A variable or an element of an array, whose name has been read. -/
def readNamed (inner : Inner) (name : String) : Parse Expr := do
  if ← accept "[" then
    noteName true name
    let keys ← readMany inner {}
    expect "]"
    return .element name keys
  else
    -- An argument may be an array or not.
    let t ← peek
    if !(t == .symbol ")" || t == .symbol ",") then noteName false name
    return .variable name

/-- What follows a dollar sign. -/
def readField (inner : Inner) (primary : Parse Expr) : Parse Expr := do
  match ← peek with
  | .symbol "-" =>
    advance
    return .field (.negative (← inner.unary {}))
  | .symbol "++" =>
    advance
    return .field (.step false true (← primary))
  | .symbol "--" =>
    advance
    return .field (.step false false (← primary))
  | _ => return .field (← primary)

/-- A place to assign to, if one comes next. -/
def readTarget? (inner : Inner) (primary : Parse Expr) : Parse (Option Expr) := do
  match ← peek with
  | .symbol "$" => return some (← primary)
  | .word name =>
    if keywords.contains name || builtins.contains name then return none
    else
      advance
      return some (← readNamed inner name)
  | _ => return none

/-- An operand without signs and steps, nested at most `n` dollar signs deep. -/
def readPrimary (inner : Inner) : Nat → Parse Expr
  | 0 => refuseToken
  | n + 1 => do
    let t ← peek
    match t with
    | .number x =>
      advance
      return .number x
    | .text s =>
      advance
      return .text s
    | .symbol "/" | .symbol "/=" =>
      skipBlanks
      let s ← get
      match upTo '/' false (s.rest.drop 1) [] with
      | some (chars, rest) =>
        set { s with rest }
        return .pattern (String.ofList chars)
      | none => throw ⟨"line " ++ Nat.repr s.line ++ ": runaway regular expression /"
          ++ String.ofList (((s.rest.drop 1).takeWhile (· != '\n')).take 10) ++ " ..."⟩
    | .symbol "$" =>
      advance
      readField inner (readPrimary inner n)
    | .symbol "(" =>
      advance
      let es ← readMany inner {}
      expect ")"
      match es with
      | [e] => return e
      | es =>
        if ← acceptWord "in" then
          match ← peek with
          | .word array =>
            advance
            return .contains es array
          | _ => refuseToken
        else refuseToken
    | .calling name =>
      advance
      expect "("
      modify fun s => { s with called := name :: s.called }
      return .call name (← readArgs inner ")")
    | .word "getline" =>
      advance
      let target ← readTarget? inner (readPrimary inner n)
      if ← accept "<" then return .readFile (← readPrimary inner n) target
      else return .readInput target
    | .word name =>
      if builtins.contains name then
        advance
        skipBlanks
        if ← accept "(" then
          let args ← readArgs inner ")"
          if argumentCounts.any fun x => x.1 == name && !x.2.contains args.length then
            refuse ("wrong number of arguments in call to " ++ name)
          return .builtin name args
        else if name == "length" then return .builtin name []
        else refuseToken
      else if keywords.contains name then refuseToken
      else
        advance
        readNamed inner name
    | _ => refuseToken

/-- An operand with steps before or after it. -/
def readStep (inner : Inner) : Parse Expr := do
  let depth := (← get).rest.length + 1
  let primary := readPrimary inner depth
  match ← peek with
  | .symbol "++" =>
    advance
    return .step false true (← primary)
  | .symbol "--" =>
    advance
    return .step false false (← primary)
  | _ =>
    let e ← primary
    if e.isTarget then
      if ← accept "++" then return .step true true e
      else if ← accept "--" then return .step true false e
      else return e
    else return e

/-- An operand with steps, or a command that is read from. -/
def readSource (inner : Inner) : Parse Expr := do
  untilDone (fun e => do
    let before ← get
    if ← accept "|" then
      if ← acceptWord "getline" then
        let depth := (← get).rest.length + 1
        return (.readCommand e (← readTarget? inner (readPrimary inner depth)), true)
      else
        set before
        return (e, false)
    else return (e, false)) (← readStep inner)

/-- Signs and powers. -/
def readUnary (inner : Inner) (p : Place) : Parse Expr := do
  match ← peek with
  | .symbol "!" =>
    advance
    return .not (← inner.unary p)
  | .symbol "-" =>
    advance
    return .negative (← inner.unary p)
  | .symbol "+" =>
    advance
    return .positive (← inner.unary p)
  | _ =>
    let e ← readSource inner
    if ← accept "^" then return .arithmetic .power e (← inner.unary p) else return e

/-- Operands joined from the left by the operators of one strength. -/
def readChain (item : Parse Expr) (operator : Token → Option (Expr → Expr → Expr)) : Parse Expr := do
  untilDone (fun e => do
    match operator (← peek) with
    | some join =>
      advance
      return (join e (← item), true)
    | none => return (e, false)) (← item)

/-- Sums of products. -/
def readSum (inner : Inner) (p : Place) : Parse Expr :=
  let product := readChain (readUnary inner p) fun
    | .symbol "*" => some (.arithmetic .multiply)
    | .symbol "/" => some (.arithmetic .divide)
    | .symbol "%" => some (.arithmetic .remainder)
    | _ => none
  readChain product fun
    | .symbol "+" => some (.arithmetic .add)
    | .symbol "-" => some (.arithmetic .subtract)
    | _ => none

/-- Whether a token may begin an operand that is joined to what is before it. -/
def Token.beginsOperand : Token → Bool
  | .number _ | .text _ | .calling _ => true
  | .word name => builtins.contains name || !keywords.contains name
  | .symbol s => s == "$" || s == "(" || s == "++" || s == "--"
  | _ => false

/-- Texts that are joined. -/
def readJoined (inner : Inner) (p : Place) : Parse Expr := do
  untilDone (fun e => do
    if (← peek).beginsOperand then return (.joined e (← readSum inner p), true)
    else return (e, false)) (← readSum inner p)

/-- The relation that a token stands for. -/
def relation? (p : Place) : Token → Option Relation
  | .symbol "<" => some .less
  | .symbol "<=" => some .lessOrEqual
  | .symbol "==" => some .equal
  | .symbol "!=" => some .notEqual
  | .symbol ">" => if p.noGreater then none else some .greater
  | .symbol ">=" => some .greaterOrEqual
  | _ => none

/-- A comparison. -/
def readCompared (inner : Inner) (p : Place) : Parse Expr := do
  let e ← readJoined inner p
  match relation? p (← peek) with
  | some r =>
    advance
    return .compare r e (← readJoined inner p)
  | none => return e

/-- Matches and memberships. -/
def readMatch (inner : Inner) (p : Place) : Parse Expr := do
  let matched := readChain (readCompared inner p) fun
    | .symbol "~" => some (.isMatch false)
    | .symbol "!~" => some (.isMatch true)
    | _ => none
  untilDone (fun e => do
    if !p.noIn && (← acceptWord "in") then
      match ← peek with
      | .word array =>
        advance
        return (.contains [e] array, true)
      | _ => refuseToken
    else return (e, false)) (← matched)

/-- Operands of `&&` and `||`, after which the line may end. -/
def readLogical (item : Parse Expr) (symbol : String) (join : Expr → Expr → Expr) : Parse Expr := do
  untilDone (fun e => do
    if ← accept symbol then
      skipLines
      return (join e (← item), true)
    else return (e, false)) (← item)

/-- The operation that a token assigns with. -/
def assigning? : Token → Option (Option Arithmetic)
  | .symbol "=" => some none
  | .symbol "+=" => some (some .add)
  | .symbol "-=" => some (some .subtract)
  | .symbol "*=" => some (some .multiply)
  | .symbol "/=" => some (some .divide)
  | .symbol "%=" => some (some .remainder)
  | .symbol "^=" => some (some .power)
  | _ => none

/-- The expression with an assignment to its last operand, if that can be assigned to. -/
def assigned? (op : Option Arithmetic) (value : Expr) : Expr → Option Expr
  | .not e => (assigned? op value e).map .not
  | .negative e => (assigned? op value e).map .negative
  | .both a e => (assigned? op value e).map (.both a)
  | .either a e => (assigned? op value e).map (.either a)
  | .compare r a e => (assigned? op value e).map (.compare r a)
  | .isMatch n a e => (assigned? op value e).map (.isMatch n a)
  | e => if e.isTarget then some (.assign e op value) else none

/-- A whole expression. -/
def readExpr (inner : Inner) (p : Place) : Parse Expr := do
  let e ← readLogical (readLogical (readMatch inner p) "&&" .both) "||" .either
  match assigning? (← peek) with
  | some op =>
    let before ← get
    advance
    skipLines
    let value ← inner.whole p
    match assigned? op value e with
    | some e => return e
    | none =>
      set before
      refuseToken
  | none =>
    if ← accept "?" then
      skipLines
      let yes ← inner.whole p
      skipLines
      expect ":"
      skipLines
      return .choice e yes (← inner.whole p)
    else return e

/-! ### Statements -/

/-- Whether a token ends a simple statement. -/
def Token.endsStatement : Token → Bool
  | .finish | .newline => true
  | .symbol s => s == ";" || s == "\x7d"
  | _ => false

/-- The end of a simple statement. -/
def readEnd : Parse Unit := do
  match ← peek with
  | .newline | .symbol ";" => advance
  | t => if t.endsStatement then pure () else refuseToken

/-- What is printed and where. -/
def readPrint (inner : Inner) : Parse (List Expr × Target) := do
  let before ← get
  let endsArgs (t : Token) : Bool :=
    t.endsStatement || t == .symbol ">" || t == .symbol ">>" || t == .symbol "|"
  let attempt : Parse (Option (List Expr)) := do
    if ← accept "(" then
      let es ← readArgs inner ")"
      return if endsArgs (← peek) then some es else none
    else return none
  let args ← if endsArgs (← peek) then pure []
    else
      match attempt.run before with
      | .ok (some es, s) => do
        set s
        pure es
      | _ => do
        set before
        readMany inner { noGreater := true }
  let destination : Parse Expr := inner.whole { noGreater := true }
  if ← accept ">" then return (args, .file false (← destination))
  else if ← accept ">>" then return (args, .file true (← destination))
  else if ← accept "|" then return (args, .command (← destination))
  else return (args, .output)

/-- A simple statement without its end. -/
def readSimple (inner : Inner) : Parse Statement := do
  let optional : Parse (Option Expr) := do
    if (← peek).endsStatement then return none else return some (← inner.whole {})
  match ← peek with
  | .word "print" =>
    advance
    let (args, target) ← readPrint inner
    return .print args target
  | .word "printf" =>
    advance
    let (args, target) ← readPrint inner
    if args.isEmpty then refuse "no arguments in call to printf"
    return .format args target
  | .word "next" =>
    if !(← get).inRule then refuse "improper use of next"
    advance
    return .nextRecord
  | .word "nextfile" =>
    if !(← get).inRule then refuse "improper use of nextfile"
    advance
    return .nextFile
  | .word "exit" =>
    advance
    return .leave (← optional)
  | .word "return" =>
    if !(← get).inFunction then refuse "return outside function body"
    advance
    return .returning (← optional)
  | .word "break" =>
    if (← get).loops == 0 then refuse "break statement outside of loop"
    advance
    return .breaking
  | .word "continue" =>
    if (← get).loops == 0 then refuse "continue statement outside of loop"
    advance
    return .continuing
  | .word "delete" =>
    advance
    match ← peek with
    | .word array =>
      advance
      if ← accept "[" then
        let keys ← readMany inner {}
        expect "]"
        return .delete array keys
      else return .delete array []
    | _ => refuseToken
  | _ => return .evaluate (← inner.whole {})

/-- A body that may be empty, also right before a closing brace. -/
def readBody (inner : Inner) : Parse Statement := do
  if ← accept ";" then return .block []
  else
    skipLines
    if (← peek) == .symbol "\x7d" then return .block [] else inner.statement

/-- The body of a loop. -/
def readRound (inner : Inner) : Parse Statement := do
  modify fun s => { s with loops := s.loops + 1 }
  let body ← readBody inner
  modify fun s => { s with loops := s.loops - 1 }
  return body

/-- The rest of a `for` loop, after its opening parenthesis. -/
def readFor (inner : Inner) : Parse Statement := do
  let before ← get
  let overKeys : Parse (Option (String × String)) := do
    match ← peek with
    | .word name =>
      advance
      if ← acceptWord "in" then
        match ← peek with
        | .word array =>
          advance
          if ← accept ")" then return some (name, array) else return none
        | _ => return none
      else return none
    | _ => return none
  match overKeys.run before with
  | .ok (some (name, array), s) =>
    set s
    return .each name array (← readRound inner)
  | _ =>
    let part (closing : String) : Parse Statement := do
      if (← peek) == .symbol closing then return .block [] else readSimple inner
    let start ← part ";"
    expect ";"
    skipLines
    let condition ← if (← peek) == .symbol ";" then pure none
      else do pure (some (← inner.whole {}))
    expect ";"
    skipLines
    let next ← part ")"
    expect ")"
    return .counted start condition next (← readRound inner)

/-- Statements up to the closing brace. -/
def readBlock (inner : Inner) : Parse Statement := do
  let ss ← untilDone (fun ss => do
    skipEnds
    match ← peek with
    | .symbol "\x7d" =>
      advance
      return (ss, false)
    | .finish => refuse "missing \x7d near end of file"
    | _ => return ((← inner.statement) :: ss, true)) []
  return .block ss.reverse

/-- A statement. -/
def readStatement (inner : Inner) : Parse Statement := do
  match ← peek with
  | .symbol "\x7b" =>
    advance
    readBlock inner
  | .symbol ";" =>
    advance
    return .block []
  | .word "if" =>
    advance
    expect "("
    let condition ← inner.whole {}
    expect ")"
    let yes ← readBody inner
    let before ← get
    skipEnds
    if ← acceptWord "else" then
      return .choice condition yes (← readBody inner)
    else
      set before
      return .choice condition yes (.block [])
  | .word "while" =>
    advance
    expect "("
    let condition ← inner.whole {}
    expect ")"
    return .loop false condition (← readRound inner)
  | .word "do" =>
    advance
    let body ← readRound inner
    skipEnds
    if !(← acceptWord "while") then refuseToken
    expect "("
    let condition ← inner.whole {}
    expect ")"
    readEnd
    return .loop true condition body
  | .word "for" =>
    advance
    expect "("
    readFor inner
  | _ =>
    let s ← readSimple inner
    readEnd
    return s

/-- The readers `n` levels deep. -/
def levels : Nat → Inner
  | 0 => { whole := fun _ => refuseToken, unary := fun _ => refuseToken, statement := refuseToken }
  | n + 1 =>
    { whole := fun p s => readExpr (levels n) p s
      unary := fun p s => readUnary (levels n) p s
      statement := fun s => readStatement (levels n) s }

/-! ### Programs -/

/-- The parameters of a function, after the opening parenthesis. -/
def readParams : Parse (List String) := do
  let names ← untilDone (fun names => do
    skipLines
    match ← peek with
    | .symbol ")" =>
      advance
      return (names, false)
    | .symbol "," =>
      advance
      return (names, true)
    | .word name =>
      advance
      return (name :: names, true)
    | _ => refuseToken) []
  return names.reverse

/-- One part of a program. -/
def readPart (inner : Inner) (p : Program) : Parse Program := do
  let action : Parse Statement := do
    expect "\x7b"
    readBlock inner
  let ruleAction : Parse Statement := do
    modify fun s => { s with inRule := true }
    let s ← action
    modify fun s => { s with inRule := false }
    return s
  match ← peek with
  | .word "BEGIN" =>
    advance
    let s ← action
    return { p with start := p.start ++ [s] }
  | .word "END" =>
    advance
    let s ← action
    return { p with finish := p.finish ++ [s] }
  | .word "function" =>
    advance
    match ← peek with
    | .calling name | .word name =>
      advance
      if p.functions.any fun f => f.1 == name then refuse ("redefinition of " ++ name)
      expect "("
      let params ← readParams
      skipLines
      modify fun s => { s with inFunction := true }
      let body ← action
      modify fun s => { s with inFunction := false }
      return { p with functions := p.functions ++ [(name, ⟨params, body⟩)] }
    | _ => refuseToken
  | .symbol "\x7b" =>
    let s ← ruleAction
    return { p with rules := p.rules ++ [⟨.always, some s⟩] }
  | _ =>
    let first ← inner.whole {}
    let selector ← if ← accept "," then do
        skipLines
        pure (Selector.range first (← inner.whole {}))
      else pure (.when first)
    if (← peek) == .symbol "\x7b" then
      let s ← ruleAction
      return { p with rules := p.rules ++ [⟨selector, some s⟩] }
    else
      let t ← peek
      if !(t == .newline || t == .finish || t == .symbol ";") then refuseToken
      return { p with rules := p.rules ++ [⟨selector, none⟩] }

/-- The program that a text spells; its last line counts as ended. -/
def Program.parse (text : List Char) : Except Misread Program := do
  let read : Parse Program := do
    let p ← untilDone (fun p => do
      skipLines
      match ← peek with
      | .finish => return (p, false)
      | .symbol "\x7d" => refuse "extra '\x7d'"
      | _ =>
        let p ← readPart (levels (text.length + 2)) p
        let _ ← accept ";"
        return (p, true)) {}
    match (← get).called.reverse.find? fun name => !p.functions.any fun f => f.1 == name with
    | some name => refuse ("function " ++ name ++ " never defined")
    | none => return p
  let (p, _) ← read.run { rest := text ++ ['\n'] }
  return p

end ShaderBuild.Tool.Record
