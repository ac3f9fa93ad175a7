import ShaderBuild.Shell.Arithmetic

/-! # Calculations

The expressions of the extended dialect: besides those of the standard one, powers, steps up and
down, series with commas, elements of arrays, and numbers in any base up to 64.  What is wrong with
an expression is told together with the text from the place on where that was seen. -/

namespace ShaderBuild.Shell.Calculation

/-- An expression that is being read. -/
structure Tape where
  rest : List Char
  /-- The text from the last symbol on. -/
  last : List Char

/-- A step of reading. -/
abbrev Scan := StateT Tape (Except (ExprFault × String))

/-- The text without blanks at its front. -/
def trimmed (cs : List Char) : List Char :=
  cs.dropWhile fun c => c == ' ' || c == '\t' || c == '\n'

/-- Give up at the next symbol, or at the last one if there is no other. -/
def refuse {α : Type} (fault : ExprFault) : Scan α := do
  let t ← get
  let rest := trimmed t.rest
  throw (fault, String.ofList (if rest.isEmpty then t.last else rest))

/-- What comes next, without blanks. -/
def look : Scan (List Char) := do
  return trimmed (← get).rest

/-- Go past the next `n` characters, which are a symbol. -/
def pass (n : Nat) : Scan Unit :=
  modify fun t => { rest := (trimmed t.rest).drop n, last := trimmed t.rest }

/-- Go past a symbol if it comes next. -/
def accept (symbol : String) : Scan Bool := do
  if symbol.toList.isPrefixOf (← look) then
    pass symbol.length
    return true
  else return false

/-! ### Operators -/

/-- The operators with two operands, the longer ones first, and how tightly they bind. -/
def operators : List (String × Binary × Nat) :=
  ("**", .power, 11) :: Binary.table

/-- The operator with two operands that comes next. -/
def binary? : Scan (Option (String × Binary × Nat)) := do
  let cs ← look
  let starts (s : String) : Bool := s.toList.isPrefixOf cs
  if ["&&", "||", "++", "--"].any starts || Binary.assigning.any fun x => starts x.1 then return none
  else if starts "=" && !starts "==" then return none
  else return operators.find? fun x => starts x.1

/-- The assigning operator that comes next, by its length. -/
def assigning? : Scan (Option (Nat × Option Binary)) := do
  let cs ← look
  match Binary.assigning.find? fun x => x.1.toList.isPrefixOf cs with
  | some (text, op) => return some (text.length, some op)
  | none =>
    match cs with
    | '=' :: '=' :: _ => return none
    | '=' :: _ => return some (1, none)
    | _ => return none

/-! ### Operands -/

/-- The value of a digit in a base. -/
def digitIn (base : Nat) (c : Char) : Option Nat :=
  let n? := if c.isDigit then some (c.toNat - '0'.toNat)
    else if 'a' ≤ c && c ≤ 'z' then some (c.toNat - 'a'.toNat + 10)
    else if 'A' ≤ c && c ≤ 'Z' then
      some (c.toNat - 'A'.toNat + if base ≤ 36 then 10 else 36)
    else if c == '@' then some 62
    else if c == '_' then some 63
    else none
  n?.bind fun n => if n < base then some n else none

/-- The number that digits in a base spell. -/
def numberIn (base : Nat) (cs : List Char) : Except ExprFault Int64 :=
  match cs.mapM (digitIn base) with
  | some ds => .ok (Int64.ofNat (ofDigits base ds))
  | none => .error .digitTooGreat

/-- The number that a text of digits spells, perhaps after its base. -/
def numberOf (cs : List Char) : Except ExprFault Int64 :=
  match cs with
  | ['0'] => .ok 0
  | '0' :: x :: ds => if x == 'x' || x == 'X' then numberIn 16 ds else numberIn 8 (x :: ds)
  | cs =>
    match cs.dropWhile (· != '#') with
    | '#' :: ds =>
      match numberIn 10 (cs.takeWhile (· != '#')) with
      | .ok base =>
        if 2 ≤ base && base ≤ 64 && !ds.isEmpty then numberIn base.toInt.toNat ds
        else .error .badBase
      | .error e => .error e
    | _ => numberIn 10 cs

/-- The text up to the bracket that closes one opened before it, and what follows the bracket. -/
def upToBracket : Nat → List Char → List Char → Option (List Char × List Char)
  | _, _, [] => none
  | depth, before, ']' :: cs =>
    if depth = 0 then some (before.reverse, cs) else upToBracket (depth - 1) (']' :: before) cs
  | depth, before, c :: cs =>
    upToBracket (if c == '[' then depth + 1 else depth) (c :: before) cs

/-- The place that comes next; its name begins there. -/
def readPlace : Scan Place := do
  let cs ← look
  let name := cs.takeWhile isNameChar
  pass name.length
  match (← get).rest with
  | '[' :: rest =>
    match upToBracket 0 [] rest with
    | some (key, rest) =>
      modify fun t => { t with rest }
      return ⟨String.ofList name, some (String.ofList key)⟩
    | none => return ⟨String.ofList name, none⟩
  | _ => return ⟨String.ofList name, none⟩

/-- The readers of the next level in. -/
structure Inner where
  series : Scan Expr
  assigned : Scan Expr
  choice : Scan Expr
  unary : Scan Expr
  power : Scan Expr

/-- A number, a place, or an expression in parentheses. -/
def readOperand (inner : Inner) : Scan Expr := do
  match ← look with
  | [] => refuse .noOperand
  | '(' :: _ =>
    pass 1
    let e ← inner.series
    if ← accept ")" then return e else refuse .notClosed
  | c :: cs =>
    if c.isDigit then
      let digits := (c :: cs).takeWhile fun c => c.isAlphanum || c == '#' || c == '@' || c == '_'
      match numberOf digits with
      | .ok n =>
        pass digits.length
        return .number n
      | .error fault => refuse fault
    else if isNameStart c then
      let p ← readPlace
      if ← accept "++" then return .step true true p
      else if ← accept "--" then return .step true false p
      else return .place p
    else if "=+-><*/%^&|!~?:),;".toList.contains c then refuse .noOperand
    else refuse .badOperator

/-- An operand with operators before it. -/
def readUnary (inner : Inner) : Scan Expr := do
  let stepped (up : Bool) : Scan Expr := do
    match ← look with
    | c :: _ => if isNameStart c then return .step false up (← readPlace) else refuse .noName
    | [] => refuse .noName
  match ← look with
  | '+' :: '+' :: rest =>
    if ((trimmed rest).head?.map isNameStart).getD false then
      pass 2
      stepped true
    else
      pass 1
      return .unary .pos (← inner.unary)
  | '-' :: '-' :: rest =>
    if ((trimmed rest).head?.map isNameStart).getD false then
      pass 2
      stepped false
    else
      pass 1
      return .unary .neg (← inner.unary)
  | '!' :: _ =>
    pass 1
    return .unary .not (← inner.unary)
  | '~' :: _ =>
    pass 1
    return .unary .complement (← inner.unary)
  | '-' :: _ =>
    pass 1
    return .unary .neg (← inner.unary)
  | '+' :: _ =>
    pass 1
    return .unary .pos (← inner.unary)
  | _ => readOperand inner

/-- Repeat a step until it says that nothing more is to be done; each repetition uses up a
character. -/
def untilDone {α : Type} (step : α → Scan (α × Bool)) (a : α) : Scan α := do
  go ((← get).rest.length + 2) a
where
  go : Nat → α → Scan α
    | 0, a => pure a
    | n + 1, a => do
      let (a, more) ← step a
      if more then go n a else pure a

/-- A power, whose exponent may be a power. -/
def readPower (inner : Inner) : Scan Expr := do
  let e ← readUnary inner
  match ← look with
  | '*' :: '*' :: _ =>
    pass 2
    let text := String.ofList (← look)
    return .binary .power e (← inner.power) text
  | _ => return e

/-- Operands joined by the operators of one strength, from the left. -/
def readChain (item : Scan Expr) (tightness : Nat) : Scan Expr := do
  untilDone (fun e => do
    match ← binary? with
    | some (text, op, t) =>
      if t == tightness then
        pass text.length
        let rest := String.ofList (← look)
        return (.binary op e (← item) rest, true)
      else return (e, false)
    | none => return (e, false)) (← item)

/-- Operands joined by a logical operator. -/
def readLogical (item : Scan Expr) (symbol : String) (join : Expr → Expr → Expr) : Scan Expr := do
  untilDone (fun e => do
    if ← accept symbol then return (join e (← item), true) else return (e, false)) (← item)

/-- An expression without assignments and series, or a choice of two. -/
def readChoice (inner : Inner) : Scan Expr := do
  let binary := (List.range 8).foldl (fun item i => readChain item (10 - i)) (readPower inner)
  let e ← readLogical (readLogical binary "&&" .both) "||" .either
  if ← accept "?" then
    if (← look).isEmpty || (← look).head? == some ':' then refuse .noExpression
    let yes ← inner.series
    if !(← accept ":") then refuse .noColon
    if (← look).isEmpty then refuse .noExpression
    return .choice e yes (← inner.choice)
  else return e

/-- An expression, perhaps an assignment. -/
def readAssigned (inner : Inner) : Scan Expr := do
  let e ← readChoice inner
  match ← assigning? with
  | none => return e
  | some (length, op) =>
    match e with
    | .place p =>
      pass length
      let text := String.ofList (← look)
      return .assign p op (← inner.assigned) text
    | _ => refuse .notAssignable

/-- Expressions with commas between them. -/
def readSeries (inner : Inner) : Scan Expr := do
  untilDone (fun e => do
    if ← accept "," then return (.series e (← readAssigned inner), true)
    else return (e, false)) (← readAssigned inner)

/-- The readers `n` levels deep. -/
def levels : Nat → Inner
  | 0 =>
    { series := refuse .tooDeep, assigned := refuse .tooDeep, choice := refuse .tooDeep
      unary := refuse .tooDeep, power := refuse .tooDeep }
  | n + 1 =>
    { series := fun t => readSeries (levels n) t
      assigned := fun t => readAssigned (levels n) t
      choice := fun t => readChoice (levels n) t
      unary := fun t => readUnary (levels n) t
      power := fun t => readPower (levels n) t }

/-- The expression that a text spells; an empty text is zero. -/
def parse (text : String) : Except (ExprFault × String) Expr :=
  let cs := text.toList
  if (trimmed cs).isEmpty then .ok (.number 0)
  else
    let read : Scan Expr := do
      let e ← readSeries (levels (cs.length + 2))
      match ← look with
      | [] => return e
      | c :: _ =>
        if c.isAlphanum || "_(=+-><*/%^&|!~?:),;[]\x7b\x7d".toList.contains c then refuse .noOperator
        else refuse .badOperator
    (read.run ⟨cs, cs⟩).map Prod.fst

end ShaderBuild.Shell.Calculation
