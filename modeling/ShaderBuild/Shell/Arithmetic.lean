import ShaderBuild.Shell.Command

/-! # Arithmetic

Expressions over signed 64-bit integers, with the operators of C, variables and assignments.
`Expr.parse` reads an expression of the standard dialect; its value depends on variables and may
assign to them, so it is computed where the variables are. -/

namespace ShaderBuild.Shell

/-- An operator with two operands. -/
inductive Binary where
  | or | xor | and | eq | ne | lt | gt | le | ge | shl | shr | add | sub | mul | div | mod | power
deriving DecidableEq, Repr

/-- An operator with one operand. -/
inductive Unary where
  | neg | pos | not | complement
deriving DecidableEq, Repr

/-- What can be assigned to: a variable, or the element of one under a key that is still a text. -/
structure Place where
  name : String
  key? : Option String := none
deriving DecidableEq, Repr

/-- An expression. -/
inductive Expr where
  | number (n : Int64)
  | place (p : Place)
  | unary (op : Unary) (e : Expr)
  /-- An operation; `text` is the expression from the second operand on. -/
  | binary (op : Binary) (a b : Expr) (text : String)
  | both (a b : Expr)
  | either (a b : Expr)
  | choice (c a b : Expr)
  /-- Assign, perhaps after an operation with the old value. -/
  | assign (p : Place) (op : Option Binary) (e : Expr) (text : String)
  /-- Add or subtract 1; the value is that before or after it. -/
  | step (before up : Bool) (p : Place)
  | series (a b : Expr)

/-- What is wrong with an expression. -/
inductive ExprFault where
  | expectingPrimary
  | expectingColon
  | expectingClosing
  | expectingFinish
  | divisionByZero
  | negativeExponent
  | noOperand
  | noOperator
  | badOperator
  | notClosed
  | noColon
  | noExpression
  | notAssignable
  | noName
  | digitTooGreat
  | badBase
  | tooDeep
deriving DecidableEq, Repr

/-- The text an expression is refused with. -/
def ExprFault.message : ExprFault → String
  | .expectingPrimary => "expecting primary"
  | .expectingColon => "expecting ':'"
  | .expectingClosing => "expecting ')'"
  | .expectingFinish => "expecting EOF"
  | .divisionByZero => "division by zero"
  | .negativeExponent => "exponent less than 0"
  | .noOperand => "syntax error: operand expected"
  | .noOperator => "syntax error in expression"
  | .badOperator => "syntax error: invalid arithmetic operator"
  | .notClosed => "missing \x60)'"
  | .noColon => "\x60:' expected for conditional expression"
  | .noExpression => "expression expected"
  | .notAssignable => "attempted assignment to non-variable"
  | .noName => "identifier expected after pre-increment or pre-decrement"
  | .digitTooGreat => "value too great for base"
  | .badBase => "invalid arithmetic base"
  | .tooDeep => "expression recursion level exceeded"

/-! ### Numbers -/

/-- The value of a digit in some base. -/
def digitValue (c : Char) : Option Nat :=
  if c.isDigit then some (c.toNat - '0'.toNat)
  else if 'a' ≤ c && c ≤ 'z' then some (c.toNat - 'a'.toNat + 10)
  else if 'A' ≤ c && c ≤ 'Z' then some (c.toNat - 'A'.toNat + 10)
  else none

/-- The digits of a number in a base, and what follows them. -/
def takeDigits (base : Nat) (cs : List Char) : List Nat × List Char :=
  let isDigit (c : Char) : Bool := (digitValue c).any (· < base)
  ((cs.takeWhile isDigit).filterMap digitValue, cs.dropWhile isDigit)

/-- The number that digits spell. -/
def ofDigits (base : Nat) (digits : List Nat) : Nat :=
  digits.foldl (fun n d => base * n + d) 0

/-- The greatest integer. -/
def maxInteger : Nat := Nat.pow 2 63 - 1

/-- A number at the front of a text: decimal, octal after `0`, hexadecimal after `0x`. -/
def takeNumber (cs : List Char) : Option (Nat × List Char) :=
  let read (base : Nat) (cs : List Char) : Option (Nat × List Char) :=
    match takeDigits base cs with
    | ([], _) => none
    | (digits, rest) => some (min (ofDigits base digits) maxInteger, rest)
  match cs with
  | '0' :: x :: rest =>
    if x == 'x' || x == 'X' then (read 16 rest).or (some (0, x :: rest)) else read 8 cs
  | cs => read 10 cs

/-- The integer that a whole text spells, with blanks before it and perhaps a sign. -/
def integer? (text : String) : Option Int64 :=
  let cs := text.toList.dropWhile fun c => c == ' ' || (9 ≤ c.toNat && c.toNat ≤ 13)
  let (negative, digits) := match cs with
    | '-' :: rest => (true, rest)
    | '+' :: rest => (false, rest)
    | cs => (false, cs)
  match takeNumber digits with
  | some (n, []) => some (if negative then -(Int64.ofNat n) else Int64.ofNat n)
  | _ => none

/-! ### Operators -/

/-- A truth value as an integer. -/
def truth (b : Bool) : Int64 := if b then 1 else 0

namespace Binary

/-- The result of an operation, or why there is none. -/
def apply (op : Binary) (a b : Int64) : Except ExprFault Int64 :=
  match op with
  | .or => .ok (a ||| b)
  | .xor => .ok (a ^^^ b)
  | .and => .ok (a &&& b)
  | .eq => .ok (truth (a == b))
  | .ne => .ok (truth (a != b))
  | .lt => .ok (truth (a < b))
  | .gt => .ok (truth (b < a))
  | .le => .ok (truth (a ≤ b))
  | .ge => .ok (truth (b ≤ a))
  | .shl => .ok (a <<< b)
  | .shr => .ok (a >>> b)
  | .add => .ok (a + b)
  | .sub => .ok (a - b)
  | .mul => .ok (a * b)
  | .div => if b == 0 then .error .divisionByZero else .ok (a / b)
  | .mod => if b == 0 then .error .divisionByZero else .ok (a % b)
  | .power => if b < 0 then .error .negativeExponent else .ok (raised a b.toInt.toNat)
where
  /-- A power, by squaring. -/
  raised (a : Int64) (n : Nat) : Int64 :=
    if n = 0 then 1
    else
      let half := raised (a * a) (n / 2)
      if n % 2 = 1 then a * half else half

/-- The operators by their spelling, the longer ones first, and how tightly they bind. -/
def table : List (String × Binary × Nat) :=
  [("==", .eq, 6), ("!=", .ne, 6), ("<=", .le, 7), (">=", .ge, 7), ("<<", .shl, 8),
    (">>", .shr, 8), ("|", .or, 3), ("^", .xor, 4), ("&", .and, 5), ("<", .lt, 7), (">", .gt, 7),
    ("+", .add, 9), ("-", .sub, 9), ("*", .mul, 10), ("/", .div, 10), ("%", .mod, 10)]

/-- The operators that can be joined with an assignment. -/
def assigning : List (String × Binary) :=
  [("<<=", .shl), (">>=", .shr), ("|=", .or), ("^=", .xor), ("&=", .and), ("+=", .add),
    ("-=", .sub), ("*=", .mul), ("/=", .div), ("%=", .mod)]

end Binary

/-- The result of an operation with one operand. -/
def Unary.apply (op : Unary) (a : Int64) : Int64 :=
  match op with
  | .neg => -a
  | .pos => a
  | .not => truth (a == 0)
  | .complement => ~~~a

/-! ### Reading expressions -/

namespace Expr

/-- The outcome of reading a front part of the text. -/
abbrev Parse := Except ExprFault (Expr × List Char)

/-- The text without blanks at its front. -/
def trim (cs : List Char) : List Char :=
  cs.dropWhile fun c => c == ' ' || c == '\t' || c == '\n'

/-- The rest of the text after an operator. -/
def after? (spelling : String) (cs : List Char) : Option (List Char) :=
  if spelling.toList.isPrefixOf (trim cs) then some ((trim cs).drop spelling.length) else none

/-- The assigning operator at the front of a text. -/
def assigning? (cs : List Char) : Option (Option Binary × List Char) :=
  match Binary.assigning.findSome? fun x => (after? x.1 cs).map fun rest => (some x.2, rest) with
  | some found => some found
  | none =>
    if (after? "==" cs).isSome then none
    else (after? "=" cs).map fun rest => (none, rest)

/-- The operator with two operands at the front of a text. -/
def binary? (cs : List Char) : Option (Binary × Nat × List Char) :=
  if (after? "||" cs).isSome || (after? "&&" cs).isSome || (assigning? cs).isSome then none
  else Binary.table.findSome? fun x => (after? x.1 cs).map fun rest => (x.2.1, x.2.2, rest)

/-- An operand: a number, a variable, an expression in parentheses or one behind an operator.
`whole` reads an expression and `again` an operand. -/
def operand (whole again : List Char → Parse) (cs : List Char) : Parse :=
  match trim cs with
  | '(' :: rest => do
    let (e, rest) ← whole rest
    match trim rest with
    | ')' :: rest => return (e, rest)
    | _ => throw .expectingClosing
  | '-' :: rest => do return (← again rest).map (.unary .neg) id
  | '+' :: rest => do return (← again rest).map (.unary .pos) id
  | '!' :: rest => do return (← again rest).map (.unary .not) id
  | '~' :: rest => do return (← again rest).map (.unary .complement) id
  | c :: rest =>
    if c.isDigit then
      match takeNumber (c :: rest) with
      | some (n, rest) => return (.number (Int64.ofNat n), rest)
      | none => throw .expectingPrimary
    else if isNameStart c then
      let name := String.ofList ((c :: rest).takeWhile isNameChar)
      return (.place ⟨name, none⟩, (c :: rest).dropWhile isNameChar)
    else throw .expectingPrimary
  | [] => throw .expectingPrimary

/-- Continue `left` with the operators that bind at least as tightly as `tightness`, at most `n` of
them; `above` reads a right operand with the operators that bind more tightly. -/
def climb (above : Nat → List Char → Parse) (tightness : Nat) : Nat → Expr → List Char → Parse
  | 0, left, cs => .ok (left, cs)
  | n + 1, left, cs =>
    match binary? cs with
    | some (op, t, rest) =>
      if tightness ≤ t then do
        let (right, rest) ← above (t + 1) rest
        climb above tightness n (.binary op left right "") rest
      else .ok (left, cs)
    | none => .ok (left, cs)

/-- Operands joined by one logical operator. -/
def joined (spelling : String) (join : Expr → Expr → Expr) (item : List Char → Parse) :
    Nat → List Char → Parse
  | 0, _ => .error .expectingPrimary
  | n + 1, cs => do
    let (left, rest) ← item cs
    match after? spelling rest with
    | some rest => do
      let (right, rest) ← joined spelling join item n rest
      return (join left right, rest)
    | none => return (left, rest)

/-- The readers of expressions and operands, nested at most `n` times. -/
def level : Nat → (List Char → Parse) × (List Char → Parse) × (Nat → List Char → Parse)
  | 0 =>
    (fun _ => .error .expectingPrimary, fun _ => .error .expectingPrimary,
      fun _ _ => .error .expectingPrimary)
  | n + 1 =>
    let (whole, again, above) := level n
    let operand := operand whole again
    let binary (tightness : Nat) (cs : List Char) : Parse := do
      let (left, rest) ← operand cs
      climb above tightness cs.length left rest
    let ands (cs : List Char) : Parse := joined "&&" .both (binary 0) (cs.length + 1) cs
    let ors (cs : List Char) : Parse := joined "||" .either ands (cs.length + 1) cs
    let full (cs : List Char) : Parse := do
      let (e, rest) ← ors cs
      match e, assigning? rest with
      | .place p, some (op, rest) => do
        let (value, rest) ← whole rest
        return (.assign p op value "", rest)
      | e, _ =>
        match after? "?" rest with
        | some rest => do
          let (yes, rest) ← whole rest
          match after? ":" rest with
          | some rest => do
            let (no, rest) ← whole rest
            return (.choice e yes no, rest)
          | none => throw .expectingColon
        | none => return (e, rest)
    (full, operand, binary)

/-- The expression that a text spells; an empty text is zero. -/
def parse (text : String) : Except ExprFault Expr :=
  let cs := text.toList
  if (trim cs).isEmpty then .ok (.number 0)
  else
    match (level (cs.length + 1)).1 cs with
    | .error e => .error e
    | .ok (e, rest) => if (trim rest).isEmpty then .ok e else .error .expectingFinish

end Expr

end ShaderBuild.Shell
