import ShaderBuild.Tool.Condition
import ShaderBuild.Tool.Lines
import ShaderBuild.Tool.Regex.Matching
import ShaderBuild.Tool.Sorting

/-! # Small computations

The tool `expr`, the tools that only end with a status, and those that say who and where the
caller is. -/

namespace ShaderBuild.Tool

/-! ### Expressions -/

/-- A mistake in an expression. -/
structure ExprMistake where
  text : String

/-- Reads an expression from the front of the words. -/
abbrev WordExpr := List String → Except ExprMistake (String × List String)

/-- Whether a value counts as false. -/
def isNothing (s : String) : Bool :=
  s.isEmpty || s == "0" || s == "-0"

/-- An integer operand. -/
def asInteger (s : String) : Except ExprMistake Int :=
  match operandNumber s with
  | .ok n => .ok n
  | .error _ => .error ⟨"non-integer argument"⟩

/-- What a pattern matches at the front of a text: its first group, or how many characters. -/
def matchFront (text pattern : String) : Except ExprMistake String :=
  match Regex.parse {} pattern.toList with
  | .error e => .error ⟨e⟩
  | .ok r =>
    let matcher := r.regex.matcher {} text.toList
    .ok <| match matcher.at? 0 with
      | some m =>
        if 0 < r.groups then String.ofList (m.group 1 matcher.text)
        else Nat.repr (m.span.stop - m.span.start)
      | none => if 0 < r.groups then "" else "0"

/-- The operators, the loosest first. -/
def exprOperators : List (List String) :=
  [["|"], ["&"], ["<", "<=", "=", "==", "!=", ">=", ">"], ["+", "-"], ["*", "/", "%"], [":"]]

/-- The result of an operator. -/
def applyExpr (op a b : String) : Except ExprMistake String :=
  let compared (p : Ordering → Bool) : Except ExprMistake String :=
    let o := match operandNumber a, operandNumber b with
      | .ok x, .ok y => compare x y
      | _, _ => byteOrder a b
    .ok (if p o then "1" else "0")
  let computed (f : Int → Int → Int) : Except ExprMistake String := do
    return toString (f (← asInteger a) (← asInteger b))
  let divided (f : Int → Int → Int) : Except ExprMistake String := do
    if (← asInteger b) == 0 then throw ⟨"division by zero"⟩
    return toString (f (← asInteger a) (← asInteger b))
  match op with
  | "|" => .ok (if !isNothing a then a else if isNothing b then "0" else b)
  | "&" => .ok (if isNothing a || isNothing b then "0" else a)
  | "<" => compared (· == .lt)
  | "<=" => compared Ordering.isLE
  | "=" | "==" => compared (· == .eq)
  | "!=" => compared (· != .eq)
  | ">=" => compared (· != .lt)
  | ">" => compared (· == .gt)
  | "+" => computed (· + ·)
  | "-" => computed (· - ·)
  | "*" => computed (· * ·)
  | "/" => divided Int.tdiv
  | "%" => divided Int.tmod
  | _ => matchFront a b

/-- Operands joined by operators of one strength, from the left. -/
def exprChain (ops : List String) (item : WordExpr) :
    Nat → String → List String → Except ExprMistake (String × List String)
  | 0, a, words => .ok (a, words)
  | n + 1, a, words =>
    match words with
    | op :: rest =>
      if ops.contains op then do
        let (b, rest) ← item rest
        exprChain ops item n (← applyExpr op a b) rest
      else .ok (a, words)
    | [] => .ok (a, [])

/-- An operand: a word, a function of texts, or an expression in parentheses; `all` are the words of
the whole call. -/
def exprOperand (all : List String) (whole : WordExpr) (words : List String) :
    Except ExprMistake (String × List String) :=
  match words with
  | [] => .error ⟨"syntax error: missing argument after " ++ quoted (all.getLast?.getD "")⟩
  | "(" :: rest => do
    let (a, rest) ← whole rest
    match rest with
    | ")" :: rest => return (a, rest)
    | _ => throw ⟨"syntax error: expecting ')' after " ++ quoted a⟩
  | "length" :: s :: rest => .ok (Nat.repr s.length, rest)
  | "substr" :: s :: i :: n :: rest => do
    let start ← asInteger i
    let count ← asInteger n
    let text := if start < 1 || count < 1 then []
      else (s.toList.drop (start.toNat - 1)).take count.toNat
    return (String.ofList text, rest)
  | "index" :: s :: cs :: rest =>
    .ok (Nat.repr (((s.toList.findIdx? fun c => cs.toList.contains c).map (· + 1)).getD 0), rest)
  | "match" :: s :: p :: rest => do
    return (← matchFront s p, rest)
  | "+" :: s :: rest => .ok (s, rest)
  | s :: rest => .ok (s, rest)

/-- An expression with at most `n` nested parentheses. -/
def exprWhole (all : List String) : Nat → WordExpr
  | 0 => fun _ => .error ⟨"syntax error"⟩
  | n + 1 => exprOperators.foldr (fun ops (item : WordExpr) words => do
      let (a, rest) ← item words
      exprChain ops item words.length a rest) (exprOperand all (exprWhole all n))

/-- The tool `expr`. -/
def exprTool : Routine := do
  let words := match (← read).args with
    | "--" :: words => words
    | words => words
  if words.isEmpty then refuse 2 "missing operand"
  else
    match exprWhole words (words.length + 1) words with
    | .ok (value, []) =>
      say (value ++ "\n")
      if isNothing value then fail 1
    | .ok (_, extra :: _) => complain 2 ("syntax error: unexpected argument " ++ quoted extra)
    | .error e => complain 2 e.text

/-! ### The rest -/

/-- A tool that only ends with a status. -/
def endingTool (status : UInt8) : Routine :=
  fail status

/-- A tool that prints one line and takes no arguments. -/
def statingTool (line : String) : Routine :=
  withOptions {} 1 fun o =>
    match o.operands with
    | [] => say (line ++ "\n")
    | extra :: _ => refuse 1 ("extra operand " ++ quoted extra)

/-- The tool `uname`. -/
def systemTool : Routine :=
  withOptions
    { flags := "asnrvmpio"
      long := [("all", 'a'), ("kernel-name", 's'), ("nodename", 'n'), ("kernel-release", 'r'),
        ("kernel-version", 'v'), ("machine", 'm'), ("processor", 'p'), ("hardware-platform", 'i'),
        ("operating-system", 'o')] } 1 fun o =>
    match o.operands with
    | extra :: _ => refuse 1 ("extra operand " ++ quoted extra)
    | [] =>
      let asked (c : Char) : Bool := o.has c || o.has 'a' || (c == 's' && o.given.isEmpty)
      let parts := [('s', "Linux"), ('n', "localhost"), ('r', "6.8.0"), ('v', "#1 SMP"),
        ('m', "x86_64"), ('p', "x86_64"), ('i', "x86_64"), ('o', "GNU/Linux")]
      say (" ".intercalate ((parts.filter fun x => asked x.1).map Prod.snd) ++ "\n")

/-- The tool `tty`, whose input is none. -/
def terminalTool : Routine :=
  withOptions { flags := "s", long := [("silent", 's'), ("quiet", 's')] } 2 fun o =>
    match o.operands with
    | [] => do
      if !o.has 's' then say "not a tty\n"
      fail 1
    | extra :: _ => refuse 2 ("extra operand " ++ quoted extra)

/-- The tool `groups`, for the one user there is. -/
def groupsTool : Routine :=
  withOptions {} 1 fun o =>
    if o.operands.isEmpty then say "root\n"
    else
      o.operands.forM fun name =>
        if name == "root" then say "root : root\n"
        else complain 1 (quoted name ++ ": no such user")

/-- The nanoseconds that a text spells: a number, perhaps with a unit after it. -/
def interval? (text : String) : Option Nat :=
  let cs := text.toList
  let whole := cs.takeWhile Char.isDigit
  let after := cs.drop whole.length
  let part := if after.head? == some '.' then after.tail.takeWhile Char.isDigit else []
  let rest := if after.head? == some '.' then after.drop (part.length + 1) else after
  let seconds? : Option Nat := match rest with
    | [] | ['s'] => some 1
    | ['m'] => some 60
    | ['h'] => some 3600
    | ['d'] => some 86400
    | _ => none
  if whole.isEmpty && part.isEmpty then none
  else
    seconds?.map fun seconds =>
      seconds * ((digitsNumber? whole).getD 0 * nanosPerSecond + fractionNanoseconds part)

/-- The tool `sleep`, which lets time pass. -/
def sleepTool : Routine :=
  withOptions {} 1 fun o =>
    needOperands o 1 "operand" do
      match o.operands.filter fun a => (interval? a).isNone with
      | [] =>
        let time := (o.operands.filterMap interval?).foldl (· + ·) 0
        let t ← tree
        setTree { t with clock := t.clock + time }
      | bad =>
        bad.forM fun a => complain 1 ("invalid time interval " ++ quoted a)
        emit 2 (contentOf ("Try '" ++ (← read).name ++ " --help' for more information.\n"))

/-- The tool `printenv`. -/
def environmentTool : Routine := do
  let call ← read
  match call.args with
  | [] => call.environment.forM fun x => say (x.1 ++ "=" ++ x.2 ++ "\n")
  | names =>
    names.forM fun name => do
      match call.environment.lookup name with
      | some value => say (value ++ "\n")
      | none => fail 1

/-- The tool `id`, for the one user there is. -/
def identityTool : Routine := do
  match (← read).args with
  | ["-u"] | ["-g"] | ["-G"] => say "0\n"
  | ["-un"] | ["-gn"] | ["-u", "-n"] => say "root\n"
  | _ => say "uid=0(root) gid=0(root) groups=0(root)\n"

end ShaderBuild.Tool
