import ShaderBuild.Tool.Print

/-! # Conditions

The expressions of `test` and `[`: questions about files, texts and numbers, joined by `!`, `-a`,
`-o` and parentheses.  A condition is answered or has a mistake. -/

namespace ShaderBuild.Tool

/-- An answer, or what is wrong with the condition. -/
abbrev Answer := Except String Bool

/-! ### Single questions -/

/-- The operators with one operand. -/
def unaryTests : List String :=
  ["-b", "-c", "-d", "-e", "-f", "-g", "-h", "-k", "-L", "-n", "-O", "-G", "-p", "-r", "-S", "-s",
    "-t", "-u", "-w", "-x", "-z"]

/-- The operators with two operands. -/
def binaryTests : List String :=
  ["=", "!=", "<", ">", "-eq", "-ne", "-lt", "-le", "-gt", "-ge", "-nt", "-ot", "-ef"]

/-- Whether what a path names satisfies `p`. -/
def askEntry (files : FileTree) (arg : String) (p : Entry → Bool) : Bool :=
  match files.find (pathOf arg) with
  | .ok (_, e) => p e
  | .error _ => false

/-- The number of bytes in a file; other entries have a size of their own. -/
def sizeOf (files : FileTree) : Entry → Nat
  | .file n => ((files.body? n).map fun b => b.content.size).getD 0
  | .dir _ _ => 4096
  | .link target => target.bytes.length
  | .device _ => 0

/-- When an entry was last changed; only of files that is known. -/
def timeOf (files : FileTree) : Entry → Nat
  | .file n => ((files.body? n).map FileBody.modified).getD files.clock
  | _ => files.clock

/-- The answer to a question with one operand. -/
def askOne (files : FileTree) (op arg : String) : Bool :=
  let ask := askEntry files arg
  let hasBit (i : Nat) : Bool := ask fun e => (files.modeOf e).bits.testBit i
  match op with
  | "-n" => !arg.isEmpty
  | "-z" => arg.isEmpty
  | "-h" | "-L" => (files.linkTarget? (pathOf arg)).isSome
  | "-d" => ask Entry.isDir
  | "-f" => ask fun | .file _ => true | _ => false
  | "-c" => ask fun | .device _ => true | _ => false
  | "-r" => hasBit 8
  | "-w" => hasBit 7
  | "-x" => hasBit 6
  | "-u" => hasBit 11
  | "-g" => hasBit 10
  | "-k" => hasBit 9
  | "-s" => ask fun e => 0 < sizeOf files e
  | "-e" | "-O" | "-G" => ask fun _ => true
  | _ => false

/-- Whether two paths name the same thing. -/
def areSame (files : FileTree) (a b : String) : Bool :=
  match files.find (pathOf a), files.find (pathOf b) with
  | .ok (l, e), .ok (m, d) => l == m || FileTree.sameBody e (some d)
  | _, _ => false

/-- Whether what a path names was changed later than what another one names. -/
def isNewer (files : FileTree) (a b : String) : Bool :=
  match files.find (pathOf a), files.find (pathOf b) with
  | .ok (_, e), .ok (_, d) => decide (timeOf files d < timeOf files e)
  | _, _ => false

/-- The number that an operand spells, with blanks around it. -/
def operandNumber (arg : String) : Except String Int :=
  let isBlank (c : Char) : Bool := c == ' ' || (9 ≤ c.toNat && c.toNat ≤ 13)
  let cs := (arg.toList.dropWhile isBlank).reverse.dropWhile isBlank |>.reverse
  let (negative, digits) := match cs with
    | '-' :: rest => (true, rest)
    | '+' :: rest => (false, rest)
    | cs => (false, cs)
  if digits.isEmpty || !digits.all Char.isDigit then .error ("Illegal number: " ++ arg)
  else
    let n : Int := digits.foldl (fun n c => 10 * n + ((c.toNat - '0'.toNat : Nat) : Int)) 0
    let n := if negative then -n else n
    if -(Nat.pow 2 63 : Int) ≤ n && n < (Nat.pow 2 63 : Int) then .ok n
    else .error ("Illegal number: " ++ arg)

/-- The answer to a question with two operands. -/
def askTwo (files : FileTree) (a op b : String) : Answer :=
  let numbers (p : Int → Int → Bool) : Answer := do
    return p (← operandNumber a) (← operandNumber b)
  match op with
  | "=" => .ok (a == b)
  | "!=" => .ok (a != b)
  | "<" => .ok (a < b)
  | ">" => .ok (b < a)
  | "-eq" => numbers (· == ·)
  | "-ne" => numbers (· != ·)
  | "-lt" => numbers fun x y => x < y
  | "-le" => numbers fun x y => x ≤ y
  | "-gt" => numbers fun x y => y < x
  | "-ge" => numbers fun x y => y ≤ x
  | "-ef" => .ok (areSame files a b)
  | "-nt" => .ok (isNewer files a b)
  | "-ot" => .ok (isNewer files b a)
  | _ => .ok false

/-! ### Expressions -/

/-- Whether the first word is an operator with one operand. -/
def startsUnary : List String → Bool
  | op :: arg :: rest =>
    unaryTests.contains op
      && (rest.isEmpty || !(binaryTests.contains arg || arg == "-a" || arg == "-o"))
  | _ => false

/-- Read a condition from the front of the words.  `whole` reads a condition with `-a` and `-o`. -/
def askPrimary (files : FileTree) (whole : List String → Except String (Bool × List String))
    (words : List String) : Except String (Bool × List String) :=
  match words with
  | [] => .ok (false, [])
  | "(" :: ")" :: rest => .ok (false, rest)
  | "(" :: first :: rest => do
    if binaryTests.contains first && !rest.isEmpty && rest.tail.isEmpty then
      return (← askTwo files "(" first (rest.headD ""), [])
    let (answer, rest) ← whole (first :: rest)
    match rest with
    | ")" :: rest => return (answer, rest)
    | _ => throw "closing paren expected"
  | a :: rest =>
    if startsUnary words then .ok (askOne files a (rest.headD ""), rest.tail)
    else
      match rest with
      | op :: rest' =>
        if binaryTests.contains op then
          match rest' with
          | b :: rest'' => do return (← askTwo files a op b, rest'')
          | [] => .error (op ++ ": argument expected")
        else .ok (!a.isEmpty, rest)
      | [] => .ok (!a.isEmpty, [])

/-- Read a condition that may be negated, at most `n` times. -/
def askNegated (files : FileTree) (whole : List String → Except String (Bool × List String)) :
    Nat → List String → Except String (Bool × List String)
  | 0, words => askPrimary files whole words
  | n + 1, "!" :: first :: rest => do
    if binaryTests.contains first && !rest.isEmpty && rest.tail.isEmpty then
      return (← askTwo files "!" first (rest.headD ""), [])
    let (answer, rest) ← askNegated files whole n (first :: rest)
    return (!answer, rest)
  | _, words => askPrimary files whole words

/-- Read conditions joined by an operator. -/
def askJoined (op : String) (join : Bool → Bool → Bool)
    (item : List String → Except String (Bool × List String)) :
    Nat → List String → Except String (Bool × List String)
  | 0, words => item words
  | n + 1, words => do
    let (a, rest) ← item words
    match rest with
    | first :: rest' =>
      if first == op then
        let (b, rest) ← askJoined op join item n rest'
        return (join a b, rest)
      else return (a, rest)
    | [] => return (a, [])

/-- Read a condition with at most `n` nested parentheses. -/
def askWhole (files : FileTree) : Nat → List String → Except String (Bool × List String)
  | 0, _ => .error "closing paren expected"
  | n + 1, words =>
    let negated := askNegated files (askWhole files n) words.length
    let ands := askJoined "-a" (· && ·) negated words.length
    askJoined "-o" (· || ·) ands words.length words

/-- The answer to a condition. -/
def ask (files : FileTree) (words : List String) : Answer :=
  match words with
  | [] => .ok false
  | [a, op, b] =>
    if binaryTests.contains op then askTwo files a op b else general words
  | words => general words
where
  /-- The answer to a condition of any length. -/
  general (words : List String) : Answer := do
    let (answer, rest) ← askWhole files (words.length + 1) words
    match rest with
    | [] => return answer
    | _ => throw ((words[words.length - rest.length - 1]?).getD "" ++ ": unexpected operator")

/-- The condition of a call of `test` or `[`. -/
def conditionOf (name : String) (args : List String) : Except String (List String) :=
  if name == "[" then
    if args.getLast? == some "]" then .ok args.dropLast else .error "missing ]"
  else .ok args

/-- The tools `test` and `[`. -/
def testTool : Routine := do
  let call ← read
  let name := if call.name.endsWith "[" then "[" else call.name
  match conditionOf name call.args with
  | .error _ => complain 2 "missing ']'"
  | .ok words =>
    let words := words.map fun w => if w == "==" then "=" else w
    match ask (← tree) words with
    | .ok true => pure ()
    | .ok false => fail 1
    | .error text => complain 2 text

end ShaderBuild.Tool
