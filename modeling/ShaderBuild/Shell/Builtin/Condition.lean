import ShaderBuild.Shell.Builtin.Standard
import ShaderBuild.Shell.Reader.Commands

/-! # Conditions of the extended dialect

Questions about files, texts, numbers and variables, as `test` and `[` ask them.  How a condition
is read depends on the number of its words, where that leaves no doubt.  The answers to questions
about one thing are shared with the questions between double brackets. -/

namespace ShaderBuild.Shell.Extended

/-! ### Questions about one thing -/

/-- Whether a text names a parameter with a value. -/
def isSetParameter (text : String) : Run Bool := do
  if !text.isEmpty && text.toList.all Char.isDigit then
    return decide (ofDigits 10 (text.toList.filterMap digitValue) ≤ (← shell).args.length)
  else
    match parameterNamed text with
    | (name, .whole) => return ((← findVariable name).bind Variable.value).isSome
    | (name, .every _) => return ((← findVariable name).map fun v => !v.elements.isEmpty).getD false
    | (name, .at key) =>
      match ← findVariable name with
      | none => return false
      | some v =>
        match ← keyOf? evaluated v (bareText key) with
        | some k => return (v.get? k).isSome
        | none => return false

/-- The answer to a question with one operand. -/
def askOne (operator arg : String) : Run Bool := do
  match operator with
  | "-a" => return Tool.askOne (← files) "-e" arg
  | "-o" =>
    let settings := (← shell).settings
    return Switch.family.any fun x => x.name == arg && x.isOn settings
  | "-v" => isSetParameter arg
  | "-R" => return (((← shell).bindings.lookup arg).map Variable.refers).getD false
  | "-t" => return false
  | operator => return Tool.askOne (← files) operator arg

/-! ### Conditions -/

/-- A step of reading the words of a condition, which are answered as they are read; it may find
that something is wrong. -/
abbrev Asking := StateT (List String) (ExceptT String Run)

/-- Go past a word; `more` says that another one has to follow. -/
def passWord (more : Bool) : Asking Unit := do
  let rest := (← get).tail
  set rest
  if more && rest.isEmpty then throw "argument expected"

/-- The number that a word spells. -/
def wordNumber (word : String) : Asking Int :=
  match Tool.operandNumber word with
  | .ok n => return n
  | .error _ => throw (word ++ ": integer expression expected")

/-- Whether a word is an operator with one operand. -/
def isOneOperator (word : String) : Bool :=
  oneOperators.contains word

/-- Whether a word is an operator with two operands. -/
def isTwoOperator (word : String) : Bool :=
  word != "=~" && twoOperators.contains word

/-- The answer to a question with two operands. -/
def askTwo (a operator b : String) : Asking Bool := do
  let numbers (p : Int → Int → Bool) : Asking Bool := do
    let x ← wordNumber a
    return p x (← wordNumber b)
  match operator with
  | "==" => return a == b
  | "-eq" => numbers (· == ·)
  | "-ne" => numbers (· != ·)
  | "-lt" => numbers fun x y => x < y
  | "-le" => numbers fun x y => x ≤ y
  | "-gt" => numbers fun x y => y < x
  | "-ge" => numbers fun x y => y ≤ x
  | operator =>
    match Tool.askTwo (← files) a operator b with
    | .ok answer => return answer
    | .error text => throw text

/-- The answer of two words. -/
def askTwoWords (first second : String) : Asking Bool := do
  if first == "!" then return second.isEmpty
  else if isOneOperator first then askOne first second
  else throw (first ++ ": unary operator expected")

/-- The answer of three words. -/
def askThreeWords (a b c : String) : Asking Bool := do
  if isTwoOperator b then askTwo a b c
  else if b == "-a" then return !a.isEmpty && !c.isEmpty
  else if b == "-o" then return !a.isEmpty || !c.isEmpty
  else if a == "!" then return !(← askTwoWords b c)
  else if a == "(" && c == ")" then return !b.isEmpty
  else throw (b ++ ": binary operator expected")

/-- Read a question, of which at most `n` words negate it; `whole` reads what is in parentheses. -/
def askTerm (whole : Asking Bool) : Nat → Asking Bool
  | 0 => throw "argument expected"
  | n + 1 => do
    match ← get with
    | [] => throw "argument expected"
    | "!" :: _ =>
      passWord true
      return !(← askTerm whole n)
    | "(" :: _ =>
      passWord true
      let answer ← whole
      match ← get with
      | ")" :: _ =>
        passWord false
        return answer
      | [] => throw "\x60)' expected"
      | word :: _ => throw ("\x60)' expected, found " ++ word)
    | a :: op :: b :: rest =>
      if isTwoOperator op then
        let answer ← askTwo a op b
        set rest
        return answer
      else single a (some op) (b :: rest)
    | [a, b] => single a (some b) []
    | [a] => single a none []
where
  /-- A question with one operand, or a word that is asked not to be empty. -/
  single (a : String) (b : Option String) (rest : List String) : Asking Bool := do
    match isOneOperator a, b with
    | true, some b =>
      let answer ← askOne a b
      set rest
      return answer
    | _, b =>
      set (b.toList ++ rest)
      return !a.isEmpty

/-- Read questions that an operator joins, at most `n` of them. -/
def askJoined (operator : String) (join : Bool → Bool → Bool) (item : Asking Bool) : Nat → Asking Bool
  | 0 => item
  | n + 1 => do
    let a ← item
    if (← get).head? == some operator then
      passWord false
      return join a (← askJoined operator join item n)
    else return a

/-- Read a condition with at most `n` parentheses inside each other. -/
def askWhole : Nat → Asking Bool
  | 0 => throw "argument expected"
  | n + 1 => do
    let size := (← get).length + 1
    askJoined "-o" (· || ·) (askJoined "-a" (· && ·) (askTerm (askWhole n) size) size) size

/-- Read all words as a condition. -/
def askWords (words : List String) : Asking Bool := do
  set words
  let answer ← askWhole (words.length + 1)
  match ← get with
  | [] => return answer
  | word :: _ =>
    if word.startsWith "-" then throw ("syntax error: \x60" ++ word ++ "' unexpected")
    else throw "too many arguments"

/-- The answer to a condition. -/
def askCondition (words : List String) : Asking Bool :=
  match words with
  | [] => return false
  | [a] => return !a.isEmpty
  | [a, b] => askTwoWords a b
  | [a, b, c] => askThreeWords a b c
  | ["!", a, b, c] => return !(← askThreeWords a b c)
  | ["(", a, b, ")"] => askTwoWords a b
  | words => askWords words

/-- Answer a condition. -/
def testBuiltin (name : String) : Builtin := fun args => do
  let answered (words : List String) : Run UInt8 := do
    match ← ((askCondition words).run []).run with
    | .ok (answer, _) => return if answer then 0 else 1
    | .error text => complain 2 text
  if name == "[" then
    if args.getLast? == some "]" then answered args.dropLast else complain 2 "missing \x60]'"
  else answered args

end ShaderBuild.Shell.Extended
