import ShaderBuild.Shell.Builtin.Condition
import ShaderBuild.Tool.Regex.Matching

/-! # Questions in double brackets

A question is answered with a status: zero for yes, one for no, two for a question that makes no
sense. The right side of a comparison is a pattern, or a regular expression after `=~`; what is
quoted in them stands for itself. -/

namespace ShaderBuild.Shell.Extended

/-- The regular expressions of questions. -/
def questionFlavor : Tool.RegexFlavor :=
  { extended := true }

/-- A pattern as a regular expression: quoted characters get a backslash. -/
def regexText (signs : List Sign) : List Char :=
  signs.flatMap fun s =>
    if s.quoted && "\\.[]*^$+?()\x7b\x7d|".toList.contains s.char then ['\\', s.char] else [s.char]

/-- The status of an answer. -/
def answered (answer : Bool) : UInt8 :=
  if answer then 0 else 1

/-- Look for a regular expression in a text; what was found is kept in an array. -/
def findPattern (text : String) (pattern : List Sign) : Run UInt8 := do
  match Tool.Regex.parse questionFlavor (regexText pattern) with
  | .error _ => return 2
  | .ok r =>
    let anyCase := (← shell).settings.anyCase
    let found := Tool.Regex.find r.regex { anyCase } text.toList
    let chars := text.toList.toArray
    let values := match found with
      | some m => (List.range (r.groups + 1)).map fun n => String.ofList (m.group n chars)
      | none => []
    putVariable "BASH_REMATCH" (some (Variable.withValues {} values))
    return answered found.isSome

/-- The answer of a comparison of numbers, if an operator is one. -/
def comparison? (operator : String) : Option (Int64 → Int64 → Bool) :=
  match operator with
  | "-eq" => some (· == ·)
  | "-ne" => some (· != ·)
  | "-lt" => some fun x y => decide (x < y)
  | "-le" => some fun x y => decide (x ≤ y)
  | "-gt" => some fun x y => decide (y < x)
  | "-ge" => some fun x y => decide (y ≤ x)
  | _ => none

/-- Answer a question with two operands. -/
def answerTwo (runner : Runner) (operator : String) (left right : Word) : Run UInt8 := do
  let a ← expandText runner left
  match operator with
  | "=" | "==" => return answered (← fitsPattern true (← expandPattern runner right) a)
  | "!=" => return answered !(← fitsPattern true (← expandPattern runner right) a)
  | "=~" => findPattern a (← expandPattern runner right)
  | operator =>
    let b ← expandText runner right
    match comparison? operator with
    | some compare =>
      let x ← evaluated a
      return answered (compare x (← evaluated b))
    | none =>
      match Tool.askTwo (← files) a operator b with
      | .ok answer => return answered answer
      | .error _ => return 2

/-- Answer a question. -/
def answer (runner : Runner) : Question → Run UInt8
  | .one operator operand => do return answered (← askOne operator (← expandText runner operand))
  | .two operator left right => answerTwo runner operator left right
  | .not q => do
    let status ← answer runner q
    return if status == 0 then 1 else if status == 1 then 0 else status
  | .both p q => do
    let status ← answer runner p
    if status == 0 then answer runner q else return status
  | .either p q => do
    let status ← answer runner p
    if status == 0 then return 0 else answer runner q

end ShaderBuild.Shell.Extended
