import ShaderBuild.Tool.Options
import ShaderBuild.Tool.Print

/-! # Sequences of numbers

The tool `seq` counts from one number to another.  It counts in fractions, so no place is lost, and
prints as many places as the first number and the step have. -/

namespace ShaderBuild.Tool

/-- An operand: its value as a fraction, how many places it has, if that is known, and how wide it
is when written out. -/
structure SequenceNumber where
  num : Int
  den : Nat
  places : Option Nat
  width : Nat

namespace SequenceNumber

/-- The exponent that a text ends with. -/
def exponentOf (cs : List Char) : Int :=
  (Numeral.readExponent 'e' (cs.dropWhile fun c => c != 'e' && c != 'E')).1

/-- The number that an operand is. -/
def read? (arg : String) : Option SequenceNumber :=
  match Numeral.read arg.toList with
  | some (.ratio negative num den, []) =>
    let body := arg.toList.dropWhile fun c => c == ' ' || c == '+'
    let plain := body.takeWhile fun c => c != 'e' && c != 'E'
    let fraction := (plain.dropWhile (· != '.')).drop 1
    let e := exponentOf body
    let places : Nat := ((fraction.length : Int) - e).toNat
    let isHex := body.any fun c => c == 'x' || c == 'X'
    let whole := plain.takeWhile (· != '.')
    let wholeWidth := if whole.isEmpty || whole == ['-'] then whole.length + 1 else whole.length
    let width := if e == 0 then
        wholeWidth + (if fraction.isEmpty then 0 else fraction.length + 1)
      else (Numeral.fixedText places false num den).length + (if negative then 1 else 0)
    some
      { num := if negative then -num else num, den
        places := if isHex then none else some places, width }
  | _ => none

end SequenceNumber

/-- The numbers from one to another by a step, at most `n` of them. -/
def countUp (step last : Int) : Nat → Int → List Int
  | 0, _ => []
  | n + 1, i =>
    if (0 < step && last < i) || (step < 0 && i < last) then []
    else i :: countUp step last n (i + step)

/-- The most numbers that `seq` prints. -/
def longestCount : Nat := 1000000

/-- What is wrong with a format, which must have one conversion of a number with a point. -/
def formatFault? (format : String) : Option String :=
  let name := "format " ++ quoted format
  let rec directives : Nat → List Char → List (List Char)
    | 0, _ => []
    | n + 1, cs =>
      match cs.dropWhile (· != '%') with
      | '%' :: '%' :: rest => directives n rest
      | '%' :: rest => rest :: directives n rest
      | _ => []
  match directives (format.length + 1) format.toList with
  | [] => some (name ++ " has no % directive")
  | [rest] =>
    let after := rest.dropWhile fun c => c.isDigit || "#-+ 0'.".toList.contains c
    match if after.head? == some 'L' then after.drop 1 else after with
    | [] => some (name ++ " ends in %")
    | c :: _ =>
      if "efgaEFGA".toList.contains c then none
      else some (name ++ " has unknown %" ++ c.toString ++ " directive")
  | _ => some (name ++ " has too many % directives")

/-- Whether an argument is a negative number and no option. -/
def isNegativeNumber (arg : String) : Bool :=
  match arg.toList with
  | '-' :: c :: _ => c.isDigit || c == '.'
  | _ => false

/-- Print a sequence. -/
def saySequence (o : Options) (first step last : SequenceNumber) : Work Unit := do
  let den : Nat := first.den * step.den * last.den
  let whole (n : SequenceNumber) : Int := n.num * ((den / n.den : Nat) : Int)
  let numbers := countUp (whole step) (whole last) longestCount (whole first)
  let places := do
    let a ← first.places
    let b ← step.places
    let _ ← last.places
    return max a b
  let plain (n : Int) (count : Nat) : List Char :=
    (if n < 0 then ['-'] else []) ++ Numeral.fixedText count false n.natAbs den
  let reach (n : SequenceNumber) (count : Nat) : Nat :=
    let own := n.places.getD 0
    n.width - own + count - (if 0 < own && count == 0 then 1 else 0)
      + (if own == 0 && 0 < count then 1 else 0)
  let text (n : Int) : String :=
    match o.value? 'f', places with
    | some format, _ => (printf .tool format [String.ofList (plain n 40)]).text
    | none, some count =>
      let cs := plain n count
      if o.has 'w' then
        let width := max (reach first count) (reach last count)
        let fill := List.replicate (width - cs.length) '0'
        match cs with
        | '-' :: ds => String.ofList ('-' :: fill ++ ds)
        | ds => String.ofList (fill ++ ds)
      else String.ofList cs
    | none, none => (printf .tool "%g" [String.ofList (plain n 40)]).text
  if !numbers.isEmpty then
    say (((o.value? 's').getD "\n").intercalate (numbers.map text) ++ "\n")

/-- The tool `seq`. -/
def sequenceTool : Routine := do
  let args := (← read).args
  let front := args.takeWhile fun a => !isNegativeNumber a
  let table : OptionTable :=
    { flags := "w", valued := "fs"
      long := [("equal-width", 'w'), ("format", 'f'), ("separator", 's')], ordered := true }
  match table.readFrom (front.length + 1) front with
  | .error text => refuse 1 text
  | .ok o =>
    let operands := o.operands ++ args.drop front.length
    match operands.find? fun a => (SequenceNumber.read? a).isNone with
    | some bad => refuse 1 ("invalid floating point argument: " ++ quoted bad)
    | none =>
      let one : SequenceNumber := ⟨1, 1, some 0, 1⟩
      let range := match operands.filterMap SequenceNumber.read? with
        | [last] => some (one, one, last)
        | [first, last] => some (first, one, last)
        | [first, step, last] => some (first, step, last)
        | _ => none
      match range with
      | none =>
        if operands.isEmpty then refuse 1 "missing operand"
        else refuse 1 ("extra operand " ++ quoted (operands.getD 3 ""))
      | some (first, step, last) =>
        if step.num == 0 then
          refuse 1 ("invalid Zero increment value: " ++ quoted (operands.getD 1 ""))
        else
          match (o.value? 'f').bind formatFault? with
          | some fault => complain 1 fault
          | none => saySequence o first step last

/-! ### Repetition -/

/-- How many bytes are printed of what has no end; then nobody reads on. -/
def endlessBytes : Nat := Nat.pow 2 18

/-- The tool `yes`, which prints a line until it is stopped by the end of its reader. -/
def repeatTool : Routine := do
  let args := (← read).args
  let line := (if args.isEmpty then "y" else " ".intercalate args) ++ "\n"
  say (String.join (List.replicate (endlessBytes / line.length + 1) line))
  fail 141

end ShaderBuild.Tool
