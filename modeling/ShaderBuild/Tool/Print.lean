import ShaderBuild.Text.Numeral
import ShaderBuild.Tool.Basic

/-! # Printing

`echo` and `printf`, as values: what is printed, what is complained about, and the status.  Both
understand escapes that begin with a backslash.  `printf` uses its format again as long as arguments
are left, and takes missing arguments as empty or zero. -/

namespace ShaderBuild.Tool

/-! ### Escapes -/

/-- Whether a character is an octal digit. -/
def isOctal (c : Char) : Bool :=
  '0' ≤ c && c ≤ '7'

/-- The character that an escape stands for and what follows it; `cs` comes after the backslash.
After a backslash that begins no escape nothing is used up. -/
def escape (cs : List Char) : Char × List Char :=
  match cs with
  | '\\' :: rest => ('\\', rest)
  | 'a' :: rest => (Char.ofNat 7, rest)
  | 'b' :: rest => (Char.ofNat 8, rest)
  | 'e' :: rest => (Char.ofNat 27, rest)
  | 'f' :: rest => (Char.ofNat 12, rest)
  | 'n' :: rest => ('\n', rest)
  | 'r' :: rest => ('\r', rest)
  | 't' :: rest => ('\t', rest)
  | 'v' :: rest => (Char.ofNat 11, rest)
  | cs =>
    match (cs.take 3).takeWhile isOctal with
    | [] => ('\\', cs)
    | digits =>
      let n := digits.foldl (fun n d => 8 * n + (d.toNat - '0'.toNat)) 0
      (Char.ofNat (n % 256), cs.drop digits.length)

/-- The escape of a character by its hexadecimal number, and what follows it; `cs` comes after the
backslash. -/
def hexEscape? (cs : List Char) : Option (Char × List Char) :=
  match cs with
  | 'x' :: rest =>
    match (rest.take 2).takeWhile fun c => Numeral.digitValue c < 16 with
    | [] => none
    | ds => some (Char.ofNat (Numeral.digitsValue 16 ds), rest.drop ds.length)
  | 'E' :: rest => some (Char.ofNat 27, rest)
  | '"' :: rest => some ('"', rest)
  | '?' :: rest => some ('?', rest)
  | _ => none

/-- The escape of a character by its number in Unicode, and what follows it.  A character that
cannot be written is shown by its number. -/
def unicodeEscape? (cs : List Char) : Option (List Char × List Char) :=
  match cs with
  | u :: rest =>
    let most := if u == 'u' then 4 else if u == 'U' then 8 else 0
    match (rest.take most).takeWhile fun c => Numeral.digitValue c < 16 with
    | [] => none
    | ds =>
      let n := Numeral.digitsValue 16 ds
      let shown := if n < 128 then [Char.ofNat n]
        else if n < 0x10000 then '\\' :: 'u' :: (Numeral.filled 4 (Nat.toDigits 16 n)).map Char.toUpper
        else '\\' :: 'U' :: (Numeral.filled 8 (Nat.toDigits 16 n)).map Char.toUpper
      some (shown, rest.drop ds.length)
  | [] => none

/-- The characters that an escape stands for and what follows it; with `hex` characters may be given
by hexadecimal numbers. -/
def anyEscape (hex : Bool) (cs : List Char) : List Char × List Char :=
  match if hex then hexEscape? cs else none with
  | some (c, rest) => ([c], rest)
  | none =>
    match if hex then unicodeEscape? cs else none with
    | some found => found
    | none =>
      let (c, rest) := escape cs
      ([c], rest)

/-- A text with its escapes resolved, and whether `\c` asked to print nothing more.  An octal escape
may have a `0` before its three digits. -/
def resolveFrom (hex : Bool) : Nat → List Char → List Char × Bool
  | 0, _ | _, [] => ([], false)
  | _ + 1, '\\' :: 'c' :: _ => ([], true)
  | n + 1, '\\' :: '0' :: d :: rest =>
    let (c, after) := if isOctal d then escape (d :: rest) else escape ('0' :: d :: rest)
    let (cs, stop) := resolveFrom hex n after
    (c :: cs, stop)
  | n + 1, '\\' :: rest =>
    let (here, after) := anyEscape hex rest
    let (cs, stop) := resolveFrom hex n after
    (here ++ cs, stop)
  | n + 1, c :: rest =>
    let (cs, stop) := resolveFrom hex n rest
    (c :: cs, stop)

/-- A text with its escapes resolved, and whether nothing more is to be printed. -/
def resolve (s : String) (hex : Bool := false) : String × Bool :=
  let (cs, stop) := resolveFrom hex (s.length + 1) s.toList
  (String.ofList cs, stop)

/-! ### Echo -/

/-- Print the arguments with their escapes resolved; `quiet` drops the line end. -/
def echoResolved (quiet : Bool) : List String → String
  | [] => if quiet then "" else "\n"
  | arg :: args =>
    let (text, stop) := resolve arg
    if stop then text
    else text ++ (if args.isEmpty then "" else " ") ++ echoResolved quiet args

/-- What `echo` prints in a script. -/
def echo : List String → String
  | "-n" :: args => echoResolved true args
  | args => echoResolved false args

/-- Whether an argument holds options of the `echo` that takes them. -/
def isEchoOption (arg : String) : Bool :=
  match arg.toList with
  | '-' :: c :: cs => (c :: cs).all fun c => c == 'n' || c == 'e' || c == 'E'
  | _ => false

/-- What the `echo` that takes options prints. -/
def echoWithOptions (args : List String) : String :=
  let letters := (args.takeWhile isEchoOption).flatMap String.toList
  let words := args.dropWhile isEchoOption
  let resolving := (letters.reverse.find? fun c => c == 'e' || c == 'E') == some 'e'
  let (text, stop) := if resolving then resolve (" ".intercalate words) true
    else (" ".intercalate words, false)
  text ++ if letters.contains 'n' || stop then "" else "\n"

/-! ### Numbers -/

/-- The digits of a number in a base. -/
def digitsOf (base : Nat) (upper : Bool) (n : Nat) : List Char :=
  (Nat.toDigits base n).map fun c => if upper then c.toUpper else c

/-- The integer that the front of a text spells, and what is left of the text. -/
def leadingInteger (s : String) : Int × List Char :=
  let cs := s.toList.dropWhile fun c => c == ' ' || (9 ≤ c.toNat && c.toNat ≤ 13)
  let (negative, body) := match cs with
    | '-' :: rest => (true, rest)
    | '+' :: rest => (false, rest)
    | cs => (false, cs)
  let value (c : Char) : Nat :=
    if c.isDigit then c.toNat - '0'.toNat else c.toLower.toNat - 'a'.toNat + 10
  let isHex (c : Char) : Bool := c.isDigit || ('a' ≤ c.toLower && c.toLower ≤ 'f')
  let (base, digits, rest) : Nat × List Char × List Char := match body with
    | '0' :: x :: h :: rest =>
      if (x == 'x' || x == 'X') && isHex h then
        (16, (h :: rest).takeWhile isHex, (h :: rest).dropWhile isHex)
      else (8, body.takeWhile isOctal, body.dropWhile isOctal)
    | '0' :: _ => (8, body.takeWhile isOctal, body.dropWhile isOctal)
    | _ => (10, body.takeWhile Char.isDigit, body.dropWhile Char.isDigit)
  if digits.isEmpty then (0, s.toList)
  else
    let n : Int := digits.foldl (fun n c => base * n + value c) 0
    (if negative then -n else n, rest)

/-! ### Manners -/

/-- In what one `printf` differs from another. -/
structure PrintManner where
  precision : Precision := .double
  /-- How many bits stand before the point of a number by hexadecimal digits. -/
  hexLead : Nat := 1
  /-- Whether characters may be given by hexadecimal numbers. -/
  hex : Bool := false
  /-- Whether `\c` ends the format. -/
  stops : Bool := false
  /-- Letters that may stand before the letter of a conversion and mean nothing. -/
  lengths : List Char := []
  /-- How a text is quoted, if there is a conversion for that. -/
  quote? : Option (String → String) := none
  /-- How a time is written in a format, if there is a conversion for that. -/
  moment? : Option (List Char → Int → String) := none
  /-- What is wrong with an argument of which only a part, or nothing, is a number. -/
  partly : String → String := fun arg => arg ++ ": not completely converted"
  nothing : String → String := fun arg => arg ++ ": expected numeric value"
  outside : String → String := fun arg => arg ++ ": Numerical result out of range"
  /-- Whether a number outside the range is a failure. -/
  outsideFails : Bool := true
  missing : String → String := fun _ => "missing format character"
  /-- What is wrong with a conversion, by its text and its letter. -/
  unknown : String → Char → String := fun text _ => text ++ ": invalid directive"

/-! ### Formats -/

/-- A conversion: flags, least width, precision and letter. -/
structure Conversion where
  flags : List Char
  width : Option Int
  precision : Option Int
  letter : Char

namespace Conversion

/-- Whether a flag is set. -/
def has (c : Conversion) (flag : Char) : Bool :=
  c.flags.contains flag

/-- Whether the text goes to the left of its field. -/
def toLeft (c : Conversion) : Bool :=
  c.has '-' || c.width.any (· < 0)

/-- The width of the field. -/
def room (c : Conversion) : Nat :=
  (c.width.getD 0).natAbs

/-- The precision; a negative one counts as none. -/
def digits? (c : Conversion) : Option Nat :=
  c.precision.bind fun n => if n < 0 then none else some n.toNat

/-- A text in its field. -/
def inField (c : Conversion) (cs : List Char) : List Char :=
  let fill := List.replicate (c.room - cs.length) ' '
  if c.toLeft then cs ++ fill else fill ++ cs

/-- A text cut to the precision, in its field. -/
def text (c : Conversion) (cs : List Char) : List Char :=
  c.inField (c.digits?.elim cs cs.take)

/-- A number in its field: sign or base, zeros, digits. -/
def number (c : Conversion) (lead digits : List Char) (zeros : Bool) : List Char :=
  let fill := c.room - lead.length - digits.length
  if zeros && c.has '0' && !c.toLeft then lead ++ List.replicate fill '0' ++ digits
  else c.inField (lead ++ digits)

/-- The sign that a number is written with. -/
def sign (c : Conversion) (negative : Bool) : List Char :=
  if negative then ['-'] else if c.has '+' then ['+'] else if c.has ' ' then [' '] else []

/-- Digits with zeros up to the precision. -/
def padded (c : Conversion) (digits : List Char) : List Char :=
  match c.digits? with
  | some 0 => if digits == ['0'] then [] else digits
  | some n => List.replicate (n - digits.length) '0' ++ digits
  | none => digits

/-- A signed number. -/
def signed (c : Conversion) (n : Int) : List Char :=
  c.number (c.sign (n < 0)) (c.padded (digitsOf 10 false n.natAbs)) c.digits?.isNone

/-- An unsigned number. -/
def unsigned (c : Conversion) (n : Nat) : List Char :=
  let base := match c.letter with
    | 'o' => 8
    | 'u' => 10
    | _ => 16
  let digits := c.padded (digitsOf base (c.letter == 'X') n)
  let lead := if !c.has '#' || n == 0 then [] else
    match c.letter with
    | 'x' => ['0', 'x']
    | 'X' => ['0', 'X']
    | 'o' => if digits.head? == some '0' then [] else ['0']
    | _ => []
  c.number lead digits c.digits?.isNone

/-- A number with a point. -/
def floating (c : Conversion) (m : PrintManner) (n : Numeral) : List Char :=
  let sign := c.sign n.isNegative
  let upper := c.letter.isUpper
  let cased (cs : List Char) : List Char := if upper then cs.map Char.toUpper else cs
  match n with
  | .ratio _ num den =>
    let point := c.has '#'
    let places := c.digits?.getD 6
    match c.letter.toLower with
    | 'e' => c.number sign (cased (Numeral.scientificText places point 'e' num den)) true
    | 'g' => c.number sign (cased (Numeral.generalText places point 'e' num den)) true
    | 'a' => c.number sign (cased (Numeral.hexText m.precision m.hexLead num den)) true
    | _ => c.number sign (Numeral.fixedText places point num den) true
  | n => c.number sign (cased (n.specialText?.getD [])) false

end Conversion

/-- What printing leads to. -/
structure Printed where
  args : List String
  /-- What is printed, latest first. -/
  out : List Char := []
  complaints : List String := []
  failed : Bool := false
  /-- A mistake in the format, at which printing ends. -/
  fatal : Option String := none
  stopped : Bool := false

/-- A step of printing. -/
abbrev Printing := ReaderT PrintManner (StateM Printed)

/-- The next argument. -/
def nextArg : Printing (Option String) := do
  match (← get).args with
  | [] => return none
  | arg :: args =>
    modify fun p => { p with args }
    return some arg

/-- Print characters. -/
def put (cs : List Char) : Printing Unit :=
  modify fun p => { p with out := cs.reverse ++ p.out }

/-- Note a mistake in an argument. -/
def note (text : String) (fails : Bool := true) : Printing Unit :=
  modify fun p =>
    { p with complaints := p.complaints ++ [text], failed := p.failed || fails }

/-- End printing because of a mistake in the format. -/
def breakOff (text : String) : Printing Unit :=
  modify fun p => { p with fatal := some text }

/-- Complain about what is left of an argument that is no number. -/
def checkRest (arg : String) (rest : List Char) : Printing Unit := do
  let m ← read
  if !rest.isEmpty then
    note (if rest.length == arg.length then m.nothing arg else m.partly arg)

/-- Complain about an argument that is outside the range of numbers. -/
def noteOutside (arg : String) : Printing Unit := do
  note ((← read).outside arg) (← read).outsideFails

/-- The number within a range that is nearest to what an argument spells. -/
def inRange (low high : Int) (arg : String) (n : Int) : Printing Int := do
  if high < n then
    noteOutside arg
    return high
  else if n < low then
    noteOutside arg
    return low
  else return n

/-- The number of the first character of an argument that begins with a quote. -/
def quotedNumber? (arg : String) : Option Nat :=
  match arg.toList with
  | '"' :: rest | '\'' :: rest => some ((rest.head?.map Char.toNat).getD 0)
  | _ => none

/-- The next argument as a number between `low` and `high`. -/
def nextInteger (low high : Int) : Printing Int := do
  match ← nextArg with
  | none => return 0
  | some arg =>
    match quotedNumber? arg with
    | some n => return n
    | none =>
      let (n, rest) := leadingInteger arg
      checkRest arg rest
      inRange low high arg n

/-- The next argument as a number with a point. -/
def nextNumeral : Printing Numeral := do
  match ← nextArg with
  | none => return .zero
  | some arg =>
    match quotedNumber? arg with
    | some n => return .ofInt n
    | none =>
      let precision := (← read).precision
      match Numeral.read arg.toList with
      | none =>
        checkRest arg arg.toList
        return .zero
      | some (n, rest) =>
        checkRest arg rest
        if n.overflows precision then noteOutside arg
        return n.rounded precision

/-- A width or precision that was read. -/
def sizeOf? (digits : List Char) : Option Int :=
  if digits.isEmpty then none
  else some (digits.foldl (fun n c => 10 * n + ((c.toNat - '0'.toNat : Nat) : Int)) 0)

/-- Print one conversion. -/
def convert (c : Conversion) (spelling : String) : Printing Unit := do
  let signedLow : Int := -(Nat.pow 2 63)
  let signedHigh : Int := Nat.pow 2 63 - 1
  match c.letter with
  | 's' => put (c.text ((← nextArg).getD "").toList)
  | 'b' =>
    let (text, stop) := resolve ((← nextArg).getD "") (← read).hex
    put (c.text text.toList)
    if stop then modify fun p => { p with stopped := true }
  | 'c' =>
    let arg := (← nextArg).getD ""
    put (c.inField [arg.toList.head?.getD (Char.ofNat 0)])
  | 'd' | 'i' => put (c.signed (← nextInteger signedLow signedHigh))
  | 'o' | 'u' | 'x' | 'X' =>
    let n ← nextInteger (-(Nat.pow 2 64 - 1)) (Nat.pow 2 64 - 1)
    put (c.unsigned (n % (Nat.pow 2 64)).toNat)
  | 'e' | 'E' | 'f' | 'F' | 'g' | 'G' | 'a' | 'A' => put (c.floating (← read) (← nextNumeral))
  | 'q' =>
    match (← read).quote? with
    | some quote => put (c.text (quote ((← nextArg).getD "")).toList)
    | none => breakOff ((← read).unknown spelling c.letter)
  | _ => breakOff ((← read).unknown spelling c.letter)

/-- A width or precision: a number, or the next argument for `*`. -/
def readSize (cs : List Char) : Printing (Option Int × List Char) := do
  match cs with
  | '*' :: rest => return (some (← nextInteger (-(Nat.pow 2 31)) (Nat.pow 2 31 - 1)), rest)
  | cs => return (sizeOf? (cs.takeWhile Char.isDigit), cs.dropWhile Char.isDigit)

/-- Print a format once. -/
def formatOnce : Nat → List Char → Printing Unit
  | 0, _ | _, [] => pure ()
  | n + 1, '\\' :: rest => do
    if (← read).stops && rest.head? == some 'c' then modify fun p => { p with stopped := true }
    else
      let (cs, after) := anyEscape (← read).hex rest
      put cs
      formatOnce n after
  | n + 1, '%' :: '%' :: rest => do
    put ['%']
    formatOnce n rest
  | n + 1, '%' :: rest => do
    let lengths := (← read).lengths
    let isFlag (c : Char) : Bool :=
      "#-+ 0".toList.contains c || (!lengths.isEmpty && c == '\'')
    let flags := rest.takeWhile isFlag
    let (width, after) ← readSize (rest.dropWhile isFlag)
    let (precision, after) ← match after with
      | '.' :: more => do
        let (p, more) ← readSize more
        pure (some (p.getD 0), more)
      | after => pure (none, after)
    match after.dropWhile lengths.contains with
    | [] => breakOff ((← read).missing (String.ofList ('%' :: rest)))
    | letter :: after =>
      let timed := after.takeWhile (· != ')')
      match (← read).moment?, letter, after.drop timed.length with
      | some moment, '(', ')' :: 'T' :: after =>
        let time ← if (← get).args.isEmpty then pure (-1)
          else nextInteger (-(Nat.pow 2 63)) (Nat.pow 2 63 - 1)
        put (Conversion.text ⟨flags, width, precision, 'T'⟩ (moment timed time).toList)
        formatOnce n after
      | _, _, _ =>
        let spelling := '%' :: rest.take (rest.length - after.length)
        convert { flags, width, precision, letter } (String.ofList spelling)
        let p ← get
        if p.fatal.isNone && !p.stopped then formatOnce n after
  | n + 1, c :: rest => do
    put [c]
    formatOnce n rest

/-- Print a format again and again until the arguments are used up, at most `n` times. -/
def formatAll (format : List Char) : Nat → Printing Unit
  | 0 => pure ()
  | n + 1 => do
    let before := (← get).args.length
    formatOnce (format.length + 1) format
    let p ← get
    if p.fatal.isNone && !p.stopped && !p.args.isEmpty && p.args.length < before then
      formatAll format n

/-- What `printf` leads to. -/
def printf (m : PrintManner) (format : String) (args : List String) : Printed :=
  (((formatAll format.toList (args.length + 1)).run m).run { args }).2

/-- The text that was printed. -/
def Printed.text (p : Printed) : String :=
  String.ofList p.out.reverse

/-! ### Tools -/

/-- The `printf` that is a tool. -/
def PrintManner.tool : PrintManner where
  precision := .wide
  hexLead := 4
  hex := true
  stops := true
  lengths := "hlLjzt".toList
  quote? := some quotedIfNeeded
  partly arg := quoted arg ++ ": value not completely converted"
  nothing arg := quoted arg ++ ": expected a numeric value"
  outside arg := quoted arg ++ ": Numerical result out of range"
  missing text := text ++ ": invalid conversion specification"
  unknown text _ := text ++ ": invalid conversion specification"

/-- Print the arguments. -/
def echoTool : Routine := do
  say (echoWithOptions (← read).args)

/-- Print a format. -/
def printfTool : Routine := do
  let args := match (← read).args with
    | "--" :: args => args
    | args => args
  match args with
  | [] => refuse 1 "missing operand"
  | format :: args =>
    let p := printf .tool format args
    p.complaints.forM warn
    if p.failed then fail 1
    say p.text
    if let some text := p.fatal then complain 1 text

end ShaderBuild.Tool
