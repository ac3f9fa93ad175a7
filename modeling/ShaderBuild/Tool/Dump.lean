import ShaderBuild.Digest
import ShaderBuild.Tool.Lines

/-! # Bytes as text

The tools `base64` and `base32`, which write bytes by an alphabet of few characters, and `od`, which
prints them as numbers. -/

namespace ShaderBuild.Tool

/-! ### Alphabets -/

/-- How bytes are written by characters: each character stands for `bits` bits, and characters come
in groups that are filled up. -/
structure Alphabet where
  letters : List Char
  bits : Nat
  group : Nat
  /-- Whether the bytes of a group are used as far as they go if the group is not as it must be. -/
  partly : Bool

/-- The alphabet of 64 letters. -/
def alphabet64 : Alphabet :=
  ⟨"ABCDEFGHIJKLMNOPQRSTUVWXYZabcdefghijklmnopqrstuvwxyz0123456789+/".toList, 6, 4, true⟩

/-- The alphabet of 32 letters. -/
def alphabet32 : Alphabet :=
  ⟨"ABCDEFGHIJKLMNOPQRSTUVWXYZ234567".toList, 5, 8, false⟩

namespace Alphabet

/-- How many bytes a group stands for. -/
def groupBytes (a : Alphabet) : Nat :=
  a.bits * a.group / 8

/-- The letters for a number of `count` times `bits` bits. -/
def spell (a : Alphabet) : Nat → Nat → List Char
  | 0, _ => []
  | count + 1, n => a.spell count (n / Nat.pow 2 a.bits) ++ [a.letters.getD (n % Nat.pow 2 a.bits) '=']

/-- The letters for the bytes of one group. -/
def encodeGroup (a : Alphabet) (bs : List UInt8) : List Char :=
  let count := (8 * bs.length + a.bits - 1) / a.bits
  let n := Digest.bigEndian bs * Nat.pow 2 (count * a.bits - 8 * bs.length)
  a.spell count n ++ List.replicate (a.group - count) '='

/-- The letters for bytes. -/
def encode (a : Alphabet) (bs : List UInt8) : List Char :=
  (Digest.blocks a.groupBytes bs).flatMap a.encodeGroup

/-- The bytes that the letters of one group stand for, and whether the group is as it must be. -/
def decodeGroup (a : Alphabet) (cs : List Char) : List UInt8 × Bool :=
  let front := cs.takeWhile a.letters.contains
  let n := front.foldl (fun n c => n * Nat.pow 2 a.bits + a.letters.idxOf c) 0
  let count := front.length * a.bits / 8
  let bytes := Digest.highBytes count (n / Nat.pow 2 (front.length * a.bits - 8 * count))
  let fits := (a.group == cs.length)
    && (cs.drop front.length).all (· == '=')
    && (8 * count + a.bits > front.length * a.bits)
  (bytes, fits)

/-- The bytes that letters stand for, up to the first group that is not as it must be. -/
def decode (a : Alphabet) (cs : List Char) : List UInt8 × Bool :=
  (Digest.chunks a.group (cs.length + 1) cs).foldl (fun (bytes, good) group =>
    if good then
      let (more, fits) := a.decodeGroup group
      (if fits || a.partly then bytes ++ more else bytes, fits)
    else (bytes, false)) ([], true)

end Alphabet

/-- Bytes by 64 letters. -/
def inBase64 (bs : List UInt8) : String :=
  String.ofList (alphabet64.encode bs)

/-- A text in lines of some width; by no width it is one line without an end. -/
def wrapped (width : Nat) (cs : List Char) : String :=
  if width == 0 then String.ofList cs
  else String.join ((Digest.chunks width (cs.length + 1) cs).map fun l => String.ofList l ++ "\n")

/-- The tool that writes bytes by an alphabet. -/
def alphabetTool (a : Alphabet) : Routine :=
  withOptions
    { flags := "di", valued := "w"
      long := [("decode", 'd'), ("ignore-garbage", 'i'), ("wrap", 'w')] } 1 fun o =>
    match o.operands with
    | _ :: other :: _ => refuse 1 ("extra operand " ++ quoted other)
    | operands => do
      let arg := operands.headD "-"
      let width := (o.value? 'w').getD "76"
      match width.toNat?, ← operand arg with
      | none, _ => complain 1 ("invalid wrap size: " ++ quoted width)
      | _, .error .isDirectory => complain 1 "read error: Is a directory"
      | _, .error e =>
        if arg == "-" then complain 1 ("read error: " ++ e.reason) else unreadable 1 arg e
      | some width, .ok content =>
        if o.has 'd' then
          let cs := (rawContent content).toList.filter (· != '\n')
          let cs := if o.has 'i' then cs.filter fun c => a.letters.contains c || c == '=' else cs
          let (bytes, good) := a.decode cs
          emit 1 ⟨bytes.toArray⟩
          if !good then complain 1 "invalid input"
        else say (wrapped width (a.encode content.data.toList))

/-! ### Numbers -/

/-- How a part of a line of `od` is printed: fields of some bytes, at the right of some width. -/
structure DumpFormat where
  size : Nat
  width : Nat
  text : Nat → String
  /-- Whether the characters follow at the end of the line. -/
  characters : Bool := false

/-- A number in some base with as many digits as fit. -/
def filledDigits (base width n : Nat) : String :=
  let digits := Nat.toDigits base n
  String.ofList (List.replicate (width - digits.length) '0' ++ digits)

/-- A byte by its character or its octal digits. -/
def characterText (n : Nat) : String :=
  if n == 0 then "\\0"
  else if 7 ≤ n && n ≤ 13 then escaped (Char.ofNat n)
  else if isShown (Char.ofNat n) then (Char.ofNat n).toString
  else filledDigits 8 3 n

/-- The names of the control characters. -/
def controlNames : List String :=
  ["nul", "soh", "stx", "etx", "eot", "enq", "ack", "bel", "bs", "ht", "nl", "vt", "ff", "cr", "so",
    "si", "dle", "dc1", "dc2", "dc3", "dc4", "nak", "syn", "etb", "can", "em", "sub", "esc", "fs",
    "gs", "rs", "us", "sp"]

/-- A byte by its name, without its highest bit. -/
def nameText (n : Nat) : String :=
  let n := n % 128
  if n == 127 then "del" else controlNames.getD n (Char.ofNat n).toString

/-- A signed number of some bytes. -/
def signedText (size n : Nat) : String :=
  if n < Nat.pow 2 (8 * size - 1) then Nat.repr n else "-" ++ Nat.repr (Nat.pow 2 (8 * size) - n)

/-- The widths of fields of 1, 2, 4 and 8 bytes. -/
def widthFor (widths : List Nat) (size : Nat) : Nat :=
  widths.getD (Nat.log2 size) 0

/-- The format of a letter for fields of some size. -/
def formatFor (letter : Char) (size : Nat) : DumpFormat :=
  match letter with
  | 'x' =>
    let width := 2 * size
    { size, width, text := filledDigits 16 width }
  | 'o' =>
    let width := widthFor [3, 6, 11, 22] size
    { size, width, text := filledDigits 8 width }
  | 'u' => { size, width := widthFor [3, 5, 10, 20] size, text := Nat.repr }
  | 'd' => { size, width := widthFor [4, 6, 11, 20] size, text := signedText size }
  | 'c' => { size := 1, width := 3, text := characterText }
  | _ => { size := 1, width := 3, text := nameText }

/-- The formats that a type string asks for. -/
def typeFormats (text : String) : Nat → List Char → Except String (List DumpFormat)
  | 0, _ | _, [] => .ok []
  | n + 1, c :: cs =>
    if !("acduox".toList.contains c) then
      .error ("invalid character '" ++ c.toString ++ "' in type string " ++ quoted text)
    else
      let fixed := c == 'a' || c == 'c'
      let digits := if fixed then [] else cs.takeWhile Char.isDigit
      let (size, rest) := match digits, cs with
        | [], 'C' :: rest => if fixed then (some 1, cs) else (some 1, rest)
        | [], 'S' :: rest => if fixed then (some 1, cs) else (some 2, rest)
        | [], 'I' :: rest => if fixed then (some 1, cs) else (some 4, rest)
        | [], 'L' :: rest => if fixed then (some 1, cs) else (some 8, rest)
        | [], rest => (some 4, rest)
        | ds, _ => ((String.ofList ds).toNat?.filter [1, 2, 4, 8].contains, cs.drop ds.length)
      match size with
      | none =>
        .error ("invalid type string " ++ quoted text ++ ";\nthis system doesn't provide a "
          ++ String.ofList digits ++ "-byte integral type")
      | some size => do
        let characters := rest.head? == some 'z'
        let more ← typeFormats text n (if characters then rest.drop 1 else rest)
        return { formatFor c size with characters } :: more

/-- The formats of the options without a value. -/
def letterFormat? : Char → Option DumpFormat
  | 'a' => some (formatFor 'a' 1)
  | 'b' => some (formatFor 'o' 1)
  | 'c' => some (formatFor 'c' 1)
  | 'd' => some (formatFor 'u' 2)
  | 'i' => some (formatFor 'd' 4)
  | 'l' => some (formatFor 'd' 8)
  | 'o' => some (formatFor 'o' 2)
  | 's' => some (formatFor 'd' 2)
  | 'x' => some (formatFor 'x' 2)
  | _ => none

/-- The fields of a line, each as wide as its share of `room` for `count` fields. -/
def fieldTexts (f : DumpFormat) (room count : Nat) : Nat → List Nat → List String
  | _, [] => []
  | i, n :: ns =>
    let pad := room - count * f.width
    let share := pad * (count - i) / count - pad * (count - i - 1) / count
    atRight (share + f.width) (f.text n) :: fieldTexts f room count (i + 1) ns

/-- One line of `od` for a block; `per` bytes make a whole block and `room` is its width. -/
def dumpLine (f : DumpFormat) (per room : Nat) (block : List UInt8) : String :=
  let count := per / f.size
  let fields := (Digest.blocks f.size block).map Digest.littleEndian
  let text := String.join (fieldTexts f room count 0 fields)
  if f.characters then
    let missing := count - fields.length
    let pad := room - count * f.width
    text ++ String.ofList (List.replicate (missing * f.width + pad * missing / count) ' ')
      ++ "  >" ++ String.ofList (block.map fun b =>
        let c := Char.ofNat b.toNat
        if isShown c then c else '.') ++ "<"
  else text

/-- An offset in the chosen base; none if none is shown. -/
def offsetText (base : Char) (n : Nat) : String :=
  match base with
  | 'd' => filledDigits 10 7 n
  | 'x' => filledDigits 16 6 n
  | 'n' => ""
  | _ => filledDigits 8 7 n

/-- The lines of `od`; a block like the one before is shown by a star. -/
def dumpLines (formats : List DumpFormat) (base : Char) (all : Bool) (per room : Nat) :
    Nat → Option (List UInt8) → Bool → List (List UInt8) → List String
  | _, _, _, [] => []
  | place, before, starred, block :: rest =>
    if !all && before == some block then
      let next := dumpLines formats base all per room (place + block.length) before true rest
      if starred then next else "*\n" :: next
    else
      let front := offsetText base place
      let blank := String.ofList (List.replicate front.length ' ')
      let lines := formats.zipIdx.map fun (f, i) =>
        (if i == 0 then front else blank) ++ dumpLine f per room block ++ "\n"
      lines ++ dumpLines formats base all per room (place + block.length) (some block) false rest

/-- A number with a base by its front and a multiplier by its end. -/
def dumpNumber? (text : String) : Option Nat :=
  let cs := text.toList
  let (cs, factor) := match cs.getLast? with
    | some 'b' => if text.startsWith "0x" then (cs, 1) else (cs.dropLast, 512)
    | some 'k' | some 'K' => (cs.dropLast, 1024)
    | some 'm' | some 'M' => (cs.dropLast, 1048576)
    | _ => (cs, 1)
  let digits (base : Nat) (ds : List Char) : Option Nat :=
    if ds.isEmpty then none
    else ds.foldl (fun n d => n.bind fun n =>
      let value := if d.isDigit then d.toNat - 48
        else if 'a' ≤ d.toLower && d.toLower ≤ 'f' then d.toLower.toNat - 87 else 99
      if value < base then some (n * base + value) else none) (some 0)
  (match cs with
    | '0' :: 'x' :: ds => digits 16 ds
    | '0' :: ds => if ds.isEmpty then some 0 else digits 8 ds
    | ds => digits 10 ds).map (· * factor)

/-- The formats that the options ask for, in order. -/
def dumpFormats : List (Char × String) → Except String (List DumpFormat)
  | [] => .ok []
  | (c, value) :: rest => do
    let here ← if c == 't' then typeFormats value (value.length + 1) value.toList
      else pure (letterFormat? c).toList
    return here ++ (← dumpFormats rest)

/-- The tool `od`. -/
def dumpTool : Routine :=
  withOptions
    { flags := "abcdilosxv", valued := "AjNt", glued := "w"
      long := [("address-radix", 'A'), ("skip-bytes", 'j'), ("read-bytes", 'N'), ("format", 't'),
        ("output-duplicates", 'v'), ("width", 'w')] } 1 fun o => do
    let base := (((o.value? 'A').getD "o").toList).headD 'o'
    match dumpFormats o.given with
    | .error text => complain 1 text
    | .ok formats =>
      if !("doxn".toList.contains base) then
        complain 1 ("invalid output address radix '" ++ base.toString
          ++ "'; it must be one character from [doxn]")
      else
        let formats := if formats.isEmpty then [formatFor 'o' 2] else formats
        let unit := formats.foldl (fun n f => max n f.size) 1
        let asked := match o.value? 'w' with
          | some "" => 32
          | some text => (dumpNumber? text).getD 0
          | none => 16
        let per := if asked == 0 || asked % unit != 0 then unit else asked
        if per != asked then
          warn ("warning: invalid width " ++ Nat.repr asked ++ "; using " ++ Nat.repr per ++ " instead")
        let skip := ((o.value? 'j').bind dumpNumber?).getD 0
        let cannot (arg : String) (e : FileFault) : Work Unit :=
          complain 1 (shownOperand arg ++ ": " ++ e.reason)
        let text ← allContent o.operands cannot
        let bytes := (contentOf text).data.toList
        if bytes.length < skip then complain 1 "cannot skip past end of combined input"
        else
          let bytes := bytes.drop skip
          let bytes := match (o.value? 'N').bind dumpNumber? with
            | some n => bytes.take n
            | none => bytes
          let room := formats.foldl (fun n f => max n (per / f.size * (f.width + 1))) 0
          say (String.join (dumpLines formats base (o.has 'v') per room skip none false
            (Digest.blocks per bytes)))
          if base != 'n' && ((← get).status == 0 || !bytes.isEmpty) then
            say (offsetText base (skip + bytes.length) ++ "\n")

end ShaderBuild.Tool
