import ShaderBuild.Tool.Print

/-! # Quoting

Between `$'` and `'` characters may be given by escapes; `unescapedText` reads such a text.  The
other functions write a text so that a shell reads it back: between quotes, or with a backslash
before each character that has a meaning. -/

namespace ShaderBuild.Shell

/-! ### Reading -/

/-- The character that an escape stands for and what follows it; `cs` comes after the backslash. -/
def quotedEscape (cs : List Char) : List Char × List Char :=
  match cs with
  | '\'' :: rest => (['\''], rest)
  | 'c' :: c :: rest => ([Char.ofNat (c.toUpper.toNat % 128 ^^^ 64)], rest)
  | 'x' :: '\x7b' :: rest =>
    let ds := rest.takeWhile fun c => Numeral.digitValue c < 16
    let after := rest.drop ds.length
    ([Char.ofNat (Numeral.digitsValue 16 ds % 256)],
      if after.head? == some '\x7d' then after.tail else after)
  | cs => Tool.anyEscape true cs

/-- The text that a text with escapes stands for, from at most `n` characters; a zero ends it. -/
def unescapedFrom : Nat → List Char → List Char
  | 0, _ | _, [] => []
  | n + 1, '\\' :: cs =>
    let (here, after) := quotedEscape cs
    if here.any fun c => c.toNat == 0 then [] else here ++ unescapedFrom n after
  | n + 1, c :: cs => c :: unescapedFrom n cs

/-- The text that a text with escapes stands for. -/
def unescapedText (s : String) : String :=
  String.ofList (unescapedFrom (s.length + 1) s.toList)

/-! ### Writing -/

/-- How a character is written between `$'` and `'`. -/
def quotedChar (c : Char) : String :=
  if c.toNat == 27 then "\\E"
  else if c == '\\' || c == '\'' then String.ofList ['\\', c]
  else if Tool.isShown c then c.toString
  else Tool.escaped c

/-- A text between `$'` and `'`. -/
def escapeQuoted (s : String) : String :=
  "$'" ++ String.join (s.toList.map quotedChar) ++ "'"

/-- A text between single quotes; a single quote is written outside of them. -/
def plainQuoted (s : String) : String :=
  if s == "'" then "\\'"
  else "'" ++ String.join (s.toList.map fun c => if c == '\'' then "'\\''" else c.toString) ++ "'"

/-- Whether all characters of a text can be shown. -/
def isShownText (s : String) : Bool :=
  s.toList.all Tool.isShown

/-- A text between quotes of the kind it needs. -/
def reusable (s : String) : String :=
  if isShownText s then plainQuoted s else escapeQuoted s

/-- A text between double quotes, unless it needs escapes. -/
def doubleQuoted (s : String) : String :=
  if isShownText s then
    "\"" ++ String.join (s.toList.map fun c =>
      if "\"\\$\x60".toList.contains c then String.ofList ['\\', c] else c.toString) ++ "\""
  else escapeQuoted s

/-- The characters that get a backslash wherever they stand. -/
def markedChars : List Char :=
  " \"'\\|&;()<>!\x7b\x7d*[?]^$\x60,".toList

/-- A text with a backslash before each character that has a meaning. -/
def backslashQuoted (s : String) : String :=
  match s.toList with
  | [] => "''"
  | c :: cs =>
    let mark (c : Char) : List Char := if markedChars.contains c then ['\\', c] else [c]
    if !isShownText s then escapeQuoted s
    else String.ofList ((if c == '~' || c == '#' then ['\\', c] else mark c) ++ cs.flatMap mark)

end ShaderBuild.Shell
