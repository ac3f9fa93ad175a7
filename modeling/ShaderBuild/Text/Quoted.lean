import ShaderBuild.Text.Unprintable

/-! # Quoted text

`quoted s` writes a text between double quotes so that it stays on one line and every character
can be told: the quote, the backslash and the usual controls get a backslash escape, every other
unprintable character its code point in lower-case hexadecimal. -/

namespace ShaderBuild

/-! ### Executable definitions -/

/-- The escape for a character shown by its code point. -/
def codePointEscape (c : Char) : List Char :=
  ['\\', 'u', '\x7b'] ++ Nat.toDigits 16 c.toNat ++ ['\x7d']

/-- One character as it stands between double quotes. -/
def quotedChar (c : Char) : List Char :=
  if c = '"' then ['\\', '"']
  else if c = '\\' then ['\\', '\\']
  else if c = '\n' then ['\\', 'n']
  else if c = '\r' then ['\\', 'r']
  else if c = '\t' then ['\\', 't']
  else if c = '\x00' then ['\\', '0']
  else if isUnprintable c then codePointEscape c
  else [c]

/-- A text between double quotes, escaped. -/
def quoted (s : String) : String :=
  String.ofList ('"' :: (s.toList.flatMap quotedChar ++ ['"']))

/-- A text of plain signs is quoted by adding the quotes. -/
theorem quoted_plain {s : String} (h : ∀ c ∈ s.toList, quotedChar c = [c]) :
    quoted s = String.ofList ('"' :: (s.toList ++ ['"'])) := by
  have hflat : ∀ cs : List Char, (∀ c ∈ cs, quotedChar c = [c]) → cs.flatMap quotedChar = cs := by
    intro cs hcs
    induction cs with
    | nil => rfl
    | cons c cs ih =>
      rw [List.flatMap_cons, hcs c List.mem_cons_self,
        ih fun d hd => hcs d (List.mem_cons_of_mem c hd)]
      rfl
  rw [quoted, hflat _ h]

end ShaderBuild
