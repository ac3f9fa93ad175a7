/-! # Byte strings as text

File names and program arguments are byte strings.  `decode?` reads one as UTF-8 and refuses
anything else; `lossy` always answers, writing U+FFFD for every maximal part of the bytes that
could have begun a character and did not end it. -/

namespace ShaderBuild

/-! ### Executable definitions -/

/-- A byte string, as file names and program arguments are. -/
abbrev Bytes := List UInt8

/-- The UTF-8 bytes of a text. -/
def encode (s : String) : Bytes :=
  s.toByteArray.data.toList

/-- The text whose UTF-8 bytes these are. -/
def decode? (bs : Bytes) : Option String :=
  String.fromUTF8? ⟨bs.toArray⟩

/-- A character whose first bytes have been read: how many bytes it still owes, the range of the
next one, and the bits read so far. -/
structure Pending where
  owed : Nat
  low : UInt8
  high : UInt8
  bits : Nat

/-- What the first byte of a character says of the rest of it. -/
inductive Lead where
  | complete (c : Char)
  | opens (p : Pending)
  | invalid

/-- Read the first byte of a character. -/
def Lead.ofByte (b : UInt8) : Lead :=
  if b < 0x80 then .complete (Char.ofNat b.toNat)
  else if b < 0xc2 then .invalid
  else if b < 0xe0 then .opens ⟨1, 0x80, 0xbf, b.toNat % 32⟩
  else if b == 0xe0 then .opens ⟨2, 0xa0, 0xbf, 0⟩
  else if b == 0xed then .opens ⟨2, 0x80, 0x9f, 13⟩
  else if b < 0xf0 then .opens ⟨2, 0x80, 0xbf, b.toNat % 16⟩
  else if b == 0xf0 then .opens ⟨3, 0x90, 0xbf, 0⟩
  else if b < 0xf4 then .opens ⟨3, 0x80, 0xbf, b.toNat % 8⟩
  else if b == 0xf4 then .opens ⟨3, 0x80, 0x8f, 4⟩
  else .invalid

/-- The character that stands for bytes that are not UTF-8. -/
def replacement : Char := Char.ofNat 0xfffd

/-- What one byte between characters yields, and the character it leaves open. -/
def Lead.emit : Lead → List Char × Option Pending
  | .complete c => ([c], none)
  | .opens p => ([], some p)
  | .invalid => ([replacement], none)

/-- Decode the bytes that follow an open character, or none. -/
def lossyFrom : Option Pending → Bytes → List Char
  | none, [] => []
  | some _, [] => [replacement]
  | none, b :: bs =>
    let (out, next) := (Lead.ofByte b).emit
    out ++ lossyFrom next bs
  | some p, b :: bs =>
    if p.low ≤ b && b ≤ p.high then
      let bits := p.bits * 64 + b.toNat % 64
      if p.owed ≤ 1 then Char.ofNat bits :: lossyFrom none bs
      else lossyFrom (some ⟨p.owed - 1, 0x80, 0xbf, bits⟩) bs
    else
      let (out, next) := (Lead.ofByte b).emit
      replacement :: (out ++ lossyFrom next bs)

/-- The text of a byte string, with U+FFFD for every maximal part that is not UTF-8. -/
def lossy (bs : Bytes) : String :=
  String.ofList (lossyFrom none bs)

end ShaderBuild
