import ShaderBuild.Text.Utf8

/-! # One character for each byte

Programs and scripts handle bytes, but most of what they look for is ASCII.  A raw text holds one
character for each byte, so that bytes can be written and compared as text.  `unraw_raw` says that
nothing is lost. -/

namespace ShaderBuild

/-! ### Executable definitions -/

/-- The raw text of bytes. -/
def raw (bs : Bytes) : String :=
  String.ofList (bs.map fun b => Char.ofNat b.toNat)

/-- The bytes of a raw text. -/
def unraw (s : String) : Bytes :=
  s.toList.map fun c => UInt8.ofNat c.toNat

/-- The raw text of the content of a file. -/
def rawContent (content : ByteArray) : String :=
  raw content.data.toList

/-- A raw text as the content of a file. -/
def contentOf (s : String) : ByteArray :=
  ⟨(unraw s).toArray⟩

/-! ### Nothing is lost -/

theorem ofNat_toNat_ofNat (b : UInt8) : UInt8.ofNat (Char.ofNat b.toNat).toNat = b := by
  have h : (Char.ofNat b.toNat).toNat = b.toNat := by
    have hb : b.toNat < 256 := b.toNat_lt
    have hv : b.toNat.isValidChar := Or.inl (by omega)
    rw [Char.ofNat, dif_pos hv]
    rfl
  rw [h, UInt8.ofNat_toNat]

@[simp] theorem unraw_raw (bs : Bytes) : unraw (raw bs) = bs := by
  simp [unraw, raw, Function.comp_def, ofNat_toNat_ofNat]

end ShaderBuild
