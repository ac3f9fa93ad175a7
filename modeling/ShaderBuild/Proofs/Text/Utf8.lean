import Mathlib.Tactic.IntervalCases
import ShaderBuild.Text.Utf8

/-! # Texts survive being shown

`lossy` reads back every text from its bytes (`lossy_encode`): between characters the bytes of one
character yield that character (`lossyFrom_utf8EncodeChar`), whatever follows.  So texts of the same
bytes are the same (`encode_injective`).  Where bytes have to be UTF-8, they are read as the text
that they encode (`decode?_eq_some_iff`).  An ASCII byte stands for a character, and for one only
(`exists_char_of_mem_encode`). -/

namespace ShaderBuild

/-! ### Lead bytes -/

theorem Lead.ofByte_one {w : ℕ} (hw : w < 0x80) :
    Lead.ofByte (UInt8.ofNat w) = .complete (Char.ofNat w) := by
  have hb : (UInt8.ofNat w).toNat = w := by
    rw [UInt8.toNat_ofNat']
    omega
  have hlt : UInt8.ofNat w < 0x80 := by
    rw [UInt8.lt_iff_toNat_lt, hb]
    exact hw
  rw [Lead.ofByte, if_pos hlt, hb]

theorem Lead.ofByte_two {w : ℕ} (h₁ : 2 ≤ w) (h₂ : w < 32) :
    Lead.ofByte (UInt8.ofNat (w + 0xc0)) = .opens ⟨1, 0x80, 0xbf, w⟩ := by
  interval_cases w <;> rfl

theorem Lead.ofByte_three {w : ℕ} (h : w < 16) :
    Lead.ofByte (UInt8.ofNat (w + 0xe0)) =
      .opens ⟨2, if w = 0 then 0xa0 else 0x80, if w = 13 then 0x9f else 0xbf, w⟩ := by
  interval_cases w <;> rfl

theorem Lead.ofByte_four {w : ℕ} (h : w < 5) :
    Lead.ofByte (UInt8.ofNat (w + 0xf0)) =
      .opens ⟨3, if w = 0 then 0x90 else 0x80, if w = 4 then 0x8f else 0xbf, w⟩ := by
  interval_cases w <;> rfl

/-! ### Reading one byte -/

section
variable {p : Pending} {b : UInt8} {bs : Bytes} {w : ℕ}

theorem lossyFrom_lead (h : Lead.ofByte b = .opens p) :
    lossyFrom none (b :: bs) = lossyFrom (some p) bs := by
  rw [lossyFrom, h]
  rfl

/-- The byte that carries six bits of a character behind its lead byte. -/
theorem toNat_tail (w : ℕ) : (UInt8.ofNat (w % 0x40 + 0x80)).toNat = w % 64 + 128 := by
  rw [UInt8.toNat_ofNat']
  omega

/-- An open character takes six more bits. -/
theorem lossyFrom_tail {owed bits : ℕ} {low high : UInt8} (h₁ : low.toNat ≤ w % 64 + 128)
    (h₂ : w % 64 + 128 ≤ high.toNat) :
    lossyFrom (some ⟨owed, low, high, bits⟩) (UInt8.ofNat (w % 0x40 + 0x80) :: bs) =
      if owed ≤ 1 then Char.ofNat (bits * 64 + w % 64) :: lossyFrom none bs
      else lossyFrom (some ⟨owed - 1, 0x80, 0xbf, bits * 64 + w % 64⟩) bs := by
  have hrange : (decide (low ≤ UInt8.ofNat (w % 0x40 + 0x80)) &&
      decide (UInt8.ofNat (w % 0x40 + 0x80) ≤ high)) = true := by
    rw [Bool.and_eq_true, decide_eq_true_eq, decide_eq_true_eq, UInt8.le_iff_toNat_le,
      UInt8.le_iff_toNat_le, toNat_tail]
    exact ⟨h₁, h₂⟩
  have hbits : (UInt8.ofNat (w % 0x40 + 0x80)).toNat % 64 = w % 64 := by
    rw [toNat_tail]
    omega
  rw [lossyFrom, if_pos hrange, hbits]

/-- Any tail byte will do for an open character whose next byte has the usual range. -/
theorem lossyFrom_usual (owed bits w : ℕ) (bs : Bytes) :
    lossyFrom (some ⟨owed, 0x80, 0xbf, bits⟩) (UInt8.ofNat (w % 0x40 + 0x80) :: bs) =
      if owed ≤ 1 then Char.ofNat (bits * 64 + w % 64) :: lossyFrom none bs
      else lossyFrom (some ⟨owed - 1, 0x80, 0xbf, bits * 64 + w % 64⟩) bs := by
  apply lossyFrom_tail
  · change 128 ≤ _
    omega
  · change _ ≤ 191
    omega

end

/-! ### Reading characters -/

/-- The bytes of a character yield it. -/
theorem lossyFrom_utf8EncodeChar (c : Char) (bs : Bytes) :
    lossyFrom none (String.utf8EncodeChar c ++ bs) = c :: lossyFrom none bs := by
  have hvalid : c.toNat < 0xd800 ∨ 0xdfff < c.toNat ∧ c.toNat < 0x110000 := c.valid
  have hc : Char.ofNat c.toNat = c := Char.ofNat_toNat c
  unfold String.utf8EncodeChar
  rw [show c.val.toNat = c.toNat from rfl]
  generalize c.toNat = v at hvalid hc
  dsimp only
  split
  · rw [List.singleton_append, lossyFrom, Lead.ofByte_one (by omega), hc]
    rfl
  split
  · rw [Nat.mod_eq_of_lt (by omega : v / 64 < 0x20), List.cons_append,
      lossyFrom_lead (Lead.ofByte_two (by omega) (by omega)), List.singleton_append,
      lossyFrom_usual, if_pos (by omega), Nat.div_add_mod', hc]
  split
  · have hlow : (if v / 4096 = 0 then 0xa0 else 0x80 : UInt8).toNat ≤ v / 64 % 64 + 128 := by
      split
      · change 160 ≤ _
        omega
      · change 128 ≤ _
        omega
    have hhigh : v / 64 % 64 + 128 ≤ (if v / 4096 = 13 then 0x9f else 0xbf : UInt8).toNat := by
      split
      · change _ ≤ 159
        omega
      · change _ ≤ 191
        omega
    have hbits : (v / 4096 * 64 + v / 64 % 64) * 64 + v % 64 = v := by omega
    rw [Nat.mod_eq_of_lt (by omega : v / 4096 < 0x10), List.cons_append,
      lossyFrom_lead (Lead.ofByte_three (by omega)), List.cons_append, lossyFrom_tail hlow hhigh,
      if_neg (by omega), List.singleton_append, lossyFrom_usual, if_pos (by omega), hbits, hc]
  · have hlow : (if v / 262144 = 0 then 0x90 else 0x80 : UInt8).toNat ≤ v / 4096 % 64 + 128 := by
      split
      · change 144 ≤ _
        omega
      · change 128 ≤ _
        omega
    have hhigh : v / 4096 % 64 + 128 ≤ (if v / 262144 = 4 then 0x8f else 0xbf : UInt8).toNat := by
      split
      · change _ ≤ 143
        omega
      · change _ ≤ 191
        omega
    have hbits : ((v / 262144 * 64 + v / 4096 % 64) * 64 + v / 64 % 64) * 64 + v % 64 = v := by
      omega
    rw [Nat.mod_eq_of_lt (by omega : v / 262144 < 0x08), List.cons_append,
      lossyFrom_lead (Lead.ofByte_four (by omega)), List.cons_append, lossyFrom_tail hlow hhigh,
      if_neg (by omega), List.cons_append, lossyFrom_usual, if_neg (by omega),
      List.singleton_append, lossyFrom_usual, if_pos (by omega), hbits, hc]

theorem lossyFrom_flatMap (cs : List Char) :
    lossyFrom none (cs.flatMap String.utf8EncodeChar) = cs := by
  induction cs with
  | nil => rfl
  | cons c cs ih => rw [List.flatMap_cons, lossyFrom_utf8EncodeChar, ih]

/-! ### The bytes of texts -/

section
variable {s t : String} {c : Char} {b : UInt8}

theorem encode_eq_flatMap (s : String) : encode s = s.toList.flatMap String.utf8EncodeChar := by
  rw [encode, ← String.utf8Encode_toList]
  simp [List.utf8Encode]

/-- A text is read back from its bytes. -/
theorem lossy_encode (s : String) : lossy (encode s) = s := by
  rw [lossy, encode_eq_flatMap, lossyFrom_flatMap, String.ofList_toList]

theorem encode_injective (h : encode s = encode t) : s = t := by
  rw [← lossy_encode s, ← lossy_encode t, h]

/-- Bytes are read as the text that they encode. -/
theorem decode?_eq_some_iff {bs : Bytes} : decode? bs = some s ↔ bs = encode s := by
  have hbytes : bs = encode s ↔ (⟨bs.toArray⟩ : ByteArray) = s.toByteArray := by
    rw [encode, ByteArray.ext_iff, ← Array.toList_inj]
  rw [hbytes, decode?, String.fromUTF8?]
  split
  · rw [Option.some.injEq, ← String.toByteArray_inj]
    rfl
  · next hinvalid =>
      simp only [reduceCtorEq, false_iff]
      intro h
      exact hinvalid (h ▸ s.isValidUTF8)

/-- An ASCII byte stands in the encoding of one character only. -/
theorem toNat_eq_of_mem_utf8EncodeChar (hb : b.toNat < 128) (h : b ∈ String.utf8EncodeChar c) :
    c.toNat = b.toNat := by
  have hc : c.val.toNat = c.toNat := rfl
  have hlead : ∀ w lead : ℕ, 128 ≤ lead → lead + w < 256 →
      (UInt8.ofNat (w + lead)).toNat ≠ b.toNat := by
    intro w lead hlead hw
    rw [UInt8.toNat_ofNat']
    omega
  have hv : c.toNat < 0x110000 := by
    rcases c.valid with h | h
    · exact Nat.lt_trans h (by decide)
    · exact h.2
  unfold String.utf8EncodeChar at h
  rw [hc] at h
  dsimp only at h
  split at h
  · rw [List.mem_singleton] at h
    rw [h, UInt8.toNat_ofNat']
    omega
  · exfalso
    split at h
    · simp only [List.mem_cons, List.not_mem_nil, or_false] at h
      rcases h with rfl | rfl <;> exact hlead _ _ (by omega) (by omega) rfl
    split at h
    · simp only [List.mem_cons, List.not_mem_nil, or_false] at h
      rcases h with rfl | rfl | rfl <;> exact hlead _ _ (by omega) (by omega) rfl
    · simp only [List.mem_cons, List.not_mem_nil, or_false] at h
      rcases h with rfl | rfl | rfl | rfl <;> exact hlead _ _ (by omega) (by omega) rfl

/-- An ASCII byte of a text is one of its characters. -/
theorem exists_char_of_mem_encode (hb : b.toNat < 128) (h : b ∈ encode s) :
    ∃ c ∈ s.toList, c.toNat = b.toNat := by
  rw [encode_eq_flatMap, List.mem_flatMap] at h
  obtain ⟨c, hc, hmem⟩ := h
  exact ⟨c, hc, toNat_eq_of_mem_utf8EncodeChar hb hmem⟩

end

end ShaderBuild
