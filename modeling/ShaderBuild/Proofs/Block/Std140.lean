import Mathlib.Algebra.Order.Floor.Div
import Mathlib.Order.Bounds.Basic
import ShaderBuild.Uniform.Layout

/-! # The std140 rule in unbounded numbers

Every value lies at the least multiple of its alignment that is not below the end of the value
before it (`TightFrom`).  For a list of types there is one such placement, and it is computed from
the front (`tightFrom_iff`).  The end of the values alone has no useful bound in their number, since
it is the order of the types that decides on the padding; rounded up to sixteen it grows by at most
64 for each value (`roundUp_exactEnd_le`). -/

namespace ShaderBuild

/-- The least multiple of `a` that is not below `n`. -/
def roundUp (n a : ℕ) : ℕ :=
  a * (n ⌈/⌉ a)

/-- `TightFrom n ts os e`: from `n` on, values of the types `ts` lie at the offsets `os`, each at
the least multiple of its alignment that is not below the end of the value before it, and the last
one ends at `e`. -/
inductive TightFrom : ℕ → List UniformType → List ℕ → ℕ → Prop
  | nil {n} : TightFrom n [] [] n
  | cons {n o e t ts os} : IsLeast {m | t.alignment.toNat ∣ m ∧ n ≤ m} o →
      TightFrom (o + t.size.toNat) ts os e → TightFrom n (t :: ts) (o :: os) e

/-- The offsets of values that are placed from `n` on. -/
def exactOffsets : ℕ → List UniformType → List ℕ
  | _, [] => []
  | n, t :: ts =>
    roundUp n t.alignment.toNat :: exactOffsets (roundUp n t.alignment.toNat + t.size.toNat) ts

/-- The end of values that are placed from `n` on. -/
def exactEnd : ℕ → List UniformType → ℕ
  | n, [] => n
  | n, t :: ts => exactEnd (roundUp n t.alignment.toNat + t.size.toNat) ts

/-- The size of a buffer for values of the types `ts`. -/
def exactSize (ts : List UniformType) : ℕ :=
  roundUp (exactEnd 0 ts) blockAlignment.toNat

/-! ### Rounding up -/

section
variable {a m n : ℕ}

theorem dvd_roundUp (n a : ℕ) : a ∣ roundUp n a :=
  dvd_mul_right a _

theorem le_roundUp (ha : 0 < a) (n : ℕ) : n ≤ roundUp n a :=
  (ceilDiv_le_iff_le_mul ha).mp le_rfl

theorem roundUp_le (ha : 0 < a) (hd : a ∣ m) (h : n ≤ m) : roundUp n a ≤ m := by
  obtain ⟨k, rfl⟩ := hd
  exact Nat.mul_le_mul_left a ((ceilDiv_le_iff_le_mul ha).mpr h)

theorem isLeast_roundUp (ha : 0 < a) (n : ℕ) : IsLeast {m | a ∣ m ∧ n ≤ m} (roundUp n a) :=
  ⟨⟨dvd_roundUp n a, le_roundUp ha n⟩, fun _ h => roundUp_le ha h.1 h.2⟩

/-- A quotient that is rounded up is one more unless the division leaves nothing. -/
theorem ceilDiv_eq_ite (ha : 0 < a) (n : ℕ) :
    n ⌈/⌉ a = if 0 < n % a then n / a + 1 else n / a := by
  have hsplit := Nat.div_add_mod n a
  have hmod := Nat.mod_lt n ha
  rw [Nat.ceilDiv_eq_add_pred_div]
  split_ifs with hr
  · apply Nat.div_eq_of_lt_le
    · rw [Nat.succ_mul, Nat.mul_comm]
      omega
    · rw [Nat.succ_mul, Nat.succ_mul, Nat.mul_comm]
      omega
  · apply Nat.div_eq_of_lt_le
    · rw [Nat.mul_comm]
      omega
    · rw [Nat.succ_mul, Nat.mul_comm]
      omega

theorem roundUp_of_dvd (ha : 0 < a) (h : a ∣ n) : roundUp n a = n :=
  Nat.le_antisymm (roundUp_le ha h le_rfl) (le_roundUp ha n)

end

/-! ### Sizes and alignments -/

namespace UniformType

theorem one_lt_alignment (t : UniformType) : 1 < t.alignment.toNat := by
  cases t <;> decide

theorem alignment_pos (t : UniformType) : 0 < t.alignment.toNat :=
  Nat.zero_lt_of_lt t.one_lt_alignment

/-- Whatever is aligned to a block is aligned to a value. -/
theorem alignment_dvd (t : UniformType) : t.alignment.toNat ∣ blockAlignment.toNat := by
  cases t <;> decide

theorem size_pos (t : UniformType) : 0 < t.size.toNat := by
  cases t <;> decide

theorem size_le (t : UniformType) : t.size.toNat ≤ 64 := by
  cases t <;> decide

end UniformType

theorem blockAlignment_pos : 0 < blockAlignment.toNat := by
  decide

/-! ### Placement -/

theorem le_exactEnd (n : ℕ) (ts : List UniformType) : n ≤ exactEnd n ts := by
  induction ts generalizing n with
  | nil => exact le_rfl
  | cons t ts ih =>
      have hround := le_roundUp t.alignment_pos n
      have hrest := ih (roundUp n t.alignment.toNat + t.size.toNat)
      rw [exactEnd]
      omega

/-- One value takes at most 64 bytes more, counted in whole blocks: padding before it fills up the
block that is begun already. -/
theorem roundUp_add_size_le (n : ℕ) (t : UniformType) :
    roundUp (roundUp n t.alignment.toNat + t.size.toNat) blockAlignment.toNat ≤
      roundUp n blockAlignment.toNat + 64 := by
  apply roundUp_le blockAlignment_pos
  · exact Nat.dvd_add (dvd_roundUp n _) (by decide)
  · have hdvd := t.alignment_dvd.trans (dvd_roundUp n blockAlignment.toNat)
    exact Nat.add_le_add (roundUp_le t.alignment_pos hdvd (le_roundUp blockAlignment_pos n))
      t.size_le

/-- Values take at most 64 bytes each, counted in whole blocks. -/
theorem roundUp_exactEnd_le (n : ℕ) (ts : List UniformType) :
    roundUp (exactEnd n ts) blockAlignment.toNat ≤
      roundUp n blockAlignment.toNat + 64 * ts.length := by
  induction ts generalizing n with
  | nil => exact le_rfl
  | cons t ts ih =>
      -- The end itself grows by more where padding is added, so the induction is on rounded ends.
      have hstep := roundUp_add_size_le n t
      have hrest := ih (roundUp n t.alignment.toNat + t.size.toNat)
      rw [exactEnd, List.length_cons]
      omega

/-- There is one tight placement, the computed one. -/
theorem tightFrom_iff {n e : ℕ} {ts : List UniformType} {os : List ℕ} :
    TightFrom n ts os e ↔ os = exactOffsets n ts ∧ e = exactEnd n ts := by
  constructor
  · intro h
    induction h with
    | nil => exact ⟨rfl, rfl⟩
    | @cons n o e t ts os ho _ ih =>
        obtain rfl := ho.unique (isLeast_roundUp t.alignment_pos n)
        exact ⟨by rw [exactOffsets, ih.1], by rw [exactEnd, ih.2]⟩
  · rintro ⟨rfl, rfl⟩
    induction ts generalizing n with
    | nil => exact .nil
    | cons t ts ih => exact .cons (isLeast_roundUp t.alignment_pos n) ih

/-- No value lies before the place from which on they are placed. -/
theorem TightFrom.le_of_mem {n e o : ℕ} {ts : List UniformType} {os : List ℕ}
    (h : TightFrom n ts os e) (ho : o ∈ os) : n ≤ o := by
  induction h with
  | nil => cases ho
  | cons hleast _ ih =>
      have hn := hleast.1.2
      obtain rfl | ho := List.mem_cons.mp ho
      · exact hn
      · have hrest := ih ho
        omega

end ShaderBuild
