import ShaderBuild.Proofs.Block.Layout

/-! # How many fields a layout can hold

A field takes at most 64 bytes more, counted in whole blocks, so fewer than `2 ^ 26` fields are laid
out without an overflow whatever their types are.  With `2 ^ 26` matrices the exact size is the
first number that is no word, and the layout has the size zero (`layout_exact`). -/

namespace ShaderBuild

section
variable {next last : UInt32} {fs : List UniformField} {ts : List UniformType}
  {ps : List PlacedField}

theorem exactSize_le (ts : List UniformType) : exactSize ts ≤ 64 * ts.length := by
  have h := roundUp_exactEnd_le 0 ts
  rwa [roundUp_of_dvd blockAlignment_pos (Nat.dvd_zero _), Nat.zero_add] at h

/-- Fewer than `2 ^ 26` fields are placed without an overflow. -/
theorem placementFits_of_length_lt (h : ts.length < 2 ^ 26) : PlacementFits 0 ts := by
  have hle := exactSize_le ts
  rw [placementFits_zero_iff, UInt32.size]
  omega

/-- While nothing overflows, a layout has the exact offsets and the exact size. -/
theorem exists_layout_of_placementFits (h : NameTypes fs ts) (hfit : PlacementFits 0 ts) :
    ∃ l, layout fs = .ok l ∧ (l.fields.map fun p => p.offset.toNat) = exactOffsets 0 ts ∧
      l.size.toNat = exactSize ts := by
  obtain ⟨ps, last, hplaces⟩ := h.exists_places 0
  have hlayout : layout fs = .ok ⟨ps, alignUp last blockAlignment⟩ :=
    layout_eq_ok_iff.mpr ⟨last, hplaces, rfl⟩
  rw [h.unique hplaces.nameTypes] at hfit
  exact ⟨_, hlayout, (isTight_of_layout hlayout hfit).exact h⟩

/-! ### Matrices -/

/-- Matrices leave no padding between them. -/
theorem exactEnd_matrices {n : ℕ} (h : blockAlignment.toNat ∣ n) (k : ℕ) :
    exactEnd n (List.replicate k .mat4) = n + 64 * k := by
  induction k generalizing n with
  | zero => rfl
  | succ k ih =>
      have hround : roundUp n UniformType.mat4.alignment.toNat = n :=
        roundUp_of_dvd blockAlignment_pos h
      have hsize : UniformType.mat4.size.toNat = 64 := rfl
      rw [List.replicate_succ, exactEnd, hround, hsize, ih (Nat.dvd_add h (by decide))]
      omega

theorem exactSize_matrices (k : ℕ) : exactSize (List.replicate k .mat4) = 64 * k := by
  have hdvd : blockAlignment.toNat ∣ 64 * k := Nat.dvd_mul_right_of_dvd (by decide) k
  rw [exactSize, exactEnd_matrices (Nat.dvd_zero _), Nat.zero_add,
    roundUp_of_dvd blockAlignment_pos hdvd]

/-- The offset behind matrices is what is left of the exact one in a word. -/
theorem Places.toNat_last_matrices {k : ℕ} (h : Places next fs ps last)
    (hmat : ps.map PlacedField.type = List.replicate k .mat4)
    (hdvd : blockAlignment.toNat ∣ next.toNat) :
    last.toNat = (next.toNat + 64 * k) % UInt32.size := by
  induction h generalizing k with
  | @nil next =>
      obtain rfl : k = 0 := (List.replicate_eq_nil_iff _).mp hmat.symm
      exact (Nat.mod_eq_of_lt next.toNat_lt).symm
  | @cons next f t fs ps last _ _ ih =>
      cases k with
      | zero => cases hmat
      | succ k =>
          obtain rfl : t = .mat4 := (List.cons.inj hmat).1
          have hround := roundUp_of_dvd blockAlignment_pos hdvd
          have hfits : AlignUpFits next blockAlignment := by
            rw [alignUpFits_iff one_lt_blockAlignment, hround]
            exact next.toNat_lt
          have hnext : (alignUp next blockAlignment + UniformType.mat4.size).toNat =
              (next.toNat + 64) % UInt32.size := by
            rw [UInt32.toNat_add, hfits.toNat_alignUp one_lt_blockAlignment, hround]
            rfl
          have hdvd' : blockAlignment.toNat ∣ (next.toNat + 64) % UInt32.size :=
            (Nat.dvd_mod_iff (by decide)).mpr (Nat.dvd_add hdvd (by decide))
          have hlast := ih (List.cons.inj hmat).2 (hnext ▸ hdvd')
          calc last.toNat = ((next.toNat + 64) % UInt32.size + 64 * k) % UInt32.size :=
                hnext ▸ hlast
            _ = (next.toNat + 64 * (k + 1)) % UInt32.size := by
                rw [Nat.mod_add_mod, Nat.mul_succ, Nat.add_assoc, Nat.add_comm 64]

end

/-- Fields that name types take at most 64 bytes each.  Fewer than `2 ^ 26` of them are laid out
without an overflow and as in unbounded numbers, and no more than that: `2 ^ 26` matrices have the
exact size `2 ^ 32`, and the computed size is zero. -/
theorem layout_exact {fs : List UniformField} {ts : List UniformType} (h : NameTypes fs ts) :
    exactSize ts ≤ 64 * fs.length ∧
    (fs.length < 2 ^ 26 → PlacementFits 0 ts ∧ ∃ l, layout fs = .ok l ∧
      (l.fields.map fun p => p.offset.toNat) = exactOffsets 0 ts ∧ l.size.toNat = exactSize ts) ∧
    (ts = List.replicate (2 ^ 26) .mat4 → exactSize ts = 2 ^ 32 ∧ ¬ PlacementFits 0 ts ∧
      ∃ l, layout fs = .ok l ∧ l.size = 0) := by
  have hlength : fs.length = ts.length := List.Forall₂.length_eq h
  rw [hlength]
  refine ⟨exactSize_le ts, ?_, ?_⟩
  · intro hlt
    have hfit := placementFits_of_length_lt hlt
    exact ⟨hfit, exists_layout_of_placementFits h hfit⟩
  · rintro rfl
    have hsize := exactSize_matrices (2 ^ 26)
    refine ⟨hsize, ?_, ?_⟩
    · rw [placementFits_zero_iff, hsize]
      decide
    · obtain ⟨ps, last, hplaces⟩ := h.exists_places 0
      have hlast := hplaces.toNat_last_matrices (hplaces.nameTypes.unique h) (Nat.dvd_zero _)
      obtain rfl : last = 0 := UInt32.toNat_inj.mp hlast
      have hzero : alignUp 0 blockAlignment = 0 := by decide
      exact ⟨⟨ps, 0⟩, layout_eq_ok_iff.mpr ⟨0, hplaces, hzero.symm⟩, rfl⟩

/-- As many matrices as fit, and one more. -/
theorem layout_exact_matrices :
    NameTypes (List.replicate (2 ^ 26 - 1) ⟨"mat4", "m"⟩) (List.replicate (2 ^ 26 - 1) .mat4) ∧
    (∃ l, layout (List.replicate (2 ^ 26 - 1) ⟨"mat4", "m"⟩) = .ok l ∧
      l.size.toNat = exactSize (List.replicate (2 ^ 26 - 1) .mat4)) ∧
    NameTypes (List.replicate (2 ^ 26) ⟨"mat4", "m"⟩) (List.replicate (2 ^ 26) .mat4) ∧
    exactSize (List.replicate (2 ^ 26) .mat4) = 2 ^ 32 ∧
    ∃ l, layout (List.replicate (2 ^ 26) ⟨"mat4", "m"⟩) = .ok l ∧ l.size = 0 := by
  have htypes (k : ℕ) :
      NameTypes (List.replicate k ⟨"mat4", "m"⟩) (List.replicate k .mat4) := by
    induction k with
    | zero => exact .nil
    | succ k ih => exact .cons rfl ih
  have hless := layout_exact (htypes (2 ^ 26 - 1))
  rw [List.length_replicate] at hless
  obtain ⟨_, l, hl, _, hsize⟩ := hless.2.1 (by decide)
  obtain ⟨hexact, _, hover⟩ := (layout_exact (htypes (2 ^ 26))).2.2 rfl
  exact ⟨htypes _, ⟨l, hl, hsize⟩, htypes _, hexact, hover⟩

end ShaderBuild
