import Mathlib.Data.List.Forall2
import ShaderBuild.Proofs.Block.Reading
import ShaderBuild.Proofs.Block.Std140

/-! # The layout of a uniform block

Fields are placed with 32-bit words, one after the other (`Places`).  While no operation on words
overflows (`PlacementFits`), which depends on the exact size alone (`placementFits_iff`), words and
numbers agree, and the layout of a block is the one tight layout (`layout_isTight`). -/

namespace ShaderBuild

/-- The fields name the types `ts`, one each. -/
def NameTypes (fs : List UniformField) (ts : List UniformType) : Prop :=
  List.Forall₂ (fun f t => UniformType.ofString? f.type = some t) fs ts

/-- The fault `e` is about the first field that names no type. -/
def FirstUnknown (fs : List UniformField) (e : SourceFault) : Prop :=
  ∃ pre f post, fs = pre ++ f :: post ∧ (∀ g ∈ pre, UniformType.ofString? g.type ≠ none) ∧
    UniformType.ofString? f.type = none ∧ e = .unknownType f.type f.name

/-- `Places next fs ps last`: from `next` on the fields `fs` are placed as `ps`, and the next one
would be placed from `last` on. -/
inductive Places : UInt32 → List UniformField → List PlacedField → UInt32 → Prop
  | nil {next} : Places next [] [] next
  | cons {next f t fs ps last} : UniformType.ofString? f.type = some t →
      Places (alignUp next t.alignment + t.size) fs ps last →
      Places next (f :: fs) (⟨t, f.name, alignUp next t.alignment, t.size, t.alignment⟩ :: ps) last

/-- Neither the sum nor the product overflows when `value` is rounded up. -/
def AlignUpFits (value alignment : UInt32) : Prop :=
  (value / alignment).toNat + 1 < UInt32.size ∧
    (ceilDiv value alignment).toNat * alignment.toNat < UInt32.size

/-- No operation overflows when fields of the types `ts` are placed from `next` on and the end is
rounded up. -/
def PlacementFits : UInt32 → List UniformType → Prop
  | next, [] => AlignUpFits next blockAlignment
  | next, t :: ts =>
    AlignUpFits next t.alignment ∧
      (alignUp next t.alignment).toNat + t.size.toNat < UInt32.size ∧
      PlacementFits (alignUp next t.alignment + t.size) ts

/-- The size and the alignment that are stored with a field are those of its type. -/
def PlacedField.OfType (p : PlacedField) : Prop :=
  p.size = p.type.size ∧ p.alignment = p.type.alignment

/-- A layout has the fields in order, each at the least multiple of its alignment that is not below
the end of the field before it, and the least size in whole blocks. -/
structure IsTight (fs : List UniformField) (l : UniformLayout) : Prop where
  names : l.fields.map PlacedField.name = fs.map UniformField.name
  types : NameTypes fs (l.fields.map PlacedField.type)
  ofType : ∀ p ∈ l.fields, p.OfType
  placed : ∃ e, TightFrom 0 (l.fields.map PlacedField.type)
      (l.fields.map fun p => p.offset.toNat) e ∧
    IsLeast {m | blockAlignment.toNat ∣ m ∧ e ≤ m} l.size.toNat

/-! ### Placing fields -/

section
variable {next last : UInt32} {fs : List UniformField} {ts : List UniformType}
  {ps : List PlacedField} {e : SourceFault} {f : UniformField} {t : UniformType}

theorem placeFields_cons_of_unknown (h : UniformType.ofString? f.type = none)
    (next : UInt32) (fs : List UniformField) :
    placeFields next (f :: fs) = .error (.unknownType f.type f.name) := by
  simp only [placeFields, h]

theorem placeFields_cons_of_type (h : UniformType.ofString? f.type = some t)
    (next : UInt32) (fs : List UniformField) :
    placeFields next (f :: fs) = (placeFields (alignUp next t.alignment + t.size) fs).map
      fun x => (⟨t, f.name, alignUp next t.alignment, t.size, t.alignment⟩ :: x.1, x.2) := by
  simp only [placeFields, h]

theorem placeFields_eq_ok_iff : placeFields next fs = .ok (ps, last) ↔ Places next fs ps last := by
  constructor
  · intro h
    induction fs generalizing next ps with
    | nil =>
        cases h
        exact .nil
    | cons f fs ih =>
        cases hf : UniformType.ofString? f.type with
        | none =>
            rw [placeFields_cons_of_unknown hf] at h
            cases h
        | some t =>
            rw [placeFields_cons_of_type hf, UniformBlock.map_eq_ok_iff] at h
            obtain ⟨⟨ps', last'⟩, hrest, hx⟩ := h
            cases hx
            exact .cons hf (ih hrest)
  · intro h
    induction h with
    | nil => rfl
    | cons hf _ ih =>
        rw [placeFields_cons_of_type hf, ih]
        rfl

theorem firstUnknown_cons_of_unknown (h : UniformType.ofString? f.type = none) :
    FirstUnknown (f :: fs) e ↔ e = .unknownType f.type f.name := by
  constructor
  · rintro ⟨pre, g, post, hsplit, hpre, _, rfl⟩
    cases pre with
    | nil =>
        cases hsplit
        rfl
    | cons x pre =>
        cases hsplit
        exact absurd h (hpre f List.mem_cons_self)
  · rintro rfl
    exact ⟨[], f, fs, rfl, by simp, h, rfl⟩

theorem firstUnknown_cons_of_type (h : UniformType.ofString? f.type = some t) :
    FirstUnknown (f :: fs) e ↔ FirstUnknown fs e := by
  constructor
  · rintro ⟨pre, g, post, hsplit, hpre, hg, rfl⟩
    cases pre with
    | nil =>
        cases hsplit
        rw [h] at hg
        cases hg
    | cons x pre =>
        cases hsplit
        exact ⟨pre, g, post, rfl, fun u hu => hpre u (List.mem_cons_of_mem f hu), hg, rfl⟩
  · rintro ⟨pre, g, post, rfl, hpre, hg, rfl⟩
    exact ⟨f :: pre, g, post, rfl, List.forall_mem_cons.mpr ⟨by simp [h], hpre⟩, hg, rfl⟩

theorem placeFields_eq_error_iff : placeFields next fs = .error e ↔ FirstUnknown fs e := by
  induction fs generalizing next with
  | nil => simp [placeFields, FirstUnknown]
  | cons f fs ih =>
      cases hf : UniformType.ofString? f.type with
      | none =>
          rw [placeFields_cons_of_unknown hf, firstUnknown_cons_of_unknown hf, Except.error.injEq,
            eq_comm]
      | some t =>
          rw [placeFields_cons_of_type hf, firstUnknown_cons_of_type hf,
            UniformBlock.map_eq_error_iff, ih]

theorem NameTypes.unique {ts' : List UniformType} (h : NameTypes fs ts) (h' : NameTypes fs ts') :
    ts = ts' := by
  refine List.right_unique_forall₂' (fun f t t' ht ht' => ?_) h h'
  exact Option.some.inj (ht.symm.trans ht')

/-- Fields that name types can be placed. -/
theorem NameTypes.exists_places (h : NameTypes fs ts) (next : UInt32) :
    ∃ ps last, Places next fs ps last := by
  induction h generalizing next with
  | nil => exact ⟨[], next, .nil⟩
  | cons hf _ ih =>
      obtain ⟨ps, last, hrest⟩ := ih _
      exact ⟨_, last, .cons hf hrest⟩

theorem FirstUnknown.not_nameTypes (h : FirstUnknown fs e) : ¬ NameTypes fs ts := by
  intro htypes
  obtain ⟨ps, last, hplaces⟩ := htypes.exists_places 0
  have herror : placeFields 0 fs = .error e := placeFields_eq_error_iff.mpr h
  rw [placeFields_eq_ok_iff.mpr hplaces] at herror
  cases herror

theorem Places.nameTypes (h : Places next fs ps last) :
    NameTypes fs (ps.map PlacedField.type) := by
  induction h with
  | nil => exact .nil
  | cons hf _ ih => exact .cons hf ih

theorem Places.names_eq (h : Places next fs ps last) :
    ps.map PlacedField.name = fs.map UniformField.name := by
  induction h with
  | nil => rfl
  | cons _ _ ih => rw [List.map_cons, List.map_cons, ih]

theorem Places.ofType (h : Places next fs ps last) : ∀ p ∈ ps, p.OfType := by
  induction h with
  | nil => simp
  | cons _ _ ih => exact List.forall_mem_cons.mpr ⟨⟨rfl, rfl⟩, ih⟩

/-- Fields are placed without regard to those after them. -/
theorem Places.exists_of_append {xs ys : List UniformField} (h : Places next (xs ++ ys) ps last) :
    ∃ ps₁ ps₂ mid, ps = ps₁ ++ ps₂ ∧ Places next xs ps₁ mid := by
  induction xs generalizing next ps with
  | nil => exact ⟨[], ps, next, rfl, .nil⟩
  | cons f xs ih =>
      cases h with
      | cons hf hrest =>
          obtain ⟨ps₁, ps₂, mid, rfl, hxs⟩ := ih hrest
          exact ⟨_ :: ps₁, ps₂, mid, rfl, .cons hf hxs⟩

/-! ### Words and numbers -/

/-- A quotient by more than one leaves room for a carry. -/
theorem div_add_one_lt (v : UInt32) {a : ℕ} (ha : 1 < a) : v.toNat / a + 1 < UInt32.size := by
  have hlt := v.toNat_lt
  have hhalf : v.toNat / a ≤ v.toNat / 2 := Nat.div_le_div_left ha Nat.two_pos
  rw [UInt32.size]
  omega

theorem toNat_ceilDiv {v a : UInt32} (ha : 1 < a.toNat) :
    (ceilDiv v a).toNat = v.toNat ⌈/⌉ a.toNat := by
  have hrest : v % a > 0 ↔ 0 < v.toNat % a.toNat := by
    rw [gt_iff_lt, UInt32.lt_iff_toNat_lt, UInt32.toNat_mod, UInt32.toNat_zero]
  rw [ceilDiv_eq_ite (Nat.zero_lt_of_lt ha), ceilDiv]
  by_cases hr : 0 < v.toNat % a.toNat
  · rw [if_pos (hrest.mpr hr), if_pos hr, UInt32.toNat_add, UInt32.toNat_div, UInt32.toNat_one,
      Nat.mod_eq_of_lt (div_add_one_lt v ha)]
  · rw [if_neg (mt hrest.mp hr), if_neg hr, UInt32.toNat_div]

theorem alignUpFits_iff {v a : UInt32} (ha : 1 < a.toNat) :
    AlignUpFits v a ↔ roundUp v.toNat a.toNat < UInt32.size := by
  unfold AlignUpFits roundUp
  rw [toNat_ceilDiv ha, Nat.mul_comm a.toNat, UInt32.toNat_div]
  exact and_iff_right (div_add_one_lt v ha)

theorem AlignUpFits.toNat_alignUp {v a : UInt32} (ha : 1 < a.toNat) (h : AlignUpFits v a) :
    (alignUp v a).toNat = roundUp v.toNat a.toNat := by
  unfold alignUp roundUp
  rw [UInt32.toNat_mul, Nat.mod_eq_of_lt h.2, toNat_ceilDiv ha, Nat.mul_comm]

theorem one_lt_blockAlignment : 1 < blockAlignment.toNat := by
  decide

/-- The offset after a field that fits. -/
theorem toNat_next (hround : AlignUpFits next t.alignment)
    (hsum : (alignUp next t.alignment).toNat + t.size.toNat < UInt32.size) :
    (alignUp next t.alignment + t.size).toNat =
      roundUp next.toNat t.alignment.toNat + t.size.toNat := by
  rw [UInt32.toNat_add, Nat.mod_eq_of_lt hsum, hround.toNat_alignUp t.one_lt_alignment]

/-- No operation overflows exactly if the rounded end fits in a word: everything that is computed
on the way is at most that. -/
theorem placementFits_iff : PlacementFits next ts ↔
    roundUp (exactEnd next.toNat ts) blockAlignment.toNat < UInt32.size := by
  induction ts generalizing next with
  | nil => exact alignUpFits_iff one_lt_blockAlignment
  | cons t ts ih =>
      rw [PlacementFits, exactEnd]
      constructor
      · rintro ⟨hround, hsum, hrest⟩
        rwa [ih, toNat_next hround hsum] at hrest
      · intro h
        have hend := le_exactEnd (roundUp next.toNat t.alignment.toNat + t.size.toNat) ts
        have htop := le_roundUp blockAlignment_pos
          (exactEnd (roundUp next.toNat t.alignment.toNat + t.size.toNat) ts)
        have hround : AlignUpFits next t.alignment := by
          rw [alignUpFits_iff t.one_lt_alignment]
          omega
        have hsum : (alignUp next t.alignment).toNat + t.size.toNat < UInt32.size := by
          rw [hround.toNat_alignUp t.one_lt_alignment]
          omega
        refine ⟨hround, hsum, ?_⟩
        rwa [ih, toNat_next hround hsum]

theorem placementFits_zero_iff : PlacementFits 0 ts ↔ exactSize ts < UInt32.size :=
  placementFits_iff

/-- While nothing overflows, fields are placed at the tight offsets. -/
theorem Places.tightFrom (h : Places next fs ps last)
    (hfit : PlacementFits next (ps.map PlacedField.type)) :
    TightFrom next.toNat (ps.map PlacedField.type) (ps.map fun p => p.offset.toNat) last.toNat ∧
      AlignUpFits last blockAlignment := by
  induction h with
  | nil => exact ⟨.nil, hfit⟩
  | @cons next f t fs ps last _ _ ih =>
      obtain ⟨hround, hsum, hrest⟩ := hfit
      obtain ⟨htight, hlast⟩ := ih hrest
      have hoffset := hround.toNat_alignUp t.one_lt_alignment
      rw [toNat_next hround hsum, ← hoffset] at htight
      have hleast := isLeast_roundUp t.alignment_pos next.toNat
      rw [← hoffset] at hleast
      exact ⟨.cons hleast htight, hlast⟩

end

/-! ### Tight layouts -/

theorem layout_eq_ok_iff {fs : List UniformField} {l : UniformLayout} :
    layout fs = .ok l ↔
      ∃ last, Places 0 fs l.fields last ∧ l.size = alignUp last blockAlignment := by
  unfold layout
  rw [UniformBlock.map_eq_ok_iff]
  constructor
  · rintro ⟨⟨ps, last⟩, h, rfl⟩
    exact ⟨last, placeFields_eq_ok_iff.mp h, rfl⟩
  · rintro ⟨last, h, hsize⟩
    exact ⟨(l.fields, last), placeFields_eq_ok_iff.mpr h, by rw [← hsize]⟩

theorem layout_eq_error_iff {fs : List UniformField} {e : SourceFault} :
    layout fs = .error e ↔ FirstUnknown fs e := by
  unfold layout
  rw [UniformBlock.map_eq_error_iff, placeFields_eq_error_iff]

/-- Placed fields are given by their types, names and offsets. -/
theorem placedFields_ext {ps qs : List PlacedField} (hps : ∀ p ∈ ps, p.OfType)
    (hqs : ∀ q ∈ qs, q.OfType)
    (htypes : ps.map PlacedField.type = qs.map PlacedField.type)
    (hnames : ps.map PlacedField.name = qs.map PlacedField.name)
    (hoffsets : (ps.map fun p => p.offset.toNat) = qs.map fun p => p.offset.toNat) : ps = qs := by
  induction ps generalizing qs with
  | nil => exact (List.map_eq_nil_iff.mp htypes.symm).symm
  | cons p ps ih =>
      cases qs with
      | nil => cases htypes
      | cons q qs =>
          rw [List.map_cons, List.map_cons, List.cons.injEq] at htypes hnames hoffsets
          obtain ⟨hp, hps⟩ := List.forall_mem_cons.mp hps
          obtain ⟨hq, hqs⟩ := List.forall_mem_cons.mp hqs
          have hsize : p.size = q.size := by rw [hp.1, hq.1, htypes.1]
          have halign : p.alignment = q.alignment := by rw [hp.2, hq.2, htypes.1]
          have hoffset : p.offset = q.offset := UInt32.toNat_inj.mp hoffsets.1
          have hfield : p = q := by
            cases p
            cases q
            rw [PlacedField.mk.injEq]
            exact ⟨htypes.1, hnames.1, hoffset, hsize, halign⟩
          rw [hfield, ih hps hqs htypes.2 hnames.2 hoffsets.2]

/-- Fields have one tight layout at most. -/
theorem IsTight.unique {fs : List UniformField} {l l' : UniformLayout} (h : IsTight fs l)
    (h' : IsTight fs l') : l = l' := by
  have htypes := h.types.unique h'.types
  obtain ⟨e, hplaced, hsize⟩ := h.placed
  obtain ⟨e', hplaced', hsize'⟩ := h'.placed
  rw [← htypes, tightFrom_iff] at hplaced'
  rw [tightFrom_iff] at hplaced
  obtain rfl : e = e' := hplaced.2.trans hplaced'.2.symm
  have hfields := placedFields_ext h.ofType h'.ofType htypes (h.names.trans h'.names.symm)
    (hplaced.1.trans hplaced'.1.symm)
  have hsizes := UInt32.toNat_inj.mp (hsize.unique hsize')
  cases l
  cases l'
  rw [UniformLayout.mk.injEq]
  exact ⟨hfields, hsizes⟩

/-- While nothing overflows, fields are laid out tightly. -/
theorem isTight_of_layout {fs : List UniformField} {l : UniformLayout} (h : layout fs = .ok l)
    (hfit : PlacementFits 0 (l.fields.map PlacedField.type)) : IsTight fs l := by
  obtain ⟨last, hplaces, hsize⟩ := layout_eq_ok_iff.mp h
  obtain ⟨htight, hlast⟩ := hplaces.tightFrom hfit
  refine ⟨hplaces.names_eq, hplaces.nameTypes, hplaces.ofType, last.toNat, htight, ?_⟩
  rw [hsize, hlast.toNat_alignUp one_lt_blockAlignment]
  exact isLeast_roundUp blockAlignment_pos last.toNat

/-- A tight layout has the exact offsets and the exact size. -/
theorem IsTight.exact {fs : List UniformField} {ts : List UniformType} {l : UniformLayout}
    (h : IsTight fs l) (hts : NameTypes fs ts) :
    (l.fields.map fun p => p.offset.toNat) = exactOffsets 0 ts ∧ l.size.toNat = exactSize ts := by
  obtain ⟨e, hplaced, hsize⟩ := h.placed
  rw [h.types.unique hts, tightFrom_iff] at hplaced
  obtain ⟨hoffsets, rfl⟩ := hplaced
  exact ⟨hoffsets, hsize.unique (isLeast_roundUp blockAlignment_pos (exactEnd 0 ts))⟩

/-- No field begins before the end of one that is placed before it. -/
theorem TightFrom.pairwise {n e : ℕ} {ps : List PlacedField} (hps : ∀ p ∈ ps, p.OfType)
    (h : TightFrom n (ps.map PlacedField.type) (ps.map fun p => p.offset.toNat) e) :
    ps.Pairwise fun p q => p.offset.toNat + p.size.toNat ≤ q.offset.toNat := by
  induction ps generalizing n with
  | nil => exact .nil
  | cons p ps ih =>
      obtain ⟨hp, hps⟩ := List.forall_mem_cons.mp hps
      cases h with
      | cons _ hrest =>
          refine .cons ?_ (ih hps hrest)
          intro q hq
          rw [hp.1]
          exact hrest.le_of_mem (List.mem_map_of_mem hq)

/-- Fields of known types have exactly one tight layout while its size fits in a word, and that is
how they are laid out: no two of them overlap, their offsets increase, and those that come first are
laid out as if no others followed.  Otherwise the first field of an unknown type is reported. -/
theorem layout_isTight {fs : List UniformField}
    (hfit : ∀ ts, NameTypes fs ts → exactSize ts < UInt32.size) :
    (∀ e, layout fs = .error e ↔ FirstUnknown fs e) ∧
    ((∀ f ∈ fs, UniformType.ofString? f.type ≠ none) → ∃ l, layout fs = .ok l) ∧
    (∀ l, layout fs = .ok l ↔ IsTight fs l) ∧
    (∀ l, layout fs = .ok l → l.fields.Pairwise fun p q =>
      p.offset.toNat + p.size.toNat ≤ q.offset.toNat ∧ p.offset < q.offset) ∧
    ∀ xs ys l, fs = xs ++ ys → layout fs = .ok l →
      ∃ l', layout xs = .ok l' ∧ l'.fields <+: l.fields := by
  have htight : ∀ l, layout fs = .ok l → IsTight fs l := by
    intro l h
    apply isTight_of_layout h
    obtain ⟨_, hplaces, _⟩ := layout_eq_ok_iff.mp h
    exact placementFits_zero_iff.mpr (hfit _ hplaces.nameTypes)
  refine ⟨fun e => layout_eq_error_iff, ?_, fun l => ⟨htight l, ?_⟩, ?_, ?_⟩
  · intro hknown
    cases h : layout fs with
    | ok l => exact ⟨l, rfl⟩
    | error e =>
        obtain ⟨pre, f, post, rfl, _, hf, _⟩ := layout_eq_error_iff.mp h
        exact absurd hf (hknown f (by simp))
  · intro hl
    obtain ⟨ps, last, hplaces⟩ := hl.types.exists_places 0
    have h : layout fs = .ok ⟨ps, alignUp last blockAlignment⟩ :=
      layout_eq_ok_iff.mpr ⟨last, hplaces, rfl⟩
    rw [h, hl.unique (htight _ h)]
  · intro l h
    obtain ⟨_, hplaced, _⟩ := (htight l h).placed
    have hofType := (htight l h).ofType
    refine (hplaced.pairwise hofType).imp_of_mem fun {p q} hp _ hpq => ⟨hpq, ?_⟩
    have hsize := p.type.size_pos
    rw [← (hofType p hp).1] at hsize
    rw [UInt32.lt_iff_toNat_lt]
    omega
  · rintro xs ys l rfl h
    obtain ⟨last, hplaces, _⟩ := layout_eq_ok_iff.mp h
    obtain ⟨ps₁, ps₂, mid, hps, hxs⟩ := hplaces.exists_of_append
    exact ⟨⟨ps₁, alignUp mid blockAlignment⟩, layout_eq_ok_iff.mpr ⟨mid, hxs, rfl⟩, ps₂, hps.symm⟩

/-- A vector is padded, and of two unknown types the first is reported. -/
theorem layout_isTight_padded :
    (∀ ts, NameTypes [⟨"float", "a"⟩, ⟨"vec3", "b"⟩, ⟨"mat4", "c"⟩] ts →
      exactSize ts < UInt32.size) ∧
    IsTight [⟨"float", "a"⟩, ⟨"vec3", "b"⟩, ⟨"mat4", "c"⟩]
      ⟨[⟨.float, "a", 0, 4, 4⟩, ⟨.vec3, "b", 16, 12, 16⟩, ⟨.mat4, "c", 32, 64, 16⟩], 96⟩ ∧
    layout [⟨"float", "a"⟩, ⟨"vec5", "b"⟩, ⟨"vec6", "c"⟩] = .error (.unknownType "vec5" "b") := by
  have htypes : NameTypes [⟨"float", "a"⟩, ⟨"vec3", "b"⟩, ⟨"mat4", "c"⟩] [.float, .vec3, .mat4] :=
    .cons rfl (.cons rfl (.cons rfl .nil))
  have hfit : ∀ ts, NameTypes [⟨"float", "a"⟩, ⟨"vec3", "b"⟩, ⟨"mat4", "c"⟩] ts →
      exactSize ts < UInt32.size := by
    intro ts h
    rw [← htypes.unique h]
    decide
  have hunknown : FirstUnknown [⟨"float", "a"⟩, ⟨"vec5", "b"⟩, ⟨"vec6", "c"⟩]
      (.unknownType "vec5" "b") :=
    ⟨[⟨"float", "a"⟩], ⟨"vec5", "b"⟩, [⟨"vec6", "c"⟩], rfl, by decide, by decide, rfl⟩
  refine ⟨hfit, ((layout_isTight hfit).2.2.1 _).mp (by decide +kernel), ?_⟩
  exact ((layout_isTight fun _ h => absurd h hunknown.not_nameTypes).1 _).mpr hunknown

end ShaderBuild
