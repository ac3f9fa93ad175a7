import Mathlib.Data.Nat.Find
import ShaderBuild.Proofs.Block.Reading

/-! # Where a block stops

Every line of a block is a terminator, skipped, a field or bad, and of the lines after the marker
the first that is a terminator or bad is the one that the block stops at (`StopsAt`).  This line
alone decides whether the block is read or why it is not (`UniformBlock.parse_cases`), and neither
the lines before the marker nor those behind it matter. -/

namespace ShaderBuild

/-! ### What a line of a block is -/

/-- The first word of the line ends a block. -/
def IsTerminator (t : String) : Prop :=
  (words t).head? = some blockTerminator

/-- The line is no terminator, and empty or a comment. -/
def IsSkipped (t : String) : Prop :=
  ¬ IsTerminator t ∧ (t = "" ∨ beginsWith t "//" = true)

/-- The line is neither a terminator nor skipped and has two words, a type and a name, of which the
second may end in a semicolon. -/
def IsField (t : String) (f : UniformField) : Prop :=
  ¬ IsTerminator t ∧ ¬ IsSkipped t ∧
    ∃ w, words t = [f.type, w] ∧ dropSemicolon w = f.name ∧ f.name ≠ ""

/-- The line is nothing that may stand in a block. -/
def IsBad (t : String) : Prop :=
  ¬ IsTerminator t ∧ ¬ IsSkipped t ∧ ∀ f, ¬ IsField t f

/-- Line `k`, which reads `t`, is the first after line `start` that is a terminator or bad. -/
structure StopsAt (file : SourceFile) (start k : ℕ) (t : String) : Prop where
  lt : start < k
  line : file.text? k = some t
  stops : IsTerminator t ∨ IsBad t
  before : ∀ j u, start < j → j < k → file.text? j = some u → ¬ IsTerminator u ∧ ¬ IsBad u

/-! ### The classes of lines -/

section
variable {t : String} {f : UniformField}

theorem ofText_eq_terminator_iff : BlockLine.ofText t = .terminator ↔ IsTerminator t := by
  constructor
  · exact fun h => head?_words_of_endsBlock (endsBlock_iff.mpr h)
  · exact fun h => if_pos h

/-- What a line is that is neither a terminator nor skipped. -/
theorem ofText_of_not_skipped (ht : ¬ IsTerminator t) (hs : ¬ IsSkipped t) :
    BlockLine.ofText t = match words t with
      | [type, name] =>
        if (dropSemicolon name).isEmpty then .bad else .field ⟨type, dropSemicolon name⟩
      | _ => .bad := by
  have hskip : ¬ (t.isEmpty || beginsWith t "//") = true :=
    fun h => hs ⟨ht, by simpa using h⟩
  exact (if_neg ht).trans (if_neg hskip)

theorem ofText_eq_skipped_iff : BlockLine.ofText t = .skipped ↔ IsSkipped t := by
  constructor
  · intro h
    have hno : ¬ IsTerminator t := fun ht => by simp [ofText_eq_terminator_iff.mpr ht] at h
    by_contra hs
    rw [ofText_of_not_skipped hno hs] at h
    split at h
    · split at h <;> cases h
    · cases h
  · rintro ⟨hno, hskip⟩
    have hskip' : (t.isEmpty || beginsWith t "//") = true := by simpa using hskip
    exact (if_neg hno).trans (if_pos hskip')

theorem ofText_eq_field_iff : BlockLine.ofText t = .field f ↔ IsField t f := by
  unfold IsField
  constructor
  · intro h
    have hno : ¬ IsTerminator t := fun ht => by simp [ofText_eq_terminator_iff.mpr ht] at h
    have hs : ¬ IsSkipped t := fun hs => by simp [ofText_eq_skipped_iff.mpr hs] at h
    refine ⟨hno, hs, ?_⟩
    rw [ofText_of_not_skipped hno hs] at h
    split at h
    · next type w hwords =>
        split at h
        · cases h
        · next hne =>
            cases h
            exact ⟨w, hwords, rfl, by simpa using hne⟩
    · cases h
  · rintro ⟨hno, hs, w, hwords, hname, hne⟩
    rw [ofText_of_not_skipped hno hs, hwords]
    simp [hname, hne]

theorem ofText_eq_bad_iff : BlockLine.ofText t = .bad ↔ IsBad t := by
  simp only [IsBad, ← ofText_eq_terminator_iff, ← ofText_eq_skipped_iff, ← ofText_eq_field_iff]
  cases BlockLine.ofText t <;> simp

theorem continuesBlock_iff : ContinuesBlock t ↔ ¬ IsTerminator t ∧ ¬ IsBad t := by
  rw [ContinuesBlock, Ne, Ne, ofText_eq_terminator_iff, ofText_eq_bad_iff]

theorem fieldOf_eq_some_iff : fieldOf t = some f ↔ IsField t f := by
  rw [← ofText_eq_field_iff, fieldOf]
  cases BlockLine.ofText t <;> simp

theorem continuesBlock_of_isSkipped (h : IsSkipped t) : ContinuesBlock t := by
  have hs := ofText_eq_skipped_iff.mpr h
  simp [ContinuesBlock, hs]

theorem continuesBlock_of_isField (h : IsField t f) : ContinuesBlock t := by
  have hf := ofText_eq_field_iff.mpr h
  simp [ContinuesBlock, hf]

end

/-! ### Where a block stops -/

section
variable {file : SourceFile} {start k : ℕ} {t : String} {body post : List String}

theorem text?_eq_drop {j : ℕ} : file.text? (start + 1 + j) = (file.texts.drop (start + 1))[j]? := by
  rw [SourceFile.text?_eq, List.getElem?_drop]

theorem StopsAt.exists_drop_eq (h : StopsAt file start k t) :
    ∃ body post, file.texts.drop (start + 1) = body ++ t :: post ∧
      start + 1 + body.length = k ∧ ∀ u ∈ body, ContinuesBlock u := by
  obtain ⟨i, rfl⟩ := Nat.exists_eq_add_of_le (Nat.succ_le_of_lt h.lt)
  have hline := h.line
  rw [text?_eq_drop] at hline
  obtain ⟨hi, hget⟩ := List.getElem?_eq_some_iff.mp hline
  refine ⟨(file.texts.drop (start + 1)).take i, (file.texts.drop (start + 1)).drop (i + 1),
    ?_, ?_, ?_⟩
  · rw [← hget, List.getElem_cons_drop, List.take_append_drop]
  · rw [List.length_take, Nat.min_eq_left (Nat.le_of_lt hi)]
  · intro u hu
    obtain ⟨j, hj, rfl⟩ := List.mem_take_iff_getElem.mp hu
    rw [continuesBlock_iff]
    refine h.before (start + 1 + j) _ (by omega) (by omega) ?_
    rw [text?_eq_drop]
    exact List.getElem?_eq_getElem _

/-- A block stops at its first line that does not continue it. -/
theorem exists_stopsAt {u : String} (hu : u ∈ file.texts.drop (start + 1))
    (hno : ¬ ContinuesBlock u) : ∃ k t, StopsAt file start k t := by
  classical
  obtain ⟨i, hi⟩ := List.mem_iff_getElem?.mp hu
  have hex : ∃ k, start < k ∧ ∃ t, file.text? k = some t ∧ ¬ ContinuesBlock t :=
    ⟨start + 1 + i, by omega, u, by rw [text?_eq_drop, hi], hno⟩
  obtain ⟨hlt, t, hline, ht⟩ := Nat.find_spec hex
  refine ⟨Nat.find hex, t, hlt, hline, ?_, ?_⟩
  · rw [continuesBlock_iff] at ht
    tauto
  · intro j v hj hlt' hv
    by_contra hstop
    exact Nat.find_min hex hlt' ⟨hj, v, hv, fun hv => hstop (continuesBlock_iff.mp hv)⟩

end

/-! ### Reading a block -/

namespace UniformBlock

/-- Lines that continue a block add their fields to those of the lines after them. -/
theorem fieldsFrom_append {file : Path} {start k : ℕ} {body rest : List String}
    (h : ∀ u ∈ body, ContinuesBlock u) :
    fieldsFrom file start (numberedFrom k (body ++ rest)) =
      (fieldsFrom file start (numberedFrom (k + body.length) rest)).map
        fun x => (body.filterMap fieldOf ++ x.1, x.2) := by
  induction body generalizing k with
  | nil => cases hrest : fieldsFrom file start (numberedFrom k rest) <;> simp [hrest, Except.map]
  | cons t body ih =>
      have ht := h t List.mem_cons_self
      have hbody := ih (k := k + 1) fun u hu => h u (List.mem_cons_of_mem t hu)
      have hlength : k + (t :: body).length = k + 1 + body.length := by
        rw [List.length_cons]
        omega
      rw [List.cons_append, hlength]
      cases hline : BlockLine.ofText t with
      | terminator => exact absurd hline ht.1
      | bad => exact absurd hline ht.2
      | skipped =>
          have hfield : fieldOf t = none := by simp [fieldOf, hline]
          simp only [numberedFrom, fieldsFrom, hline, hbody, List.filterMap_cons_none hfield]
      | field f =>
          have hfield : fieldOf t = some f := by simp [fieldOf, hline]
          simp only [numberedFrom, fieldsFrom, hline, hbody, List.filterMap_cons_some hfield]
          cases fieldsFrom file start (numberedFrom (k + 1 + body.length) rest) <;> rfl

variable {file : SourceFile} {start k : ℕ} {t : String} {body post : List String}

/-- The name of a block whose marker stands at line `start`. -/
def markerName (file : SourceFile) (start : ℕ) : Option String :=
  (file.text? start).bind fun m => (words m)[1]?

theorem parse_eq (file : SourceFile) (start : ℕ) :
    parse file start =
      (fieldsFrom file.path start (numberedFrom (start + 1) (file.texts.drop (start + 1)))).map
        fun x => ⟨markerName file start, start, x.2, x.1⟩ := by
  rw [parse, file.drop_lines]
  rfl

theorem parse_of_terminator (hbody : ∀ u ∈ body, ContinuesBlock u) (ht : IsTerminator t)
    (hdrop : file.texts.drop (start + 1) = body ++ t :: post) :
    parse file start = .ok ⟨markerName file start, start, start + 1 + body.length,
      body.filterMap fieldOf⟩ := by
  rw [parse_eq, hdrop, fieldsFrom_append hbody]
  simp [numberedFrom, fieldsFrom, ofText_eq_terminator_iff.mpr ht, Except.map]

theorem parse_of_bad (hbody : ∀ u ∈ body, ContinuesBlock u) (ht : IsBad t)
    (hdrop : file.texts.drop (start + 1) = body ++ t :: post) :
    parse file start = .error (.malformedField ⟨file.path, start + 1 + body.length⟩ t) := by
  rw [parse_eq, hdrop, fieldsFrom_append hbody]
  simp [numberedFrom, fieldsFrom, ofText_eq_bad_iff.mpr ht, Except.map]

theorem parse_of_continues (h : ∀ u ∈ file.texts.drop (start + 1), ContinuesBlock u) :
    parse file start = .error (.unterminatedBlock ⟨file.path, start⟩) := by
  rw [parse_eq, ← List.append_nil (file.texts.drop (start + 1)), fieldsFrom_append h]
  rfl

theorem parse_of_stopsAt_terminator (h : StopsAt file start k t) (ht : IsTerminator t) :
    parse file start = .ok ⟨markerName file start, start, k,
      ((file.texts.take k).drop (start + 1)).filterMap fieldOf⟩ := by
  obtain ⟨body, post, hdrop, rfl, hbody⟩ := h.exists_drop_eq
  have hinside : (file.texts.take (start + 1 + body.length)).drop (start + 1) = body := by
    rw [List.drop_take, hdrop, Nat.add_sub_cancel_left, List.take_left']
    rfl
  rw [hinside]
  exact parse_of_terminator hbody ht hdrop

theorem parse_of_stopsAt_bad (h : StopsAt file start k t) (ht : IsBad t) :
    parse file start = .error (.malformedField ⟨file.path, k⟩ t) := by
  obtain ⟨body, post, hdrop, rfl, hbody⟩ := h.exists_drop_eq
  exact parse_of_bad hbody ht hdrop

theorem parse_of_not_stopsAt (h : ∀ k t, ¬ StopsAt file start k t) :
    parse file start = .error (.unterminatedBlock ⟨file.path, start⟩) := by
  apply parse_of_continues
  intro u hu
  by_contra hno
  obtain ⟨k, t, hstop⟩ := exists_stopsAt hu hno
  exact h k t hstop

/-- How a block is read: by the line that it stops at. -/
theorem parse_cases (file : SourceFile) (start : ℕ) :
    (∃ k t, StopsAt file start k t ∧ IsTerminator t ∧
      parse file start = .ok ⟨markerName file start, start, k,
        ((file.texts.take k).drop (start + 1)).filterMap fieldOf⟩) ∨
    (∃ k t, StopsAt file start k t ∧ IsBad t ∧
      parse file start = .error (.malformedField ⟨file.path, k⟩ t)) ∨
    (∀ k t, ¬ StopsAt file start k t) ∧
      parse file start = .error (.unterminatedBlock ⟨file.path, start⟩) := by
  by_cases hstop : ∃ k t, StopsAt file start k t
  · obtain ⟨k, t, h⟩ := hstop
    obtain ht | ht := h.stops
    · exact .inl ⟨k, t, h, ht, parse_of_stopsAt_terminator h ht⟩
    · exact .inr (.inl ⟨k, t, h, ht, parse_of_stopsAt_bad h ht⟩)
  · have hno : ∀ k t, ¬ StopsAt file start k t := fun k t h => hstop ⟨k, t, h⟩
    exact .inr (.inr ⟨hno, parse_of_not_stopsAt hno⟩)

theorem parse_eq_ok_iff_stopsAt {b : UniformBlock} : parse file start = .ok b ↔
    ∃ t, StopsAt file start b.endLine t ∧ IsTerminator t ∧ b.startLine = start ∧
      b.name = markerName file start ∧ b.fields = (b.inside file).filterMap fieldOf := by
  constructor
  · intro h
    obtain ⟨k, t, hstop, ht, hparse⟩ | ⟨_, _, _, _, hparse⟩ | ⟨_, hparse⟩ :=
      parse_cases file start
    · rw [hparse] at h
      cases h
      exact ⟨t, hstop, ht, rfl, rfl, rfl⟩
    · rw [hparse] at h
      cases h
    · rw [hparse] at h
      cases h
  · rintro ⟨t, hstop, ht, rfl, hname, hfields⟩
    rw [parse_of_stopsAt_terminator hstop ht, ← hname]
    exact congrArg Except.ok (by rw [← inside, ← hfields])

theorem parse_eq_malformed_iff : parse file start = .error (.malformedField ⟨file.path, k⟩ t) ↔
    StopsAt file start k t ∧ IsBad t := by
  constructor
  · intro h
    obtain ⟨_, _, _, _, hparse⟩ | ⟨k, t, hstop, ht, hparse⟩ | ⟨_, hparse⟩ :=
      parse_cases file start
    · rw [hparse] at h
      cases h
    · rw [hparse] at h
      cases h
      exact ⟨hstop, ht⟩
    · rw [hparse] at h
      cases h
  · exact fun h => parse_of_stopsAt_bad h.1 h.2

theorem parse_eq_unterminated_iff :
    parse file start = .error (.unterminatedBlock ⟨file.path, start⟩) ↔
      ∀ k t, ¬ StopsAt file start k t := by
  constructor
  · intro h
    obtain ⟨_, _, _, _, hparse⟩ | ⟨_, _, _, _, hparse⟩ | ⟨hno, _⟩ := parse_cases file start
    · rw [hparse] at h
      cases h
    · rw [hparse] at h
      cases h
    · exact hno
  · exact parse_of_not_stopsAt

/-! ### What a block does not depend on -/

/-- The lines before the marker do not matter. -/
theorem parse_drop_append {pre : List String} (h : pre.length = start) :
    parse (.ofTexts file.path (pre ++ file.texts.drop start)) start = parse file start := by
  have hdrop : (pre ++ file.texts.drop start).drop (start + 1) = file.texts.drop (start + 1) := by
    rw [← h, List.drop_append, List.drop_drop]
    simp
  have hname : markerName (.ofTexts file.path (pre ++ file.texts.drop start)) start =
      markerName file start := by
    unfold markerName
    rw [SourceFile.text?_eq, SourceFile.text?_eq, SourceFile.texts_ofTexts,
      List.getElem?_append_right (Nat.le_of_eq h), List.getElem?_drop, h, Nat.sub_self,
      Nat.add_zero]
  rw [parse_eq, parse_eq, hname, SourceFile.texts_ofTexts, hdrop, SourceFile.path_ofTexts]

/-- The lines after the one that a block stops at do not matter. -/
theorem parse_take_append (h : StopsAt file start k t) (post : List String) :
    parse (.ofTexts file.path (file.texts.take (k + 1) ++ post)) start = parse file start := by
  have hk : k < file.texts.length :=
    (List.getElem?_eq_some_iff.mp (file.text?_eq k ▸ h.line)).1
  have hline : ∀ j, j ≤ k →
      SourceFile.text? (.ofTexts file.path (file.texts.take (k + 1) ++ post)) j = file.text? j := by
    intro j hj
    rw [SourceFile.text?_eq, SourceFile.text?_eq, SourceFile.texts_ofTexts,
      List.getElem?_append_left (by rw [List.length_take]; omega),
      List.getElem?_take_of_lt (by omega)]
  have hname : markerName (.ofTexts file.path (file.texts.take (k + 1) ++ post)) start =
      markerName file start := by
    rw [markerName, hline start (Nat.le_of_lt h.lt)]
    rfl
  have hstop : StopsAt (.ofTexts file.path (file.texts.take (k + 1) ++ post)) start k t := by
    refine ⟨h.lt, by rw [hline k le_rfl, h.line], h.stops, ?_⟩
    intro j u hj hjk hu
    rw [hline j (Nat.le_of_lt hjk)] at hu
    exact h.before j u hj hjk hu
  have htake : (file.texts.take (k + 1) ++ post).take k = file.texts.take k := by
    rw [List.take_append_of_le_length (by rw [List.length_take]; omega), List.take_take]
    congr 1
    omega
  obtain ht | ht := h.stops
  · rw [parse_of_stopsAt_terminator h ht, parse_of_stopsAt_terminator hstop ht, hname,
      SourceFile.texts_ofTexts, htake]
  · rw [parse_of_stopsAt_bad h ht, parse_of_stopsAt_bad hstop ht, SourceFile.path_ofTexts]

end UniformBlock

end ShaderBuild
