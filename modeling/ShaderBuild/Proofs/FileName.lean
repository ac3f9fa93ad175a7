import ShaderBuild.Proofs.Path

/-! # The name at the end of a path

A list is its pieces with a separator between two (`pieces_eq_cons_iff`).  Read that way, the file
name of a path is the plain name that it ends in, slashes and single dots between them aside
(`Path.fileName?_eq_some_iff`), and the extension of a name is what follows its last dot, unless
that is its first byte (`Path.extensionOf_eq_some_iff`).  A plain name put behind a path is one
component more, and no other one changes (`Path.components_join`). -/

namespace ShaderBuild

/-- The first piece and the others, each behind the separator `c`, make up the list, and none of
them holds `c`. -/
theorem pieces_eq_cons_iff {α : Type} [BEq α] [LawfulBEq α] {c : α} {xs p : List α}
    {ps : List (List α)} :
    pieces (· == c) xs = p :: ps ↔
      xs = p ++ ps.flatMap (c :: ·) ∧ c ∉ p ∧ ∀ q ∈ ps, c ∉ q := by
  have hnone : ∀ {q : List α}, c ∉ q → ∀ x ∈ q, (x == c) = false := by
    intro q hq x hx
    rw [beq_eq_false_iff_ne]
    rintro rfl
    exact hq hx
  constructor
  · intro h
    have hmem : ∀ q ∈ p :: ps, c ∉ q := by
      intro q hq hc
      rw [← h] at hq
      have hsep := not_sep_of_mem_pieces (· == c) hq hc
      rw [beq_self_eq_true] at hsep
      cases hsep
    refine ⟨?_, hmem p List.mem_cons_self, fun q hq => hmem q (List.mem_cons_of_mem p hq)⟩
    clear hmem
    induction xs generalizing p ps with
    | nil =>
        cases h
        rfl
    | cons x xs ih =>
        obtain ⟨q, qs, hq⟩ := List.exists_cons_of_ne_nil (pieces_ne_nil (· == c) xs)
        rw [pieces, hq] at h
        split at h
        · next hx =>
            cases h
            rw [ih hq, beq_iff_eq.mp hx]
            rfl
        · cases h
          rw [ih hq]
          rfl
  · rintro ⟨rfl, hp, hps⟩
    induction ps generalizing p with
    | nil => simpa using pieces_eq_singleton _ (hnone hp)
    | cons q qs ih =>
        have hfirst : pieces (· == c) p = [p] := pieces_eq_singleton _ (hnone hp)
        have hrest := ih (hps q List.mem_cons_self) fun r hr => hps r (List.mem_cons_of_mem q hr)
        rw [List.flatMap_cons, List.cons_append]
        calc
          _ = pieces (· == c) p ++ pieces (· == c) (q ++ qs.flatMap (c :: ·)) := by
            apply pieces_append_cons
            exact beq_self_eq_true c
          _ = p :: q :: qs := by
            rw [hfirst, hrest]
            rfl

namespace Path

variable {p dir : Path} {n m ext : Bytes}

/-! ### Which pieces are names -/

theorem inner_eq_none_iff {q : Bytes} : inner q = none ↔ q = [] ∨ q = [dot] := by
  unfold inner
  by_cases h₁ : q = []
  · simp [h₁]
  · by_cases h₂ : q = [dot]
    · simp [h₂]
    · by_cases h₃ : q = [dot, dot] <;> simp [h₁, h₂, h₃]

theorem inner_eq_name_iff {q : Bytes} :
    inner q = some (.name n) ↔ q = n ∧ n ≠ [] ∧ n ≠ [dot] ∧ n ≠ [dot, dot] := by
  constructor
  · intro h
    unfold inner at h
    split at h
    · cases h
    · next h₁ =>
        split at h
        · cases h
        · next h₃ =>
            cases h
            simp only [Bool.or_eq_true, beq_iff_eq, not_or] at h₁ h₃
            exact ⟨rfl, h₁.1, h₁.2, h₃⟩
  · rintro ⟨rfl, h₁, h₂, h₃⟩
    exact inner_eq_name h₁ h₂ h₃

/-- A leading dot and the root are components, but no names. -/
theorem getLast?_components_eq_name_iff : p.components.getLast? = some (.name n) ↔
    ((pieces (· == slash) p.bytes).filterMap inner).getLast? = some (.name n) := by
  unfold components
  dsimp only
  split
  · cases (pieces (· == slash) p.bytes).filterMap inner with
    | nil => simp
    | cons c cs => rw [List.getLast?_cons_cons]
  · cases pieces (· == slash) p.bytes with
    | nil => rfl
    | cons q qs =>
        rw [relative]
        by_cases hq : q = [dot]
        · subst hq
          have hdot : inner [dot] = none := inner_eq_none_iff.mpr (.inr rfl)
          rw [List.filterMap_cons_none hdot]
          cases qs.filterMap inner with
          | nil => simp
          | cons c cs => rw [if_pos (by simp), List.singleton_append, List.getLast?_cons_cons]
        · rw [if_neg (by simpa using hq)]
          cases hi : inner q with
          | none => rw [List.filterMap_cons_none hi, Option.toList_none, List.nil_append]
          | some c => rw [List.filterMap_cons_some hi, Option.toList_some, List.singleton_append]

/-! ### File names -/

/-- A path ends in the plain name `n`: nothing or a slash stands before it, and behind it there are
slashes only, and single dots that follow one. -/
def EndsIn (p : Path) (n : Bytes) : Prop :=
  IsPlainName n ∧ ∃ (front : Bytes) (blanks : List Bytes),
    p.bytes = front ++ n ++ blanks.flatMap (slash :: ·) ∧
    (front = [] ∨ ∃ above, front = above ++ [slash]) ∧ ∀ b ∈ blanks, b = [] ∨ b = [dot]

theorem fileName?_eq_some_iff_pieces : p.fileName? = some n ↔
    ∃ before blanks, pieces (· == slash) p.bytes = before ++ n :: blanks ∧ IsPlainName n ∧
      ∀ b ∈ blanks, b = [] ∨ b = [dot] := by
  have hname : p.fileName? = some n ↔ p.components.getLast? = some (.name n) := by
    unfold fileName?
    split
    · next k hk => simp [hk]
    · next hk => simpa using hk n
  rw [hname, getLast?_components_eq_name_iff, List.getLast?_filterMap, List.findSome?_eq_some_iff]
  constructor
  · rintro ⟨blanks, q, before, hrev, hq, hblanks⟩
    obtain ⟨rfl, h₁, h₂, h₃⟩ := inner_eq_name_iff.mp hq
    have hps : pieces (· == slash) p.bytes = before.reverse ++ q :: blanks.reverse := by
      rw [← List.reverse_reverse (pieces _ _), hrev]
      simp
    refine ⟨_, _, hps, ⟨h₁, h₂, h₃, ?_⟩, ?_⟩
    · have hmem : q ∈ pieces (· == slash) p.bytes := by simp [hps]
      exact fun b hb => not_sep_of_mem_pieces (· == slash) hmem hb
    · exact fun b hb => inner_eq_none_iff.mp (hblanks b (List.mem_reverse.mp hb))
  · rintro ⟨before, blanks, hps, ⟨h₁, h₂, h₃, _⟩, hblanks⟩
    refine ⟨blanks.reverse, n, before.reverse, by simp [hps], inner_eq_name h₁ h₂ h₃, ?_⟩
    exact fun b hb => inner_eq_none_iff.mpr (hblanks b (List.mem_reverse.mp hb))

theorem IsPlainName.slash_not_mem (h : IsPlainName n) : slash ∉ n :=
  fun hmem => by simpa using h.2.2.2 slash hmem

/-- The file name of a path is the plain name that it ends in. -/
theorem fileName?_eq_some_iff : p.fileName? = some n ↔ p.EndsIn n := by
  rw [fileName?_eq_some_iff_pieces]
  constructor
  · rintro ⟨before, blanks, hps, hn, hblanks⟩
    refine ⟨hn, ?_⟩
    cases before with
    | nil =>
        obtain ⟨hbytes, _⟩ := pieces_eq_cons_iff.mp hps
        exact ⟨[], blanks, hbytes, .inl rfl, hblanks⟩
    | cons q qs =>
        rw [List.cons_append, pieces_eq_cons_iff] at hps
        refine ⟨q ++ qs.flatMap (slash :: ·) ++ [slash], blanks, ?_, .inr ⟨_, rfl⟩, hblanks⟩
        rw [hps.1]
        simp
  · rintro ⟨hn, front, blanks, hbytes, hfront, hblanks⟩
    have hslash : ∀ b ∈ blanks, slash ∉ b := by
      intro b hb
      obtain rfl | rfl := hblanks b hb <;> decide
    have hback : pieces (· == slash) (n ++ blanks.flatMap (slash :: ·)) = n :: blanks :=
      pieces_eq_cons_iff.mpr ⟨rfl, hn.slash_not_mem, hslash⟩
    rw [hbytes, List.append_assoc]
    obtain rfl | ⟨above, rfl⟩ := hfront
    · exact ⟨[], blanks, hback, hn, hblanks⟩
    · refine ⟨pieces (· == slash) above, blanks, ?_, hn, hblanks⟩
      rw [List.append_assoc, List.singleton_append, pieces_append_cons (by decide), hback]

/-! ### Extensions -/

/-- A name in pieces between dots has the last one as its extension, unless only an empty one stands
before that. -/
theorem extensionOf_of_pieces {q last : Bytes} {rest : List Bytes}
    (h : pieces (· == dot) n = q :: rest ++ [last]) :
    extensionOf n = if q = [] ∧ rest = [] then none else some last := by
  unfold extensionOf
  rw [h, List.reverse_append, List.reverse_singleton, List.singleton_append]
  cases hr : (q :: rest).reverse with
  | nil => simp at hr
  | cons before earlier =>
      have hfirst : before :: earlier = [[]] ↔ q = [] ∧ rest = [] := by
        rw [← hr, List.reverse_eq_iff]
        simp
      simpa using if_congr hfirst rfl rfl

/-- The extension of a name is what stands behind its last dot, if something stands before that. -/
theorem extensionOf_eq_some_iff :
    extensionOf n = some ext ↔ ∃ stem, n = stem ++ dot :: ext ∧ stem ≠ [] ∧ dot ∉ ext := by
  constructor
  · intro h
    obtain ⟨q, qs, hq⟩ := List.exists_cons_of_ne_nil (pieces_ne_nil (· == dot) n)
    obtain ⟨hn, _, hdots⟩ := pieces_eq_cons_iff.mp hq
    obtain rfl | ⟨rest, last, rfl⟩ := qs.eq_nil_or_concat'
    · rw [extensionOf, hq] at h
      cases h
    · rw [extensionOf_of_pieces hq] at h
      split at h
      · cases h
      · next hfirst =>
          cases h
          refine ⟨q ++ rest.flatMap (dot :: ·), by simp [hn], ?_, hdots ext (by simp)⟩
          intro hstem
          obtain ⟨hq, hrest⟩ := List.append_eq_nil_iff.mp hstem
          refine hfirst ⟨hq, ?_⟩
          cases rest with
          | nil => rfl
          | cons _ _ => cases hrest
  · rintro ⟨stem, rfl, hstem, hext⟩
    obtain ⟨q, rest, hq⟩ := List.exists_cons_of_ne_nil (pieces_ne_nil (· == dot) stem)
    have hone : pieces (· == dot) ext = [ext] :=
      pieces_eq_cons_iff.mpr ⟨by simp, hext, by simp⟩
    have hpieces : pieces (· == dot) (stem ++ dot :: ext) = q :: rest ++ [ext] := by
      rw [pieces_append_cons (by decide), hone, hq]
    rw [extensionOf_of_pieces hpieces, if_neg]
    rintro ⟨rfl, rfl⟩
    exact hstem (pieces_eq_cons_iff.mp hq).1

/-! ### One component more -/

theorem relative_append_name {ps : List Bytes} (hn : inner n = some (.name n)) :
    relative (ps ++ [n]) = relative ps ++ [.name n] := by
  cases ps with
  | nil =>
      have hdot : n ≠ [dot] := (inner_eq_name_iff.mp hn).2.2.1
      simp [relative, hn, hdot]
  | cons q ps =>
      simp [relative, List.filterMap_append, hn]

theorem filterMap_inner_of_blank {blanks : List Bytes} (h : blanks.all (· == []) = true) :
    blanks.filterMap inner = [] := by
  rw [List.filterMap_eq_nil_iff]
  intro b hb
  have hb' : b = [] := by simpa using List.all_eq_true.mp h b hb
  exact inner_eq_none_iff.mpr (.inl hb')

theorem relative_append_blanks {ps blanks : List Bytes} (h : blanks.all (· == []) = true) :
    relative (ps ++ blanks) = relative ps := by
  cases ps with
  | nil =>
      cases blanks with
      | nil => rfl
      | cons b bs =>
          rw [List.all_cons, Bool.and_eq_true, beq_iff_eq] at h
          obtain ⟨rfl, hbs⟩ := h
          simp [relative, filterMap_inner_of_blank hbs, inner_eq_none_iff.mpr (.inl rfl)]
  | cons q ps =>
      rw [List.cons_append, relative, relative, List.filterMap_append, filterMap_inner_of_blank h,
        List.append_nil]

/-- A plain name put behind a path is one more component. -/
theorem components_join (hn : IsPlainName n) (dir : Path) :
    (dir.join ⟨n⟩).components = dir.components ++ [.name n] := by
  have hname : inner n = some (.name n) := inner_eq_name hn.1 hn.2.1 hn.2.2.1
  have hone : pieces (· == slash) n = [n] := pieces_eq_singleton _ hn.2.2.2
  by_cases hdir : dir.bytes = []
  · have hjoin : dir.join ⟨n⟩ = ⟨n⟩ := by
      simp [join, hn.isAbsolute, hdir]
    have habs : dir.isAbsolute = false := by simp [isAbsolute, hdir]
    rw [hjoin]
    simp only [components, hn.isAbsolute, habs, hdir, hone, Bool.false_eq_true, if_false]
    have happ : relative ([] ++ [n]) = relative [] ++ [.name n] := relative_append_name hname
    exact happ
  · obtain ⟨ps, blanks, hblanks, hps, hjoin⟩ := exists_pieces_join hdir hn
    have habs := isAbsolute_join hdir hn
    unfold components
    rw [hjoin, hps, habs]
    dsimp only
    split
    · simp [List.filterMap_append, hname, filterMap_inner_of_blank hblanks]
    · rw [relative_append_name hname, relative_append_blanks hblanks]

/-- Paths in one directory are the same exactly if their names are. -/
theorem same_join_iff (hn : IsPlainName n) (hm : IsPlainName m) (dir : Path) :
    (dir.join ⟨n⟩).same (dir.join ⟨m⟩) = true ↔ n = m := by
  unfold same
  rw [components_join hn, components_join hm, beq_iff_eq, List.append_cancel_left_eq]
  simp

theorem fileName?_join (hn : IsPlainName n) (dir : Path) : (dir.join ⟨n⟩).fileName? = some n := by
  unfold fileName?
  rw [components_join hn, List.getLast?_concat]

end Path

end ShaderBuild
