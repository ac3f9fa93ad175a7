import Mathlib.Data.List.Basic
import ShaderBuild.Proofs.Source.Numbered
import ShaderBuild.Source.Directive

/-! # The outline of a file

A line from which a path can be read begins with the include token
(`isIncludeLine_of_includePath?`), so a line that is no include names nothing, and no line is an
include and a marker.  Scanning goes through the lines once (`scan_eq`): the outline of a file lists
the numbers of its include lines and of its one marker (`outline_eq_ok_iff`). -/

namespace ShaderBuild

/-! ### The form of include and marker lines -/

/-- The first piece is the whole list, or a separator and the other pieces come after it. -/
theorem eq_of_pieces_eq_cons {α : Type} {sep : α → Bool} {xs p : List α} {ps : List (List α)}
    (h : pieces sep xs = p :: ps) :
    (ps = [] ∧ xs = p) ∨ ∃ s ys, sep s = true ∧ xs = p ++ s :: ys ∧ pieces sep ys = ps := by
  induction xs generalizing p ps with
  | nil =>
      obtain ⟨rfl, rfl⟩ : p = [] ∧ ps = [] := by simpa [pieces, eq_comm] using h
      exact Or.inl ⟨rfl, rfl⟩
  | cons x xs ih =>
      unfold pieces at h
      split at h
      · next hx =>
          obtain ⟨rfl, rfl⟩ := List.cons.inj h
          exact Or.inr ⟨x, xs, hx, rfl, rfl⟩
      · cases hq : pieces sep xs with
        | nil => exact absurd hq (pieces_ne_nil sep xs)
        | cons q qs =>
            rw [hq] at h
            obtain ⟨rfl, rfl⟩ := List.cons.inj h
            rcases ih hq with ⟨rfl, rfl⟩ | ⟨s, ys, hs, rfl, hys⟩
            · exact Or.inl ⟨rfl, rfl⟩
            · exact Or.inr ⟨s, ys, hs, rfl, hys⟩

theorem includePath?_empty : includePath? "" = none := by
  decide

theorem isIncludeLine_of_includePath? {text target : String} (h : includePath? text = some target) :
    isIncludeLine text = true := by
  unfold includePath? at h
  split at h
  · next token path hp =>
      split at h
      · next ht =>
          subst ht
          unfold isIncludeLine beginsWith
          rw [List.isPrefixOf_iff_prefix]
          rcases eq_of_pieces_eq_cons hp with ⟨hn, _⟩ | ⟨s, ys, _, hys, _⟩
          · cases hn
          · rw [hys]
            exact List.prefix_append _ _
      · cases h
  · cases h

theorem head?_of_beginsWith {t s : String} {c : Char} (hs : s.toList.head? = some c)
    (h : beginsWith t s = true) : t.toList.head? = some c := by
  obtain ⟨rest, hrest⟩ := List.isPrefixOf_iff_prefix.mp h
  rw [← hrest, List.head?_append, hs]
  rfl

/-- No line is a block marker and an include directive. -/
theorem isIncludeLine_of_isMarkerLine {t : String} (h : isMarkerLine t = true) :
    isIncludeLine t = false := by
  have hm : t.toList.head? = some 'U' := head?_of_beginsWith (by decide) h
  by_contra hi
  rw [Bool.not_eq_false] at hi
  have hi' : t.toList.head? = some '/' := head?_of_beginsWith (s := includeToken) (by decide) hi
  simp [hm] at hi'

/-! ### Scanning -/

/-- Scanning lines adds the includes among them to those found above, and the marker among them
unless there is one above or a second one. -/
theorem scan_eq (file : Path) (ds : List Directive) (marker : Option ℕ) (ls : List Line) :
    scan file ⟨ds, marker⟩ ls =
      match marker.toList ++ numbersWhere isMarkerLine ls with
      | first :: second :: _ => .error (.duplicateBlock ⟨file, second⟩ first)
      | markers => .ok ⟨ds ++ (numbersWhere isIncludeLine ls).map fun i => { line := i },
          markers.head?⟩ := by
  induction ls generalizing ds marker with
  | nil => cases marker <;> simp [scan, numbersWhere]
  | cons l ls ih =>
      rw [scan, numbersWhere_cons, numbersWhere_cons]
      cases hm : isMarkerLine l.text with
      | true =>
          rw [isIncludeLine_of_isMarkerLine hm]
          cases marker with
          | some first => simp
          | none => simpa using ih ds (some l.index)
      | false =>
          cases hi : isIncludeLine l.text with
          | true =>
              rw [if_pos rfl, if_pos rfl, if_neg Bool.false_ne_true, List.map_cons,
                List.append_cons ds _ (List.map _ (numbersWhere isIncludeLine ls))]
              exact ih (ds ++ [{ line := l.index }]) marker
          | false => simpa using ih ds marker

namespace SourceFile

/-! ### Numbers of lines -/

theorem mem_linesWhere {f : SourceFile} {p : String → Bool} {i : ℕ} :
    i ∈ f.linesWhere p ↔ ∃ text, f.text? i = some text ∧ p text = true := by
  simp only [linesWhere, numbersWhere, List.mem_map, List.mem_filter, text?, Option.map_eq_some_iff,
    line?, getElem?_eq_some_iff_of_numbered f.numbered]
  constructor
  · rintro ⟨l, ⟨hl, hp⟩, rfl⟩
    exact ⟨l.text, ⟨l, ⟨hl, rfl⟩, rfl⟩, hp⟩
  · rintro ⟨_, ⟨l, ⟨hl, rfl⟩, rfl⟩, hp⟩
    exact ⟨l, ⟨hl, hp⟩, rfl⟩

theorem linesWhere_eq_nil_iff {f : SourceFile} {p : String → Bool} :
    f.linesWhere p = [] ↔ ∀ t ∈ f.texts, p t = false := by
  rw [linesWhere, numbersWhere_eq_nil_iff, texts]

theorem pairwise_linesWhere (f : SourceFile) (p : String → Bool) :
    (f.linesWhere p).Pairwise (· < ·) := by
  have hnums : (f.lines.map Line.index).Pairwise (· < ·) := by
    rw [f.numbered]
    exact List.pairwise_lt_range
  exact hnums.sublist (List.filter_sublist.map Line.index)

/-- One line satisfies `p`, the others do not. -/
theorem linesWhere_eq_singleton_iff {f : SourceFile} {p : String → Bool} {i : ℕ} :
    f.linesWhere p = [i] ↔ ∃ pre t post, f.texts = pre ++ t :: post ∧ pre.length = i ∧
      p t = true ∧ (∀ u ∈ pre, p u = false) ∧ ∀ u ∈ post, p u = false := by
  constructor
  · intro h
    have honly : ∀ j u, f.texts[j]? = some u → p u = true → j = i := by
      intro j u hu hp
      have hj := mem_linesWhere.mpr ⟨u, (f.text?_eq j).trans hu, hp⟩
      rw [h] at hj
      exact List.mem_singleton.mp hj
    obtain ⟨t, ht, hp⟩ := mem_linesWhere.mp (h ▸ List.mem_singleton.mpr rfl)
    rw [text?_eq] at ht
    obtain ⟨hi, hget⟩ := List.getElem?_eq_some_iff.mp ht
    refine ⟨f.texts.take i, t, f.texts.drop (i + 1), ?_, by simp; omega, hp, ?_, ?_⟩
    · rw [← hget, List.getElem_cons_drop, List.take_append_drop]
    · intro u hu
      obtain ⟨j, hj, rfl⟩ := List.mem_take_iff_getElem.mp hu
      by_contra hpu
      have := honly j _ (List.getElem?_eq_getElem _) (by simpa using hpu)
      omega
    · intro u hu
      obtain ⟨j, hj, rfl⟩ := List.mem_drop_iff_getElem.mp hu
      by_contra hpu
      have := honly _ _ (List.getElem?_eq_getElem _) (by simpa using hpu)
      omega
  · rintro ⟨pre, t, post, hl, rfl, ht, hpre, hpost⟩
    have hnil : ∀ (us : List String) (k : ℕ), (∀ u ∈ us, p u = false) →
        numbersWhere p (numberedFrom k us) = [] := by
      intro us k hus
      rw [numbersWhere_eq_nil_iff, map_text_numberedFrom]
      exact hus
    rw [linesWhere, f.lines_eq_numberedFrom, hl, numberedFrom_append, numbersWhere_append,
      hnil pre _ hpre, numberedFrom, numbersWhere_cons, if_pos ht, hnil post _ hpost, Nat.zero_add,
      List.nil_append]

/-! ### Outlines -/

theorem outline_eq (f : SourceFile) :
    f.outline =
      match f.linesWhere isMarkerLine with
      | first :: second :: _ => .error (.duplicateBlock ⟨f.path, second⟩ first)
      | markers => .ok ⟨(f.linesWhere isIncludeLine).map fun i => { line := i }, markers.head?⟩ :=
  scan_eq f.path [] none f.lines

/-- An outline lists the include lines in order and the marker line, of which there is at most
one. -/
theorem outline_eq_ok_iff {f : SourceFile} {ds : List Directive} {marker : Option ℕ} :
    f.outline = .ok ⟨ds, marker⟩ ↔
      f.linesWhere isMarkerLine = marker.toList ∧
      ds = (f.linesWhere isIncludeLine).map (fun i => { line := i }) := by
  rw [outline_eq]
  match h : f.linesWhere isMarkerLine with
  | first :: second :: rest => cases marker <;> simp
  | [] => cases marker <;> simp [eq_comm]
  | [only] => cases marker <;> simp [eq_comm, and_comm]

/-- A file has no outline if it has a second marker. -/
theorem outline_eq_error_iff {f : SourceFile} {e : SourceFault} :
    f.outline = .error e ↔ ∃ first second rest,
      f.linesWhere isMarkerLine = first :: second :: rest ∧
        e = .duplicateBlock ⟨f.path, second⟩ first := by
  rw [outline_eq]
  match f.linesWhere isMarkerLine with
  | first :: second :: rest => simp [eq_comm]
  | [] => simp
  | [only] => simp

/-- The outline of a file with one marker and no include. -/
theorem outline_of_texts_eq {f : SourceFile} {pre post : List String} {m : String}
    (hl : f.texts = pre ++ m :: post) (hm : isMarkerLine m = true)
    (hpre : ∀ t ∈ pre, isMarkerLine t = false) (hpost : ∀ t ∈ post, isMarkerLine t = false)
    (hinc : ∀ t ∈ f.texts, isIncludeLine t = false) : f.outline = .ok ⟨[], some pre.length⟩ := by
  rw [outline_eq_ok_iff]
  constructor
  · exact linesWhere_eq_singleton_iff.mpr ⟨pre, m, post, hl, rfl, hm, hpre, hpost⟩
  · rw [linesWhere_eq_nil_iff.mpr hinc]
    rfl

end SourceFile

end ShaderBuild
