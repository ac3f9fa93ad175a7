import Mathlib.Data.List.Forall2
import Mathlib.Data.List.Induction
import ShaderBuild.Proofs.Source.Numbered
import ShaderBuild.Source.Assembly

/-! # Collecting texts and assembling

Directives are gone through once, and each puts its text over the one kept for its line
(`Expansions.get?_insert`).  So what is kept at the end is the text of the last directive for each
line (`exists_collect_eq_ok`), and the first directive without a text ends the pass
(`collect_of_unresolved`).  The second pass goes through the lines: each has one segment in the
assembled text (`SourceFile.assemble_eq`). -/

namespace ShaderBuild

/-- The text that stands for line `i`, which reads `text`, after resolved directives: that of the
last one for the line, or the line itself. -/
def segment (ds : List Directive) (i : ℕ) (text : String) : String :=
  ((ds.filter fun d => d.line == i).getLast?.bind Directive.resolved).getD text

/-- The segments of a file, one for each line. -/
def SourceFile.segments (f : SourceFile) (ds : List Directive) : List String :=
  f.lines.map fun line => segment ds line.index line.text

/-! ### The texts that are kept -/

theorem lookup_filter_ne {β : Type} {i j : ℕ} (h : i ≠ j) (entries : List (ℕ × β)) :
    (entries.filter fun x => x.1 != i).lookup j = entries.lookup j := by
  induction entries with
  | nil => rfl
  | cons x entries ih =>
      by_cases hx : x.1 = i
      · rw [List.filter_cons_of_neg (by simpa using hx), ih, List.lookup_cons,
          show (j == x.1) = false from beq_eq_false_iff_ne.mpr (hx ▸ h.symm)]
      · rw [List.filter_cons_of_pos (by simpa using hx), List.lookup_cons, List.lookup_cons, ih]

/-- A text is kept for its line in place of the one before, and the others stay. -/
theorem Expansions.get?_insert (m : Expansions) (i j : ℕ) (text : String) :
    (m.insert i text).get? j = if i = j then some text else m.get? j := by
  unfold insert get?
  rw [List.lookup_cons]
  by_cases h : i = j
  · rw [if_pos h, show (j == i) = true from beq_iff_eq.mpr h.symm]
  · rw [if_neg h, show (j == i) = false from beq_eq_false_iff_ne.mpr (Ne.symm h),
      lookup_filter_ne h]

/-! ### Segments -/

section
variable {ds : List Directive} {i : ℕ} {text s : String}

theorem segment_of_forall_ne (h : ∀ d ∈ ds, d.line ≠ i) : segment ds i text = text := by
  have hf : ds.filter (fun d => d.line == i) = [] := by
    rw [List.filter_eq_nil_iff]
    intro d hd
    simpa using h d hd
  simp [segment, hf]

/-- Directives that agree on the text for a line put that text in its place. -/
theorem segment_of_forall_resolved (hi : ∃ d ∈ ds, d.line = i)
    (h : ∀ d ∈ ds, d.line = i → d.resolved = some s) : segment ds i text = s := by
  obtain ⟨d, hd, hdi⟩ := hi
  have hne : ds.filter (fun d => d.line == i) ≠ [] := by
    apply List.ne_nil_of_mem
    exact List.mem_filter.mpr ⟨hd, by simpa using hdi⟩
  have hlast := List.getLast_mem hne
  rw [List.mem_filter] at hlast
  have hres := h _ hlast.1 (by simpa using hlast.2)
  rw [segment, List.getLast?_eq_getLast_of_ne_nil hne, Option.bind_some, hres]
  rfl

/-- A directive puts its text over that of the ones before it, on its own line only. -/
theorem segment_concat (ds : List Directive) (d : Directive) (i : ℕ) (text : String) :
    segment (ds ++ [d]) i text =
      if d.line = i then d.resolved.getD text else segment ds i text := by
  unfold segment
  rw [List.filter_append]
  by_cases hd : d.line = i
  · rw [if_pos hd, List.filter_cons_of_pos (by simpa using hd), List.filter_nil,
      List.getLast?_concat]
    rfl
  · rw [if_neg hd, List.filter_cons_of_neg (by simpa using hd), List.filter_nil, List.append_nil]

theorem SourceFile.forall₂_segments {f : SourceFile} {R : String → String → Prop}
    (h : ∀ i text, f.text? i = some text → R text (segment ds i text)) :
    List.Forall₂ R f.texts (f.segments ds) := by
  rw [segments, texts, List.forall₂_map_right_iff, List.forall₂_map_left_iff, List.forall₂_same]
  intro l hl
  have hline : f.line? l.index = some l :=
    (getElem?_eq_some_iff_of_numbered f.numbered).mpr ⟨hl, rfl⟩
  exact h l.index l.text (by rw [text?, hline, Option.map_some])

end

/-! ### The first pass -/

section
variable {file : Path} {m : Expansions} {ds : List Directive}

theorem collect_append (file : Path) (m : Expansions) (ds ds' : List Directive) :
    collect file m (ds ++ ds') = (collect file m ds).bind fun m' => collect file m' ds' := by
  induction ds generalizing m with
  | nil => rfl
  | cons d ds ih =>
      rw [List.cons_append, collect, collect]
      cases d.resolved with
      | none => rfl
      | some text => exact ih (m.insert d.line text)

/-- Resolved directives leave for each line the text of the last one for it. -/
theorem exists_collect_eq_ok (file : Path) (hall : ∀ d ∈ ds, d.resolved ≠ none) :
    ∃ m, collect file {} ds = .ok m ∧ ∀ i text, (m.get? i).getD text = segment ds i text := by
  -- The directives are gone through in the order in which they put their texts.
  induction ds using List.reverseRecOn with
  | nil => exact ⟨{}, rfl, fun _ _ => rfl⟩
  | append_singleton ds d ih =>
      obtain ⟨m, hm, hget⟩ := ih fun c hc => hall c (List.mem_append_left _ hc)
      obtain ⟨s, hs⟩ := Option.ne_none_iff_exists'.mp (hall d (by simp))
      refine ⟨m.insert d.line s, ?_, ?_⟩
      · rw [collect_append, hm]
        simp [Except.bind, collect, hs]
      · intro i text
        rw [segment_concat, Expansions.get?_insert, hs]
        split
        · rfl
        · exact hget i text

/-- The first directive that is not resolved ends the pass. -/
theorem collect_of_unresolved {before : List Directive} {d : Directive}
    (hbefore : ∀ c ∈ before, c.resolved ≠ none) (hd : d.resolved = none) (after : List Directive) :
    collect file {} (before ++ d :: after) = .error (.unresolvedInclude ⟨file, d.line⟩) := by
  obtain ⟨m, hm, _⟩ := exists_collect_eq_ok file hbefore
  rw [collect_append, hm]
  simp [Except.bind, collect, hd]

end

/-! ### Both passes -/

namespace SourceFile

theorem find?_unresolved_eq_some_iff {ds : List Directive} {d : Directive} :
    (ds.find? fun d => d.resolved.isNone) = some d ↔ d.resolved = none ∧
      ∃ before after, ds = before ++ d :: after ∧ ∀ c ∈ before, c.resolved ≠ none := by
  simp [List.find?_eq_some_iff_append, Option.isSome_iff_ne_none]

/-- Assembling fails on the first directive that is not resolved, and joins the segments if there is
none. -/
theorem assemble_eq (f : SourceFile) (ds : List Directive) :
    f.assemble ds =
      match ds.find? fun d => d.resolved.isNone with
      | some d => .error (.unresolvedInclude ⟨f.path, d.line⟩)
      | none => .ok ("\n".intercalate (f.segments ds)) := by
  unfold assemble
  cases hfind : ds.find? fun d => d.resolved.isNone with
  | some d =>
      obtain ⟨hd, before, after, rfl, hbefore⟩ := find?_unresolved_eq_some_iff.mp hfind
      rw [collect_of_unresolved hbefore hd]
      rfl
  | none =>
      obtain ⟨m, hm, hget⟩ := exists_collect_eq_ok f.path (by simpa using hfind)
      have hsegments : (f.lines.map fun line => (m.get? line.index).getD line.text) =
          f.segments ds := List.map_congr_left fun line _ => hget line.index line.text
      rw [hm, ← hsegments]
      rfl

variable {f : SourceFile} {ds : List Directive} {s : String}

theorem assemble_eq_error_iff {e : SourceFault} : f.assemble ds = .error e ↔
    ∃ before d after, ds = before ++ d :: after ∧ (∀ c ∈ before, c.resolved ≠ none) ∧
      d.resolved = none ∧ e = .unresolvedInclude ⟨f.path, d.line⟩ := by
  rw [assemble_eq]
  constructor
  · intro h
    split at h
    · next d hfind =>
        cases h
        obtain ⟨hd, before, after, rfl, hbefore⟩ := find?_unresolved_eq_some_iff.mp hfind
        exact ⟨before, d, after, rfl, hbefore, hd, rfl⟩
    · cases h
  · rintro ⟨before, d, after, rfl, hbefore, hd, rfl⟩
    have hfind := find?_unresolved_eq_some_iff.mpr ⟨hd, before, after, rfl, hbefore⟩
    simp only [hfind]

theorem assemble_eq_ok_iff : f.assemble ds = .ok s ↔
    (∀ d ∈ ds, d.resolved ≠ none) ∧ "\n".intercalate (f.segments ds) = s := by
  rw [assemble_eq]
  constructor
  · intro h
    split at h
    · cases h
    · next hfind =>
        cases h
        exact ⟨by simpa using hfind, rfl⟩
  · rintro ⟨hall, rfl⟩
    have hfind : ds.find? (fun d => d.resolved.isNone) = none := by
      simpa using hall
    simp only [hfind]

end SourceFile

end ShaderBuild
