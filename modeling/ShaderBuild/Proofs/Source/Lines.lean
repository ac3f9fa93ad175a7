import Mathlib.Data.List.DropRight
import ShaderBuild.Proofs.Source.Numbered

/-! # The lines of a text

Every line of a source file is `Clean`: it holds no line end and has no margin at its ends.  Clean
lines that are joined are read back as they were, up to a blank line at the very end
(`SourceFile.texts_ofText_intercalate`). -/

namespace ShaderBuild

/-- A line as source files hold them: without line ends, and stripped. -/
structure Clean (t : String) : Prop where
  no_line_end : ∀ c ∈ t.toList, c ≠ '\n' ∧ c ≠ '\r'
  stripped_eq : stripped t.toList = t.toList

/-! ### Stripping -/

theorem stripped_eq_rdropWhile (cs : List Char) :
    stripped cs = (cs.dropWhile isMargin).rdropWhile isMargin := rfl

theorem mem_of_mem_stripped {cs : List Char} {c : Char} (h : c ∈ stripped cs) : c ∈ cs := by
  have hsub := (List.rdropWhile_prefix isMargin (l := cs.dropWhile isMargin)).sublist.trans
    (List.dropWhile_sublist isMargin)
  exact hsub.subset h

/-- What is cut off at the end leaves the beginning as it is. -/
theorem dropWhile_rdropWhile {α : Type} (p : α → Bool) {l : List α} (h : l.dropWhile p = l) :
    (l.rdropWhile p).dropWhile p = l.rdropWhile p := by
  rw [List.dropWhile_eq_self_iff] at h ⊢
  intro hl
  have hpre := List.rdropWhile_prefix p (l := l)
  rw [hpre.getElem hl]
  exact h (Nat.lt_of_lt_of_le hl hpre.length_le)

theorem stripped_stripped (cs : List Char) : stripped (stripped cs) = stripped cs := by
  simp only [stripped_eq_rdropWhile]
  rw [dropWhile_rdropWhile isMargin (List.dropWhile_idempotent isMargin cs),
    List.rdropWhile_idempotent]

/-! ### Line ends -/

theorem physicalLines_cons {c : Char} (h : c ≠ '\n' ∧ c ≠ '\r') (cs : List Char) :
    physicalLines (c :: cs) = consFirst c (physicalLines cs) := by
  rw [physicalLines.eq_3 c cs (by rintro _ rfl; exact absurd rfl h.2), if_neg (not_or.mpr h)]

/-- A line end ends the first line. -/
theorem physicalLines_append_newline {l : List Char} (h : ∀ c ∈ l, c ≠ '\n' ∧ c ≠ '\r')
    (cs : List Char) : physicalLines (l ++ '\n' :: cs) = l :: physicalLines cs := by
  induction l with
  | nil => rfl
  | cons c l ih =>
      rw [List.cons_append, physicalLines_cons (h c List.mem_cons_self),
        ih fun d hd => h d (List.mem_cons_of_mem c hd)]
      rfl

/-- Without a line end there is one line, unless there is no text. -/
theorem physicalLines_of_no_line_end {l : List Char} (h : ∀ c ∈ l, c ≠ '\n' ∧ c ≠ '\r')
    (hne : l ≠ []) : physicalLines l = [l] := by
  induction l with
  | nil => exact absurd rfl hne
  | cons c l ih =>
      rw [physicalLines_cons (h c List.mem_cons_self)]
      cases l with
      | nil => rfl
      | cons d l =>
          rw [ih (fun e he => h e (List.mem_cons_of_mem c he)) (List.cons_ne_nil d l)]
          rfl

theorem no_line_end_of_mem_physicalLines {cs l : List Char} (hl : l ∈ physicalLines cs) :
    ∀ c ∈ l, c ≠ '\n' ∧ c ≠ '\r' := by
  induction cs using physicalLines.induct generalizing l with
  | case1 => cases hl
  | case2 cs ih =>
      rcases List.mem_cons.mp hl with rfl | hl
      · simp
      · exact ih hl
  | case3 c cs hne hc ih =>
      rw [physicalLines.eq_3 c cs hne, if_pos hc] at hl
      rcases List.mem_cons.mp hl with rfl | hl
      · simp
      · exact ih hl
  | case4 c cs hne hc ih =>
      rw [physicalLines.eq_3 c cs hne, if_neg hc] at hl
      cases hps : physicalLines cs with
      | nil =>
          rw [hps] at hl
          obtain rfl := List.mem_singleton.mp hl
          simpa using not_or.mp hc
      | cons p ps =>
          rw [hps] at hl ih
          rcases List.mem_cons.mp hl with rfl | hl
          · intro d hd
            rcases List.mem_cons.mp hd with rfl | hd
            · exact not_or.mp hc
            · exact ih List.mem_cons_self d hd
          · exact ih (List.mem_cons_of_mem p hl)

/-! ### Reading lines -/

theorem clean_empty : Clean "" := by
  constructor <;> simp [stripped]

namespace SourceFile

theorem load_eq_ok_iff {disk : Disk} {p : Path} {file : SourceFile} :
    load disk p = .ok file ↔ ∃ text, disk.readText p = .ok text ∧ file = ofText p text := by
  unfold load
  cases disk.readText p with
  | ok text => simp [eq_comm]
  | error cause => cases cause <;> simp

theorem eq_of_load_eq_error {disk : Disk} {p : Path} {e : SourceFault}
    (h : load disk p = .error e) :
    (disk.readText p = .error .notFound ∧ e = .fileNotFound p) ∨
      ∃ cause, disk.readText p = .error cause ∧ cause ≠ .notFound ∧ e = .readError p cause := by
  unfold load at h
  split at h
  · cases h
  · next hc =>
      cases h
      exact .inl ⟨hc, rfl⟩
  · next cause hne hc =>
      cases h
      exact .inr ⟨cause, hc, hne, rfl⟩

theorem load_path {disk : Disk} {p : Path} {file : SourceFile} (h : load disk p = .ok file) :
    file.path = p := by
  obtain ⟨text, _, rfl⟩ := load_eq_ok_iff.mp h
  rfl

theorem texts_ofText (path : Path) (text : String) :
    (ofText path text).texts =
      (physicalLines text.toList).map fun l => String.ofList (stripped l) := by
  change (numberedLines text).map Line.text = _
  unfold numberedLines
  conv_rhs => rw [← List.zipIdx_map_fst 0 (physicalLines text.toList)]
  rw [List.map_map, List.map_map]
  rfl

theorem clean_of_mem_ofText {path : Path} {text t : String} (h : t ∈ (ofText path text).texts) :
    Clean t := by
  rw [texts_ofText] at h
  obtain ⟨l, hl, rfl⟩ := List.mem_map.mp h
  constructor
  · intro c hc
    rw [String.toList_ofList] at hc
    exact no_line_end_of_mem_physicalLines hl c (mem_of_mem_stripped hc)
  · rw [String.toList_ofList, stripped_stripped]

/-- Every line that is loaded is clean. -/
theorem clean_of_mem_load {disk : Disk} {path : Path} {f : SourceFile}
    (hf : load disk path = .ok f) {t : String} (h : t ∈ f.texts) : Clean t := by
  obtain ⟨text, _, rfl⟩ := load_eq_ok_iff.mp hf
  exact clean_of_mem_ofText h

theorem texts_ofText_of_ne_empty {t : String} (h : Clean t) (hne : t ≠ "") (path : Path) :
    (ofText path t).texts = [t] := by
  have hne' : t.toList ≠ [] := fun he => hne (String.toList_eq_nil_iff.mp he)
  rw [texts_ofText, physicalLines_of_no_line_end h.no_line_end hne', List.map_singleton,
    h.stripped_eq, String.ofList_toList]

theorem texts_ofText_append_newline {t : String} (h : Clean t) (path : Path) (s : String) :
    (ofText path (t ++ "\n" ++ s)).texts = t :: (ofText path s).texts := by
  have hs : (t ++ "\n" ++ s).toList = t.toList ++ '\n' :: s.toList := by
    simp
  rw [texts_ofText, texts_ofText, hs, physicalLines_append_newline h.no_line_end, List.map_cons,
    h.stripped_eq, String.ofList_toList]

/-- Clean lines that are joined are read back; a blank line at the very end is not. -/
theorem texts_ofText_intercalate {ls : List String} (h : ∀ t ∈ ls, Clean t) (path : Path) :
    (ofText path ("\n".intercalate ls)).texts =
      if ls.getLast? = some "" then ls.dropLast else ls := by
  induction ls with
  | nil => rfl
  | cons t ls ih =>
      have ht := h t List.mem_cons_self
      cases ls with
      | nil =>
          rw [String.intercalate_singleton]
          by_cases hb : t = ""
          · subst hb
            rfl
          · rw [texts_ofText_of_ne_empty ht hb, if_neg (by simpa using hb)]
      | cons u ls =>
          rw [String.intercalate_cons_cons, texts_ofText_append_newline ht,
            ih fun t ht => h t (List.mem_cons_of_mem _ ht), List.getLast?_cons_cons]
          split_ifs
          · rw [List.dropLast_cons_cons]
          · rfl

end SourceFile

end ShaderBuild
