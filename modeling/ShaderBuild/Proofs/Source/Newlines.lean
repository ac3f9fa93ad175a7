import Mathlib.Data.List.Sort
import ShaderBuild.Proofs.Source.Outline
import ShaderBuild.Proofs.Source.Splitting

/-! # Universal line ends

A text has the same lines as when all its line ends are first made `\n`, the text is cut there, and
an empty last piece is dropped.  The pieces with the line ends behind them make up the text
(`CutsInto`), so none of it is lost or read twice (`lines_ofText_eq_reference`). -/

namespace ShaderBuild

/-- A text with every `\r\n` replaced by `\n`. -/
def unpaired : List Char → List Char
  | [] => []
  | '\r' :: '\n' :: cs => '\n' :: unpaired cs
  | c :: cs => c :: unpaired cs

/-- A text with every `\r\n`, and then every `\r` that is left, replaced by `\n`. -/
def feedsOnly (cs : List Char) : List Char :=
  (unpaired cs).map fun c => if c = '\r' then '\n' else c

/-- Pieces without the last one if it is empty. -/
def dropEmptyLast (ps : List (List Char)) : List (List Char) :=
  if ps.getLast? = some [] then ps.dropLast else ps

/-- A piece without `\n`, `\r`, tabs and spaces at both of its ends. -/
def trimmed (l : List Char) : List Char :=
  (l.dropWhile (· ∈ ['\n', '\r', '\t', ' '])).rdropWhile (· ∈ ['\n', '\r', '\t', ' '])

/-- The lines of a text. -/
def referenceLines (text : String) : List String :=
  (dropEmptyLast ((feedsOnly text.toList).splitOn '\n')).map fun l => String.ofList (trimmed l)

/-- The text of lines with the line ends behind them. -/
def rejoined (cuts : List (List Char × String)) : List Char :=
  cuts.flatMap fun x => x.1 ++ x.2.toList

/-- The text `cs` is cut into lines with the line ends behind them.  A `\r` is a line end only where
no `\n` follows, and the last line may have no line end if it is not empty. -/
structure CutsInto (cs : List Char) (cuts : List (List Char × String)) : Prop where
  rejoined_eq : rejoined cuts = cs
  no_line_end : ∀ x ∈ cuts, ∀ c ∈ x.1, c ≠ '\n' ∧ c ≠ '\r'
  line_end : ∀ pre x post, cuts = pre ++ x :: post → x.2 = "\n" ∨ x.2 = "\r\n" ∨
    x.2 = "\r" ∧ (rejoined post).head? ≠ some '\n' ∨ x.2 = "" ∧ x.1 ≠ [] ∧ post = []

/-! ### Line ends made the same -/

section
variable {l cs : List Char} {ls : List (List Char)}

theorem unpaired_cons {c : Char} (h : c ≠ '\r' ∨ cs.head? ≠ some '\n') :
    unpaired (c :: cs) = c :: unpaired cs := by
  rw [unpaired.eq_3]
  rintro cs' rfl rfl
  exact h.elim (fun hc => hc rfl) fun hcs => hcs rfl

/-- What holds no line end stays as it is. -/
theorem feedsOnly_append (hl : ∀ c ∈ l, c ≠ '\n' ∧ c ≠ '\r') (cs : List Char) :
    feedsOnly (l ++ cs) = l ++ feedsOnly cs := by
  induction l with
  | nil => rfl
  | cons c l ih =>
      have hc := (hl c List.mem_cons_self).2
      have hrest := ih fun d hd => hl d (List.mem_cons_of_mem c hd)
      rw [feedsOnly] at hrest ⊢
      rw [List.cons_append, unpaired_cons (.inl hc), List.map_cons, if_neg hc, hrest]
      rfl

theorem feedsOnly_feed (cs : List Char) : feedsOnly ('\n' :: cs) = '\n' :: feedsOnly cs := by
  rw [feedsOnly, unpaired_cons (.inl (by decide))]
  rfl

theorem feedsOnly_both (cs : List Char) : feedsOnly ('\r' :: '\n' :: cs) = '\n' :: feedsOnly cs :=
  rfl

theorem feedsOnly_lone (h : cs.head? ≠ some '\n') :
    feedsOnly ('\r' :: cs) = '\n' :: feedsOnly cs := by
  rw [feedsOnly, unpaired_cons (.inr h)]
  rfl

/-! ### Pieces -/

theorem dropEmptyLast_cons (l : List Char) (h : ls ≠ []) :
    dropEmptyLast (l :: ls) = l :: dropEmptyLast ls := by
  obtain ⟨p, ps, rfl⟩ := List.exists_cons_of_ne_nil h
  unfold dropEmptyLast
  rw [List.getLast?_cons_cons]
  split
  · rw [List.dropLast_cons_cons]
  · rfl

/-- A `\n` ends a piece. -/
theorem dropEmptyLast_splitOn (hl : ∀ c ∈ l, c ≠ '\n' ∧ c ≠ '\r') (cs : List Char) :
    dropEmptyLast ((l ++ '\n' :: cs).splitOn '\n') = l :: dropEmptyLast (cs.splitOn '\n') := by
  have hmem : '\n' ∉ l := fun hn => (hl '\n' hn).1 rfl
  rw [List.splitOn_append_cons_self_of_not_mem hmem, dropEmptyLast_cons l (List.splitOn_ne_nil _ _)]

/-- The pieces between line ends that are all `\n` are the physical lines. -/
theorem BreaksInto.dropEmptyLast_eq (h : BreaksInto cs ls) :
    dropEmptyLast ((feedsOnly cs).splitOn '\n') = ls := by
  induction h with
  | nil => rfl
  | @last l hl hne =>
      have hmem : '\n' ∉ l := fun hn => (hl '\n' hn).1 rfl
      have hfeeds : feedsOnly l = l := by
        have h := feedsOnly_append hl []
        rwa [List.append_nil, show feedsOnly [] = [] from rfl, List.append_nil] at h
      rw [hfeeds, List.splitOn_eq_singleton hmem, dropEmptyLast, if_neg (by simpa using hne)]
  | feed hl _ ih => rw [feedsOnly_append hl, feedsOnly_feed, dropEmptyLast_splitOn hl, ih]
  | both hl _ ih => rw [feedsOnly_append hl, feedsOnly_both, dropEmptyLast_splitOn hl, ih]
  | lone hl hhead _ ih =>
      rw [feedsOnly_append hl, feedsOnly_lone hhead, dropEmptyLast_splitOn hl, ih]

theorem trimmed_eq_stripped (l : List Char) : trimmed l = stripped l := by
  have hmargin : (fun c => decide (c ∈ ['\n', '\r', '\t', ' '])) = isMargin := by
    funext c
    rw [Bool.eq_iff_iff]
    simp [isMargin, or_assoc]
  rw [stripped_eq_rdropWhile, trimmed, hmargin]

/-! ### Lines with their line ends -/

theorem rejoined_cons (x : List Char × String) (cuts : List (List Char × String)) :
    rejoined (x :: cuts) = x.1 ++ x.2.toList ++ rejoined cuts :=
  List.flatMap_cons

theorem CutsInto.nil : CutsInto [] [] :=
  ⟨rfl, by simp, by simp⟩

theorem CutsInto.cons {cuts : List (List Char × String)} {e : String} (h : CutsInto cs cuts)
    (hl : ∀ c ∈ l, c ≠ '\n' ∧ c ≠ '\r')
    (he : e = "\n" ∨ e = "\r\n" ∨ e = "\r" ∧ cs.head? ≠ some '\n' ∨ e = "" ∧ l ≠ [] ∧ cuts = []) :
    CutsInto (l ++ e.toList ++ cs) ((l, e) :: cuts) := by
  refine ⟨by rw [rejoined_cons, h.rejoined_eq], List.forall_mem_cons.mpr ⟨hl, h.no_line_end⟩, ?_⟩
  intro pre x post hsplit
  -- The line end in question is the first one, or one that was there before.
  cases pre with
  | nil =>
      cases hsplit
      rwa [h.rejoined_eq]
  | cons y pre =>
      cases hsplit
      exact h.line_end pre x post rfl

theorem BreaksInto.exists_cutsInto (h : BreaksInto cs ls) :
    ∃ cuts, CutsInto cs cuts ∧ cuts.map Prod.fst = ls := by
  induction h with
  | nil => exact ⟨[], .nil, rfl⟩
  | @last l hl hne =>
      have hcuts := CutsInto.nil.cons hl (.inr (.inr (.inr ⟨rfl, hne, rfl⟩)))
      rw [String.toList_empty, List.append_nil, List.append_nil] at hcuts
      exact ⟨_, hcuts, rfl⟩
  | @feed l cs ls hl _ ih =>
      obtain ⟨cuts, hcs, rfl⟩ := ih
      have hcuts := hcs.cons hl (.inl rfl)
      rw [List.append_assoc] at hcuts
      exact ⟨_, hcuts, rfl⟩
  | @both l cs ls hl _ ih =>
      obtain ⟨cuts, hcs, rfl⟩ := ih
      have hcuts := hcs.cons hl (.inr (.inl rfl))
      rw [List.append_assoc] at hcuts
      exact ⟨_, hcuts, rfl⟩
  | @lone l cs ls hl hhead _ ih =>
      obtain ⟨cuts, hcs, rfl⟩ := ih
      have hcuts := hcs.cons hl (.inr (.inr (.inl ⟨rfl, hhead⟩)))
      rw [List.append_assoc] at hcuts
      exact ⟨_, hcuts, rfl⟩

end

/-! ### The lines of a text -/

theorem map_text_numberedLines (text : String) :
    (numberedLines text).map Line.text =
      (physicalLines text.toList).map fun l => String.ofList (trimmed l) := by
  simp only [trimmed_eq_stripped]
  exact SourceFile.texts_ofText ⟨[]⟩ text

/-- A text is read as the lines that are computed from it.  Their texts are its reference lines and
hold no line ends, they have the numbers from zero on in order, so that the line at a place is the
one with its number, and the pieces with the line ends behind them make the text up. -/
theorem lines_ofText_eq_reference (path : Path) (text : String) :
    (SourceFile.ofText path text).path = path ∧
    (SourceFile.ofText path text).lines = numberedLines text ∧
    (numberedLines text).map Line.text = referenceLines text ∧
    (numberedLines text).map Line.index = List.range (numberedLines text).length ∧
    (∀ i l, (SourceFile.ofText path text).line? i = some l ↔ l ∈ numberedLines text ∧ l.index = i) ∧
    (∀ i, ((SourceFile.ofText path text).line? i).isSome ↔ i < (numberedLines text).length) ∧
    (∀ l ∈ numberedLines text, ∀ c ∈ l.text.toList, c ≠ '\n' ∧ c ≠ '\r') ∧
    ∃ cuts, CutsInto text.toList cuts ∧
      (numberedLines text).map Line.text = cuts.map fun x => String.ofList (trimmed x.1) := by
  have hbreaks := breaksInto_physicalLines text.toList
  refine ⟨rfl, rfl, ?_, map_index_numberedLines text,
    fun i l => getElem?_eq_some_iff_of_numbered (map_index_numberedLines text), fun i => ?_,
    fun l hl => ?_, ?_⟩
  · rw [map_text_numberedLines, referenceLines, hbreaks.dropEmptyLast_eq]
  · rw [SourceFile.line?, isSome_getElem?]
    rfl
  · have hmem : l.text ∈ (SourceFile.ofText path text).texts := List.mem_map_of_mem hl
    exact (SourceFile.clean_of_mem_ofText hmem).no_line_end
  · obtain ⟨cuts, hcuts, hmap⟩ := hbreaks.exists_cutsInto
    refine ⟨cuts, hcuts, ?_⟩
    rw [map_text_numberedLines, ← hmap, List.map_map]
    rfl

example : numberedLines "a\r\r\nb\n\r c\r" =
    [⟨0, "a"⟩, ⟨1, ""⟩, ⟨2, "b"⟩, ⟨3, ""⟩, ⟨4, "c"⟩] := by
  decide +kernel

example : referenceLines "a\r\r\nb\n\r c\r" = ["a", "", "b", "", "c"] := by
  decide +kernel

end ShaderBuild
