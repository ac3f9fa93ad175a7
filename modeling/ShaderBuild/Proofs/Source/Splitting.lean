import ShaderBuild.Proofs.Source.Lines

/-! # Line ends and margins

`BreaksInto` says how a text splits into physical lines, one constructor for each line end, and
`physicalLines` computes it (`breaksInto_iff`).  Which line ends a text has and what margin its
lines have is lost when it is read: texts are read as the same lines exactly if their physical lines
are the same without spaces and tabs around them (`sameLines_iff`). -/

namespace ShaderBuild

/-- `BreaksInto cs ls`: the text `cs` splits at `\n`, `\r\n` and lone `\r` into the lines `ls`.
What stands behind the last line end is a line unless it is empty. -/
inductive BreaksInto : List Char → List (List Char) → Prop
  | nil : BreaksInto [] []
  | last {l} : (∀ c ∈ l, c ≠ '\n' ∧ c ≠ '\r') → l ≠ [] → BreaksInto l [l]
  | feed {l cs ls} : (∀ c ∈ l, c ≠ '\n' ∧ c ≠ '\r') → BreaksInto cs ls →
      BreaksInto (l ++ '\n' :: cs) (l :: ls)
  | both {l cs ls} : (∀ c ∈ l, c ≠ '\n' ∧ c ≠ '\r') → BreaksInto cs ls →
      BreaksInto (l ++ '\r' :: '\n' :: cs) (l :: ls)
  | lone {l cs ls} : (∀ c ∈ l, c ≠ '\n' ∧ c ≠ '\r') → cs.head? ≠ some '\n' → BreaksInto cs ls →
      BreaksInto (l ++ '\r' :: cs) (l :: ls)

/-- Whether a character is a tab or a space. -/
def isIndent (c : Char) : Bool :=
  c == '\t' || c == ' '

/-- A line without the spaces and tabs at both of its ends. -/
def unindented (l : List Char) : List Char :=
  (l.dropWhile isIndent).rdropWhile isIndent

/-- Two texts split into lines that are the same without the spaces and tabs around them. -/
def SameLines (text text' : String) : Prop :=
  ∃ ls ls', BreaksInto text.toList ls ∧ BreaksInto text'.toList ls' ∧
    ls.map unindented = ls'.map unindented

/-- The line ends. -/
def lineEnds : List String := ["\n", "\r\n", "\r"]

/-- Whether a text ends in a line that is not empty. -/
def EndsInLine (text : String) : Prop :=
  ∃ c, text.toList.getLast? = some c ∧ c ≠ '\n' ∧ c ≠ '\r'

/-! ### Physical lines -/

section
variable {l cs : List Char} {ls : List (List Char)} {c : Char}

/-- What stands before a line end grows into the first line. -/
theorem physicalLines_append (hl : ∀ c ∈ l, c ≠ '\n' ∧ c ≠ '\r')
    (h : physicalLines cs = [] :: ls) : physicalLines (l ++ cs) = l :: ls := by
  induction l with
  | nil => exact h
  | cons c l ih =>
      rw [List.cons_append, physicalLines_cons (hl c List.mem_cons_self),
        ih fun d hd => hl d (List.mem_cons_of_mem c hd)]
      rfl

theorem physicalLines_lone (h : cs.head? ≠ some '\n') :
    physicalLines ('\r' :: cs) = [] :: physicalLines cs := by
  rw [physicalLines.eq_3 '\r' cs (by rintro cs' - rfl; exact h rfl), if_pos (.inr rfl)]

theorem physicalLines_of_breaksInto (h : BreaksInto cs ls) : physicalLines cs = ls := by
  induction h with
  | nil => rfl
  | last hl hne => exact physicalLines_of_no_line_end hl hne
  | feed hl _ ih => rw [physicalLines_append_newline hl, ih]
  | both hl _ ih => exact physicalLines_append hl (by rw [physicalLines, ih])
  | lone hl hhead _ ih => exact physicalLines_append hl (by rw [physicalLines_lone hhead, ih])

/-- A character that ends no line grows into the first line. -/
theorem BreaksInto.cons (hc : c ≠ '\n' ∧ c ≠ '\r') (h : BreaksInto cs ls) :
    BreaksInto (c :: cs) (consFirst c ls) := by
  have hcons : ∀ {l : List Char}, (∀ d ∈ l, d ≠ '\n' ∧ d ≠ '\r') →
      ∀ d ∈ c :: l, d ≠ '\n' ∧ d ≠ '\r' :=
    fun hl => List.forall_mem_cons.mpr ⟨hc, hl⟩
  cases h with
  | nil => exact .last (hcons (by simp)) (List.cons_ne_nil c [])
  | last hl _ => exact .last (hcons hl) (List.cons_ne_nil c _)
  | feed hl h => exact .feed (hcons hl) h
  | both hl h => exact .both (hcons hl) h
  | lone hl hhead h => exact .lone (hcons hl) hhead h

theorem breaksInto_physicalLines (cs : List Char) : BreaksInto cs (physicalLines cs) := by
  induction cs using physicalLines.induct with
  | case1 => exact .nil
  | case2 cs ih => exact .both (l := []) (by simp) ih
  | case3 c cs hne hc ih =>
      rw [physicalLines.eq_3 c cs hne, if_pos hc]
      obtain rfl | rfl := hc
      · exact .feed (l := []) (by simp) ih
      · refine .lone (l := []) (by simp) ?_ ih
        intro hhead
        obtain ⟨cs', rfl⟩ := List.head?_eq_some_iff.mp hhead
        exact hne cs' rfl rfl
  | case4 c cs hne hc ih =>
      rw [physicalLines.eq_3 c cs hne, if_neg hc]
      exact ih.cons (not_or.mp hc)

/-- The physical lines of a text are what it splits into. -/
theorem breaksInto_iff : BreaksInto cs ls ↔ physicalLines cs = ls := by
  constructor
  · exact physicalLines_of_breaksInto
  · rintro rfl
    exact breaksInto_physicalLines cs

/-- The last character of a text that does not end in a line end stands behind every line end. -/
theorem exists_getLast?_of_append {d : Char} (hd : d = '\n' ∨ d = '\r')
    (h : ∃ c, (l ++ d :: cs).getLast? = some c ∧ c ≠ '\n' ∧ c ≠ '\r') :
    ∃ c, cs.getLast? = some c ∧ c ≠ '\n' ∧ c ≠ '\r' := by
  obtain ⟨c, hc, hne⟩ := h
  rw [List.getLast?_append_cons] at hc
  cases cs with
  | nil =>
      cases hc
      exact absurd hd (not_or.mpr hne)
  | cons x xs => exact ⟨c, hc, hne⟩

/-- A line end behind a line that is not empty begins no further line. -/
theorem BreaksInto.append_end {e : String} (h : BreaksInto cs ls) (he : e ∈ lineEnds)
    (hlast : ∃ c, cs.getLast? = some c ∧ c ≠ '\n' ∧ c ≠ '\r') :
    BreaksInto (cs ++ e.toList) ls := by
  induction h with
  | nil =>
      obtain ⟨_, hc, _⟩ := hlast
      cases hc
  | last hl _ =>
      simp only [lineEnds, List.mem_cons, List.not_mem_nil, or_false] at he
      obtain rfl | rfl | rfl := he
      · exact .feed hl .nil
      · exact .both hl .nil
      · exact .lone hl (by simp) .nil
  | feed hl _ ih =>
      rw [List.append_assoc]
      exact .feed hl (ih (exists_getLast?_of_append (.inl rfl) hlast))
  | both hl _ ih =>
      rw [List.append_assoc]
      have hrest := exists_getLast?_of_append (.inr rfl) hlast
      exact .both hl (ih (exists_getLast?_of_append (l := []) (.inl rfl) hrest))
  | @lone l cs _ hl hhead _ ih =>
      rw [List.append_assoc, List.cons_append]
      have hrest := exists_getLast?_of_append (.inr rfl) hlast
      refine .lone hl ?_ (ih hrest)
      obtain ⟨c, hc, _⟩ := hrest
      rwa [List.head?_append_of_ne_nil cs (List.ne_nil_of_mem (List.mem_of_getLast? hc))]

/-! ### Margins -/

theorem dropWhile_congr {α : Type} {p q : α → Bool} {xs : List α} (h : ∀ x ∈ xs, p x = q x) :
    xs.dropWhile p = xs.dropWhile q := by
  induction xs with
  | nil => rfl
  | cons x xs ih =>
      rw [List.dropWhile_cons, List.dropWhile_cons, h x List.mem_cons_self,
        ih fun y hy => h y (List.mem_cons_of_mem x hy)]

/-- Inside a line the margin consists of spaces and tabs. -/
theorem stripped_eq_unindented (hl : ∀ c ∈ l, c ≠ '\n' ∧ c ≠ '\r') : stripped l = unindented l := by
  have hmargin : ∀ c ∈ l, isMargin c = isIndent c := by
    intro c hc
    obtain ⟨h₁, h₂⟩ := hl c hc
    rw [isMargin, isIndent, beq_eq_false_iff_ne.mpr h₁, beq_eq_false_iff_ne.mpr h₂, Bool.false_or,
      Bool.false_or]
  have hsub : ∀ c ∈ (l.dropWhile isIndent).reverse, isMargin c = isIndent c :=
    fun c hc => hmargin c ((List.dropWhile_sublist isIndent).subset (List.mem_reverse.mp hc))
  rw [stripped, dropWhile_congr hmargin, dropWhile_congr hsub]
  rfl

end

/-! ### Texts with the same lines -/

theorem texts_ofText_eq (path : Path) (text : String) :
    (SourceFile.ofText path text).texts =
      (physicalLines text.toList).map fun l => String.ofList (unindented l) := by
  rw [SourceFile.texts_ofText]
  apply List.map_congr_left
  intro l hl
  rw [stripped_eq_unindented (no_line_end_of_mem_physicalLines hl)]

/-- Texts have the same lines exactly if they are read as the same lines. -/
theorem sameLines_iff {text text' : String} (path : Path) :
    SameLines text text' ↔ SourceFile.ofText path text = SourceFile.ofText path text' := by
  have hlines : SourceFile.ofText path text = SourceFile.ofText path text' ↔
      (physicalLines text.toList).map unindented =
        (physicalLines text'.toList).map unindented := by
    rw [← List.map_inj_right (f := String.ofList) fun _ _ h => String.ofList_injective h,
      List.map_map, List.map_map, Function.comp_def, ← texts_ofText_eq path, ← texts_ofText_eq path]
    constructor
    · exact fun h => h ▸ rfl
    · exact fun h => SourceFile.eq_of_texts_eq rfl h
  rw [hlines]
  constructor
  · rintro ⟨ls, ls', hls, hls', h⟩
    rwa [breaksInto_iff.mp hls, breaksInto_iff.mp hls']
  · exact fun h => ⟨_, _, breaksInto_physicalLines _, breaksInto_physicalLines _, h⟩

theorem SameLines.refl (text : String) : SameLines text text :=
  ⟨_, _, breaksInto_physicalLines _, breaksInto_physicalLines _, rfl⟩

/-- A line end after a last line that is not empty changes nothing. -/
theorem sameLines_append_end {text e : String} (h : EndsInLine text) (he : e ∈ lineEnds) :
    SameLines text (text ++ e) := by
  have hbreaks := breaksInto_physicalLines text.toList
  refine ⟨_, _, hbreaks, ?_, rfl⟩
  rw [String.toList_append]
  exact hbreaks.append_end he h

end ShaderBuild
