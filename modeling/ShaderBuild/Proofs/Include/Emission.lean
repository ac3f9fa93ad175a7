import ShaderBuild.Proofs.Include.Unfolding

/-! # Where the lines of a flattened file come from

A line of a flattened source is emitted by a line of some file that a route of include lines leads
to, and the numbers of those lines are its address.  The lines of the source stand in the
lexicographic order of their addresses, and every address that emits a line occurs once.  So what an
include brings in stands together in the place of its line, and it is brought in once for each
route (`preprocessFile_source_unfolds`). -/

namespace ShaderBuild

/-! ### Emissions -/

/-- `Leaves disk baseDir g j t`: line `j` of `g` leaves the line `t` in a flattened text, itself if
it is no include, and a blank line if it includes a file without lines. -/
inductive Leaves (disk : Disk) (baseDir : Path) (g : SourceFile) (j : ℕ) : String → Prop
  | kept {t : String} : g.text? j = some t → isIncludeLine t = false → Leaves disk baseDir g j t
  | blank {w : Visit} : Leads disk baseDir g j w → w.file.texts = [] → Leaves disk baseDir g j ""

/-- A line of a flattened text: the route to the file it comes from, its number there, and what it
reads. -/
structure Emission where
  route : List ℕ
  line : ℕ
  text : String

namespace Emission

/-- The numbers of the lines on the route and of the line itself. -/
def address (e : Emission) : List ℕ :=
  e.route ++ [e.line]

/-- The line of the first file that an emission comes from. -/
def first : Emission → ℕ
  | ⟨[], j, _⟩ => j
  | ⟨i :: _, _, _⟩ => i

/-- An emission seen from a file whose line `i` includes its own. -/
def under (i : ℕ) (e : Emission) : Emission :=
  ⟨i :: e.route, e.line, e.text⟩

theorem exists_address_eq_cons (e : Emission) : ∃ rest, e.address = e.first :: rest := by
  obtain ⟨route, j, t⟩ := e
  cases route with
  | nil => exact ⟨[], rfl⟩
  | cons i is => exact ⟨is ++ [j], rfl⟩

end Emission

/-- A flattened text from `f` holds the line `e`. -/
def Emits (disk : Disk) (baseDir : Path) (f : SourceFile) (e : Emission) : Prop :=
  ∃ g, Route disk baseDir f e.route g ∧ Leaves disk baseDir g e.line e.text

/-- The lines of a flattened text follow one another by their addresses. -/
def Ordered (es : List Emission) : Prop :=
  es.Pairwise fun e e' => List.Lex (· < ·) e.address e'.address

/-- The lines of a flattened text that come by the same include lines stand together: what stands
between two of them is one of them. -/
def Contiguous (es : List Emission) : Prop :=
  ∀ is e₁ e₂ e₃, [e₁, e₂, e₃].Sublist es → is <+: e₁.address → is <+: e₃.address →
    is <+: e₂.address

section
variable {disk : Disk} {baseDir : Path} {f : SourceFile} {i k : ℕ} {t : String} {w : Visit}
  {e : Emission}

theorem not_leads_of_text (ht : f.text? k = some t) (hinc : isIncludeLine t = false) :
    ¬ Leads disk baseDir f k w := by
  intro hl
  rw [((leads_iff_includes ht).mp hl).isIncludeLine] at hinc
  cases hinc

theorem emits_nil_iff : Emits disk baseDir f ⟨[], i, t⟩ ↔ Leaves disk baseDir f i t := by
  constructor
  · rintro ⟨g, hr, hl⟩
    cases hr
    exact hl
  · intro hl
    exact ⟨f, .here, hl⟩

theorem emits_under_iff :
    Emits disk baseDir f (e.under i) ↔
      ∃ w, Leads disk baseDir f i w ∧ Emits disk baseDir w.file e := by
  constructor
  · rintro ⟨g, hr, hl⟩
    cases hr with
    | into hi hr => exact ⟨_, hi, g, hr, hl⟩
  · rintro ⟨w, hi, g, hr, hl⟩
    exact ⟨g, .into hi hr, hl⟩

/-- An emission comes from a line that the first file has. -/
theorem Emits.exists_text? (h : Emits disk baseDir f e) : ∃ t, f.text? e.first = some t := by
  obtain ⟨route, j, text⟩ := e
  cases route with
  | nil =>
      cases emits_nil_iff.mp h with
      | kept ht _ => exact ⟨_, ht⟩
      | blank hl _ =>
          obtain ⟨t, ht, _⟩ := hl
          exact ⟨t, ht⟩
  | cons i is =>
      obtain ⟨w, ⟨t, ht, _⟩, _⟩ := emits_under_iff (e := ⟨is, j, text⟩).mp h
      exact ⟨t, ht⟩

theorem emits_at_text_iff (ht : f.text? k = some t) (hinc : isIncludeLine t = false) :
    Emits disk baseDir f e ∧ e.first = k ↔ e = ⟨[], k, t⟩ := by
  constructor
  · rintro ⟨h, rfl⟩
    obtain ⟨route, j, text⟩ := e
    cases route with
    | nil =>
        cases emits_nil_iff.mp h with
        | kept ht' _ =>
            rw [Emission.first, ht'] at ht
            cases ht
            rfl
        | blank hl _ => exact absurd hl (not_leads_of_text ht hinc)
    | cons i is =>
        obtain ⟨w, hl, _⟩ := emits_under_iff (e := ⟨is, j, text⟩).mp h
        exact absurd hl (not_leads_of_text ht hinc)
  · rintro rfl
    exact ⟨emits_nil_iff.mpr (.kept ht hinc), rfl⟩

theorem emits_at_blank_iff (hl : Leads disk baseDir f k w) (he : w.file.texts = []) :
    Emits disk baseDir f e ∧ e.first = k ↔ e = ⟨[], k, ""⟩ := by
  constructor
  · rintro ⟨h, rfl⟩
    obtain ⟨route, j, text⟩ := e
    cases route with
    | nil =>
        cases emits_nil_iff.mp h with
        | kept ht hinc => exact absurd hl (not_leads_of_text ht hinc)
        | blank _ _ => rfl
    | cons i is =>
        obtain ⟨w', hl', h'⟩ := emits_under_iff (e := ⟨is, j, text⟩).mp h
        cases hl.unique hl'
        obtain ⟨t, ht⟩ := h'.exists_text?
        simp [SourceFile.text?_eq, he] at ht
  · rintro rfl
    exact ⟨emits_nil_iff.mpr (.blank hl he), rfl⟩

theorem emits_at_splice_iff (hl : Leads disk baseDir f k w) (hne : w.file.texts ≠ []) :
    Emits disk baseDir f e ∧ e.first = k ↔ ∃ e', Emits disk baseDir w.file e' ∧ e'.under k = e := by
  constructor
  · rintro ⟨h, rfl⟩
    obtain ⟨route, j, text⟩ := e
    cases route with
    | nil =>
        cases emits_nil_iff.mp h with
        | kept ht hinc => exact absurd hl (not_leads_of_text ht hinc)
        | blank hl' he =>
            cases hl.unique hl'
            exact absurd he hne
    | cons i is =>
        obtain ⟨w', hl', h'⟩ := emits_under_iff (e := ⟨is, j, text⟩).mp h
        cases hl.unique hl'
        exact ⟨_, h', rfl⟩
  · rintro ⟨e', h', rfl⟩
    exact ⟨emits_under_iff.mpr ⟨w, hl, h'⟩, rfl⟩

/-- The emissions of one line come before those of the lines after it. -/
theorem ordered_append {es es' : List Emission} (h : ∀ e ∈ es, e.first = k)
    (h' : ∀ e ∈ es', k + 1 ≤ e.first) (ho : Ordered es) (ho' : Ordered es') :
    Ordered (es ++ es') := by
  refine List.pairwise_append.mpr ⟨ho, ho', ?_⟩
  intro e he e' he'
  obtain ⟨rest, hrest⟩ := e.exists_address_eq_cons
  obtain ⟨rest', hrest'⟩ := e'.exists_address_eq_cons
  rw [hrest, hrest']
  apply List.Lex.rel
  rw [h e he]
  exact h' e' he'

theorem ordered_map_under {es : List Emission} (h : Ordered es) (i : ℕ) :
    Ordered (es.map (Emission.under i)) := by
  refine List.pairwise_map.mpr (h.imp ?_)
  intro e e' hlt
  exact List.Lex.cons hlt

theorem isPrefix_of_between {is a b c : List ℕ} (ha : is <+: a) (hc : is <+: c)
    (hab : List.Lex (· < ·) a b) (hbc : List.Lex (· < ·) b c) : is <+: b := by
  induction is generalizing a b c with
  | nil => exact List.nil_prefix
  | cons i is ih =>
      obtain ⟨a, rfl⟩ := ha
      obtain ⟨c, rfl⟩ := hc
      cases b with
      | nil => cases hab
      | cons j b =>
          rw [List.cons_append, List.cons_lex_cons_iff] at hab hbc
          obtain ⟨rfl, hab'⟩ : i = j ∧ List.Lex (· < ·) (is ++ a) b := by
            rcases hab with hij | hij
            · rcases hbc with hji | ⟨hji, _⟩ <;> omega
            · exact hij
          obtain ⟨_, hbc'⟩ := hbc.resolve_left (Nat.lt_irrefl i)
          rw [List.cons_prefix_cons]
          exact ⟨rfl, ih (List.prefix_append _ _) (List.prefix_append _ _) hab' hbc'⟩

theorem Ordered.contiguous {es : List Emission} (h : Ordered es) : Contiguous es := by
  intro is e₁ e₂ e₃ hsub h₁ h₃
  have hp := h.sublist hsub
  simp only [List.pairwise_cons, List.mem_cons, List.not_mem_nil, or_false] at hp
  exact isPrefix_of_between h₁ h₃ (hp.1 e₂ (Or.inl rfl)) (hp.2.1 e₃ rfl)

theorem text?_of_drop_eq_cons {ts : List String} (h : f.texts.drop k = t :: ts) :
    f.text? k = some t ∧ f.texts.drop (k + 1) = ts := by
  constructor
  · have h0 := congrArg (fun l : List String => l[0]?) h
    simpa [SourceFile.text?_eq] using h0
  · rw [← List.tail_drop, h, List.tail_cons]

/-- What line `k` emits comes before what the later lines emit. -/
theorem exists_emissions_of_line {xs : List Emission} {first later : List String}
    (hxs : ∀ e, e ∈ xs ↔ Emits disk baseDir f e ∧ e.first = k) (ho : Ordered xs)
    (htext : xs.map Emission.text = first)
    (h : ∃ es : List Emission, es.map Emission.text = later ∧ Ordered es ∧
      ∀ e, e ∈ es ↔ Emits disk baseDir f e ∧ k + 1 ≤ e.first) :
    ∃ es : List Emission, es.map Emission.text = first ++ later ∧ Ordered es ∧
      ∀ e, e ∈ es ↔ Emits disk baseDir f e ∧ k ≤ e.first := by
  obtain ⟨es, hes, ho', hmem⟩ := h
  refine ⟨xs ++ es, by rw [List.map_append, htext, hes], ?_, ?_⟩
  · exact ordered_append (fun e he => ((hxs e).mp he).2) (fun e he => ((hmem e).mp he).2) ho ho'
  · intro e
    rw [List.mem_append, hxs, hmem, ← and_or_left]
    have hk : (e.first = k ∨ k + 1 ≤ e.first) ↔ k ≤ e.first := by omega
    rw [hk]

/-- The lines of an unfolding are the emissions of the unfolded lines, in the order of their
addresses. -/
theorem Unfolds.exists_emissions {ts ls : List String} (h : Unfolds disk baseDir ts ls) :
    ∀ (f : SourceFile) (k : ℕ), f.texts.drop k = ts →
      ∃ es : List Emission, es.map Emission.text = ls ∧ Ordered es ∧
        ∀ e, e ∈ es ↔ Emits disk baseDir f e ∧ k ≤ e.first := by
  induction h with
  | nil =>
      intro f k hk
      refine ⟨[], rfl, .nil, ?_⟩
      intro e
      simp only [List.not_mem_nil, false_iff]
      rintro ⟨h, hle⟩
      obtain ⟨t, ht⟩ := h.exists_text?
      rw [SourceFile.text?_eq] at ht
      have hlt := (List.getElem?_eq_some_iff.mp ht).choose
      rw [List.drop_eq_nil_iff] at hk
      omega
  | @text t ts ls hinc _ ih =>
      intro f k hk
      obtain ⟨ht, hk'⟩ := text?_of_drop_eq_cons hk
      have hone : ∀ e, e ∈ [(⟨[], k, t⟩ : Emission)] ↔ Emits disk baseDir f e ∧ e.first = k := by
        intro e
        rw [emits_at_text_iff ht hinc, List.mem_singleton]
      exact exists_emissions_of_line hone (List.pairwise_singleton _ _) rfl (ih f (k + 1) hk')
  | @blank t w ts ls hi he _ ih =>
      intro f k hk
      obtain ⟨ht, hk'⟩ := text?_of_drop_eq_cons hk
      have hl := (leads_iff_includes ht).mpr hi
      have hone : ∀ e, e ∈ [(⟨[], k, ""⟩ : Emission)] ↔ Emits disk baseDir f e ∧ e.first = k := by
        intro e
        rw [emits_at_blank_iff hl he, List.mem_singleton]
      exact exists_emissions_of_line hone (List.pairwise_singleton _ _) rfl (ih f (k + 1) hk')
  | @splice t w ts gs ls hi hne _ _ ihg ih =>
      intro f k hk
      obtain ⟨ht, hk'⟩ := text?_of_drop_eq_cons hk
      have hl := (leads_iff_includes ht).mpr hi
      obtain ⟨inner, hinner, hoi, hmemi⟩ := ihg w.file 0 rfl
      have hat : ∀ e, e ∈ inner.map (Emission.under k) ↔ Emits disk baseDir f e ∧ e.first = k := by
        intro e
        rw [emits_at_splice_iff hl hne, List.mem_map]
        simp [hmemi]
      have htext : (inner.map (Emission.under k)).map Emission.text = gs := by
        rw [List.map_map, ← hinner]
        rfl
      exact exists_emissions_of_line hat (ordered_map_under hoi k) htext (ih f (k + 1) hk')

end

/-! ### The source of a pass -/

/-- The source of a pass is the unfolding of its file.  Each line of it is emitted by the line at
its address; every address that emits a line occurs once, they occur in order, and what an include
brings in stands together. -/
theorem preprocessFile_source_unfolds {disk : Disk} {baseDir : Path} {maxDepth : ℕ}
    {file : SourceFile} {out : Flattened}
    (h : preprocessFile disk baseDir maxDepth file = .ok out) :
    ∃ es : List Emission,
      out.source = "\n".intercalate (es.map Emission.text) ∧
      (∀ ls, Unfolds disk baseDir file.texts ls ↔ ls = es.map Emission.text) ∧
      Ordered es ∧ Contiguous es ∧
      ∀ e, e ∈ es ↔ Emits disk baseDir file e := by
  obtain ⟨ls, hls, hjoin⟩ := exists_unfolds_of_preprocessFile h
  obtain ⟨es, rfl, hord, hmem⟩ := hls.exists_emissions file 0 rfl
  refine ⟨es, hjoin, ?_, hord, hord.contiguous, ?_⟩
  · intro ls
    constructor
    · intro h'
      exact h'.unique hls
    · rintro rfl
      exact hls
  · intro e
    rw [hmem]
    simp

/-- A file read by two routes, a file that ends in a blank line, and a file without lines. -/
theorem preprocessFile_source_unfolds_diamond :
    ∃ es : List Emission,
      "X\nZ\n\nM\nZ\n" = "\n".intercalate (es.map Emission.text) ∧
      (∀ ls, Unfolds (.ofTexts [("b", "X\n//#INCLUDE \"c\"\n\n"), ("c", "Z"), ("e", "")]) ⟨[]⟩
        ["//#INCLUDE \"b\"", "M", "//#INCLUDE \"c\"", "//#INCLUDE \"e\""] ls ↔
          ls = es.map Emission.text) ∧
      Ordered es ∧ Contiguous es ∧
      ∀ e, e ∈ es ↔
        Emits (.ofTexts [("b", "X\n//#INCLUDE \"c\"\n\n"), ("c", "Z"), ("e", "")]) ⟨[]⟩
          (.ofTexts (.ofString "a")
            ["//#INCLUDE \"b\"", "M", "//#INCLUDE \"c\"", "//#INCLUDE \"e\""]) e := by
  have h : preprocessFile (.ofTexts [("b", "X\n//#INCLUDE \"c\"\n\n"), ("c", "Z"), ("e", "")])
      ⟨[]⟩ 2
      (.ofTexts (.ofString "a") ["//#INCLUDE \"b\"", "M", "//#INCLUDE \"c\"", "//#INCLUDE \"e\""]) =
        .ok ⟨"X\nZ\n\nM\nZ\n", none⟩ := by
    decide +kernel
  exact preprocessFile_source_unfolds h

end ShaderBuild
