import ShaderBuild.Proofs.Block.Reread
import ShaderBuild.Proofs.Path

/-! # Flattening a flattened source

The source of a pass is a join of clean lines of which none is an include.  So it reads back as
these lines, a second pass finds no directive in it, and the block marker if the first pass found
one (`preprocessFile_source_stable`).  Joined again the lines are the source, but for the line feed
after which a blank last line would begin. -/

namespace ShaderBuild

/-- A text without the line feed that it ends in, if it does. -/
def dropFeed (s : String) : String :=
  if s.toList.getLast? = some '\n' then String.ofList s.toList.dropLast else s

/-! ### Joined lines -/

section
variable {ls : List String}

theorem mem_toList_intercalate {c : Char} :
    c ∈ ("\n".intercalate ls).toList → c = '\n' ∨ ∃ l ∈ ls, c ∈ l.toList := by
  induction ls with
  | nil => simp
  | cons l ls ih =>
      intro h
      by_cases hls : ls = []
      · subst hls
        rw [String.intercalate_singleton] at h
        exact .inr ⟨l, List.mem_singleton_self l, h⟩
      · rw [String.intercalate_cons_of_ne_nil hls, String.toList_append, String.toList_append,
          List.mem_append, List.mem_append] at h
        obtain (h | h) | h := h
        · exact .inr ⟨l, List.mem_cons_self, h⟩
        · exact .inl (by simpa using h)
        · obtain h | ⟨k, hk, h⟩ := ih h
          · exact .inl h
          · exact .inr ⟨k, List.mem_cons_of_mem l hk, h⟩

/-- What stands between the line feeds of joined lines are the lines. -/
theorem pieces_intercalate (hne : ls ≠ []) (h : ∀ l ∈ ls, '\n' ∉ l.toList) :
    pieces (· == '\n') ("\n".intercalate ls).toList = ls.map String.toList := by
  have hpiece : ∀ l ∈ ls, pieces (· == '\n') l.toList = [l.toList] := by
    intro l hl
    apply pieces_eq_singleton
    rintro c hc
    rw [beq_eq_false_iff_ne]
    rintro rfl
    exact h l hl hc
  induction ls with
  | nil => exact absurd rfl hne
  | cons l ls ih =>
      by_cases hls : ls = []
      · subst hls
        rw [String.intercalate_singleton, hpiece l List.mem_cons_self]
        rfl
      · rw [String.intercalate_cons_of_ne_nil hls, String.toList_append, String.toList_append,
          List.append_assoc]
        have hrest := ih hls (fun k hk => h k (List.mem_cons_of_mem l hk))
          fun k hk => hpiece k (List.mem_cons_of_mem l hk)
        have hfeed : "\n".toList ++ ("\n".intercalate ls).toList =
            '\n' :: ("\n".intercalate ls).toList := rfl
        rw [hfeed, pieces_append_cons (by decide), hrest, hpiece l List.mem_cons_self]
        rfl

/-- Clean lines without a blank last one make up the text without its last line feed. -/
theorem intercalate_eq_dropFeed (h : ∀ l ∈ ls, Clean l) :
    "\n".intercalate (if ls.getLast? = some "" then ls.dropLast else ls) =
      dropFeed ("\n".intercalate ls) := by
  obtain rfl | ⟨pre, l, rfl⟩ := ls.eq_nil_or_concat
  · rfl
  · have hl : Clean l := h l (by simp)
    rw [List.concat_eq_append, List.getLast?_concat, List.dropLast_concat]
    by_cases hb : l = ""
    · subst hb
      rw [if_pos rfl]
      by_cases hpre : pre = []
      · subst hpre
        rfl
      · have hfeed : ("\n".intercalate (pre ++ [""])).toList =
            ("\n".intercalate pre).toList ++ ['\n'] := by
          rw [String.intercalate_append_of_ne_nil hpre (List.cons_ne_nil _ _)]
          simp
        unfold dropFeed
        rw [hfeed, List.getLast?_concat, if_pos rfl, List.dropLast_concat, String.ofList_toList]
    · rw [if_neg fun he => hb (Option.some.inj he)]
      obtain ⟨cs, c, hc⟩ := (l.toList.eq_nil_or_concat).resolve_left
        fun he => hb (String.toList_eq_nil_iff.mp he)
      rw [List.concat_eq_append] at hc
      have hne : c ≠ '\n' := (hl.no_line_end c (by simp [hc])).1
      have hlast : ("\n".intercalate (pre ++ [l])).toList.getLast? = some c := by
        by_cases hpre : pre = []
        · simp [hpre, hc]
        · rw [String.intercalate_append_of_ne_nil hpre (List.cons_ne_nil _ _),
            String.intercalate_singleton, String.toList_append, hc, ← List.append_assoc,
            List.getLast?_concat]
      unfold dropFeed
      rw [hlast, if_neg fun he => hne (Option.some.inj he)]

end

/-! ### The lines of a source -/

/-- Neither end of a clean line is margin. -/
theorem Clean.not_isMargin {l : String} (h : Clean l) {c : Char}
    (hc : l.toList.head? = some c ∨ l.toList.getLast? = some c) : isMargin c = false := by
  have hs := h.stripped_eq
  rw [stripped_eq_rdropWhile] at hs
  have hfront : l.toList.dropWhile isMargin = l.toList := by
    apply (List.dropWhile_suffix isMargin).eq_of_length_le
    have hle := (List.rdropWhile_prefix isMargin (l := l.toList.dropWhile isMargin)).length_le
    rwa [hs] at hle
  rw [hfront] at hs
  obtain hc | hc := hc
  · rw [List.dropWhile_eq_self_iff] at hfront
    obtain ⟨hl, rfl⟩ := List.getElem?_eq_some_iff.mp (List.head?_eq_getElem? ▸ hc)
    simpa using hfront hl
  · rw [List.rdropWhile_eq_self_iff] at hs
    obtain ⟨cs, hcs⟩ := List.getLast?_eq_some_iff.mp hc
    simpa [hcs] using hs

/-- The source of a pass is a join of clean lines of which none is an include. -/
theorem exists_clean_of_preprocessFile {disk : Disk} {baseDir path : Path} {maxDepth : ℕ}
    {text : String} {out : Flattened}
    (h : preprocessFile disk baseDir maxDepth (.ofText path text) = .ok out) :
    ∃ ls, out.source = "\n".intercalate ls ∧ (∀ l ∈ ls, Clean l) ∧
      (∀ l ∈ ls, isIncludeLine l = false) ∧
      (out.block = none → ∀ l ∈ ls, isMarkerLine l = false) := by
  have hF := flattenable_of_preprocessFile h
  obtain ⟨ls, hunf, hsource⟩ := exists_unfolds_of_preprocessFile h
  refine ⟨ls, hsource, ?_, ?_, ?_⟩
  · intro l hl
    obtain hl | ⟨hl, _⟩ := (hF.unfolds_cases (fun _ ht => ht) hunf hl).2
    · exact SourceFile.clean_of_mem_ofText hl
    · exact hl
  · exact fun l hl => (hF.unfolds_cases (fun _ ht => ht) hunf hl).1
  · intro hb
    obtain ⟨_, marker, ho, hparse, _⟩ := preprocessFile_eq_ok_iff.mp h
    rw [hb] at hparse
    obtain ⟨rfl, _⟩ | ⟨_, _, _, _, hn⟩ := mapM_eq_ok_iff.mp hparse
    · have hnone := (SourceFile.outline_eq_ok_iff.mp ho).1
      exact hF.isMarkerLine_of_unfolds (fun _ ht => ht)
        (SourceFile.linesWhere_eq_nil_iff.mp hnone) hunf
    · cases hn

/-! ### A second pass -/

/-- A file without directives is put together from its lines as they are. -/
theorem SourceFile.assemble_nil (f : SourceFile) :
    f.assemble [] = .ok ("\n".intercalate f.texts) :=
  rfl

/-- A source is flattened: it holds no carriage return, and none of its lines is an include or has a
space or a tab at an end.  Under any path it has no directive, and a block marker exactly if the
pass found a block; and put together again it is the same text, without the line feed at its end if
there is one. -/
theorem preprocessFile_source_stable {disk : Disk} {baseDir path : Path} {maxDepth : ℕ}
    {text : String} {out : Flattened}
    (h : preprocessFile disk baseDir maxDepth (.ofText path text) = .ok out) :
    '\r' ∉ out.source.toList ∧
    (∀ l ∈ pieces (· == '\n') out.source.toList,
      ¬ includeToken.toList <+: l ∧
        ∀ c, l.head? = some c ∨ l.getLast? = some c → c ≠ ' ' ∧ c ≠ '\t') ∧
    ∀ path' : Path, ∃ marker,
      (SourceFile.ofText path' out.source).outline = .ok ⟨[], marker⟩ ∧
      (marker.isSome ↔ out.block.isSome) ∧
      (SourceFile.ofText path' out.source).assemble [] = .ok (dropFeed out.source) := by
  obtain ⟨ls, hsource, hclean, hinc, hmark⟩ := exists_clean_of_preprocessFile h
  have hread : ∀ path', (SourceFile.ofText path' out.source).texts =
      if ls.getLast? = some "" then ls.dropLast else ls := by
    intro path'
    rw [hsource, SourceFile.texts_ofText_intercalate hclean]
  have hsub : ∀ path', ∀ l ∈ (SourceFile.ofText path' out.source).texts, l ∈ ls := by
    intro path' l hl
    rw [hread] at hl
    split at hl
    · exact List.mem_of_mem_dropLast hl
    · exact hl
  refine ⟨?_, ?_, ?_⟩
  · rw [hsource]
    intro hr
    obtain hr | ⟨l, hl, hr⟩ := mem_toList_intercalate hr
    · exact absurd hr (by decide)
    · exact ((hclean l hl).no_line_end _ hr).2 rfl
  · intro l hl
    by_cases hls : ls = []
    · subst hls
      rw [hsource] at hl
      obtain rfl : l = [] := by simpa [pieces] using hl
      simp [includeToken]
    · rw [hsource,
        pieces_intercalate hls fun k hk hn => ((hclean k hk).no_line_end _ hn).1 rfl] at hl
      obtain ⟨k, hk, rfl⟩ := List.mem_map.mp hl
      constructor
      · have hk' := hinc k hk
        rwa [isIncludeLine, beginsWith, ← Bool.not_eq_true, List.isPrefixOf_iff_prefix] at hk'
      · intro c hc
        have hm := (hclean k hk).not_isMargin hc
        constructor
        · rintro rfl
          exact absurd hm (by decide)
        · rintro rfl
          exact absurd hm (by decide)
  · intro path'
    have hasm : (SourceFile.ofText path' out.source).assemble [] = .ok (dropFeed out.source) := by
      rw [SourceFile.assemble_nil, hread, hsource, intercalate_eq_dropFeed hclean]
    cases hb : out.block with
    | none =>
        refine ⟨none, SourceFile.outline_eq_ok_iff.mpr ⟨?_, ?_⟩, by simp, hasm⟩
        · exact SourceFile.linesWhere_eq_nil_iff.mpr fun l hl => hmark hb l (hsub path' l hl)
        · rw [SourceFile.linesWhere_eq_nil_iff.mpr fun l hl => hinc l (hsub path' l hl)]
          rfl
    | some b =>
        obtain ⟨pre, _, _, _, _, _, _, _, _, _, ho⟩ := exists_outline_of_preprocessFile
          (fun _ ht => SourceFile.clean_of_mem_ofText ht) h hb path'
        exact ⟨some pre.length, ho, by simp, hasm⟩

/-- An include that brings in an include and a blank last line. -/
theorem preprocessFile_source_stable_nested :
    '\r' ∉ "X\nZ\nY\n".toList ∧
    (∀ l ∈ pieces (· == '\n') "X\nZ\nY\n".toList,
      ¬ includeToken.toList <+: l ∧
        ∀ c, l.head? = some c ∨ l.getLast? = some c → c ≠ ' ' ∧ c ≠ '\t') ∧
    ∀ path' : Path, ∃ marker,
      (SourceFile.ofText path' "X\nZ\nY\n").outline = .ok ⟨[], marker⟩ ∧
      (marker.isSome ↔ (none : Option UniformBlock).isSome) ∧
      (SourceFile.ofText path' "X\nZ\nY\n").assemble [] = .ok (dropFeed "X\nZ\nY\n") := by
  have h : preprocessFile (.ofTexts [("b", "\t//#INCLUDE \"c\"\r\nY\n \n"), ("c", "Z \r")]) ⟨[]⟩ 2
      (.ofText (.ofString "a") "X\r\n  //#INCLUDE \"b\"") = .ok ⟨"X\nZ\nY\n", none⟩ := by
    decide +kernel
  exact preprocessFile_source_stable h

end ShaderBuild
