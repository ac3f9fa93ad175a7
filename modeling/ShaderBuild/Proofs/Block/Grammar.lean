import ShaderBuild.Proofs.Block.Stopping
import ShaderBuild.Proofs.Path
import ShaderBuild.Proofs.Source.Splitting

/-! # The grammar of uniform blocks

Blocks that are read consist of words (`UniformBlock.WellShaped`).  Blocks of words that are
printed, with blank lines and comments in between, are read as they were: the words of a line are
found again, and a semicolon that is printed is the one that is dropped
(`UniformBlock.parse_grammar`). -/

namespace ShaderBuild

/-- A text that is not empty and holds no blank. -/
structure IsWord (s : String) : Prop where
  ne_empty : s ≠ ""
  not_isBlank : ∀ c ∈ s.toList, isBlank c = false

/-! ### Printed blocks -/

/-- The line that declares a field. -/
def fieldLine (f : UniformField) : String :=
  f.type ++ " " ++ (f.name ++ ";")

/-- The line that opens a block. -/
def markerLine : Option String → String
  | none => blockToken
  | some n => blockToken ++ " " ++ n

/-- Spaces and tabs, and behind them nothing or a comment. -/
def IsFiller (t : String) : Prop :=
  ∃ margin rest, t.toList = margin ++ rest ∧ (∀ c ∈ margin, isIndent c = true) ∧
    (∀ c ∈ rest, c ≠ '\n' ∧ c ≠ '\r') ∧ (rest = [] ∨ ['/', '/'] <+: rest)

/-- The lines that declare the fields, with fillers before and between them. -/
inductive PrintsFields : List UniformField → List String → Prop
  | nil : PrintsFields [] []
  | filler {t fs ls} : IsFiller t → PrintsFields fs ls → PrintsFields fs (t :: ls)
  | field {f fs ls} : PrintsFields fs ls → PrintsFields (f :: fs) (fieldLine f :: ls)

namespace UniformBlock

/-- The lines `ls` are a print of the block. -/
def Prints (b : UniformBlock) (ls : List String) : Prop :=
  ∃ body, PrintsFields b.fields body ∧ ls = markerLine b.name :: (body ++ [blockTerminator])

/-- The name of a block, and the types and names of its fields, are words. -/
structure WellShaped (b : UniformBlock) : Prop where
  name : ∀ n, b.name = some n → IsWord n
  type : ∀ f ∈ b.fields, IsWord f.type ∧ f.type ≠ blockTerminator
  fieldName : ∀ f ∈ b.fields, IsWord f.name

end UniformBlock

/-! ### Words -/

theorem isWord_iff {s : String} :
    IsWord s ↔ s ≠ "" ∧ (s.toList.all fun c => !isBlank c) = true := by
  constructor
  · exact fun h => ⟨h.ne_empty, by simpa using h.not_isBlank⟩
  · exact fun h => ⟨h.1, by simpa using h.2⟩

instance (s : String) : Decidable (IsWord s) :=
  decidable_of_iff _ isWord_iff.symm

theorem isWord_of_mem_words {t w : String} (h : w ∈ words t) : IsWord w := by
  obtain ⟨cs, hcs, rfl⟩ := List.mem_map.mp h
  constructor
  · intro he
    exact ne_nil_of_mem_wordsOf hcs (String.ofList_eq_empty_iff.mp he)
  · intro c hc
    rw [String.toList_ofList] at hc
    exact not_isBlank_of_mem_wordsOf hcs hc

theorem mem_of_mem_dropSemicolon {s : String} {c : Char} (h : c ∈ (dropSemicolon s).toList) :
    c ∈ s.toList := by
  unfold dropSemicolon at h
  split at h
  · rw [String.toList_ofList] at h
    exact List.mem_of_mem_dropLast h
  · exact h

theorem dropSemicolon_append (s : String) : dropSemicolon (s ++ ";") = s := by
  have hlist : (s ++ ";").toList = s.toList ++ [';'] := String.toList_append
  rw [dropSemicolon, hlist, List.getLast?_concat, if_pos rfl, List.dropLast_concat,
    String.ofList_toList]

theorem IsField.isWord {t : String} {f : UniformField} (h : IsField t f) :
    IsWord f.type ∧ f.type ≠ blockTerminator ∧ IsWord f.name := by
  obtain ⟨hno, _, w, hwords, hname, hne⟩ := h
  have hmem : ∀ v ∈ [f.type, w], IsWord v := fun v hv => isWord_of_mem_words (hwords ▸ hv)
  refine ⟨hmem f.type (by simp), ?_, hne, ?_⟩
  · intro htype
    apply hno
    rw [IsTerminator, hwords, htype]
    rfl
  · intro c hc
    rw [← hname] at hc
    exact (hmem w (by simp)).not_isBlank c (mem_of_mem_dropSemicolon hc)

/-- Blocks that are read consist of words. -/
theorem UniformBlock.wellShaped_of_parse {file : SourceFile} {start : ℕ} {b : UniformBlock}
    (h : parse file start = .ok b) : b.WellShaped := by
  obtain ⟨_, _, _, _, hname, hfields⟩ := parse_eq_ok_iff_stopsAt.mp h
  have hfield : ∀ f ∈ b.fields, IsWord f.type ∧ f.type ≠ blockTerminator ∧ IsWord f.name := by
    intro f hf
    rw [hfields] at hf
    obtain ⟨t, _, ht⟩ := List.mem_filterMap.mp hf
    exact (fieldOf_eq_some_iff.mp ht).isWord
  refine ⟨?_, fun f hf => ⟨(hfield f hf).1, (hfield f hf).2.1⟩, fun f hf => (hfield f hf).2.2⟩
  intro n hn
  rw [hname] at hn
  obtain ⟨m, _, hm⟩ := Option.bind_eq_some_iff.mp hn
  exact isWord_of_mem_words (List.mem_of_getElem? hm)

/-! ### Lines of words -/

theorem isBlank_of_isMargin {c : Char} (h : isMargin c = true) : isBlank c = true := by
  simp only [isMargin, Bool.or_eq_true, beq_iff_eq] at h
  obtain ((rfl | rfl) | rfl) | rfl := h <;> decide

/-- A character that is not blank ends no line and is no margin. -/
theorem not_margin_of_not_isBlank {c : Char} (h : isBlank c = false) :
    (c ≠ '\n' ∧ c ≠ '\r') ∧ isMargin c = false := by
  refine ⟨⟨?_, ?_⟩, ?_⟩
  · rintro rfl
    revert h
    decide
  · rintro rfl
    revert h
    decide
  · by_contra hm
    rw [Bool.not_eq_false] at hm
    rw [isBlank_of_isMargin hm] at h
    cases h

theorem stripped_eq_self {l : List Char}
    (h : ∀ c, l.head? = some c ∨ l.getLast? = some c → isMargin c = false) : stripped l = l := by
  have hfront : l.dropWhile isMargin = l := by
    rw [List.dropWhile_eq_self_iff]
    intro hl
    rw [Bool.not_eq_true]
    exact h _ (.inl (by rw [List.head?_eq_getElem?, List.getElem?_eq_getElem hl]))
  rw [stripped_eq_rdropWhile, hfront, List.rdropWhile_eq_self_iff]
  intro hl
  rw [Bool.not_eq_true]
  exact h _ (.inr (List.getLast?_eq_getLast_of_ne_nil hl))

theorem toList_append_space (s t : String) :
    (s ++ " " ++ t).toList = s.toList ++ ' ' :: t.toList := by
  rw [String.toList_append, String.toList_append, List.append_assoc]
  rfl

namespace IsWord

variable {s t : String}

theorem toList_ne_nil (h : IsWord s) : s.toList ≠ [] :=
  fun he => h.ne_empty (String.toList_eq_nil_iff.mp he)

theorem append (hs : IsWord s) (ht : IsWord t) : IsWord (s ++ t) := by
  constructor
  · intro he
    apply hs.toList_ne_nil
    have happ := congrArg String.toList he
    rw [String.toList_append] at happ
    exact (List.append_eq_nil_iff.mp happ).1
  · intro c hc
    rw [String.toList_append, List.mem_append] at hc
    exact hc.elim (hs.not_isBlank c) (ht.not_isBlank c)

theorem words_eq (h : IsWord s) : words s = [s] := by
  rw [words, wordsOf, pieces_eq_singleton isBlank h.not_isBlank]
  simp [h.ne_empty]

theorem words_append (hs : IsWord s) (ht : IsWord t) : words (s ++ " " ++ t) = [s, t] := by
  rw [words, wordsOf, toList_append_space, pieces_append_cons (by decide),
    pieces_eq_singleton isBlank hs.not_isBlank, pieces_eq_singleton isBlank ht.not_isBlank]
  simp [hs.ne_empty, ht.ne_empty]

theorem clean (h : IsWord s) : Clean s := by
  constructor
  · exact fun c hc => (not_margin_of_not_isBlank (h.not_isBlank c hc)).1
  · apply stripped_eq_self
    intro c hc
    apply (not_margin_of_not_isBlank (h.not_isBlank c ?_)).2
    exact hc.elim List.mem_of_head? List.mem_of_getLast?

theorem clean_append (hs : IsWord s) (ht : IsWord t) : Clean (s ++ " " ++ t) := by
  constructor
  · intro c hc
    rw [toList_append_space, List.mem_append, List.mem_cons] at hc
    obtain hc | rfl | hc := hc
    · exact hs.clean.no_line_end c hc
    · decide
    · exact ht.clean.no_line_end c hc
  · apply stripped_eq_self
    intro c hc
    apply (not_margin_of_not_isBlank ?_).2
    rw [toList_append_space, List.head?_append_of_ne_nil _ hs.toList_ne_nil,
      List.getLast?_append_cons, List.getLast?_cons_of_ne_nil ht.toList_ne_nil] at hc
    obtain hc | hc := hc
    · exact hs.not_isBlank c (List.mem_of_head? hc)
    · exact ht.not_isBlank c (List.mem_of_getLast? hc)

end IsWord

/-! ### Printing -/

/-- A field of words, whose line is taken for neither a terminator nor a comment. -/
structure Printable (f : UniformField) : Prop where
  type : IsWord f.type
  ne_terminator : f.type ≠ blockTerminator
  no_comment : beginsWith f.type "//" = false
  name : IsWord f.name

theorem isWord_semicolon : IsWord ";" := by
  decide

theorem isWord_blockToken : IsWord blockToken := by
  decide

theorem isWord_blockTerminator : IsWord blockTerminator := by
  decide

/-- A text is no comment if its first word is none. -/
theorem beginsWith_comment_append {s : String} (hs : IsWord s) (h : beginsWith s "//" = false)
    (t : String) : beginsWith (s ++ " " ++ t) "//" = false := by
  rw [beginsWith, toList_append_space]
  rw [beginsWith] at h
  match hcs : s.toList with
  | [] => exact absurd hcs hs.toList_ne_nil
  | [c] => simp [List.isPrefixOf]
  | c :: d :: cs => simpa [hcs, List.isPrefixOf] using h

theorem Printable.isField {f : UniformField} (h : Printable f) : IsField (fieldLine f) f := by
  have hwords := h.type.words_append (h.name.append isWord_semicolon)
  have hno : ¬ IsTerminator (fieldLine f) := by
    rw [IsTerminator, fieldLine, hwords]
    exact fun ht => h.ne_terminator (Option.some.inj ht)
  refine ⟨hno, ?_, f.name ++ ";", hwords, dropSemicolon_append f.name, h.name.ne_empty⟩
  rintro ⟨_, hempty | hcomment⟩
  · have hnil := hwords
    rw [← fieldLine, hempty] at hnil
    cases hnil
  · rw [fieldLine, beginsWith_comment_append h.type h.no_comment] at hcomment
    cases hcomment

theorem clean_fieldLine {f : UniformField} (h : Printable f) : Clean (fieldLine f) :=
  h.type.clean_append (h.name.append isWord_semicolon)

/-- A comment stays one when margin is stripped from it. -/
theorem prefix_rdropWhile (cs : List Char) :
    ['/', '/'] <+: ('/' :: '/' :: cs).rdropWhile isMargin := by
  induction cs using List.reverseRecOn with
  | nil => decide
  | append_singleton cs c ih =>
      have happ : '/' :: '/' :: (cs ++ [c]) = ('/' :: '/' :: cs) ++ [c] := rfl
      rw [happ, List.rdropWhile_concat]
      split
      · exact ih
      · exact ⟨cs ++ [c], rfl⟩

/-- A text without the margin at both ends. -/
def strippedText (t : String) : String :=
  String.ofList (stripped t.toList)

theorem Clean.strippedText_eq {t : String} (h : Clean t) : strippedText t = t := by
  rw [strippedText, h.stripped_eq, String.ofList_toList]

theorem isSkipped_empty : IsSkipped "" :=
  ofText_eq_skipped_iff.mp rfl

theorem isSkipped_of_comment {t : String} (h : beginsWith t "//" = true) : IsSkipped t := by
  refine ⟨?_, .inr h⟩
  intro ht
  have hhead : t.toList.head? = some '/' := head?_of_beginsWith (by decide) h
  have hword := head?_head?_words (by decide) hhead
  rw [ht] at hword
  revert hword
  decide

theorem IsFiller.isSkipped {t : String} (h : IsFiller t) : IsSkipped (strippedText t) := by
  obtain ⟨margin, rest, ht, hmargin, _, hrest⟩ := h
  have hdrop : (margin ++ rest).dropWhile isMargin = rest.dropWhile isMargin := by
    apply List.dropWhile_append_of_pos
    intro c hc
    have hindent := hmargin c hc
    rw [isIndent] at hindent
    rw [isMargin, Bool.or_assoc, hindent, Bool.or_true]
  rw [strippedText, ht, stripped_eq_rdropWhile, hdrop]
  obtain rfl | ⟨cs, rfl⟩ := hrest
  · exact isSkipped_empty
  · -- What stands behind the comment may be stripped, but not the slashes that begin it.
    apply isSkipped_of_comment
    have hlist : (String.ofList (((['/', '/'] ++ cs).dropWhile isMargin).rdropWhile
        isMargin)).toList = ('/' :: '/' :: cs).rdropWhile isMargin := String.toList_ofList
    rw [beginsWith, List.isPrefixOf_iff_prefix, hlist]
    exact prefix_rdropWhile cs

theorem IsFiller.no_line_end {t : String} (h : IsFiller t) :
    ∀ c ∈ t.toList, c ≠ '\n' ∧ c ≠ '\r' := by
  obtain ⟨margin, rest, ht, hmargin, hrest, _⟩ := h
  intro c hc
  rw [ht, List.mem_append] at hc
  obtain hc | hc := hc
  · have hindent := hmargin c hc
    simp only [isIndent, Bool.or_eq_true, beq_iff_eq] at hindent
    obtain rfl | rfl := hindent <;> decide
  · exact hrest c hc

theorem clean_markerLine {name : Option String} (h : ∀ n, name = some n → IsWord n) :
    Clean (markerLine name) := by
  cases name with
  | none => exact isWord_blockToken.clean
  | some n => exact isWord_blockToken.clean_append (h n rfl)

theorem words_markerLine {name : Option String} (h : ∀ n, name = some n → IsWord n) :
    (words (markerLine name))[1]? = name := by
  cases name with
  | none =>
      rw [markerLine, isWord_blockToken.words_eq]
      rfl
  | some n =>
      rw [markerLine, isWord_blockToken.words_append (h n rfl)]
      rfl

/-- Lines that are joined are read without their margin if the last one is not empty. -/
theorem SourceFile.texts_ofText_joined {front : List String} {t : String} (ht : t ≠ "")
    (h : ∀ u ∈ front ++ [t], ∀ c ∈ u.toList, c ≠ '\n' ∧ c ≠ '\r') (path : Path) :
    (ofText path ("\n".intercalate (front ++ [t]))).texts = (front ++ [t]).map strippedText := by
  induction front with
  | nil =>
      have hne : t.toList ≠ [] := fun he => ht (String.toList_eq_nil_iff.mp he)
      rw [List.nil_append, String.intercalate_singleton, texts_ofText,
        physicalLines_of_no_line_end (h t (by simp)) hne]
      rfl
  | cons u front ih =>
      have hrest := ih fun v hv => h v (List.mem_cons_of_mem u hv)
      have hlist : (u ++ "\n" ++ "\n".intercalate (front ++ [t])).toList =
          u.toList ++ '\n' :: ("\n".intercalate (front ++ [t])).toList := by
        simp
      rw [List.cons_append, String.intercalate_cons_of_ne_nil (by simp), texts_ofText, hlist,
        physicalLines_append_newline (h u (by simp)), List.map_cons, List.map_cons, ← hrest,
        texts_ofText]
      rfl

/-- What the lines that print fields are read as. -/
structure PrintsFields.Reads (fs : List UniformField) (ls : List String) : Prop where
  no_line_end : ∀ t ∈ ls, ∀ c ∈ t.toList, c ≠ '\n' ∧ c ≠ '\r'
  continues : ∀ t ∈ ls.map strippedText, ContinuesBlock t
  fields : (ls.map strippedText).filterMap fieldOf = fs

theorem PrintsFields.reads {fs : List UniformField} {ls : List String} (h : PrintsFields fs ls)
    (hfs : ∀ f ∈ fs, Printable f) : Reads fs ls := by
  induction h with
  | nil => exact ⟨by simp, by simp, rfl⟩
  | @filler t fs ls ht _ ih =>
      obtain ⟨hend, hcont, hfields⟩ := ih hfs
      have hnone : fieldOf (strippedText t) = none := by
        rw [fieldOf, ofText_eq_skipped_iff.mpr ht.isSkipped]
      refine ⟨List.forall_mem_cons.mpr ⟨ht.no_line_end, hend⟩, ?_, ?_⟩
      · exact List.forall_mem_cons.mpr ⟨continuesBlock_of_isSkipped ht.isSkipped, hcont⟩
      · rw [List.map_cons, List.filterMap_cons_none hnone, hfields]
  | @field f fs ls _ ih =>
      obtain ⟨hf, hrest⟩ := List.forall_mem_cons.mp hfs
      obtain ⟨hend, hcont, hfields⟩ := ih hrest
      have hclean := clean_fieldLine hf
      have hsome : fieldOf (fieldLine f) = some f := fieldOf_eq_some_iff.mpr hf.isField
      refine ⟨List.forall_mem_cons.mpr ⟨hclean.no_line_end, hend⟩, ?_, ?_⟩
      · rw [List.map_cons, hclean.strippedText_eq]
        exact List.forall_mem_cons.mpr ⟨continuesBlock_of_isField hf.isField, hcont⟩
      · rw [List.map_cons, hclean.strippedText_eq, List.filterMap_cons_some hsome, hfields]

namespace UniformBlock

/-- A block that is printed is read as it was. -/
theorem parse_of_prints {b : UniformBlock} {ls : List String} (hb : b.WellShaped)
    (hcomment : ∀ f ∈ b.fields, beginsWith f.type "//" = false) (h : b.Prints ls) (path : Path) :
    parse (.ofText path ("\n".intercalate ls)) 0 =
      .ok { b with startLine := 0, endLine := ls.length - 1 } := by
  obtain ⟨body, hbody, rfl⟩ := h
  have hprintable : ∀ f ∈ b.fields, Printable f := fun f hf =>
    ⟨(hb.type f hf).1, (hb.type f hf).2, hcomment f hf, hb.fieldName f hf⟩
  obtain ⟨hend, hcont, hfields⟩ := hbody.reads hprintable
  have hmarker := clean_markerLine hb.name
  have hlast := isWord_blockTerminator.clean
  have hno : ∀ u ∈ (markerLine b.name :: body) ++ [blockTerminator],
      ∀ c ∈ u.toList, c ≠ '\n' ∧ c ≠ '\r' := by
    intro u hu
    rw [List.mem_append, List.mem_cons, List.mem_singleton] at hu
    obtain (rfl | hu) | rfl := hu
    · exact hmarker.no_line_end
    · exact hend u hu
    · exact hlast.no_line_end
  have hlines := SourceFile.texts_ofText_joined isWord_blockTerminator.ne_empty hno path
  rw [List.map_append, List.map_cons, hmarker.strippedText_eq, List.map_singleton,
    hlast.strippedText_eq] at hlines
  have hterm : IsTerminator blockTerminator := by
    rw [IsTerminator, isWord_blockTerminator.words_eq]
    rfl
  rw [← List.cons_append]
  -- Of the text only its lines matter from here on.
  generalize SourceFile.ofText path _ = file at hlines ⊢
  have hname : markerName file 0 = b.name := by
    rw [markerName, SourceFile.text?_eq, hlines]
    exact words_markerLine hb.name
  have hdrop : file.texts.drop (0 + 1) = body.map strippedText ++ blockTerminator :: [] := by
    rw [hlines]
    rfl
  rw [parse_of_terminator hcont hterm hdrop, hname, hfields]
  simp [Nat.add_comm]

/-- Blocks are read by their grammar.  The line that a block stops at decides whether it is read or
why it is not, and neither the lines before the marker nor those after that line matter; what is
read is made of words, and what is made of words and printed is read. -/
theorem parse_grammar (file : SourceFile) (start : ℕ) :
    (∀ b, parse file start = .ok b ↔
      ∃ t, StopsAt file start b.endLine t ∧ IsTerminator t ∧ b.startLine = start ∧
        b.name = markerName file start ∧ b.fields = (b.inside file).filterMap fieldOf) ∧
    (∀ k t, parse file start = .error (.malformedField ⟨file.path, k⟩ t) ↔
      StopsAt file start k t ∧ IsBad t) ∧
    (parse file start = .error (.unterminatedBlock ⟨file.path, start⟩) ↔
      ∀ k t, ¬ StopsAt file start k t) ∧
    (∀ pre : List String, pre.length = start →
      parse (.ofTexts file.path (pre ++ file.texts.drop start)) start = parse file start) ∧
    (∀ k t post, StopsAt file start k t →
      parse (.ofTexts file.path (file.texts.take (k + 1) ++ post)) start = parse file start) ∧
    (∀ b, parse file start = .ok b → b.WellShaped) ∧
    ∀ (b : UniformBlock) ls path, b.WellShaped →
      (∀ f ∈ b.fields, beginsWith f.type "//" = false) → b.Prints ls →
        parse (.ofText path ("\n".intercalate ls)) 0 =
          .ok { b with startLine := 0, endLine := ls.length - 1 } :=
  ⟨fun _ => parse_eq_ok_iff_stopsAt, fun _ _ => parse_eq_malformed_iff, parse_eq_unterminated_iff,
    fun _ => parse_drop_append, fun _ _ post h => parse_take_append h post,
    fun _ => wellShaped_of_parse, fun _ _ path hb hc h => parse_of_prints hb hc h path⟩

/-- Of two semicolons behind a name one belongs to the name. -/
theorem parse_grammar_semicolons :
    WellShaped ⟨some "B", 0, 0, [⟨"int", "a;"⟩]⟩ ∧
    Prints ⟨some "B", 0, 0, [⟨"int", "a;"⟩]⟩
      ["UNIFORM_BLOCK B", "", "int a;;", "\t// b", "END_UNIFORM_BLOCK"] ∧
    parse (.ofText ⟨[]⟩ "UNIFORM_BLOCK B\n\nint a;;\n\t// b\nEND_UNIFORM_BLOCK") 0 =
      .ok ⟨some "B", 0, 4, [⟨"int", "a;"⟩]⟩ := by
  have hshape : WellShaped ⟨some "B", 0, 0, [⟨"int", "a;"⟩]⟩ := by
    refine ⟨?_, ?_, ?_⟩
    · rintro n ⟨⟩
      decide
    · intro f hf
      rw [List.mem_singleton.mp hf]
      decide
    · intro f hf
      rw [List.mem_singleton.mp hf]
      decide
  have hbody : PrintsFields [⟨"int", "a;"⟩] ["", "int a;;", "\t// b"] :=
    .filler ⟨[], [], rfl, by simp, by simp, .inl rfl⟩ (.field (.filler ⟨['\t'],
      ['/', '/', ' ', 'b'], rfl, by simp [isIndent], by simp, .inr ⟨[' ', 'b'], rfl⟩⟩ .nil))
  have hprints : Prints ⟨some "B", 0, 0, [⟨"int", "a;"⟩]⟩
      ["UNIFORM_BLOCK B", "", "int a;;", "\t// b", "END_UNIFORM_BLOCK"] :=
    ⟨_, hbody, rfl⟩
  have hread := (parse_grammar (.ofText ⟨[]⟩ "") 0).2.2.2.2.2.2 _ _ ⟨[]⟩ hshape (by decide) hprints
  exact ⟨hshape, hprints, hread⟩

end UniformBlock

end ShaderBuild
