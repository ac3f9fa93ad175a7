import ShaderBuild.Proofs.Block.Reading
import ShaderBuild.Proofs.Include.Success
import ShaderBuild.Proofs.Include.Unfolding
import ShaderBuild.Proofs.Source.Lines

/-! # Reading the block of a flattened source again

The block of a pass is read from the file before its includes are expanded, where an include line
passes for a comment.  In the flattened source the lines of the included files stand in its place,
and what they declare counts when the block is read again.  So the two readings agree exactly if the
block, with its includes expanded, still declares the same fields
(`preprocessFile_block_reread_iff`), as it does if nothing but comments is included there. -/

namespace ShaderBuild

section
variable {disk : Disk} {baseDir : Path} {maxDepth : ℕ} {file : SourceFile} {ts ls : List String}

/-! ### The lines of a flattened source -/

/-- A line that an include brings in is clean and no marker. -/
theorem Flattenable.of_included (hF : Flattenable disk baseDir maxDepth file) {t l : String}
    {w : Visit} {is : List ℕ} {g : SourceFile} (ht : t ∈ file.texts)
    (hi : Includes disk baseDir t w) (hr : Route disk baseDir w.file is g) (hl : l ∈ g.texts) :
    Clean l ∧ isMarkerLine l = false := by
  obtain ⟨i, hi'⟩ := SourceFile.mem_texts_iff.mp ht
  have hstart : Leads disk baseDir (Visit.start disk file).file i w := ⟨t, hi', hi⟩
  obtain ⟨ws', v', i', w', hw', hl', rfl⟩ := Walk.start.exists_of_route hstart hr
  obtain ⟨_, _, _, hload⟩ := leads_iff_target?.mp hl'
  have hnone := hF.no_nested_block ws' v' i' w' hw' hl'
  exact ⟨SourceFile.clean_of_mem_load hload hl, SourceFile.linesWhere_eq_nil_iff.mp hnone l hl⟩

/-- What lines of the file unfold to: its own lines and clean ones that are no markers, and no
include is left. -/
theorem Flattenable.unfolds_cases (hF : Flattenable disk baseDir maxDepth file)
    (hts : ∀ t ∈ ts, t ∈ file.texts) (h : Unfolds disk baseDir ts ls) {l : String} (hl : l ∈ ls) :
    isIncludeLine l = false ∧ (l ∈ ts ∨ Clean l ∧ isMarkerLine l = false) := by
  cases h.origin hl with
  | blank hb =>
      subst hb
      exact ⟨by decide, Or.inr ⟨clean_empty, by decide⟩⟩
  | own hm hi => exact ⟨hi, Or.inl hm⟩
  | included ht hw hr hm hi => exact ⟨hi, Or.inr (hF.of_included (hts _ ht) hw hr hm)⟩

/-- No marker appears where lines without one unfold. -/
theorem Flattenable.isMarkerLine_of_unfolds (hF : Flattenable disk baseDir maxDepth file)
    (hts : ∀ t ∈ ts, t ∈ file.texts) (hm : ∀ t ∈ ts, isMarkerLine t = false)
    (h : Unfolds disk baseDir ts ls) : ∀ l ∈ ls, isMarkerLine l = false := by
  intro l hl
  rcases (hF.unfolds_cases hts h hl).2 with hl | ⟨_, hl⟩
  · exact hm l hl
  · exact hl

end

/-! ### The lines of the flattened source -/

/-- Lines that are joined and read back are the same at least up to one that is not blank. -/
theorem SourceFile.exists_texts_ofText_intercalate {pre post : List String} {t : String}
    (ht : t ≠ "") (h : ∀ u ∈ pre ++ t :: post, Clean u) (path : Path) :
    ∃ post', post' <+: post ∧
      (ofText path ("\n".intercalate (pre ++ t :: post))).texts = pre ++ t :: post' := by
  rw [texts_ofText_intercalate h]
  split_ifs with hlast
  · refine ⟨post.dropLast, List.dropLast_prefix post, ?_⟩
    cases post with
    | nil =>
        rw [List.getLast?_append_cons] at hlast
        simp [ht] at hlast
    | cons u post => rw [List.dropLast_append_cons, List.dropLast_cons_cons]
  · exact ⟨post, List.prefix_refl post, rfl⟩

/-! ### The two readings -/

/-- The block of the flattened source is that of the file if the source, read again, has one marker,
and the block there is read with the same name and fields. -/
def Rereads (out : Flattened) (b : UniformBlock) (path : Path) : Prop :=
  ∃ ds start b', (SourceFile.ofText path out.source).outline = .ok ⟨ds, some start⟩ ∧
    UniformBlock.parse (.ofText path out.source) start = .ok b' ∧
    b'.name = b.name ∧ b'.fields = b.fields

/-- Whatever the line `t` includes is blank or a comment. -/
def Quiet (disk : Disk) (baseDir : Path) (t : String) : Prop :=
  ∀ w gs, Includes disk baseDir t w → Unfolds disk baseDir w.file.texts gs →
    ∀ g ∈ gs, BlockLine.ofText g = .skipped

/-- Quiet lines of a block declare the same fields with their includes expanded. -/
theorem Unfolds.declares {disk : Disk} {baseDir : Path} {ts ls : List String}
    {fields : List UniformField} (h : Unfolds disk baseDir ts ls)
    (hquiet : ∀ t ∈ ts, Quiet disk baseDir t) (hd : Declares ts fields) : Declares ls fields := by
  induction h generalizing fields with
  | nil => exact hd
  | @text t ts ls hinc _ ih =>
      have ih := fun {fields} => @ih fields fun u hu => hquiet u (List.mem_cons_of_mem t hu)
      cases ht : BlockLine.ofText t with
      | terminator => rwa [declares_cons_of_ends ht] at hd ⊢
      | bad => exact absurd hd (not_declares_cons_of_bad ht ts fields)
      | skipped =>
          rw [declares_cons_of_skipped ht] at hd ⊢
          exact ih hd
      | field f =>
          rw [declares_cons_of_field ht] at hd ⊢
          obtain ⟨fs, rfl, hd⟩ := hd
          exact ⟨fs, rfl, ih hd⟩
  | @blank t w ts ls hinc he _ ih =>
      rw [declares_cons_of_skipped (ofText_of_isIncludeLine hinc.isIncludeLine)] at hd
      rw [declares_cons_of_skipped (by decide)]
      exact ih (fun u hu => hquiet u (List.mem_cons_of_mem t hu)) hd
  | @splice t w ts gs ls hinc _ hg _ _ ih =>
      rw [declares_cons_of_skipped (ofText_of_isIncludeLine hinc.isIncludeLine)] at hd
      rw [declares_append_of_skipped (hquiet t List.mem_cons_self w gs hinc hg)]
      exact ih (fun u hu => hquiet u (List.mem_cons_of_mem t hu)) hd

/-- The flattened source has one marker and no include.  What is read after the marker are the lines
that the inside of the block unfolds to, and its terminator. -/
theorem exists_outline_of_preprocessFile {disk : Disk} {baseDir : Path} {maxDepth : ℕ}
    {file : SourceFile} {out : Flattened} {b : UniformBlock} (hclean : ∀ t ∈ file.texts, Clean t)
    (h : preprocessFile disk baseDir maxDepth file = .ok out) (hb : out.block = some b)
    (path : Path) :
    ∃ pre m ls t post, Unfolds disk baseDir (b.inside file) ls ∧ endsBlock t = true ∧
      b.name = (words m)[1]? ∧ Declares (b.inside file) b.fields ∧
      (SourceFile.ofText path out.source).texts = pre ++ m :: (ls ++ t :: post) ∧
      (SourceFile.ofText path out.source).outline = .ok ⟨[], some pre.length⟩ := by
  have hF := flattenable_of_preprocessFile h
  obtain ⟨_, marker, ho, hparse, _⟩ := preprocessFile_eq_ok_iff.mp h
  rw [hb] at hparse
  obtain ⟨_, hn⟩ | ⟨i, _, rfl, hparse, ⟨⟩⟩ := mapM_eq_ok_iff.mp hparse
  · cases hn
  obtain ⟨pre, m, t, post, hlines, hm, hpre, hrest, ht, hname, hd⟩ :=
    UniformBlock.exists_lines_eq (SourceFile.outline_eq_ok_iff.mp ho).1 hparse
  obtain ⟨all, hall, hsource⟩ := exists_unfolds_of_preprocessFile h
  rw [hlines] at hall
  have hfile : ∀ u ∈ pre ++ m :: (b.inside file ++ t :: post), u ∈ file.texts :=
    fun u hu => hlines ▸ hu
  -- the source consists of what the parts of the file unfold to
  obtain ⟨pre', _, rfl, hpre', hall₁⟩ := hall.exists_of_append
  obtain ⟨_, rfl, hall₂⟩ := hall₁.exists_of_cons_text (isIncludeLine_of_isMarkerLine hm)
  obtain ⟨ls, _, rfl, hls, hall₃⟩ := hall₂.exists_of_append
  obtain ⟨post', rfl, _⟩ := hall₃.exists_of_cons_text (isIncludeLine_of_endsBlock ht)
  have hinc : ∀ l ∈ pre' ++ m :: (ls ++ t :: post'), isIncludeLine l = false :=
    fun l hl => (hF.unfolds_cases hfile hall hl).1
  have hclean' : ∀ l ∈ pre' ++ m :: (ls ++ t :: post'), Clean l := by
    intro l hl
    rcases (hF.unfolds_cases hfile hall hl).2 with hl | ⟨hl, _⟩
    · exact hclean l (hlines ▸ hl)
    · exact hl
  have hpre'' := hF.isMarkerLine_of_unfolds (fun u hu => hfile u (by simp [hu])) hpre hpre'
  have hrest'' := hF.isMarkerLine_of_unfolds
    (fun u hu => hfile u (List.mem_append_right _ (List.mem_cons_of_mem m hu))) hrest hall₂
  have hassoc : pre' ++ m :: (ls ++ t :: post') = (pre' ++ m :: ls) ++ t :: post' := by
    simp
  rw [hassoc] at hsource hclean' hinc
  obtain ⟨post'', hprefix, hread⟩ :=
    SourceFile.exists_texts_ofText_intercalate (ne_empty_of_endsBlock ht) hclean' path
  rw [← hsource] at hread
  have hmem : ∀ xs u, u ∈ xs ++ t :: post'' → u ∈ xs ++ t :: post' := by
    intro xs u hu
    have hcons : t :: post'' <+: t :: post' := List.cons_prefix_cons.mpr ⟨rfl, hprefix⟩
    exact ((List.prefix_append_right_inj xs).mpr hcons).subset hu
  have hlines' : (SourceFile.ofText path out.source).texts = pre' ++ m :: (ls ++ t :: post'') := by
    rw [hread, List.append_assoc]
    rfl
  refine ⟨pre', m, ls, t, post'', hls, ht, hname, hd, hlines', ?_⟩
  apply SourceFile.outline_of_texts_eq hlines' hm hpre''
  · exact fun u hu => hrest'' u (hmem ls u hu)
  · rw [hread]
    exact fun u hu => hinc u (hmem _ u hu)

/-- The block of a flattened source is the one that was reported exactly if the lines inside it,
with their includes expanded, declare the same fields.  They do if what is included among them is
blank or a comment. -/
theorem preprocessFile_block_reread_iff {disk : Disk} {baseDir : Path} {maxDepth : ℕ}
    {path : Path} {text : String} {out : Flattened} {b : UniformBlock}
    (h : preprocessFile disk baseDir maxDepth (.ofText path text) = .ok out)
    (hb : out.block = some b) (path' : Path) :
    ∃ start ls,
      (SourceFile.ofText path' out.source).outline = .ok ⟨[], some start⟩ ∧
      Unfolds disk baseDir (b.inside (.ofText path text)) ls ∧
      (Rereads out b path' ↔ Declares ls b.fields) ∧
      ((∀ t ∈ b.inside (.ofText path text), Quiet disk baseDir t) → Rereads out b path') := by
  obtain ⟨pre, m, ls, t, post, hls, ht, hname, hd, hfile, ho⟩ :=
    exists_outline_of_preprocessFile (fun _ => SourceFile.clean_of_mem_ofText) h hb path'
  have hlen : (blockBody (ls ++ t :: post)).length < (ls ++ t :: post).length := by
    rw [blockBody_append_cons ht]
    have hle := (List.takeWhile_prefix (l := ls) (fun t => !endsBlock t)).length_le
    simp only [List.length_append, List.length_cons]
    exact Nat.lt_of_le_of_lt hle (by omega)
  have hdecl : Declares (ls ++ t :: post) b.fields ↔ Declares ls b.fields := by
    rw [← declares_blockBody, blockBody_append_cons ht, declares_blockBody]
  have hiff : Rereads out b path' ↔ Declares ls b.fields := by
    unfold Rereads
    rw [ho, ← hdecl]
    constructor
    · rintro ⟨_, _, b', ⟨⟩, hp, _, hfields⟩
      rw [← hfields]
      exact ((UniformBlock.parse_eq_ok_iff hfile).mp hp).1
    · intro hd'
      have hp : UniformBlock.parse (.ofText path' out.source) pre.length = .ok ⟨b.name, pre.length,
          pre.length + 1 + (blockBody (ls ++ t :: post)).length, b.fields⟩ :=
        (UniformBlock.parse_eq_ok_iff hfile).mpr ⟨hd', hlen, hname, rfl, rfl⟩
      exact ⟨_, _, _, rfl, hp, rfl, rfl⟩
  refine ⟨pre.length, ls, ho, hls, hiff, ?_⟩
  intro hquiet
  rw [hiff]
  exact hls.declares hquiet hd

/-- A comment is included inside the block. -/
theorem preprocessFile_block_reread_iff_comment :
    ∃ start ls,
      (SourceFile.ofText ⟨[]⟩ "UNIFORM_BLOCK B\n// c\nint d;\nEND_UNIFORM_BLOCK").outline =
        .ok ⟨[], some start⟩ ∧
      Unfolds (.ofTexts [("c", "// c")]) ⟨[]⟩ ["//#INCLUDE \"c\"", "int d;"] ls ∧
      (Rereads ⟨"UNIFORM_BLOCK B\n// c\nint d;\nEND_UNIFORM_BLOCK",
          some ⟨some "B", 0, 3, [⟨"int", "d"⟩]⟩⟩ ⟨some "B", 0, 3, [⟨"int", "d"⟩]⟩ ⟨[]⟩ ↔
        Declares ls [⟨"int", "d"⟩]) ∧
      ((∀ t ∈ ["//#INCLUDE \"c\"", "int d;"], Quiet (.ofTexts [("c", "// c")]) ⟨[]⟩ t) →
        Rereads ⟨"UNIFORM_BLOCK B\n// c\nint d;\nEND_UNIFORM_BLOCK",
          some ⟨some "B", 0, 3, [⟨"int", "d"⟩]⟩⟩ ⟨some "B", 0, 3, [⟨"int", "d"⟩]⟩ ⟨[]⟩) := by
  have h : preprocessFile (.ofTexts [("c", "// c")]) ⟨[]⟩ 1
      (.ofText (.ofString "a") "UNIFORM_BLOCK B\n//#INCLUDE \"c\"\nint d;\nEND_UNIFORM_BLOCK") =
        .ok ⟨"UNIFORM_BLOCK B\n// c\nint d;\nEND_UNIFORM_BLOCK",
          some ⟨some "B", 0, 3, [⟨"int", "d"⟩]⟩⟩ := by
    decide +kernel
  exact preprocessFile_block_reread_iff h rfl ⟨[]⟩

/-- Not every block is the one of its flattened source: what is included inside it may declare
another field. -/
theorem not_forall_rereads :
    ¬ ∀ (disk : Disk) (baseDir : Path) (maxDepth : ℕ) (path : Path) (text : String)
      (out : Flattened) (b : UniformBlock) (path' : Path),
      preprocessFile disk baseDir maxDepth (.ofText path text) = .ok out → out.block = some b →
        Rereads out b path' := by
  intro hall
  have h : preprocessFile (.ofTexts [("c", "vec3 color")]) ⟨[]⟩ 1
      (.ofText (.ofString "a") "UNIFORM_BLOCK\nfloat a\n//#INCLUDE \"c\"\nEND_UNIFORM_BLOCK") =
        .ok ⟨"UNIFORM_BLOCK\nfloat a\nvec3 color\nEND_UNIFORM_BLOCK",
          some ⟨none, 0, 3, [⟨"float", "a"⟩]⟩⟩ := by
    decide +kernel
  obtain ⟨ds, start, b', ho, hp, _, hfields⟩ := hall _ _ _ _ _ _ _ ⟨[]⟩ h rfl
  have ho' : (SourceFile.ofText ⟨[]⟩
      "UNIFORM_BLOCK\nfloat a\nvec3 color\nEND_UNIFORM_BLOCK").outline = .ok ⟨[], some 0⟩ := by
    decide +kernel
  have hp' : UniformBlock.parse
      (.ofText ⟨[]⟩ "UNIFORM_BLOCK\nfloat a\nvec3 color\nEND_UNIFORM_BLOCK") 0 =
        .ok ⟨none, 0, 3, [⟨"float", "a"⟩, ⟨"vec3", "color"⟩]⟩ := by
    decide +kernel
  rw [ho'] at ho
  cases ho
  rw [hp'] at hp
  cases hp
  simp at hfields

end ShaderBuild
