import ShaderBuild.FileTree.Access
import ShaderBuild.Proofs.Block.Reading
import ShaderBuild.Proofs.Include.Trail
import ShaderBuild.Proofs.Source.Lines

/-! # The first fault of a pass

A pass that fails reports a fault of its file's own block (`BlockFault`), or one of an include line
that a trail leads to (`IncludeFault`).  In both cases what the fault carries is true of the files.
In the second case the line is the first one to fail: every directive that precedes it expands
(`preprocessFile_first_fault`).

The directives of a file are found in one go with its markers, before any of them is expanded.  So a
file that is included and opens a block is refused for that, whatever its directives are
(`not_forall_expandsBefore_marker`). -/

namespace ShaderBuild

open Resolver

/-! ### Faults -/

/-- A fault in the block of a file: a second marker, a line that is no field, or no terminator. -/
inductive BlockFault (file : SourceFile) : SourceFault → Prop
  | duplicate {first second : ℕ} {rest : List ℕ} :
      file.linesWhere isMarkerLine = first :: second :: rest →
      BlockFault file (.duplicateBlock ⟨file.path, second⟩ first)
  | malformed {start k : ℕ} {text : String} : file.linesWhere isMarkerLine = [start] →
      start < k → file.text? k = some text → BlockLine.ofText text = .bad →
      (∀ j t, start < j → j < k → file.text? j = some t → ContinuesBlock t) →
      BlockFault file (.malformedField ⟨file.path, k⟩ text)
  | unterminated {start : ℕ} : file.linesWhere isMarkerLine = [start] →
      (∀ j t, start < j → file.text? j = some t → ContinuesBlock t) →
      BlockFault file (.unterminatedBlock ⟨file.path, start⟩)

/-- A fault of the include line `i` of `v`, which is met while the files of the walk `ws` are being
expanded. -/
inductive IncludeFault (disk : Disk) (baseDir : Path) (maxDepth : ℕ) (ws : List Visit) (v : Visit)
    (i : ℕ) : SourceFault → Prop
  | malformed {text : String} : v.file.text? i = some text → isIncludeLine text = true →
      includePath? text = none →
      IncludeFault disk baseDir maxDepth ws v i (.malformedInclude ⟨v.file.path, i⟩ text)
  /-- The walk has as many steps as the limit allows. -/
  | tooDeep {target : String} : v.file.target? i = some target → ws.length = maxDepth + 1 →
      IncludeFault disk baseDir maxDepth ws v i (.includeTooDeep ⟨v.file.path, i⟩ maxDepth)
  | missing {target : String} : v.file.target? i = some target →
      disk.canonical (baseDir.join (.ofString target)) = .error .notFound →
      IncludeFault disk baseDir maxDepth ws v i
        (.includeNotFound (baseDir.join (.ofString target)) ⟨v.file.path, i⟩)
  | unlocated {target : String} {cause : FileFault} : v.file.target? i = some target →
      disk.canonical (baseDir.join (.ofString target)) = .error cause → cause ≠ .notFound →
      IncludeFault disk baseDir maxDepth ws v i
        (.readError (baseDir.join (.ofString target)) cause)
  | cycle {target : String} {known : Path} : v.file.target? i = some target →
      disk.canonical (baseDir.join (.ofString target)) = .ok known →
      (∃ w ∈ ws, known.same w.known = true) →
      IncludeFault disk baseDir maxDepth ws v i
        (.includeCycle known (ws.map Visit.known) ⟨v.file.path, i⟩)
  /-- There is a file, but when it is read there is none. -/
  | vanished {target : String} {known : Path} : v.file.target? i = some target →
      disk.canonical (baseDir.join (.ofString target)) = .ok known →
      disk.readText (baseDir.join (.ofString target)) = .error .notFound →
      IncludeFault disk baseDir maxDepth ws v i (.fileNotFound (baseDir.join (.ofString target)))
  | unread {target : String} {known : Path} {cause : FileFault} :
      v.file.target? i = some target →
      disk.canonical (baseDir.join (.ofString target)) = .ok known →
      disk.readText (baseDir.join (.ofString target)) = .error cause → cause ≠ .notFound →
      IncludeFault disk baseDir maxDepth ws v i
        (.readError (baseDir.join (.ofString target)) cause)
  | duplicate {w : Visit} {first second : ℕ} {rest : List ℕ} : Leads disk baseDir v.file i w →
      w.file.linesWhere isMarkerLine = first :: second :: rest →
      IncludeFault disk baseDir maxDepth ws v i (.duplicateBlock ⟨w.file.path, second⟩ first)
  | nested {w : Visit} {marker : ℕ} : Leads disk baseDir v.file i w →
      w.file.linesWhere isMarkerLine = [marker] →
      IncludeFault disk baseDir maxDepth ws v i (.nestedBlock ⟨w.file.path, marker⟩)

/-! ### The block of the file -/

theorem blockFault_of_outline {file : SourceFile} {e : SourceFault} (h : file.outline = .error e) :
    BlockFault file e := by
  obtain ⟨first, second, rest, hm, rfl⟩ := SourceFile.outline_eq_error_iff.mp h
  exact .duplicate hm

theorem blockFault_of_parse {file : SourceFile} {start : ℕ} {e : SourceFault}
    (hm : file.linesWhere isMarkerLine = [start]) (h : UniformBlock.parse file start = .error e) :
    BlockFault file e := by
  have hfields := UniformBlock.map_eq_error_iff.mp h
  rw [file.drop_lines] at hfields
  have hline : ∀ m, file.text? (start + 1 + m) = (file.texts.drop (start + 1))[m]? := by
    intro m
    rw [SourceFile.text?_eq, List.getElem?_drop]
  rcases UniformBlock.exists_of_fieldsFrom_eq_error hfields with
    ⟨rfl, hall⟩ | ⟨pre, t, post, hl, hpre, hbad, rfl⟩
  · refine .unterminated hm ?_
    intro j t hj ht
    obtain ⟨m, rfl⟩ := Nat.exists_eq_add_of_lt hj
    rw [Nat.add_right_comm, hline] at ht
    exact hall t (List.mem_of_getElem? ht)
  · refine .malformed hm (by omega) ?_ hbad ?_
    · simp [hline, hl]
    · intro j u hj hlt hu
      obtain ⟨m, rfl⟩ := Nat.exists_eq_add_of_lt hj
      rw [Nat.add_right_comm, hline, hl, List.getElem?_append_left (by omega)] at hu
      exact hpre u (List.mem_of_getElem? hu)

/-! ### An include line -/

section
variable {disk : Disk} {baseDir : Path} {maxDepth : ℕ} {ws : List Visit} {v : Visit} {i : ℕ}
  {e : SourceFault}

/-- A target is refused for a fault of the line that names it. -/
theorem includeFault_of_openTarget {target : String} (hd : ws.length ≤ maxDepth + 1)
    (ht : v.file.target? i = some target)
    (h : openTarget disk (along baseDir maxDepth ws) ⟨v.file.path, i⟩ target = .error e) :
    IncludeFault disk baseDir maxDepth ws v i e := by
  cases refusal_of_openTarget_eq_error h with
  | tooDeep hdeep =>
      have hlen : maxDepth < ws.length := by simpa [along] using hdeep
      exact .tooDeep ht (by omega)
  | lost _ hl =>
      rcases eq_of_locate_eq_error hl with ⟨hc, rfl⟩ | ⟨cause, hc, hne, rfl⟩
      · exact .missing ht hc
      · exact .unlocated ht hc hne
  | cycle _ hc hsame =>
      obtain ⟨p, hp, hsame⟩ := hsame
      obtain ⟨w, hw, rfl⟩ := List.mem_map.mp hp
      exact .cycle ht hc ⟨w, hw, hsame⟩
  | unread _ hc _ hf =>
      rcases SourceFile.eq_of_load_eq_error hf with ⟨hr, rfl⟩ | ⟨cause, hr, hne, rfl⟩
      · exact .vanished ht hc hr
      · exact .unread ht hc hr hne
  | @duplicate known inner _ _ hc _ hf ho =>
      obtain ⟨first, second, rest, hm, rfl⟩ := SourceFile.outline_eq_error_iff.mp ho
      have hl : Leads disk baseDir v.file i ⟨known, inner⟩ :=
        leads_iff_target?.mpr ⟨target, ht, hc, hf⟩
      exact .duplicate hl hm
  | @nested known inner _ marker _ hc _ hf ho =>
      have hl : Leads disk baseDir v.file i ⟨known, inner⟩ :=
        leads_iff_target?.mpr ⟨target, ht, hc, hf⟩
      exact .nested hl (SourceFile.outline_eq_ok_iff.mp ho).1

/-- Of the directives of a file the first that fails is known by its line; those on earlier lines
expand. -/
theorem exists_first_line {ds : List Directive} {marker : Option ℕ}
    (ho : v.file.outline = .ok ⟨ds, marker⟩)
    (h : (resolveEach (expandAt disk) v.file (along baseDir maxDepth ws) ds).outcome = .error e) :
    ∃ i ∈ v.file.linesWhere isIncludeLine,
      (∀ j ∈ v.file.linesWhere isIncludeLine, j < i → Expands disk baseDir maxDepth ws v j) ∧
      Fails (expandAt disk) (along baseDir maxDepth ws) v.file { line := i } e := by
  obtain ⟨pre, d, post, hds, hpre, hfails⟩ :=
    exists_fails_of_resolveEach (restores_expandAt disk) h
  rw [(SourceFile.outline_eq_ok_iff.mp ho).2, List.map_eq_append_iff] at hds
  obtain ⟨before, rest, hlines, rfl, hrest⟩ := hds
  obtain ⟨i, after, rfl, rfl, rfl⟩ := List.map_eq_cons_iff.mp hrest
  refine ⟨i, by simp [hlines], ?_, hfails⟩
  intro j hj hlt
  have hsorted := v.file.pairwise_linesWhere isIncludeLine
  rw [hlines, List.pairwise_append, List.pairwise_cons] at hsorted
  have hbefore : j ∈ before := by
    rw [hlines, List.mem_append, List.mem_cons] at hj
    rcases hj with hj | rfl | hj
    · exact hj
    · exact absurd hlt (Nat.lt_irrefl j)
    · exact absurd hlt (Nat.lt_asymm (hsorted.2.1.1 j hj))
  exact expands_iff_exists_fills.mpr (hpre _ (List.mem_map.mpr ⟨j, hbefore, rfl⟩))

/-- A directive that cannot be expanded is at fault itself, or one of the file that it leads to
cannot be expanded. -/
theorem includeFault_or_inner_of_fails (hd : ws.length ≤ maxDepth + 1)
    (hi : i ∈ v.file.linesWhere isIncludeLine)
    (h : Fails (expandAt disk) (along baseDir maxDepth ws) v.file { line := i } e) :
    IncludeFault disk baseDir maxDepth ws v i e ∨
      ∃ w ds, ws.length ≤ maxDepth ∧ Leads disk baseDir v.file i w ∧
        w.file.outline = .ok ⟨ds, none⟩ ∧
        (resolveEach (expandAt disk) w.file
          ((along baseDir maxDepth ws).enter w.known) ds).outcome =
          .error e := by
  cases h with
  | malformed ht =>
      obtain ⟨text, hline, hinc⟩ := SourceFile.mem_linesWhere.mp hi
      dsimp only at ht ⊢
      rw [SourceFile.target?, hline, Option.getD_some] at ht
      rw [hline, Option.getD_some]
      exact .inl (.malformed hline hinc ht)
  | @expansion target _ ht hx =>
      dsimp only at ht hx
      cases ho : openTarget disk (along baseDir maxDepth ws) ⟨v.file.path, i⟩ target with
      | error e' =>
          rw [expandAt_of_error ho] at hx
          cases hx
          exact .inl (includeFault_of_openTarget hd ht ho)
      | ok o =>
          obtain ⟨known, inner, ds⟩ := o
          obtain ⟨hroom, hc, _, hf, ho'⟩ := openTarget_eq_ok_iff.mp ho
          have hl : Leads disk baseDir v.file i ⟨known, inner⟩ :=
            leads_iff_target?.mpr ⟨target, ht, hc, hf⟩
          refine .inr ⟨⟨known, inner⟩, ds, by simpa [along] using hroom, hl, ho', ?_⟩
          rw [expandAt_of_ok ho, bind_eq_error_iff] at hx
          rcases hx with hin | ⟨_, hin, hasm⟩
          · exact hin
          · -- once its directives are filled, a file can be assembled
            rw [assemble_of_fills (forall₂_fills (restores_expandAt disk) hin)] at hasm
            cases hasm

/-- If directives do not resolve, a trail leads to the first that is at fault. -/
theorem exists_includeFault_of_resolveEach (r : Resolver) :
    ∀ ws v ds marker, r = along baseDir maxDepth ws → ws.length ≤ maxDepth + 1 →
      v.file.outline = .ok ⟨ds, marker⟩ →
      (resolveEach (expandAt disk) v.file r ds).outcome = .error e →
      ∃ is us u i, Trail disk baseDir ws v is us u ∧ IncludeFault disk baseDir maxDepth us u i e ∧
        ExpandsBefore disk baseDir maxDepth ws v (is ++ [i]) := by
  induction r using enter_induction with
  | step r ih =>
      rintro ws v ds marker rfl hd ho h
      obtain ⟨i, hi, hpre, hfails⟩ := exists_first_line ho h
      -- what precedes the fault in this file is known; the rest comes from the file below line `i`
      rcases includeFault_or_inner_of_fails hd hi hfails with
        hfault | ⟨w, ds', hroom, hl, ho', hin⟩
      · exact ⟨[], ws, v, i, .here, hfault,
          expandsBefore_cons hpre fun _ _ => expandsBefore_nil⟩
      · have hroom' : (along baseDir maxDepth ws).active.length ≤ maxDepth := by
          simpa [along] using hroom
        obtain ⟨is, us, u, k, ht, hfault, hbefore⟩ :=
          ih hroom' w.known (ws ++ [w]) w ds' none (enter_along ws w)
            (by simpa using hroom) ho' hin
        refine ⟨i :: is, us, u, k, .into hl ht, hfault, expandsBefore_cons hpre ?_⟩
        intro w' hl'
        rw [hl'.unique hl]
        exact hbefore

end

/-! ### A whole pass -/

/-- A pass that fails reports a fault in the block of its file, or the fault of an include line that
a trail leads to, and then every directive that precedes this line expands. -/
theorem preprocessFile_first_fault {disk : Disk} {baseDir : Path} {maxDepth : ℕ} {file : SourceFile}
    {e : SourceFault} (h : preprocessFile disk baseDir maxDepth file = .error e) :
    BlockFault file e ∨
      ∃ is ws v i, Trail disk baseDir [.start disk file] (.start disk file) is ws v ∧
        Walk disk baseDir (.start disk file) ws v ∧ IncludeFault disk baseDir maxDepth ws v i e ∧
        ExpandsBefore disk baseDir maxDepth [.start disk file] (.start disk file) (is ++ [i]) := by
  rw [preprocessFile_eq, bind_eq_error_iff] at h
  rcases h with ho | ⟨⟨ds, marker⟩, ho, h⟩
  · exact .inl (blockFault_of_outline ho)
  dsimp only at h
  rw [bind_eq_error_iff] at h
  rcases h with hb | ⟨block, _, h⟩
  · obtain ⟨start, rfl, hparse⟩ := mapM_eq_error_iff.mp hb
    exact .inl (blockFault_of_parse (SourceFile.outline_eq_ok_iff.mp ho).1 hparse)
  rw [bind_eq_error_iff] at h
  rcases h with hr | ⟨_, hr, h⟩
  · obtain ⟨is, ws, v, i, ht, hfault, hbefore⟩ := exists_includeFault_of_resolveEach _ _
      (.start disk file) ds marker rfl (by simp) ho hr
    exact .inr ⟨is, ws, v, i, ht, ht.walk .start, hfault, hbefore⟩
  · -- once its directives are filled, the file can be assembled
    rw [assemble_of_fills (forall₂_fills (restores_expandAt disk) hr)] at h
    cases h

/-- A tree with a file that includes another one and then a link to nothing. -/
def danglingLink : FileTree where
  root := FileTree.directory [("a.glsl", .file 0), ("b.glsl", .file 1),
    ("gone.glsl", .link (.ofString "nowhere"))]
  bodies := #[
    ⟨"float a;\n//#INCLUDE \"b.glsl\"\n//#INCLUDE \"gone.glsl\"\n".toByteArray, .plain, 0⟩,
    ⟨"float b;\n".toByteArray, .plain, 0⟩]
  workingDir := []
  clock := 0

/-- A file that includes both files of `danglingLink`. -/
def danglingLinkFile : SourceFile :=
  (.ofTexts (.ofString "mem.frag") ["//#INCLUDE \"b.glsl\"", "//#INCLUDE \"a.glsl\""])

theorem preprocessFile_first_fault_danglingLink :
    preprocessFile danglingLink.disk (.ofString ".") 32 danglingLinkFile =
      .error (.includeNotFound (.ofString "./gone.glsl") ⟨.ofString "./a.glsl", 2⟩) ∧
    ∃ is ws v i,
      Trail danglingLink.disk (.ofString ".") [.start danglingLink.disk danglingLinkFile]
        (.start danglingLink.disk danglingLinkFile) is ws v ∧
      Walk danglingLink.disk (.ofString ".") (.start danglingLink.disk danglingLinkFile) ws v ∧
      IncludeFault danglingLink.disk (.ofString ".") 32 ws v i
        (.includeNotFound (.ofString "./gone.glsl") ⟨.ofString "./a.glsl", 2⟩) ∧
      ExpandsBefore danglingLink.disk (.ofString ".") 32
        [.start danglingLink.disk danglingLinkFile] (.start danglingLink.disk danglingLinkFile)
        (is ++ [i]) := by
  have h : preprocessFile danglingLink.disk (.ofString ".") 32 danglingLinkFile =
      .error (.includeNotFound (.ofString "./gone.glsl") ⟨.ofString "./a.glsl", 2⟩) := by
    decide +kernel
  exact ⟨h, (preprocessFile_first_fault h).resolve_left (by rintro ⟨⟩)⟩

/-! ### Markers below malformed directives -/

/-- A file that is refused for its marker, above which an include line is malformed. -/
def malformedAbove : Disk :=
  .ofTexts [("u", "//#INCLUDE\nUNIFORM_BLOCK")]

/-- A directive that precedes the marker for which an included file is refused need not expand. -/
theorem not_forall_expandsBefore_marker :
    ¬ ∀ (disk : Disk) (baseDir : Path) (maxDepth : ℕ) (file : SourceFile) (site : Site)
      (is : List ℕ) (ws : List Visit) (v : Visit),
      preprocessFile disk baseDir maxDepth file = .error (.nestedBlock site) →
      Trail disk baseDir [.start disk file] (.start disk file) is ws v → v.file.path = site.file →
      ExpandsBefore disk baseDir maxDepth [.start disk file] (.start disk file)
        (is ++ [site.line]) := by
  intro h
  have hl : Leads malformedAbove ⟨[]⟩ (.ofTexts (.ofString "a") ["//#INCLUDE \"u\""]) 0
      ⟨.ofString "u", (.ofTexts (.ofString "u") ["//#INCLUDE", "UNIFORM_BLOCK"])⟩ :=
    leads_iff_target?.mpr ⟨"u", by decide +kernel, by decide +kernel, by decide +kernel⟩
  have hexpands := h malformedAbove ⟨[]⟩ 32 (.ofTexts (.ofString "a") ["//#INCLUDE \"u\""])
    ⟨.ofString "u", 1⟩ [0] _ _ (by decide +kernel) (.into hl .here) rfl
    [0] _ _ 0 (.into hl .here) (by decide +kernel)
    (precedes_cons_cons_iff.mpr (.inr ⟨rfl, precedes_cons_cons_iff.mpr (.inl Nat.one_pos)⟩))
  revert hexpands
  unfold Expands
  decide +kernel

end ShaderBuild
