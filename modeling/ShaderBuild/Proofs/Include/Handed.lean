import ShaderBuild.Proofs.FileTree.Walking
import ShaderBuild.Proofs.Include.ActiveStack
import ShaderBuild.Proofs.Include.FirstFault

/-! # What is handed to the assembly

A file is put together only when each of its include lines has a resolved directive, in order, and
nothing else has one (`Covers`).  Every file that is being expanded keeps this (`Stage.Accounts`):
what is done and what is left to do make up the include lines of the file, and what is done is
resolved.  So the assembly never misses a directive, and on a disk that does not lose files between
locating and reading them no step comes to a fault that is impossible (`Stage.not_impossible_step`),
nor does a pass (`preprocessFile_possible_faults`). -/

namespace ShaderBuild

open Resolver StateTransition

/-- The directives stand for the include lines of a file, all of them and in order, and each is
resolved. -/
structure Covers (file : SourceFile) (ds : List Directive) : Prop where
  increasing : (ds.map Directive.line).Pairwise (· < ·)
  in_range : ∀ d ∈ ds, d.line < file.texts.length
  mem_iff : ∀ i, i ∈ ds.map Directive.line ↔
    ∃ text, file.text? i = some text ∧ isIncludeLine text = true
  resolved : ∀ d ∈ ds, d.resolved.isSome = true

/-- `Handed disk baseDir maxDepth top file ds`: a pass over `top` puts `file` together from the
directives `ds`. -/
inductive Handed (disk : Disk) (baseDir : Path) (maxDepth : ℕ) (top : SourceFile) :
    SourceFile → List Directive → Prop
  /-- The directives of the first file have been resolved. -/
  | first {o : Outline} {block : Option UniformBlock} : top.outline = .ok o →
      o.marker.mapM (UniformBlock.parse top) = .ok block →
      (resolveAll disk ⟨baseDir, maxDepth, []⟩ top o.includes).outcome = .ok () →
      Handed disk baseDir maxDepth top top
        (resolveAll disk ⟨baseDir, maxDepth, []⟩ top o.includes).directives
  /-- An included file has no directive left, and its text is about to go to the directive that
  asked for it. -/
  | included {o : Outline} {block : Option UniformBlock} {r : Resolver} {file : SourceFile}
      {ds : List Directive} {outer : Frame} {frames : List Frame} : top.outline = .ok o →
      o.marker.mapM (UniformBlock.parse top) = .ok block →
      Reaches (Stage.next disk) (Stage.start disk ⟨baseDir, maxDepth, []⟩ top o.includes)
        ⟨r, ⟨file, ds, []⟩ :: outer :: frames, none⟩ →
      Handed disk baseDir maxDepth top file ds

/-! ### Directives that are accounted for -/

section
variable {file : SourceFile} {ds : List Directive}

/-- Directives for the include lines of a file cover it once they are resolved. -/
theorem covers_of_lines (hl : ds.map Directive.line = file.linesWhere isIncludeLine)
    (hr : ∀ d ∈ ds, d.resolved.isSome = true) : Covers file ds := by
  have hmem : ∀ i, i ∈ ds.map Directive.line ↔
      ∃ text, file.text? i = some text ∧ isIncludeLine text = true := by
    intro i
    rw [hl, SourceFile.mem_linesWhere]
  refine ⟨hl ▸ file.pairwise_linesWhere isIncludeLine, ?_, hmem, hr⟩
  intro d hd
  obtain ⟨_, hline, _⟩ := (hmem d.line).mp (List.mem_map_of_mem hd)
  exact (List.getElem?_eq_some_iff.mp (file.text?_eq d.line ▸ hline)).1

/-- What is covered can be put together. -/
theorem Covers.exists_assemble (h : Covers file ds) : ∃ text, file.assemble ds = .ok text := by
  refine ⟨_, SourceFile.assemble_eq_ok_iff.mpr ⟨fun d hd hnone => ?_, rfl⟩⟩
  simpa [hnone] using h.resolved d hd

theorem lines_of_outline {marker : Option ℕ} (h : file.outline = .ok ⟨ds, marker⟩) :
    ds.map Directive.line = file.linesWhere isIncludeLine := by
  rw [(SourceFile.outline_eq_ok_iff.mp h).2, List.map_map]
  exact List.map_id _

/-- Directives that are filled one by one are resolved, each for its line. -/
theorem covers_of_fills {x : Expander} {r : Resolver} {ds' : List Directive} {marker : Option ℕ}
    (ho : file.outline = .ok ⟨ds, marker⟩) (h : List.Forall₂ (Fills x r file) ds ds') :
    Covers file ds' := by
  have hfilled : ds'.map Directive.line = ds.map Directive.line ∧
      ∀ d ∈ ds', d.resolved.isSome = true := by
    clear ho
    induction h with
    | nil => simp
    | cons hd _ ih =>
        cases hd
        simpa using ih
  exact covers_of_lines (hfilled.1.trans (lines_of_outline ho)) hfilled.2

end

/-! ### Impossible faults -/

/-- Whether a fault is one that flattening a source cannot come to: a directive without its text, a
source that is missing although it was located or need not be read, a uniform of an unknown type, or
a word that is no kind of shader. -/
def SourceFault.isImpossible : SourceFault → Bool
  | .unresolvedInclude _ | .fileNotFound _ | .unknownType _ _ | .invalidKind _ => true
  | _ => false

theorem BlockFault.isImpossible {file : SourceFile} {e : SourceFault} (h : BlockFault file e) :
    e.isImpossible = false := by
  cases h <;> rfl

/-- A target is refused for an impossible reason only if its file was there and then was not. -/
theorem Resolver.isImpossible_of_openTarget {disk : Disk} {r : Resolver} {site : Site}
    {target : String} {e : SourceFault}
    (hstatic : ∀ p known, disk.canonical p = .ok known → disk.readText p ≠ .error .notFound)
    (h : openTarget disk r site target = .error e) : e.isImpossible = false := by
  cases refusal_of_openTarget_eq_error h with
  | tooDeep => rfl
  | lost _ hl =>
      obtain ⟨_, rfl⟩ | ⟨_, _, _, rfl⟩ := eq_of_locate_eq_error hl
      · rfl
      · rfl
  | cycle => rfl
  | unread _ hc _ hf =>
      obtain ⟨hr, _⟩ | ⟨_, _, _, rfl⟩ := SourceFile.eq_of_load_eq_error hf
      · exact absurd hr (hstatic _ _ hc)
      · rfl
  | duplicate _ _ _ _ ho => exact (blockFault_of_outline ho).isImpossible
  | nested => rfl

/-! ### The files being expanded -/

/-- The directives of a file being expanded stand for its include lines, and those that are done are
resolved. -/
structure Frame.Accounts (frame : Frame) : Prop where
  lines_eq : (frame.done ++ frame.todo).map Directive.line = frame.file.linesWhere isIncludeLine
  resolved : ∀ d ∈ frame.done, d.resolved.isSome = true

theorem Frame.accounts_of_outline {file : SourceFile} {ds : List Directive} {marker : Option ℕ}
    (h : file.outline = .ok ⟨ds, marker⟩) : Frame.Accounts ⟨file, [], ds⟩ :=
  ⟨lines_of_outline h, fun _ hd => absurd hd List.not_mem_nil⟩

/-- A file of which no directive is left is covered. -/
theorem Frame.Accounts.covers {file : SourceFile} {ds : List Directive}
    (h : Frame.Accounts ⟨file, ds, []⟩) : Covers file ds := by
  have hl := h.lines_eq
  rw [List.append_nil] at hl
  exact covers_of_lines hl h.resolved

/-- The directive that is resolved next may be given its target. -/
theorem Frame.Accounts.aim {file : SourceFile} {done todo : List Directive} {d : Directive}
    (h : Frame.Accounts ⟨file, done, d :: todo⟩) (target : String) :
    Frame.Accounts ⟨file, done, { d with target := some target } :: todo⟩ := by
  refine ⟨?_, h.resolved⟩
  rw [← h.lines_eq]
  simp

/-- The directive that is resolved next may be given its text, and is done then. -/
theorem Frame.Accounts.fill {file : SourceFile} {done todo : List Directive} {d : Directive}
    (h : Frame.Accounts ⟨file, done, d :: todo⟩) (text : String) :
    Frame.Accounts ⟨file, done ++ [{ d with resolved := some text }], todo⟩ := by
  refine ⟨?_, ?_⟩
  · rw [← h.lines_eq]
    simp
  · intro e he
    obtain he | he := List.mem_append.mp he
    · exact h.resolved e he
    · rw [List.mem_singleton.mp he]
      rfl

namespace Stage

variable {disk : Disk} {s s' : Stage}

/-- Every file that is being expanded accounts for its include lines. -/
def Accounts (s : Stage) : Prop :=
  ∀ frame ∈ s.frames, frame.Accounts

theorem Accounts.step (h : s.Accounts) (hs : Step disk s s') : s'.Accounts := by
  unfold Accounts at h ⊢
  cases hs with
  | abandon => exact fun frame hf => h frame (List.mem_cons_of_mem _ hf)
  | malformed => exact h
  | refuse =>
      rw [List.forall_mem_cons] at h ⊢
      exact ⟨h.1.aim _, h.2⟩
  | descend _ hopen =>
      rw [List.forall_mem_cons] at h
      rw [List.forall_mem_cons, List.forall_mem_cons]
      exact ⟨Frame.accounts_of_outline (openTarget_eq_ok_iff.mp hopen).2.2.2.2, h.1.aim _, h.2⟩
  | spoil => exact fun frame hf => h frame (List.mem_cons_of_mem _ hf)
  | splice =>
      rw [List.forall_mem_cons, List.forall_mem_cons] at h
      rw [List.forall_mem_cons]
      exact ⟨h.2.1.fill _, h.2.2⟩

/-- So it is in every stage of a resolution. -/
theorem accounts_of_reaches {r : Resolver} {file : SourceFile} {o : Outline}
    (ho : file.outline = .ok o) (h : Reaches (next disk) (start disk r file o.includes) s) :
    s.Accounts := by
  induction h with
  | refl =>
      intro frame hf
      rw [List.mem_singleton.mp hf]
      exact Frame.accounts_of_outline ho
  | tail _ hstep ih => exact ih.step (step_of_next hstep)

/-- No step comes to an impossible fault.  The one at which a text is put together cannot, since the
file accounts for its lines. -/
theorem not_impossible_step (h : s.Accounts)
    (hstatic : ∀ p known, disk.canonical p = .ok known → disk.readText p ≠ .error .notFound)
    (hfault : ∀ e, s.fault = some e → e.isImpossible = false) (hs : Step disk s s') :
    ∀ e, s'.fault = some e → e.isImpossible = false := by
  cases hs with
  | abandon => exact hfault
  | malformed =>
      rintro e ⟨⟩
      rfl
  | refuse _ ho =>
      rintro e ⟨⟩
      exact isImpossible_of_openTarget hstatic ho
  | descend => rintro e ⟨⟩
  | spoil ha =>
      obtain ⟨text, hok⟩ := (h _ List.mem_cons_self).covers.exists_assemble
      rw [ha] at hok
      cases hok
  | splice => rintro e ⟨⟩

theorem not_impossible_of_reaches {r : Resolver} {file : SourceFile} {o : Outline}
    (ho : file.outline = .ok o)
    (hstatic : ∀ p known, disk.canonical p = .ok known → disk.readText p ≠ .error .notFound)
    (h : Reaches (next disk) (start disk r file o.includes) s) :
    ∀ e, s.fault = some e → e.isImpossible = false := by
  induction h with
  | refl => rintro e ⟨⟩
  | tail hs hstep ih =>
      exact not_impossible_step (accounts_of_reaches ho hs) hstatic ih (step_of_next hstep)

end Stage

/-! ### Passes -/

section
variable {disk : Disk} {baseDir : Path} {maxDepth : ℕ} {top file : SourceFile} {ds : List Directive}
  {e : SourceFault}

/-- What is put together is covered by its directives. -/
theorem Handed.covers (h : Handed disk baseDir maxDepth top file ds) : Covers file ds := by
  cases h with
  | first ho _ hr =>
      rw [resolveAll_eq] at hr ⊢
      exact covers_of_fills ho (forall₂_fills (restores_expandAt disk) hr)
  | included ho _ hs => exact (Stage.accounts_of_reaches ho hs _ List.mem_cons_self).covers

/-- The directives of an include target cover it once they are resolved. -/
theorem covers_of_openTarget {r : Resolver} {site : Site} {target : String} {known : Path}
    {inner : SourceFile} (room : ℕ) (h : openTarget disk r site target = .ok (known, inner, ds))
    (hr : (resolveWithin (expand disk room) r known inner ds).outcome = .ok ()) :
    Covers inner (resolveWithin (expand disk room) r known inner ds).directives :=
  covers_of_fills (openTarget_eq_ok_iff.mp h).2.2.2.2
    (forall₂_fills (restores_expand disk room) hr)

theorem isImpossible_of_resolveAll {o : Outline} (ho : file.outline = .ok o)
    (hstatic : ∀ p known, disk.canonical p = .ok known → disk.readText p ≠ .error .notFound)
    (h : (resolveAll disk ⟨baseDir, maxDepth, []⟩ file o.includes).outcome = .error e) :
    e.isImpossible = false := by
  obtain ⟨s, hs, hres⟩ := Stage.exists_eval_start disk ⟨baseDir, maxDepth, []⟩ file o.includes
  exact Stage.not_impossible_of_reaches ho hstatic (mem_eval.mp hs).1 e
    (Stage.fault_of_result hres h)

theorem isImpossible_of_preprocessFile (h : preprocessFile disk baseDir maxDepth top = .error e)
    (hstatic : ∀ p known, disk.canonical p = .ok known → disk.readText p ≠ .error .notFound) :
    e.isImpossible = false := by
  cases ho : top.outline with
  | error e' =>
      simp only [preprocessFile, ho, bind, Except.bind] at h
      cases h
      exact (blockFault_of_outline ho).isImpossible
  | ok o =>
      cases hb : o.marker.mapM (UniformBlock.parse top) with
      | error e' =>
          simp only [preprocessFile, ho, hb, bind, Except.bind] at h
          cases h
          obtain ⟨start, hm, hparse⟩ := mapM_eq_error_iff.mp hb
          have hmarker := (SourceFile.outline_eq_ok_iff.mp ho).1
          rw [hm] at hmarker
          exact (blockFault_of_parse hmarker hparse).isImpossible
      | ok block =>
          cases hr : (resolveAll disk ⟨baseDir, maxDepth, []⟩ top o.includes).outcome with
          | error e' =>
              simp only [preprocessFile, ho, hb, hr, bind, Except.bind] at h
              cases h
              exact isImpossible_of_resolveAll ho hstatic hr
          | ok _ =>
              obtain ⟨text, ha⟩ := (Handed.first ho hb hr).covers.exists_assemble
              simp only [preprocessFile, ho, hb, hr, ha, bind, Except.bind] at h
              cases h

/-- On a disk where nothing that has a canonical path is missing when it is read, a pass does not
end in an impossible fault, a shader is reported missing only by its own path, and whatever is put
together, at every level of includes, is covered by its directives: so is any include target whose
directives have been resolved. -/
theorem preprocessFile_possible_faults (disk : Disk)
    (hstatic : ∀ p known, disk.canonical p = .ok known → disk.readText p ≠ .error .notFound) :
    (∀ baseDir maxDepth file e, preprocessFile disk baseDir maxDepth file = .error e →
      (∀ site, e ≠ .unresolvedInclude site) ∧ (∀ p, e ≠ .fileNotFound p) ∧
        (∀ type name, e ≠ .unknownType type name) ∧ ∀ word, e ≠ .invalidKind word) ∧
    (∀ (s : Shader) maxDepth p, s.preprocess disk maxDepth = .error (.fileNotFound p) →
      p = s.sourcePath) ∧
    (∀ baseDir maxDepth top file ds, Handed disk baseDir maxDepth top file ds →
      Covers file ds) ∧
    ∀ room r site target known inner ds, openTarget disk r site target = .ok (known, inner, ds) →
      (resolveWithin (expand disk room) r known inner ds).outcome = .ok () →
      Covers inner (resolveWithin (expand disk room) r known inner ds).directives := by
  refine ⟨?_, ?_, fun _ _ _ _ _ h => h.covers, fun room _ _ _ _ _ _ => covers_of_openTarget room⟩
  · intro baseDir maxDepth file e h
    have hpossible := isImpossible_of_preprocessFile h hstatic
    refine ⟨?_, ?_, ?_, ?_⟩ <;> (intros; rintro rfl; cases hpossible)
  · intro s maxDepth p h
    unfold Shader.preprocess at h
    cases hl : SourceFile.load disk s.sourcePath with
    | error e =>
        rw [hl] at h
        cases h
        obtain ⟨_, he⟩ | ⟨_, _, _, he⟩ := SourceFile.eq_of_load_eq_error hl
        · cases he
          rfl
        · cases he
    | ok file =>
        rw [hl] at h
        cases isImpossible_of_preprocessFile h hstatic

end

/-- A tree with a file that includes another one. -/
def includeChain : FileTree where
  root := FileTree.directory [("a.glsl", .file 0), ("b.glsl", .file 1)]
  bodies := #[⟨"float a;\n//#INCLUDE \"b.glsl\"\n".toByteArray, .plain, 0⟩,
    ⟨"float b;\n".toByteArray, .plain, 0⟩]
  workingDir := []
  clock := 0

/-- The file of `includeChain` that includes the other one. -/
def includeChainFile : SourceFile :=
  .ofTexts (.ofString "./a.glsl") ["float a;", "//#INCLUDE \"b.glsl\""]

/-- A file that includes that file. -/
def includeChainTop : SourceFile :=
  .ofTexts (.ofString "mem.frag") ["X", "//#INCLUDE \"a.glsl\""]

theorem preprocessFile_possible_faults_includeChain :
    Handed includeChain.disk (.ofString ".") 32 includeChainTop includeChainTop
      [{ line := 1, target := some "a.glsl", resolved := some "float a;\nfloat b;" }] ∧
    Covers includeChainTop
      [{ line := 1, target := some "a.glsl", resolved := some "float a;\nfloat b;" }] ∧
    openTarget includeChain.disk ⟨.ofString ".", 32, [.ofString "mem.frag"]⟩
      ⟨.ofString "mem.frag", 1⟩ "a.glsl" =
        .ok (.ofString "/a.glsl", includeChainFile, [{ line := 1 }]) ∧
    Covers includeChainFile
      [{ line := 1, target := some "b.glsl", resolved := some "float b;" }] ∧
    preprocessFile danglingLink.disk (.ofString ".") 32 danglingLinkFile ≠
      .error (.fileNotFound (.ofString "./gone.glsl")) := by
  have hstatic : ∀ (t : FileTree) p known, t.disk.canonical p = .ok known →
      t.disk.readText p ≠ .error .notFound := fun _ _ _ => FileTree.readText_ne_notFound
  obtain ⟨_, _, hcovers, hnested⟩ := preprocessFile_possible_faults includeChain.disk
    (hstatic includeChain)
  obtain ⟨hfault, _⟩ := preprocessFile_possible_faults danglingLink.disk (hstatic danglingLink)
  have hds : (resolveAll includeChain.disk ⟨.ofString ".", 32, []⟩ includeChainTop
      [{ line := 1 }]).directives =
        [{ line := 1, target := some "a.glsl", resolved := some "float a;\nfloat b;" }] := by
    decide +kernel
  have ho : includeChainTop.outline = .ok ⟨[{ line := 1 }], none⟩ := by decide +kernel
  have hb : (none : Option ℕ).mapM (UniformBlock.parse includeChainTop) = .ok none := rfl
  have hr : (resolveAll includeChain.disk ⟨.ofString ".", 32, []⟩ includeChainTop
      [{ line := 1 }]).outcome = .ok () := by
    decide +kernel
  have hhanded := Handed.first ho hb hr
  rw [hds] at hhanded
  have hopen : openTarget includeChain.disk ⟨.ofString ".", 32, [.ofString "mem.frag"]⟩
      ⟨.ofString "mem.frag", 1⟩ "a.glsl" =
        .ok (.ofString "/a.glsl", includeChainFile, [{ line := 1 }]) := by
    decide +kernel
  have hinner : (resolveWithin (expand includeChain.disk 31)
      ⟨.ofString ".", 32, [.ofString "mem.frag"]⟩ (.ofString "/a.glsl") includeChainFile
      [{ line := 1 }]).directives =
        [{ line := 1, target := some "b.glsl", resolved := some "float b;" }] := by
    decide +kernel
  have hcovered := hnested 31 _ _ _ _ _ _ hopen (by decide +kernel)
  rw [hinner] at hcovered
  exact ⟨hhanded, hcovers _ _ _ _ _ hhanded, hopen, hcovered,
    fun h => (hfault _ _ _ _ h).2.1 _ rfl⟩

end ShaderBuild
