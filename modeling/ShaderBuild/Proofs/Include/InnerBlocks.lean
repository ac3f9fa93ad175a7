import ShaderBuild.Proofs.Include.Handed
import ShaderBuild.Proofs.Include.Lookups

/-! # Blocks in included files

An included file may not open a uniform block.  A pass that loads one which does ends there, however
deep it lies: the file is refused when it has been loaded (`Stage.Loads.exists_step`), and a fault
stays until the pass is over (`Stage.outcome_of_reaches`).

What the pass reports depends on the number of markers in the file.  They are counted when its
directives are listed, before it is asked whether the file is the first one.  So a file with one
marker is refused as a nested block, and one with several as a file with two blocks, just as the
first file would be (`preprocessFile_block_refused_iff`), although neither of them is allowed there
(`not_forall_loads_nestedBlock`). -/

namespace ShaderBuild

open Resolver StateTransition

/-- The next step of a stage loads `inner`: there is room for it, and the target of the next
directive has a canonical path that is not being expanded, and is read. -/
def Stage.Loads (disk : Disk) (s : Stage) (inner : SourceFile) : Prop :=
  ∃ target known, s.target? = some target ∧ s.resolver.active.length ≤ s.resolver.maxDepth ∧
    disk.canonical (s.resolver.baseDir.join (.ofString target)) = .ok known ∧
    (∀ p ∈ s.resolver.active, known.same p = false) ∧
    SourceFile.load disk (s.resolver.baseDir.join (.ofString target)) = .ok inner

/-- A pass over `top` loads `inner` for an include: its block can be read, and a stage that
resolving its directives goes through loads `inner`. -/
def LoadsIncluded (disk : Disk) (baseDir : Path) (maxDepth : ℕ) (top inner : SourceFile) : Prop :=
  ∃ o block s, top.outline = .ok o ∧ o.marker.mapM (UniformBlock.parse top) = .ok block ∧
    Reaches (Stage.next disk) (Stage.start disk ⟨baseDir, maxDepth, []⟩ top o.includes) s ∧
    s.Loads disk inner

/-- Why an included file is refused for the blocks that it opens. -/
inductive BlockRefusal (inner : SourceFile) : SourceFault → Prop
  | nested {marker : ℕ} : inner.linesWhere isMarkerLine = [marker] →
      BlockRefusal inner (.nestedBlock ⟨inner.path, marker⟩)
  | duplicate {first second : ℕ} {rest : List ℕ} :
      inner.linesWhere isMarkerLine = first :: second :: rest →
      BlockRefusal inner (.duplicateBlock ⟨inner.path, second⟩ first)

/-- Whether a fault is one for which a file with a block is refused. -/
def SourceFault.refusesBlock : SourceFault → Bool
  | .nestedBlock _ | .duplicateBlock _ _ => true
  | _ => false

section
variable {disk : Disk} {baseDir : Path} {maxDepth : ℕ} {top file inner : SourceFile}
  {e : SourceFault} {ds : List Directive} {r : Resolver}

theorem BlockRefusal.refusesBlock (h : BlockRefusal inner e) : e.refusesBlock = true := by
  cases h <;> rfl

theorem blockRefusal_nested_iff {site : Site} : BlockRefusal inner (.nestedBlock site) ↔
    inner.path = site.file ∧ inner.linesWhere isMarkerLine = [site.line] := by
  constructor
  · rintro ⟨hm⟩
    exact ⟨rfl, hm⟩
  · obtain ⟨_, line⟩ := site
    rintro ⟨rfl, hm⟩
    exact .nested hm

theorem blockRefusal_duplicate_iff {site : Site} {first : ℕ} :
    BlockRefusal inner (.duplicateBlock site first) ↔
      inner.path = site.file ∧
        ∃ rest, inner.linesWhere isMarkerLine = first :: site.line :: rest := by
  constructor
  · rintro (_ | hm)
    exact ⟨rfl, _, hm⟩
  · obtain ⟨_, line⟩ := site
    rintro ⟨rfl, _, hm⟩
    exact .duplicate hm

/-! ### Opening a target -/

namespace Resolver

variable {site : Site} {target : String} {known : Path}

/-- A file that is loaded is refused for the blocks that it opens. -/
theorem openTarget_of_blockRefusal (hd : r.active.length ≤ r.maxDepth)
    (hc : disk.canonical (r.baseDir.join (.ofString target)) = .ok known)
    (hs : ∀ p ∈ r.active, known.same p = false)
    (hl : SourceFile.load disk (r.baseDir.join (.ofString target)) = .ok inner)
    (h : BlockRefusal inner e) : openTarget disk r site target = .error e := by
  have hany : ¬ r.active.any known.same = true := by simpa using hs
  rw [openTarget_eq, if_neg (Nat.not_lt.mpr hd), locate_eq_ok_iff.mpr hc]
  simp only [Except.bind, if_neg hany, hl]
  cases h with
  | @nested marker hm =>
      have ho : inner.outline = .ok ⟨_, some marker⟩ := SourceFile.outline_eq_ok_iff.mpr ⟨hm, rfl⟩
      simp only [ho]
  | duplicate hm =>
      have ho := SourceFile.outline_eq_error_iff.mpr ⟨_, _, _, hm, rfl⟩
      simp only [ho]

/-- A target that is refused for a block has been loaded, and opens that block. -/
theorem exists_load_of_refusesBlock (h : openTarget disk r site target = .error e)
    (he : e.refusesBlock = true) :
    ∃ known inner, r.active.length ≤ r.maxDepth ∧
      disk.canonical (r.baseDir.join (.ofString target)) = .ok known ∧
      (∀ p ∈ r.active, known.same p = false) ∧
      SourceFile.load disk (r.baseDir.join (.ofString target)) = .ok inner ∧
      BlockRefusal inner e := by
  cases refusal_of_openTarget_eq_error h with
  | tooDeep => cases he
  | cycle => cases he
  | lost _ hl =>
      obtain ⟨_, rfl⟩ | ⟨_, _, _, rfl⟩ := eq_of_locate_eq_error hl
      · cases he
      · cases he
  | unread _ _ _ hf =>
      obtain ⟨_, rfl⟩ | ⟨_, _, _, rfl⟩ := SourceFile.eq_of_load_eq_error hf
      · cases he
      · cases he
  | duplicate hd hc hs hf ho =>
      obtain ⟨_, _, _, hm, rfl⟩ := SourceFile.outline_eq_error_iff.mp ho
      exact ⟨_, _, hd, hc, hs, hf, .duplicate hm⟩
  | nested hd hc hs hf ho =>
      exact ⟨_, _, hd, hc, hs, hf, .nested (SourceFile.outline_eq_ok_iff.mp ho).1⟩

end Resolver

/-! ### Stages -/

namespace Stage

variable {s s' s₀ : Stage}

theorem exists_eq_of_target? {target : String} (h : s.target? = some target) :
    ∃ r file done d todo frames, s = ⟨r, ⟨file, done, d :: todo⟩ :: frames, none⟩ ∧
      file.target? d.line = some target := by
  unfold target? at h
  split at h
  · exact ⟨_, _, _, _, _, _, rfl, h⟩
  · cases h

/-- The step that loads a file with a block meets the fault for which the file is refused. -/
theorem Loads.exists_step (h : s.Loads disk inner) (he : BlockRefusal inner e) :
    ∃ s', Step disk s s' ∧ s'.fault = some e := by
  obtain ⟨target, known, ht, hd, hc, hs, hl⟩ := h
  obtain ⟨r, file, done, d, todo, frames, rfl, ht⟩ := exists_eq_of_target? ht
  exact ⟨_, .refuse ht (openTarget_of_blockRefusal hd hc hs hl he), rfl⟩

/-- A step that meets a fault for which a file with a block is refused has loaded the file. -/
theorem Step.exists_loads (h : Step disk s s') (hs : s.fault = none) (hs' : s'.fault = some e)
    (he : e.refusesBlock = true) : ∃ inner, s.Loads disk inner ∧ BlockRefusal inner e := by
  cases h with
  | abandon => cases hs
  | malformed =>
      cases hs'
      cases he
  | refuse ht ho =>
      cases hs'
      obtain ⟨known, inner, hd, hc, hsame, hl, hrefusal⟩ := exists_load_of_refusesBlock ho he
      exact ⟨inner, ⟨_, known, ht, hd, hc, hsame, hl⟩, hrefusal⟩
  | descend => cases hs'
  | @spoil _ inner ds _ _ _ _ _ _ ha =>
      cases hs'
      obtain ⟨_, _, _, _, _, _, rfl⟩ := SourceFile.assemble_eq_error_iff.mp ha
      cases he
  | splice => cases hs'

theorem Step.fault_eq (h : Step disk s s') (he : s.fault = some e) : s'.fault = some e := by
  cases h with
  | abandon => exact he
  | malformed => cases he
  | refuse => cases he
  | descend => cases he
  | spoil => cases he
  | splice => cases he

/-- A fault stays. -/
theorem fault_of_reaches (h : Reaches (next disk) s s') (he : s.fault = some e) :
    s'.fault = some e := by
  induction h with
  | refl => exact he
  | tail _ hstep ih => exact (step_of_next hstep).fault_eq ih

/-- A fault was met in some step. -/
theorem exists_step_of_fault (h : Reaches (next disk) s₀ s) (hnone : s₀.fault = none)
    (he : s.fault = some e) :
    ∃ s₁ s₂, Reaches (next disk) s₀ s₁ ∧ Step disk s₁ s₂ ∧ s₁.fault = none ∧ s₂.fault = some e := by
  induction h with
  | refl =>
      rw [hnone] at he
      cases he
  | @tail s s' hs hstep ih =>
      cases hf : s.fault with
      | none => exact ⟨s, s', hs, step_of_next hstep, hf, he⟩
      | some e' =>
          have he' := (step_of_next hstep).fault_eq hf
          rw [he] at he'
          cases he'
          exact ih hf

/-- What is returned reports the fault of the last stage. -/
theorem outcome_of_result {res : Resolution} (h : s.result = some res) :
    res.outcome = s.fault.elim (.ok ()) .error := by
  unfold result at h
  split at h
  · cases h
    rfl
  · cases h

/-- A resolution that goes through a stage with a fault ends with it. -/
theorem outcome_of_reaches (h : Reaches (next disk) (start disk r file ds) s)
    (he : s.fault = some e) : (resolveAll disk r file ds).outcome = .error e := by
  obtain ⟨last, hlast, hres⟩ := exists_eval_start disk r file ds
  obtain ⟨hrun, hend⟩ := mem_eval.mp hlast
  have hfault : last.fault = some e := by
    obtain hs | hs := reaches_total h hrun
    · exact fault_of_reaches hs he
    · -- nothing comes after the last stage
      obtain rfl | ⟨_, hnext, _⟩ := hs.cases_head
      · exact he
      · rw [hend] at hnext
        cases hnext
  rw [outcome_of_result hres, hfault]
  rfl

end Stage

/-! ### Passes -/

/-- Resolving directives ends in the refusal of a file with a block exactly if it loads that
file. -/
theorem Resolver.resolveAll_refusesBlock_iff (he : e.refusesBlock = true) :
    (resolveAll disk r file ds).outcome = .error e ↔
      ∃ s inner, Reaches (Stage.next disk) (Stage.start disk r file ds) s ∧
        s.Loads disk inner ∧ BlockRefusal inner e := by
  constructor
  · intro h
    obtain ⟨last, hlast, hres⟩ := Stage.exists_eval_start disk r file ds
    obtain ⟨s, s', hs, hstep, hnone, hs'⟩ := Stage.exists_step_of_fault (mem_eval.mp hlast).1 rfl
      (Stage.fault_of_result hres h)
    obtain ⟨inner, hloads, hrefusal⟩ := hstep.exists_loads hnone hs' he
    exact ⟨s, inner, hs, hloads, hrefusal⟩
  · rintro ⟨s, inner, hs, hloads, hrefusal⟩
    obtain ⟨s', hstep, hs'⟩ := hloads.exists_step hrefusal
    exact Stage.outcome_of_reaches (hs.trans (Stage.reaches_of_step hstep)) hs'

/-- A pass is refused for a block if its file has several, or if it loads a file with a block. -/
theorem preprocessFile_refusesBlock_iff (he : e.refusesBlock = true) :
    preprocessFile disk baseDir maxDepth top = .error e ↔
      top.outline = .error e ∨
        ∃ inner, LoadsIncluded disk baseDir maxDepth top inner ∧ BlockRefusal inner e := by
  cases ho : top.outline with
  | error e' =>
      simp [preprocessFile, LoadsIncluded, ho, bind, Except.bind]
  | ok o =>
      cases hb : o.marker.mapM (UniformBlock.parse top) with
      | error e' =>
          obtain ⟨start, hm, hparse⟩ := mapM_eq_error_iff.mp hb
          have hmarker := (SourceFile.outline_eq_ok_iff.mp ho).1
          rw [hm] at hmarker
          have hne : e' ≠ e := by
            rintro rfl
            cases blockFault_of_parse hmarker hparse with
            | duplicate hm' => simp [hmarker] at hm'
            | malformed => cases he
            | unterminated => cases he
          simp [preprocessFile, LoadsIncluded, ho, hb, hne, bind, Except.bind]
      | ok block =>
          have hloads : (∃ inner, LoadsIncluded disk baseDir maxDepth top inner ∧
              BlockRefusal inner e) ↔
              (resolveAll disk ⟨baseDir, maxDepth, []⟩ top o.includes).outcome = .error e := by
            rw [resolveAll_refusesBlock_iff he]
            constructor
            · rintro ⟨inner, ⟨o', _, s, ho', _, hs, hl⟩, hrefusal⟩
              rw [ho] at ho'
              cases ho'
              exact ⟨s, inner, hs, hl, hrefusal⟩
            · rintro ⟨s, inner, hs, hl, hrefusal⟩
              exact ⟨inner, ⟨o, block, s, ho, hb, hs, hl⟩, hrefusal⟩
          rw [hloads]
          cases hr : (resolveAll disk ⟨baseDir, maxDepth, []⟩ top o.includes).outcome with
          | error e' => simp [preprocessFile, ho, hb, hr, bind, Except.bind]
          | ok _ =>
              obtain ⟨text, ha⟩ := (Handed.first ho hb hr).covers.exists_assemble
              simp [preprocessFile, ho, hb, hr, ha, bind, Except.bind, pure, Except.pure]

/-- A pass reports a nested block exactly if it loads an included file with one marker, and then
that file and that line.  It reports two blocks in a file exactly if its own file, or an included
one that it loads, has several markers, and then the first two of them. -/
theorem preprocessFile_block_refused_iff (disk : Disk) (baseDir : Path) (maxDepth : ℕ)
    (top : SourceFile) :
    (∀ site, preprocessFile disk baseDir maxDepth top = .error (.nestedBlock site) ↔
      ∃ inner, LoadsIncluded disk baseDir maxDepth top inner ∧ inner.path = site.file ∧
        inner.linesWhere isMarkerLine = [site.line]) ∧
    ∀ site first, preprocessFile disk baseDir maxDepth top = .error (.duplicateBlock site first) ↔
      ∃ inner, (inner = top ∨ LoadsIncluded disk baseDir maxDepth top inner) ∧
        inner.path = site.file ∧
        ∃ rest, inner.linesWhere isMarkerLine = first :: site.line :: rest := by
  constructor
  · intro site
    have htop : top.outline ≠ .error (.nestedBlock site) := by
      intro h
      obtain ⟨_, _, _, _, he⟩ := SourceFile.outline_eq_error_iff.mp h
      cases he
    rw [preprocessFile_refusesBlock_iff rfl]
    simp only [htop, false_or, blockRefusal_nested_iff]
  · intro site first
    have htop : top.outline = .error (.duplicateBlock site first) ↔
        BlockRefusal top (.duplicateBlock site first) := by
      rw [SourceFile.outline_eq_error_iff, blockRefusal_duplicate_iff]
      obtain ⟨path, line⟩ := site
      constructor
      · rintro ⟨_, _, rest, hm, he⟩
        cases he
        exact ⟨rfl, rest, hm⟩
      · rintro ⟨rfl, rest, hm⟩
        exact ⟨_, _, rest, hm, rfl⟩
    rw [preprocessFile_refusesBlock_iff rfl, htop]
    simp only [or_and_right, exists_or, exists_eq_left, blockRefusal_duplicate_iff]

end

/-! ### Two markers -/

/-- A tree with a file that opens two blocks. -/
def twoMarkers : FileTree where
  root := FileTree.directory [("u.glsl", .file 0)]
  bodies := #[⟨("UNIFORM_BLOCK\nfloat a\nEND_UNIFORM_BLOCK\n" ++
    "UNIFORM_BLOCK\nfloat b\nEND_UNIFORM_BLOCK\n").toByteArray, .plain, 0⟩]
  workingDir := []
  clock := 0

/-- A file that includes the one of `twoMarkers`. -/
def twoMarkersFile : SourceFile :=
  (.ofTexts (.ofString "mem.frag") ["//#INCLUDE \"u.glsl\""])

/-- A file with two markers is loaded, and is not refused as a nested block. -/
theorem not_forall_loads_nestedBlock :
    ¬ ∀ inner first rest, LoadsIncluded twoMarkers.disk (.ofString ".") 32 twoMarkersFile inner →
      inner.linesWhere isMarkerLine = first :: rest →
      preprocessFile twoMarkers.disk (.ofString ".") 32 twoMarkersFile =
        .error (.nestedBlock ⟨inner.path, first⟩) := by
  have hrefused : preprocessFile twoMarkers.disk (.ofString ".") 32 twoMarkersFile =
      .error (.duplicateBlock ⟨.ofString "./u.glsl", 3⟩ 0) := by
    decide +kernel
  have hpre := hrefused
  rw [preprocessFile_refusesBlock_iff rfl] at hpre
  have htop : twoMarkersFile.outline = .ok ⟨[{ line := 0 }], none⟩ := by decide +kernel
  rw [htop] at hpre
  obtain ⟨inner, hloads, hrefusal⟩ := hpre.resolve_left (by rintro ⟨⟩)
  obtain ⟨_, rest, hm⟩ := blockRefusal_duplicate_iff.mp hrefusal
  intro h
  have hnested := h inner 0 _ hloads hm
  rw [hrefused] at hnested
  cases hnested

end ShaderBuild
