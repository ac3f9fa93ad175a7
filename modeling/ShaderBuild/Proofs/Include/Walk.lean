import ShaderBuild.Proofs.Include.Assembly

/-! # Include walks

The files that a pass opens form a graph: a file leads to another by every well-formed include line
whose target, joined onto the base directory, has a canonical path and can be read (`Leads`).  A
`Walk` goes along such lines from the file that the pass starts from.  Files are told apart by the
path they are known by while they are expanded, so a `Visit` holds that path next to the lines.

A resolver whose active paths are those of a walk stands at its end (`Resolver.along`).  There a
directive can be opened only within the depth limit and off the walk (`exists_openTarget`). -/

namespace ShaderBuild

/-- A file on an include walk: the path it is known by, and its lines under the path it was read
from. -/
structure Visit where
  known : Path
  file : SourceFile

/-- The visit that a pass over `file` starts with. -/
def Visit.start (disk : Disk) (file : SourceFile) : Visit :=
  ⟨Resolver.identity disk file.path, file⟩

/-- The line `text` includes `w`: its target, joined onto the base directory, has the canonical path
`w.known` and reads as `w.file`. -/
def Includes (disk : Disk) (baseDir : Path) (text : String) (w : Visit) : Prop :=
  ∃ target, includePath? text = some target ∧
    disk.canonical (baseDir.join (.ofString target)) = .ok w.known ∧
    SourceFile.load disk (baseDir.join (.ofString target)) = .ok w.file

/-- `Leads disk baseDir f i w`: line `i` of `f` includes `w`. -/
def Leads (disk : Disk) (baseDir : Path) (f : SourceFile) (i : ℕ) (w : Visit) : Prop :=
  ∃ text, f.text? i = some text ∧ Includes disk baseDir text w

/-- `Walk disk baseDir top ws v`: an include walk from `top` to `v`; it visits the files `ws`, both
ends among them. -/
inductive Walk (disk : Disk) (baseDir : Path) (top : Visit) : List Visit → Visit → Prop
  | start : Walk disk baseDir top [top] top
  | step {ws : List Visit} {v w : Visit} {i : ℕ} : Walk disk baseDir top ws v →
      Leads disk baseDir v.file i w → Walk disk baseDir top (ws ++ [w]) w

/-- No two of the paths are the same. -/
def Simple (ps : List Path) : Prop :=
  ps.Pairwise fun p q => p.same q = false

/-- The disk that holds these texts, each at a canonical path, and nothing else. -/
def Disk.ofTexts (texts : List (String × String)) : Disk where
  canonical p := if texts.any fun t => p.same (.ofString t.1) then .ok p else .error .notFound
  readText p := ((texts.find? fun t => p.same (.ofString t.1)).map Prod.snd).elim
    (.error .notFound) .ok

@[simp] theorem Path.same_self (p : Path) : p.same p = true := by
  unfold Path.same
  exact beq_self_eq_true _

theorem Path.same_comm (p q : Path) : p.same q = q.same p := by
  unfold Path.same
  exact BEq.comm

/-- What is the same as one of two paths that are the same is the same as the other. -/
theorem Path.same_congr {p q : Path} (h : p.same q = true) (o : Path) : o.same p = o.same q := by
  unfold Path.same at h ⊢
  rw [beq_iff_eq.mp h]

/-- A path that differs from all of the paths may be added to them. -/
theorem Simple.concat {ps : List Path} {q : Path} (h : Simple ps)
    (hq : ∀ p ∈ ps, q.same p = false) : Simple (ps ++ [q]) := by
  unfold Simple
  rw [List.pairwise_append]
  refine ⟨h, List.pairwise_singleton _ _, ?_⟩
  intro p hp q' hq'
  obtain rfl := List.mem_singleton.mp hq'
  rw [Path.same_comm]
  exact hq p hp

/-! ### Where a line leads -/

section
variable {disk : Disk} {baseDir : Path} {f : SourceFile} {i : ℕ} {text : String} {v w : Visit}

theorem Includes.isIncludeLine (h : Includes disk baseDir text w) : isIncludeLine text = true := by
  obtain ⟨target, ht, _⟩ := h
  exact isIncludeLine_of_includePath? ht

/-- A line includes one file at most. -/
theorem Includes.unique (hv : Includes disk baseDir text v) (hw : Includes disk baseDir text w) :
    v = w := by
  obtain ⟨target, ht, hc, hf⟩ := hv
  obtain ⟨target', ht', hc', hf'⟩ := hw
  rw [ht] at ht'
  cases ht'
  cases v
  cases w
  rw [hc] at hc'
  rw [hf] at hf'
  cases hc'
  cases hf'
  rfl

theorem leads_iff_includes (hi : f.text? i = some text) :
    Leads disk baseDir f i w ↔ Includes disk baseDir text w := by
  simp [Leads, hi]

theorem Leads.unique (hv : Leads disk baseDir f i v) (hw : Leads disk baseDir f i w) : v = w := by
  obtain ⟨t, ht, hv⟩ := hv
  exact hv.unique ((leads_iff_includes ht).mp hw)

theorem SourceFile.target?_eq_some_iff {target : String} :
    f.target? i = some target ↔
      ∃ text, f.text? i = some text ∧ includePath? text = some target := by
  unfold SourceFile.target?
  cases f.text? i with
  | none => simp [includePath?_empty]
  | some text => simp

theorem leads_iff_target? :
    Leads disk baseDir f i w ↔ ∃ target, f.target? i = some target ∧
      disk.canonical (baseDir.join (.ofString target)) = .ok w.known ∧
      SourceFile.load disk (baseDir.join (.ofString target)) = .ok w.file := by
  constructor
  · rintro ⟨text, hi, target, ht, h⟩
    exact ⟨target, SourceFile.target?_eq_some_iff.mpr ⟨text, hi, ht⟩, h⟩
  · rintro ⟨target, ht, h⟩
    obtain ⟨text, hi, ht⟩ := SourceFile.target?_eq_some_iff.mp ht
    exact ⟨text, hi, target, ht, h⟩

theorem Leads.mem_linesWhere (h : Leads disk baseDir f i w) : i ∈ f.linesWhere isIncludeLine := by
  obtain ⟨text, hi, hinc⟩ := h
  exact SourceFile.mem_linesWhere.mpr ⟨text, hi, hinc.isIncludeLine⟩

end

namespace Resolver

variable {disk : Disk} {baseDir : Path} {maxDepth : ℕ}

/-- The resolver that is expanding the files of a walk. -/
def along (baseDir : Path) (maxDepth : ℕ) (ws : List Visit) : Resolver :=
  ⟨baseDir, maxDepth, ws.map Visit.known⟩

theorem enter_along (ws : List Visit) (w : Visit) :
    (along baseDir maxDepth ws).enter w.known = along baseDir maxDepth (ws ++ [w]) := by
  simp [along, enter]

/-- When a line is filled, the file that it leads to has been opened and its directives resolved one
level deeper. -/
theorem Fills.exists_openTarget {r : Resolver} {file : SourceFile} {i : ℕ} {d' : Directive}
    {w : Visit} (h : Fills (expandAt disk) r file { line := i } d')
    (hl : Leads disk r.baseDir file i w) :
    ∃ ds', r.active.length ≤ r.maxDepth ∧ (∀ p ∈ r.active, w.known.same p = false) ∧
      w.file.outline = .ok ⟨ds', none⟩ ∧
      (resolveEach (expandAt disk) w.file (r.enter w.known) ds').outcome = .ok () := by
  obtain ⟨target, ht, hc, hf⟩ := leads_iff_target?.mp hl
  cases h with
  | @mk target' text ht' hx =>
      rw [ht] at ht'
      cases ht'
      obtain ⟨known, inner, ds', hopen, hr, _⟩ := expandAt_eq_ok_iff.mp hx
      obtain ⟨hd, hc', hs, hf', ho'⟩ := openTarget_eq_ok_iff.mp hopen
      rw [hc] at hc'
      rw [hf] at hf'
      cases hc'
      cases hf'
      exact ⟨ds', hd, hs, ho', hr⟩

/-- Once the directives of a file are resolved, every file that it leads to has been opened and its
directives resolved one level deeper. -/
theorem exists_openTarget {r : Resolver} {file : SourceFile} {i : ℕ} {w : Visit}
    {ds : List Directive} {marker : Option ℕ} (ho : file.outline = .ok ⟨ds, marker⟩)
    (h : (resolveEach (expandAt disk) file r ds).outcome = .ok ())
    (hl : Leads disk r.baseDir file i w) :
    ∃ ds', r.active.length ≤ r.maxDepth ∧ (∀ p ∈ r.active, w.known.same p = false) ∧
      w.file.outline = .ok ⟨ds', none⟩ ∧
      (resolveEach (expandAt disk) w.file (r.enter w.known) ds').outcome = .ok () := by
  have hmem : ({ line := i } : Directive) ∈ ds := by
    rw [(SourceFile.outline_eq_ok_iff.mp ho).2]
    exact List.mem_map.mpr ⟨i, hl.mem_linesWhere, rfl⟩
  obtain ⟨d', hd'⟩ := (resolveEach_outcome_eq_ok_iff (restores_expandAt disk)).mp h _ hmem
  exact hd'.exists_openTarget hl

/-- A file that may be opened, and whose directives resolve one level deeper, expands. -/
theorem exists_fills {r : Resolver} {file : SourceFile} {i : ℕ} {w : Visit} {ds' : List Directive}
    (hl : Leads disk r.baseDir file i w) (hd : r.active.length ≤ r.maxDepth)
    (hs : ∀ p ∈ r.active, w.known.same p = false) (ho : w.file.outline = .ok ⟨ds', none⟩)
    (hr : (resolveEach (expandAt disk) w.file (r.enter w.known) ds').outcome = .ok ()) :
    ∃ d', Fills (expandAt disk) r file { line := i } d' := by
  obtain ⟨target, ht, hc, hf⟩ := leads_iff_target?.mp hl
  have hopen : openTarget disk r ⟨file.path, i⟩ target = .ok (w.known, w.file, ds') :=
    openTarget_eq_ok_iff.mpr ⟨hd, hc, hs, hf, ho⟩
  have hasm := assemble_of_fills (forall₂_fills (restores_expandAt disk) hr)
  exact ⟨_, .mk ht (expandAt_eq_ok_iff.mpr ⟨_, _, _, hopen, hr, hasm⟩)⟩

end Resolver

open Resolver

/-- A pass as the outline, the block, the directives and the text of its file, one after the
other. -/
theorem preprocessFile_eq (disk : Disk) (baseDir : Path) (m : ℕ) (file : SourceFile) :
    preprocessFile disk baseDir m file =
      file.outline.bind fun o => (o.marker.mapM (UniformBlock.parse file)).bind fun block =>
        (resolveEach (expandAt disk) file (along baseDir m [.start disk file])
          o.includes).outcome.bind fun _ =>
        (file.assemble (resolveEach (expandAt disk) file (along baseDir m [.start disk file])
          o.includes).directives).bind fun source => .ok ⟨source, block⟩ := by
  unfold preprocessFile
  simp only [resolveAll_eq, resolveWithin]
  rfl

end ShaderBuild
