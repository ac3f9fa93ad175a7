import ShaderBuild.Proofs.Include.ActiveStack
import ShaderBuild.Proofs.Include.Context
import ShaderBuild.Proofs.Path

/-! # What a pass asks the file system

A pass asks for the canonical path of its file, and then about the targets of the includes that it
meets, joined onto the base directory.  Which ones it meets depends on the answers; but two disks
that agree about those that are met on one of them lead it through the same stages
(`reaches_of_agree`), so they cannot be told apart by its result (`preprocessFile_of_agree`). -/

namespace ShaderBuild

open Resolver StateTransition

/-- Two disks answer alike about a path. -/
structure Disk.AgreeAt (disk disk' : Disk) (p : Path) : Prop where
  canonical_eq : disk'.canonical p = disk.canonical p
  readText_eq : disk'.readText p = disk.readText p

/-- The include path on the line of the directive that is resolved next. -/
def Stage.target? : Stage → Option String
  | ⟨_, ⟨file, _, d :: _⟩ :: _, none⟩ => file.target? d.line
  | _ => none

/-- A pass over `file` meets the include path `target`: its block can be read, and a stage that
resolving its directives goes through resolves that target next. -/
def Meets (disk : Disk) (baseDir : Path) (maxDepth : ℕ) (file : SourceFile) (target : String) :
    Prop :=
  ∃ o block s, file.outline = .ok o ∧ o.marker.mapM (UniformBlock.parse file) = .ok block ∧
    Reaches (Stage.next disk) (Stage.start disk ⟨baseDir, maxDepth, []⟩ file o.includes) s ∧
    s.target? = some target

section
variable {disk disk' : Disk} {baseDir : Path} {maxDepth : ℕ} {file : SourceFile}

/-! ### Runs on two disks -/

theorem Resolver.identity_of_canonical_eq {p : Path} (h : disk'.canonical p = disk.canonical p) :
    identity disk' p = identity disk p := by
  unfold identity
  rw [h]

theorem Resolver.openTarget_of_agree {r : Resolver} {target : String}
    (h : disk.AgreeAt disk' (r.baseDir.join (.ofString target))) (site : Site) :
    openTarget disk' r site target = openTarget disk r site target := by
  simp only [openTarget_eq, locate, SourceFile.load, h.canonical_eq, h.readText_eq]

namespace Stage

/-- Disks that agree about the target that a stage resolves next take it to the same stage. -/
theorem next_of_agree {s : Stage}
    (h : ∀ target, s.target? = some target →
      disk.AgreeAt disk' (s.resolver.baseDir.join (.ofString target))) :
    next disk' s = next disk s := by
  unfold next
  split
  · rfl
  · rename_i r file done d todo frames
    cases ht : file.target? d.line with
    | none => rfl
    | some target => simp only [openTarget_of_agree (h target ht)]
  · rfl
  · rfl

/-- The stages on one disk are stages on every disk that agrees about the targets met there. -/
theorem reaches_of_agree {s₀ s : Stage}
    (h : ∀ s, Reaches (next disk) s₀ s → ∀ target, s.target? = some target →
      disk.AgreeAt disk' (s.resolver.baseDir.join (.ofString target)))
    (hs : Reaches (next disk) s₀ s) : Reaches (next disk') s₀ s := by
  induction hs with
  | refl => exact .refl
  | tail hs hstep ih =>
      refine ih.tail ?_
      rw [next_of_agree (h _ hs)]
      exact hstep

end Stage

/-- Directives are resolved alike on disks that agree about the file and the targets that are
met. -/
theorem Resolver.resolveAll_of_agree {ds : List Directive}
    (htop : disk'.canonical file.path = disk.canonical file.path)
    (h : ∀ s, Reaches (Stage.next disk) (Stage.start disk ⟨baseDir, maxDepth, []⟩ file ds) s →
      ∀ target, s.target? = some target → disk.AgreeAt disk' (baseDir.join (.ofString target))) :
    resolveAll disk' ⟨baseDir, maxDepth, []⟩ file ds =
      resolveAll disk ⟨baseDir, maxDepth, []⟩ file ds := by
  have hbase : ∀ s, Reaches (Stage.next disk) (Stage.start disk ⟨baseDir, maxDepth, []⟩ file ds) s →
      ∀ target, s.target? = some target →
        disk.AgreeAt disk' (s.resolver.baseDir.join (.ofString target)) := by
    intro s hs
    obtain ⟨ws, v, ht⟩ := Stage.exists_tracks hs
    rw [ht.resolver_eq]
    exact h s hs
  obtain ⟨s, hs, hres⟩ := Stage.exists_eval_start disk ⟨baseDir, maxDepth, []⟩ file ds
  obtain ⟨s', hs', hres'⟩ := Stage.exists_eval_start disk' ⟨baseDir, maxDepth, []⟩ file ds
  obtain ⟨hrun, hend⟩ := mem_eval.mp hs
  have hstart : Stage.start disk' ⟨baseDir, maxDepth, []⟩ file ds =
      Stage.start disk ⟨baseDir, maxDepth, []⟩ file ds := by
    unfold Stage.start
    rw [identity_of_canonical_eq htop]
  rw [hstart] at hs'
  have hs'' : s ∈ eval (Stage.next disk') (Stage.start disk ⟨baseDir, maxDepth, []⟩ file ds) :=
    mem_eval.mpr ⟨Stage.reaches_of_agree hbase hrun,
      (Stage.next_of_agree (hbase s hrun)).trans hend⟩
  rw [Part.mem_unique hs' hs'', hres] at hres'
  exact (Option.some.inj hres').symm

/-- A pass cannot tell disks apart that agree about the canonical path of its file, and about the
include paths that it meets on one of them, joined onto the base directory.  Where the file of a
directive was read from has no part in what becomes of the directive. -/
theorem preprocessFile_of_agree (htop : disk'.canonical file.path = disk.canonical file.path)
    (h : ∀ target, Meets disk baseDir maxDepth file target →
      disk.AgreeAt disk' (baseDir.join (.ofString target))) :
    preprocessFile disk' baseDir maxDepth file = preprocessFile disk baseDir maxDepth file ∧
    ∀ r ts p p' d, (resolve disk r (.ofTexts p' ts) d).directive =
        (resolve disk r (.ofTexts p ts) d).directive ∧
      ((resolve disk r (.ofTexts p' ts) d).outcome = .ok () ↔
        (resolve disk r (.ofTexts p ts) d).outcome = .ok ()) := by
  constructor
  · cases ho : file.outline with
    | error e => simp only [preprocessFile, ho, bind, Except.bind]
    | ok o =>
        cases hb : o.marker.mapM (UniformBlock.parse file) with
        | error e => simp only [preprocessFile, ho, hb, bind, Except.bind]
        | ok block =>
            have hall : resolveAll disk' ⟨baseDir, maxDepth, []⟩ file o.includes =
                resolveAll disk ⟨baseDir, maxDepth, []⟩ file o.includes :=
              resolveAll_of_agree htop fun s hs target ht => h target ⟨o, block, s, ho, hb, hs, ht⟩
            simp only [preprocessFile, ho, hb, hall, bind, Except.bind]
  · intro r ts p p' d
    have hl : (SourceFile.ofTexts p' ts).lines = (SourceFile.ofTexts p ts).lines := rfl
    exact resolve_congr disk r hl d

end

/-- The disk with a file under its canonical path `p` besides. -/
def Disk.besides (disk : Disk) (p : Path) (text : String) : Disk where
  canonical q := if q = p then .ok p else disk.canonical q
  readText q := if q = p then .ok text else disk.readText q

theorem Disk.agreeAt_besides (disk : Disk) {p q : Path} (h : q ≠ p) (text : String) :
    disk.AgreeAt (disk.besides p text) q where
  canonical_eq := if_neg h
  readText_eq := if_neg h

/-- A file in the directory of the first one has the name of an included file. -/
theorem preprocessFile_of_agree_besides :
    preprocessFile ((Disk.ofTexts [("s/b", "//#INCLUDE \"c\"\nY"), ("s/c", "Z")]).besides
        (.ofString "q/b") "W") (.ofString "s") 2
        (.ofTexts (.ofString "q/a") ["X", "//#INCLUDE \"b\""]) = .ok ⟨"X\nZ\nY", none⟩ := by
  have h : preprocessFile (.ofTexts [("s/b", "//#INCLUDE \"c\"\nY"), ("s/c", "Z")]) (.ofString "s")
      2 (.ofTexts (.ofString "q/a") ["X", "//#INCLUDE \"b\""]) = .ok ⟨"X\nZ\nY", none⟩ := by
    decide +kernel
  rw [← h]
  refine (preprocessFile_of_agree ?_ ?_).1
  · rfl
  · intro target _
    apply Disk.agreeAt_besides
    intro heq
    -- a joined path starts with a slash or as the base directory does
    have hs := Path.head?_join (p := .ofString "s") (by decide) (.ofString target)
    rw [heq] at hs
    revert hs
    decide

end ShaderBuild
