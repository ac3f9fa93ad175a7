import ShaderBuild.Proofs.FileTree.Passing
import ShaderBuild.Proofs.FileTree.Plain
import ShaderBuild.Proofs.Include.Resolver
import ShaderBuild.Proofs.Source.Splitting

/-! # Line ends and margins do not matter

A pass reads files through `SourceFile.load` and asks for canonical paths, and for nothing else.  So
it comes to the same result on two disks on which every file is loaded as the same lines
(`preprocessFile_congr`).  Two trees that differ in the line ends and the margins of their files
only (`FileTree.Relined`) are such disks (`FileTree.Relined.disk`). -/

namespace ShaderBuild

open Resolver

/-! ### Disks -/

/-- Two disks have the same paths, and the texts that are read on them have the same lines. -/
structure Disk.Relined (disk disk' : Disk) : Prop where
  canonical_eq : ∀ p, disk'.canonical p = disk.canonical p
  texts : ∀ p, (∃ fault, disk.readText p = .error fault ∧ disk'.readText p = .error fault) ∨
    ∃ text text', disk.readText p = .ok text ∧ disk'.readText p = .ok text' ∧ SameLines text text'

section
variable {disk disk' : Disk}

theorem Disk.Relined.load (h : disk.Relined disk') (p : Path) :
    SourceFile.load disk' p = SourceFile.load disk p := by
  unfold SourceFile.load
  obtain ⟨fault, hr, hr'⟩ | ⟨text, text', hr, hr', hsame⟩ := h.texts p
  · rw [hr, hr']
  · rw [hr, hr']
    exact congrArg Except.ok ((sameLines_iff p).mp hsame).symm

/-- Includes are expanded alike where every path is located and loaded alike. -/
theorem Resolver.expand_congr (hc : ∀ p, disk'.canonical p = disk.canonical p)
    (hl : ∀ p, SourceFile.load disk' p = SourceFile.load disk p) (room : ℕ) :
    expand disk' room = expand disk room := by
  have hopen : ∀ r site target, openTarget disk' r site target = openTarget disk r site target := by
    intro r site target
    simp only [openTarget_eq, locate, hc, hl]
  induction room with
  | zero => rfl
  | succ room ih =>
      funext r site target
      simp only [expand, hopen, ih]

/-- A pass knows the files of a disk only by their canonical paths and their lines. -/
theorem preprocessFile_congr (hc : ∀ p, disk'.canonical p = disk.canonical p)
    (hl : ∀ p, SourceFile.load disk' p = SourceFile.load disk p) (baseDir : Path) (maxDepth : ℕ)
    (file : SourceFile) :
    preprocessFile disk' baseDir maxDepth file = preprocessFile disk baseDir maxDepth file := by
  simp only [preprocessFile, resolveAll, identity, hc, expand_congr hc hl]

end

/-! ### File trees -/

namespace FileTree

/-- Two files are no texts, or texts with the same lines. -/
inductive SameText (content content' : ByteArray) : Prop
  | binary : String.fromUTF8? content = none → String.fromUTF8? content' = none →
      SameText content content'
  | text {text text' : String} : String.fromUTF8? content = some text →
      String.fromUTF8? content' = some text' → SameLines text text' → SameText content content'

/-- What the regular file with a number holds. -/
def held (t : FileTree) (n : ℕ) : ByteArray :=
  ((t.body? n).map FileBody.content).getD .empty

/-- An entry of `t` and one of `t'` that are the same but for the line ends and the margins in a
file, and for what a directory holds. -/
inductive RelinedEntry (t t' : FileTree) : Entry → Entry → Prop
  | dir {mode children children'} : RelinedEntry t t' (.dir mode children) (.dir mode children')
  | link {target} : RelinedEntry t t' (.link target) (.link target)
  | device {d} : RelinedEntry t t' (.device d) (.device d)
  | file {n n'} : t'.modeOf (.file n') = t.modeOf (.file n) → SameText (t.held n) (t'.held n') →
      RelinedEntry t t' (.file n) (.file n')

/-- Two trees are the same but for the line ends and the margins in their files. -/
structure Relined (t t' : FileTree) : Prop where
  workingDir_eq : t'.workingDir = t.workingDir
  entries : ∀ l, RelAt (RelinedEntry t t') t t' l

section
variable {t t' : FileTree}

theorem refines_relinedEntry (t t' : FileTree) : Entry.Refines (RelinedEntry t t') where
  alike h := by
    cases h with
    | dir => exact .dir
    | link => exact .link
    | device => exact .device
    | file => exact .file
  dir := .dir

theorem SameText.refl (content : ByteArray) : SameText content content := by
  cases h : String.fromUTF8? content with
  | none => exact .binary h h
  | some text => exact .text h h (.refl text)

theorem RelinedEntry.modeOf_eq {e e' : Entry} (h : RelinedEntry t t' e e') :
    t'.modeOf e' = t.modeOf e := by
  cases h with
  | dir => rfl
  | link => rfl
  | device => rfl
  | file hmode _ => exact hmode

/-- Entries that are the same but for their lines are read alike. -/
theorem RelinedEntry.contentOf {e e' : Entry} (h : RelinedEntry t t' e e') :
    (∃ fault, t.contentOf e = .error fault ∧ t'.contentOf e' = .error fault) ∨
      ∃ content content', t.contentOf e = .ok content ∧ t'.contentOf e' = .ok content' ∧
        SameText content content' := by
  unfold FileTree.contentOf
  rw [h.modeOf_eq]
  split
  · exact .inl ⟨_, rfl, rfl⟩
  · cases h with
    | dir => exact .inl ⟨_, rfl, rfl⟩
    | link => exact .inl ⟨_, rfl, rfl⟩
    | device => exact .inr ⟨_, _, rfl, rfl, .refl _⟩
    | file _ hsame => exact .inr ⟨_, _, rfl, rfl, hsame⟩

theorem Relined.read (h : t.Relined t') (p : Path) :
    (∃ fault, t.read p = .error fault ∧ t'.read p = .error fault) ∨
      ∃ content content', t.read p = .ok content ∧ t'.read p = .ok content' ∧
        SameText content content' := by
  unfold FileTree.read
  obtain ⟨fault, hf, hf'⟩ | ⟨l, e, e', hf, hf', he⟩ :=
    find_congr (refines_relinedEntry t t') h.workingDir_eq fun k (_ : k ∈ t.passed p) => h.entries k
  · rw [hf, hf']
    exact .inl ⟨fault, rfl, rfl⟩
  · rw [hf, hf']
    exact he.contentOf

/-- Trees that are the same but for the lines of their files are disks of which the same holds. -/
theorem Relined.disk (h : t.Relined t') : t.disk.Relined t'.disk where
  canonical_eq _ :=
    canonical_congr (refines_relinedEntry t t') h.workingDir_eq fun _ _ m _ => h.entries m
  texts p := by
    unfold FileTree.disk FileTree.readText
    obtain ⟨fault, hr, hr'⟩ | ⟨content, content', hr, hr', hsame⟩ := h.read p
    · simp [hr, hr']
    · cases hsame with
      | binary hb hb' => simp [hr, hr', hb, hb']
      | text ht ht' hlines => simpa [hr, hr', ht, ht'] using hlines

/-- Trees with the same names are the same but for the lines of their files, if every file is. -/
theorem relined_of_root_eq (hroot : t'.root = t.root) (hw : t'.workingDir = t.workingDir)
    (hfiles : ∀ n ∈ t.root.numbers,
      t'.modeOf (.file n) = t.modeOf (.file n) ∧ SameText (t.held n) (t'.held n)) :
    t.Relined t' := by
  refine ⟨hw, ?_⟩
  intro l
  unfold RelAt lookup
  rw [hroot]
  cases hl : t.root.find? l with
  | none => exact .none
  | some e =>
      cases e with
      | dir mode children => exact .some .dir
      | link target => exact .some .link
      | device d => exact .some .device
      | file n =>
          obtain ⟨hmode, hsame⟩ := hfiles n (Entry.mem_numbers_of_find? hl)
          exact .some (.file hmode hsame)

end

end FileTree

/-- Line ends and margins do not change the result of a pass: in two trees that differ in nothing
else, texts with the same lines are flattened alike.  Texts have the same lines also if one of them
has a line end more behind a last line that is not empty. -/
theorem preprocessFile_of_relined {t t' : FileTree} {text text' : String} (ht : t.Relined t')
    (h : SameLines text text') (baseDir path : Path) (maxDepth : ℕ) :
    preprocessFile t'.disk baseDir maxDepth (.ofText path text') =
      preprocessFile t.disk baseDir maxDepth (.ofText path text) ∧
    ∀ s, EndsInLine s → ∀ e ∈ lineEnds, SameLines s (s ++ e) := by
  refine ⟨?_, fun _ hs _ he => sameLines_append_end hs he⟩
  rw [← (sameLines_iff path).mp h]
  exact preprocessFile_congr ht.disk.canonical_eq ht.disk.load baseDir maxDepth _

/-- A tree with one file, `b.glsl`. -/
def oneInclude (text : String) : FileTree where
  root := FileTree.directory [("b.glsl", .file 0)]
  bodies := #[⟨text.toByteArray, .plain, 0⟩]
  workingDir := []
  clock := 0

theorem relined_oneInclude :
    (oneInclude "float b;\n\n").Relined (oneInclude "\tfloat b; \r \r\n") := by
  refine FileTree.relined_of_root_eq rfl rfl ?_
  intro n hn
  obtain rfl : n = 0 := by
    have hnumbers : (oneInclude "float b;\n\n").root.numbers = [0] := by decide +kernel
    rw [hnumbers] at hn
    exact List.mem_singleton.mp hn
  have hlines : SameLines "float b;\n\n" "\tfloat b; \r \r\n" :=
    (sameLines_iff ⟨[]⟩).mpr (by decide +kernel)
  refine ⟨rfl, .text ?_ ?_ hlines⟩
  · decide +kernel
  · decide +kernel

/-- An include line with a tab before it, and files with other line ends. -/
theorem preprocessFile_of_relined_oneInclude :
    preprocessFile (oneInclude "\tfloat b; \r \r\n").disk ⟨[]⟩ 32
      (.ofText (.ofString "a") "X\r\t//#INCLUDE \"b.glsl\"\r\n") =
        .ok ⟨"X\nfloat b;\n", none⟩ := by
  have hlines : SameLines "X\n//#INCLUDE \"b.glsl\"" "X\r\t//#INCLUDE \"b.glsl\"\r\n" :=
    (sameLines_iff ⟨[]⟩).mpr (by decide +kernel)
  rw [(preprocessFile_of_relined relined_oneInclude hlines ⟨[]⟩ (.ofString "a") 32).1]
  decide +kernel

end ShaderBuild
