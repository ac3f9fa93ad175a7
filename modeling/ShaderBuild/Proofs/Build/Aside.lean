import ShaderBuild.Proofs.Build.Declared
import ShaderBuild.Proofs.FileTree.Changes
import ShaderBuild.Proofs.Include.Lookups

/-! # Compiling a shader beside other outputs

What flattening a shader looks up (`Shader.LooksUp`) and the files that it is compiled into
(`Compiler.Goes`) are all of the file tree that a compilation depends on, given a compiler that
changes its output only, as a function of its source (`Launcher.Compiles`).  So where other files
have changed a shader is compiled as before, into the same files with the same content
(`Compiler.compilePreprocessed_of_differsAt`). -/

namespace ShaderBuild

/-- Flattening `s` looks up a path: its own, or that of an include that it meets. -/
inductive Shader.LooksUp (disk : Disk) (s : Shader) (maxDepth : ℕ) : Path → Prop
  | source : Shader.LooksUp disk s maxDepth s.sourcePath
  | target {file : SourceFile} {target : String} : SourceFile.load disk s.sourcePath = .ok file →
      Meets disk s.baseDir maxDepth file target →
      Shader.LooksUp disk s maxDepth (s.baseDir.join (.ofString target))

/-- Nothing that a program can tell changed from `m` to `m'` but the files at `ls`. -/
structure Machine.DiffersAt (m m' : Machine) (ls : List Location) : Prop where
  files : m.files.DiffersAt m'.files ls
  environment_eq : m'.environment = m.environment

/-- On a machine whose files have changed at `ls` at most, the compiler changes no file but its
output.  How it ends and what the output holds then is a function of what it reads from the source,
and of the file that the output was. -/
structure Launcher.Compiles (launch : Launcher) (c : Compiler) (m₀ : Machine) (ls : List Location) :
    Prop where
  touches : ∀ (m : Machine) (source output : Path) (l : Location),
    m₀.DiffersAt m ls → m.files.Sound → m.files.outlet? output = some l →
    m.DiffersAt (launch (c.invocation source output) m).2 [l]
  depends : ∀ (m m' : Machine) (source output : Path) (l : Location),
    m₀.DiffersAt m ls → m.files.Sound → m₀.DiffersAt m' ls → m'.files.Sound →
    m.files.SameSpot m'.files output l → m'.files.read source = m.files.read source →
    (launch (c.invocation source output) m').1 = (launch (c.invocation source output) m).1 ∧
      ∀ k, m.files.OneFile l k →
        (launch (c.invocation source output) m').2.files.contentAt? k =
          (launch (c.invocation source output) m).2.files.contentAt? k

theorem Machine.DiffersAt.refl {m : Machine} (ht : m.files.Sound) (ls : List Location) :
    m.DiffersAt m ls :=
  ⟨.refl ht ls, rfl⟩

theorem Machine.DiffersAt.mono {m m' : Machine} {ls ls' : List Location} (ht : m.files.Sound)
    (h : m.DiffersAt m' ls) (hsub : ls ⊆ ls') : m.DiffersAt m' ls' :=
  ⟨h.files.mono ht hsub, h.environment_eq⟩

theorem Machine.DiffersAt.trans {m m' m'' : Machine} {ls ls' : List Location}
    (h : m.DiffersAt m' ls) (h' : m'.DiffersAt m'' ls') : m.DiffersAt m'' (ls ++ ls') :=
  ⟨h.files.trans h'.files, h'.environment_eq.trans h.environment_eq⟩

theorem Launcher.Compiles.mono {launch : Launcher} {c : Compiler} {m : Machine}
    {ls ls' : List Location} (h : launch.Compiles c m ls) (ht : m.files.Sound) (hsub : ls' ⊆ ls) :
    launch.Compiles c m ls' where
  touches m' source output l hm' := h.touches m' source output l (hm'.mono ht hsub)
  depends m' m'' source output l hm' ht' hm'' :=
    h.depends m' m'' source output l (hm'.mono ht hsub) ht' (hm''.mono ht hsub)

/-! ### Flattening -/

section
variable {t t' : FileTree} {s : Shader} {ls : List Location} {maxDepth : ℕ}

open StateTransition in
/-- An include path that a pass meets is on a line of a file on an include walk. -/
theorem Meets.exists_walk {disk : Disk} {baseDir : Path} {file : SourceFile} {target : String}
    (h : Meets disk baseDir maxDepth file target) :
    ∃ ws v, Walk disk baseDir (.start disk file) ws v ∧
      target ∈ v.file.texts.filterMap includePath? := by
  obtain ⟨o, block, stage, _, _, hs, ht⟩ := h
  obtain ⟨ws, v, htracks⟩ := Stage.exists_tracks hs
  unfold Stage.target? at ht
  split at ht
  · rename_i file' _ d _ _
    obtain ⟨text, hi, hp⟩ := SourceFile.target?_eq_some_iff.mp ht
    refine ⟨ws, v, htracks.walk, List.mem_filterMap.mpr ⟨text, ?_, hp⟩⟩
    rw [← htracks.file_eq]
    exact SourceFile.mem_texts_iff.mpr ⟨_, hi⟩
  · cases ht

/-- What flattening looks up, if all includes of some files are among `targets` and lead to these
files again. -/
theorem Shader.LooksUp.mem {disk : Disk} {files : List SourceFile} {targets : List String}
    {p : Path}
    (htop : ∀ file, SourceFile.load disk s.sourcePath = .ok file → file ∈ files)
    (hlines : ∀ f ∈ files, f.texts.filterMap includePath? ⊆ targets)
    (hload : ∀ target ∈ targets, ∀ f,
      SourceFile.load disk (s.baseDir.join (.ofString target)) = .ok f → f ∈ files)
    (h : s.LooksUp disk maxDepth p) :
    p ∈ s.sourcePath :: targets.map fun target => s.baseDir.join (.ofString target) := by
  cases h with
  | source => exact List.mem_cons_self
  | @target file target hfile hmeets =>
      obtain ⟨ws, v, hwalk, htarget⟩ := hmeets.exists_walk
      have hv : v.file ∈ files := by
        clear htarget
        induction hwalk with
        | start => exact htop file hfile
        | step _ hleads ih =>
            obtain ⟨text, hi, next, hnext, _, hf⟩ := hleads
            have hmem := List.mem_filterMap.mpr ⟨text, SourceFile.mem_texts_iff.mpr ⟨_, hi⟩, hnext⟩
            exact hload next (hlines _ ih hmem) _ hf
      exact List.mem_cons_of_mem _ (List.mem_map_of_mem (hlines _ hv htarget))

/-- A shader is flattened alike on disks that agree about what flattening it looks up. -/
theorem Shader.preprocess_of_agree {disk disk' : Disk}
    (h : ∀ p, s.LooksUp disk maxDepth p → disk.AgreeAt disk' p) :
    s.preprocess disk' maxDepth = s.preprocess disk maxDepth := by
  have hload : SourceFile.load disk' s.sourcePath = SourceFile.load disk s.sourcePath := by
    rw [SourceFile.load, SourceFile.load, (h _ .source).readText_eq]
  unfold Shader.preprocess
  simp only [bind, Except.bind]
  rw [hload]
  cases hfile : SourceFile.load disk s.sourcePath with
  | error fault => rfl
  | ok file =>
      dsimp only
      have htop : disk'.canonical file.path = disk.canonical file.path := by
        rw [SourceFile.load_path hfile]
        exact (h _ .source).canonical_eq
      cases ho : file.outline with
      | error fault => simp only [preprocessFile, ho, bind, Except.bind]
      | ok o =>
          cases hb : o.marker.mapM (UniformBlock.parse file) with
          | error fault => simp only [preprocessFile, ho, hb, bind, Except.bind]
          | ok block =>
              have hall : Resolver.resolveAll disk' ⟨s.baseDir, maxDepth, []⟩ file o.includes =
                  Resolver.resolveAll disk ⟨s.baseDir, maxDepth, []⟩ file o.includes :=
                Resolver.resolveAll_of_agree htop fun stage hs target ht =>
                  h _ (.target hfile ⟨o, block, stage, ho, hb, hs, ht⟩)
              simp only [preprocessFile, ho, hb, hall, bind, Except.bind]

/-- A shader is flattened alike where no file has changed that is passed on the way to what it looks
up. -/
theorem Shader.preprocess_of_differsAt (ht : t.Sound) (h : t.DiffersAt t' ls)
    (hends : ∀ j ∈ ls, t.EndsWalks j)
    (hunread : ∀ p, s.LooksUp t.disk maxDepth p → ∀ k ∈ t.passed p, ∀ l ∈ ls, ¬ t.OneFile k l) :
    s.preprocess t'.disk maxDepth = s.preprocess t.disk maxDepth := by
  apply Shader.preprocess_of_agree
  intro p hp
  have hkept : ∀ k ∈ t.passed p, FileTree.RelAt Entry.Kept t t' k :=
    fun k hk => h.kept k (FileTree.not_mem_of_not_oneFile (hunread p hp k hk))
  refine ⟨h.canonical_eq ht.hasWorkingDir hends hkept, ?_⟩
  show t'.readText p = t.readText p
  rw [FileTree.readText, FileTree.readText, h.read_eq ht (hunread p hp)]

end

namespace Compiler

/-! ### One compilation -/

/-- A shader is compiled into two files: its flattened text goes to `l`, and the output for that to
`k`. -/
structure Goes (t : FileTree) (s : Shader) (outputDir output : Path) (l k : Location) : Prop where
  flattened : t.outlet? (flattenedPath s outputDir) = some l
  outputPath : outputPath? (flattenedPath s outputDir) outputDir = some output
  output : t.outlet? output = some k
  apart : ¬ t.OneFile l k

/-- The files at `ls` are none that the shader is compiled into, and none that are passed on the way
to what it looks up. -/
structure Aside (t : FileTree) (s : Shader) (l k : Location) (ls : List Location) : Prop where
  ends : ∀ j ∈ ls, t.EndsWalks j
  flattened : ∀ j ∈ ls, ¬ t.OneFile l j
  output : ∀ j ∈ ls, ¬ t.OneFile k j
  unread : ∀ p, s.LooksUp t.disk defaultMaxDepth p → ∀ i ∈ t.passed p, ∀ j ∈ ls, ¬ t.OneFile i j

section
variable {launch : Launcher} {c : Compiler} {s : Shader} {source output outputDir path : Path}
  {t t' : FileTree} {m m' : Machine} {l k : Location} {ls : List Location}

theorem concluded_snd (c : Compiler) (source output : Path)
    (x : Except FileFault ExitStatus × Machine) : (c.concluded source output x).2 = x.2 := by
  obtain ⟨_ | _, _⟩ := x <;> rfl

theorem concluded_fst_congr {x y : Except FileFault ExitStatus × Machine} (h : y.1 = x.1) :
    (c.concluded source output y).1 = (c.concluded source output x).1 := by
  obtain ⟨outcome, _⟩ := x
  obtain ⟨outcome', _⟩ := y
  dsimp only at h
  subst h
  cases outcome' <;> rfl

theorem eq_of_concluded_eq_ok {x : Except FileFault ExitStatus × Machine}
    (h : (c.concluded source output x).1 = .ok path) : path = output := by
  obtain ⟨_ | status, _⟩ := x
  · cases h
  · unfold concluded at h
    dsimp only at h
    split at h
    · cases h
      rfl
    · cases h

/-- Where the output directory is there, the canonical paths of the flattened text and of the shader
are as before. -/
theorem sameFile_of_differsAt (ht : t.Sound) (h : t.DiffersAt t' ls)
    (hg : Goes t s outputDir output l k) (ha : Aside t s l k ls) :
    sameFile t' (flattenedPath s outputDir) s.sourcePath =
      sameFile t (flattenedPath s outputDir) s.sourcePath := by
  have hflattened := h.canonical_eq ht.hasWorkingDir ha.ends
    (FileTree.kept_of_outlet? ht.hasWorkingDir h ha.ends hg.flattened
      (FileTree.not_mem_of_not_oneFile ha.flattened))
  have hsource := h.canonical_eq ht.hasWorkingDir ha.ends fun k hk =>
    h.kept k (FileTree.not_mem_of_not_oneFile (ha.unread _ .source k hk))
  rw [sameFile, sameFile, hflattened, hsource]

/-- The output is the same file as before, once the flattened text has been written beside other
changes. -/
theorem Goes.sameSpot_output (hg : Goes t s outputDir output l k) (ha : Aside t s l k ls)
    (ht : t.Sound) (h : t.DiffersAt t' (ls ++ [l])) : t'.Sound ∧ t.SameSpot t' output k := by
  have hends : ∀ j ∈ ls ++ [l], t.EndsWalks j := by
    intro j hj
    obtain hj | hj := List.mem_append.mp hj
    · exact ha.ends j hj
    · rw [List.mem_singleton.mp hj]
      exact (FileTree.exists_of_outlet? ht.hasWorkingDir hg.flattened).2.2.1
  refine ⟨h.sound ht hends, h.sameSpot ht hends hg.output ?_⟩
  intro j hj hone
  obtain hj | hj := List.mem_append.mp hj
  · exact ha.output j hj hone
  · rw [List.mem_singleton.mp hj] at hone
    exact hg.apart hone.symm

/-- A compilation into a directory that is there. -/
theorem compilePreprocessed_of_isDir (hw : m.files.HasWorkingDir)
    (hdir : m.files.isDir outputDir = true)
    (ho : outputPath? (flattenedPath s outputDir) outputDir = some output) :
    c.compilePreprocessed launch s outputDir m =
      match s.preprocess m.files.disk defaultMaxDepth with
      | .error fault => (.error (.preprocess fault), m)
      | .ok out =>
        if sameFile m.files (flattenedPath s outputDir) s.sourcePath then
          (.error (.overwritesSource (flattenedPath s outputDir)), m)
        else
          match m.files.write (flattenedPath s outputDir) out.source.toByteArray with
          | .error cause => (.error (.writeSource (flattenedPath s outputDir) cause), m)
          | .ok files =>
            c.concluded (flattenedPath s outputDir) output
              (launch (c.invocation (flattenedPath s outputDir) output) { m with files }) := by
  have hensure : ∀ {t : FileTree}, t.isDir outputDir = true →
      ensureOutputDir outputDir t = (.ok (), t) := fun hd => if_pos hd
  unfold compilePreprocessed writeFlattened
  cases s.preprocess m.files.disk defaultMaxDepth with
  | error fault => rfl
  | ok out =>
      simp only [hensure hdir]
      cases sameFile m.files (flattenedPath s outputDir) s.sourcePath with
      | true => rfl
      | false =>
          simp only [Bool.false_eq_true, if_false]
          cases hwrite : m.files.write (flattenedPath s outputDir) out.source.toByteArray with
          | error cause => rfl
          | ok files =>
              have hdir' := (FileTree.extends_of_write hw hwrite).isDir hw hdir
              exact compile_eq_concluded (m := { m with files }) ho (hensure hdir') launch

/-- Where the flattened text has been written beside other changes, the compiler does the same. -/
theorem launch_of_differsAt (hc : launch.Compiles c m (ls ++ [l, k])) (ht : m.files.Sound)
    (h : m.DiffersAt m' ls) (hg : Goes m.files s outputDir output l k)
    (ha : Aside m.files s l k ls) {files files' : FileTree}
    (hu : m.files.DiffersAt files [l]) (hu' : m'.files.DiffersAt files' [l])
    (hread : files'.read (flattenedPath s outputDir) = files.read (flattenedPath s outputDir))
    (hsame : ∀ i, m.files.OneFile l i → files'.contentAt? i = files.contentAt? i)
    {x x' : Except FileFault ExitStatus × Machine}
    (hx : launch (c.invocation (flattenedPath s outputDir) output) { m with files := files } = x)
    (hx' : launch (c.invocation (flattenedPath s outputDir) output) { m' with files := files' } =
      x') :
    x'.1 = x.1 ∧ m.DiffersAt x'.2 (ls ++ [l, k]) ∧
      (∀ j ∈ [l, k], ∀ i, m.files.OneFile j i → x'.2.files.contentAt? i = x.2.files.contentAt? i) ∧
      ∀ j ∈ ls, ∀ i, m.files.OneFile j i → x'.2.files.contentAt? i = m'.files.contentAt? i := by
  have hwritten : m.DiffersAt { m with files := files } (ls ++ [l]) :=
    ⟨hu.mono ht (List.subset_append_right ls [l]), rfl⟩
  have hwritten' : m.DiffersAt { m' with files := files' } (ls ++ [l]) := h.trans ⟨hu', rfl⟩
  obtain ⟨hfiles, hk⟩ := hg.sameSpot_output ha ht hwritten.files
  obtain ⟨hfiles', hk'⟩ := hg.sameSpot_output ha ht hwritten'.files
  have hm := hwritten.mono ht (show ls ++ [l] ⊆ ls ++ [l, k] by simp)
  have hm' := hwritten'.mono ht (show ls ++ [l] ⊆ ls ++ [l, k] by simp)
  obtain ⟨hout, houtput⟩ :=
    hc.depends _ _ (flattenedPath s outputDir) output k hm hfiles hm' hfiles'
    (hk.symm.trans hk') hread
  have hx₂ := hc.touches _ (flattenedPath s outputDir) output k hm hfiles hk.outlet'
  have hx₂' := hc.touches _ (flattenedPath s outputDir) output k hm' hfiles' hk'.outlet'
  rw [hx] at hout houtput hx₂
  rw [hx'] at hout houtput hx₂'
  have hl := h.files.sameSpot ht ha.ends hg.flattened ha.flattened
  refine ⟨hout, ?_, ?_, ?_⟩
  · rw [← List.singleton_append, ← List.append_assoc]
    exact hwritten'.trans hx₂'
  · intro j hj i hone
    obtain rfl | hj := List.mem_cons.mp hj
    · have hki : ¬ m.files.OneFile k i := fun hki => hg.apart (hone.trans hki.symm)
      rw [hk'.contentAt?_eq hfiles' hx₂'.files hki, hk.contentAt?_eq hfiles hx₂.files hki,
        hsame i hone]
    · rw [List.mem_singleton.mp hj] at hone
      exact houtput i ((hk.names i).mpr hone)
  · intro j hj i hone
    have hki : ¬ m.files.OneFile k i := fun hki => ha.output j hj (hki.trans hone.symm)
    have hli : ¬ m.files.OneFile l i := fun hli => ha.flattened j hj (hli.trans hone.symm)
    rw [hk'.contentAt?_eq hfiles' hx₂'.files hki,
      hl.contentAt?_eq (h.files.sound ht ha.ends) hu' hli]

/-- Where other files have changed a shader is compiled as before: to the same outcome, into the
same files with the same content, and no other file is changed. -/
theorem compilePreprocessed_of_differsAt (hc : launch.Compiles c m (ls ++ [l, k]))
    (ht : m.files.Sound) (hdir : m.files.isDir outputDir = true) (h : m.DiffersAt m' ls)
    (hg : Goes m.files s outputDir output l k) (ha : Aside m.files s l k ls) :
    (c.compilePreprocessed launch s outputDir m').1 =
        (c.compilePreprocessed launch s outputDir m).1 ∧
      ∀ path, (c.compilePreprocessed launch s outputDir m).1 = .ok path → path = output ∧
        m.DiffersAt (c.compilePreprocessed launch s outputDir m').2 (ls ++ [l, k]) ∧
        (∀ j ∈ [l, k], ∀ i, m.files.OneFile j i →
          (c.compilePreprocessed launch s outputDir m').2.files.contentAt? i =
            (c.compilePreprocessed launch s outputDir m).2.files.contentAt? i) ∧
        ∀ j ∈ ls, ∀ i, m.files.OneFile j i →
          (c.compilePreprocessed launch s outputDir m').2.files.contentAt? i =
            m'.files.contentAt? i := by
  have ht' := h.files.sound ht ha.ends
  have hdir' := h.files.isDir_eq ht.hasWorkingDir ha.ends hdir
  rw [compilePreprocessed_of_isDir ht.hasWorkingDir hdir hg.outputPath,
    compilePreprocessed_of_isDir ht'.hasWorkingDir hdir' hg.outputPath,
    Shader.preprocess_of_differsAt ht h.files ha.ends ha.unread,
    sameFile_of_differsAt ht h.files hg ha]
  cases s.preprocess m.files.disk defaultMaxDepth with
  | error fault => exact ⟨rfl, fun _ hok => by cases hok⟩
  | ok out =>
      dsimp only
      cases sameFile m.files (flattenedPath s outputDir) s.sourcePath with
      | true => exact ⟨rfl, fun _ hok => by cases hok⟩
      | false =>
          simp only [Bool.false_eq_true, if_false]
          have hspot := h.files.sameSpot ht ha.ends hg.flattened ha.flattened
          obtain ⟨cause, hw, hw'⟩ | ⟨files, files', hw, hw', hu, hu', hread, hsame⟩ :=
            hspot.write ht ht' out.source.toByteArray
          · rw [hw, hw']
            exact ⟨rfl, fun _ hok => by cases hok⟩
          · rw [hw, hw']
            dsimp only
            rw [concluded_snd, concluded_snd]
            obtain ⟨hout, hafter⟩ := launch_of_differsAt hc ht h hg ha hu hu' hread hsame rfl rfl
            exact ⟨concluded_fst_congr hout, fun _ hok => ⟨eq_of_concluded_eq_ok hok, hafter⟩⟩

end

end Compiler

end ShaderBuild
