import ShaderBuild.Proofs.Build.Aside

/-! # The order of a batch

The entries of a batch are independent (`Independent`) if they are compiled into different files, of
which none is passed on the way to what flattening any of them looks up.  Then each entry is
compiled as if it were the only one: after some entries their outputs hold what they hold if the
entry is compiled alone, and nothing else has changed (`After`).  Every compilation keeps this
(`After.step`), so the files that a batch leaves do not depend on its order (`compileAll_perm`). -/

namespace ShaderBuild

/-- The shader of an entry. -/
def ShaderEntry.shader (e : ShaderEntry) (shaderDir : Path) : Shader :=
  ⟨e.name, e.kind, shaderDir⟩

/-- Where the output for the flattened text of a shader goes. -/
def Shader.outputPath? (s : Shader) (outputDir : Path) : Option Path :=
  ShaderBuild.outputPath? (Compiler.flattenedPath s outputDir) outputDir

/-- The paths that a compilation writes to: that of the flattened text and that of the output. -/
def Shader.writtenPaths (s : Shader) (outputDir : Path) : List Path :=
  Compiler.flattenedPath s outputDir :: (s.outputPath? outputDir).toList

/-- The locations that these paths lead to. -/
def Shader.outlets (s : Shader) (t : FileTree) (outputDir : Path) : List Location :=
  (s.writtenPaths outputDir).filterMap t.outlet?

/-- The locations that a batch writes to. -/
def batchOutlets (t : FileTree) (shaderDir outputDir : Path) (es : List ShaderEntry) :
    List Location :=
  es.flatMap fun e => (e.shader shaderDir).outlets t outputDir

/-- The entries are compiled into different files, and on the way to what flattening any of them
looks up none of these files is passed. -/
structure Independent (t : FileTree) (shaderDir outputDir : Path) (es : List ShaderEntry) :
    Prop where
  resolved : ∀ e ∈ es, ∀ p ∈ (e.shader shaderDir).writtenPaths outputDir,
    (t.outlet? p).isSome = true
  distinct : (batchOutlets t shaderDir outputDir es).Pairwise fun l k => ¬ t.OneFile l k
  unread : ∀ e ∈ es, ∀ p, (e.shader shaderDir).LooksUp t.disk defaultMaxDepth p →
    ∀ k ∈ t.passed p, ∀ l ∈ batchOutlets t shaderDir outputDir es, ¬ t.OneFile k l

section
variable {launch : Launcher} {c : Compiler} {shaderDir outputDir : Path} {m₀ m m' : Machine}
  {t : FileTree} {e : ShaderEntry} {es es' done : List ShaderEntry}

/-! ### Independence -/

theorem batchOutlets_append (t : FileTree) (shaderDir outputDir : Path)
    (es es' : List ShaderEntry) : batchOutlets t shaderDir outputDir (es ++ es') =
      batchOutlets t shaderDir outputDir es ++ batchOutlets t shaderDir outputDir es' :=
  List.flatMap_append

theorem batchOutlets_cons (t : FileTree) (shaderDir outputDir : Path) (e : ShaderEntry)
    (es : List ShaderEntry) : batchOutlets t shaderDir outputDir (e :: es) =
      (e.shader shaderDir).outlets t outputDir ++ batchOutlets t shaderDir outputDir es :=
  List.flatMap_cons

theorem batchOutlets_perm (hp : es.Perm es') : (batchOutlets t shaderDir outputDir es).Perm
    (batchOutlets t shaderDir outputDir es') :=
  hp.flatMap_right _

theorem mem_batchOutlets {l : Location} : l ∈ batchOutlets t shaderDir outputDir es ↔
    ∃ e ∈ es, l ∈ (e.shader shaderDir).outlets t outputDir :=
  List.mem_flatMap

theorem Independent.perm (h : Independent t shaderDir outputDir es) (hp : es.Perm es') :
    Independent t shaderDir outputDir es' where
  resolved e he := h.resolved e (hp.mem_iff.mpr he)
  distinct := (batchOutlets_perm hp).pairwise h.distinct fun hne hone => hne hone.symm
  unread e he p hlook k hk l hl :=
    h.unread e (hp.mem_iff.mpr he) p hlook k hk l ((batchOutlets_perm hp).mem_iff.mpr hl)

/-- The files that an independent entry is compiled into. -/
theorem Independent.exists_goes (h : Independent t shaderDir outputDir es) (he : e ∈ es) :
    ∃ output l k, Compiler.Goes t (e.shader shaderDir) outputDir output l k ∧
      (e.shader shaderDir).outlets t outputDir = [l, k] := by
  obtain ⟨output, ho⟩ := Compiler.exists_outputPath? (e.shader shaderDir) outputDir
  have hpaths : (e.shader shaderDir).writtenPaths outputDir =
      [Compiler.flattenedPath (e.shader shaderDir) outputDir, output] := by
    rw [Shader.writtenPaths, Shader.outputPath?, ho]
    rfl
  have hresolved := h.resolved e he
  rw [hpaths, List.forall_mem_cons, List.forall_mem_singleton] at hresolved
  obtain ⟨l, hl⟩ := Option.isSome_iff_exists.mp hresolved.1
  obtain ⟨k, hk⟩ := Option.isSome_iff_exists.mp hresolved.2
  have houtlets : (e.shader shaderDir).outlets t outputDir = [l, k] := by
    rw [Shader.outlets, hpaths, List.filterMap_cons_some hl, List.filterMap_cons_some hk]
    rfl
  have hpair := (List.pairwise_flatMap.mp h.distinct).1 e he
  rw [houtlets, List.pairwise_pair] at hpair
  exact ⟨output, l, k, ⟨hl, ho, hk, hpair⟩, houtlets⟩

/-- The outputs of other entries are none of an entry's business. -/
theorem Independent.aside (ht : t.HasWorkingDir)
    (h : Independent t shaderDir outputDir (done ++ e :: es)) {l k : Location}
    (hlk : (e.shader shaderDir).outlets t outputDir = [l, k]) :
    Compiler.Aside t (e.shader shaderDir) l k
      (batchOutlets t shaderDir outputDir done) := by
  have hdistinct := h.distinct
  rw [batchOutlets_append, batchOutlets_cons, hlk, List.pairwise_append] at hdistinct
  have hapart := hdistinct.2.2
  refine ⟨?_, ?_, ?_, ?_⟩
  · intro j hj
    obtain ⟨d, _, hj⟩ := mem_batchOutlets.mp hj
    obtain ⟨p, _, hp⟩ := List.mem_filterMap.mp hj
    exact (FileTree.exists_of_outlet? ht hp).2.2.1
  · exact fun j hj hone => hapart j hj l (by simp) hone.symm
  · exact fun j hj hone => hapart j hj k (by simp) hone.symm
  · intro p hp i hi j hj
    refine h.unread e (by simp) p hp i hi j ?_
    rw [batchOutlets_append]
    exact List.mem_append_left _ hj

/-! ### Batches -/

/-- What comes of an entry if it is the only one. -/
def compileAlone (launch : Launcher) (c : Compiler) (shaderDir outputDir : Path) (m₀ : Machine)
    (e : ShaderEntry) : Except BuildFault Path × Machine :=
  c.compilePreprocessed launch (e.shader shaderDir) outputDir m₀

/-- The machine after some entries of a batch: their outputs are as if each entry had been compiled
alone, and nothing else has changed. -/
structure After (launch : Launcher) (c : Compiler) (shaderDir outputDir : Path) (m₀ : Machine)
    (done : List ShaderEntry) (m : Machine) : Prop where
  differs : m₀.DiffersAt m (batchOutlets m₀.files shaderDir outputDir done)
  content : ∀ e ∈ done, ∀ l ∈ (e.shader shaderDir).outlets m₀.files outputDir, ∀ k,
    m₀.files.OneFile l k → m.files.contentAt? k =
      (compileAlone launch c shaderDir outputDir m₀ e).2.files.contentAt? k

/-- One more entry is compiled as if it were the only one, and after it the same holds again. -/
theorem After.step
    (hc : launch.Compiles c m₀ (batchOutlets m₀.files shaderDir outputDir (done ++ e :: es)))
    (ht : m₀.files.Sound) (hdir : m₀.files.isDir outputDir = true)
    (hi : Independent m₀.files shaderDir outputDir (done ++ e :: es))
    (h : After launch c shaderDir outputDir m₀ done m) :
    (c.compilePreprocessed launch (e.shader shaderDir) outputDir m).1 =
        (compileAlone launch c shaderDir outputDir m₀ e).1 ∧
      ∀ path, (compileAlone launch c shaderDir outputDir m₀ e).1 = .ok path →
        (e.shader shaderDir).outputPath? outputDir = some path ∧
        After launch c shaderDir outputDir m₀ (done ++ [e])
          (c.compilePreprocessed launch (e.shader shaderDir) outputDir m).2 := by
  obtain ⟨output, l, k, hgoes, hlk⟩ := hi.exists_goes (e := e) (by simp)
  have haside := hi.aside ht.hasWorkingDir hlk
  have hc' : launch.Compiles c m₀ (batchOutlets m₀.files shaderDir outputDir done ++ [l, k]) := by
    apply hc.mono ht
    rw [batchOutlets_append, batchOutlets_cons, hlk, ← List.append_assoc]
    exact List.subset_append_left _ _
  obtain ⟨houtcome, hafter⟩ :=
    Compiler.compilePreprocessed_of_differsAt hc' ht hdir h.differs hgoes haside
  refine ⟨houtcome, ?_⟩
  intro path hpath
  obtain ⟨rfl, hdiffers, hown, hothers⟩ := hafter path hpath
  refine ⟨hgoes.outputPath, ?_, ?_⟩
  · rw [batchOutlets_append, batchOutlets_cons, hlk]
    exact hdiffers
  · intro d hd j hj i hone
    obtain hd | hd := List.mem_append.mp hd
    · rw [hothers j (mem_batchOutlets.mpr ⟨d, hd, hj⟩) i hone]
      exact h.content d hd j hj i hone
    · obtain rfl := List.mem_singleton.mp hd
      exact hown j (hlk ▸ hj) i hone

/-- A batch succeeds if its first entry does and then the others do. -/
theorem compileAll_cons_eq_ok_iff {paths : List Path} :
    (compileAll launch c shaderDir outputDir (e :: es) m).1 = .ok paths ↔
      ∃ path rest,
        (c.compilePreprocessed launch (e.shader shaderDir) outputDir m).1 = .ok path ∧
        (compileAll launch c shaderDir outputDir es
          (c.compilePreprocessed launch (e.shader shaderDir) outputDir m).2).1 = .ok rest ∧
        paths = path :: rest := by
  rw [compileAll_cons, ShaderEntry.shader]
  generalize c.compilePreprocessed launch ⟨e.name, e.kind, shaderDir⟩ outputDir m = x
  obtain ⟨outcome, m'⟩ := x
  cases outcome with
  | error fault => simp
  | ok path =>
      dsimp only
      generalize compileAll launch c shaderDir outputDir es m' = y
      obtain ⟨outcome, m''⟩ := y
      cases outcome with
      | error fault => simp
      | ok rest => simp [eq_comm]

/-- The entries of a batch that succeeds succeed alone. -/
theorem After.exists_alone_ok
    (hc : launch.Compiles c m₀ (batchOutlets m₀.files shaderDir outputDir (done ++ es)))
    (ht : m₀.files.Sound) (hdir : m₀.files.isDir outputDir = true)
    (hi : Independent m₀.files shaderDir outputDir (done ++ es))
    (h : After launch c shaderDir outputDir m₀ done m) {paths : List Path}
    (hok : (compileAll launch c shaderDir outputDir es m).1 = .ok paths) :
    ∀ e ∈ es, ∃ path, (compileAlone launch c shaderDir outputDir m₀ e).1 = .ok path := by
  induction es generalizing done m paths with
  | nil => exact fun e he => absurd he List.not_mem_nil
  | cons e es ih =>
      obtain ⟨path, rest, hpath, hrest, _⟩ := compileAll_cons_eq_ok_iff.mp hok
      obtain ⟨houtcome, hafter⟩ := h.step hc ht hdir hi
      rw [houtcome] at hpath
      rw [List.append_cons] at hi hc
      exact List.forall_mem_cons.mpr ⟨⟨path, hpath⟩, ih hc hi (hafter path hpath).2 hrest⟩

/-- A batch of entries that succeed alone succeeds, and each has been compiled as if it were the
only one. -/
theorem After.run
    (hc : launch.Compiles c m₀ (batchOutlets m₀.files shaderDir outputDir (done ++ es)))
    (ht : m₀.files.Sound) (hdir : m₀.files.isDir outputDir = true)
    (hi : Independent m₀.files shaderDir outputDir (done ++ es))
    (h : After launch c shaderDir outputDir m₀ done m)
    (halone : ∀ e ∈ es, ∃ path,
      (compileAlone launch c shaderDir outputDir m₀ e).1 = .ok path) :
    ∃ paths, (compileAll launch c shaderDir outputDir es m).1 = .ok paths ∧
      paths.map some = es.map (fun e => (e.shader shaderDir).outputPath? outputDir) ∧
      After launch c shaderDir outputDir m₀ (done ++ es)
        (compileAll launch c shaderDir outputDir es m).2 := by
  induction es generalizing done m with
  | nil =>
      refine ⟨[], rfl, rfl, ?_⟩
      rw [List.append_nil]
      exact h
  | cons e es ih =>
      obtain ⟨⟨path, hpath⟩, halone⟩ := List.forall_mem_cons.mp halone
      obtain ⟨houtcome, hafter⟩ := h.step hc ht hdir hi
      obtain ⟨hout, hafter⟩ := hafter path hpath
      rw [hpath] at houtcome
      rw [List.append_cons] at hi hc
      obtain ⟨rest, hrest, hmap, hend⟩ := ih hc hi hafter halone
      refine ⟨path :: rest, compileAll_cons_eq_ok_iff.mpr ⟨path, rest, houtcome, hrest, rfl⟩,
        ?_, ?_⟩
      · rw [List.map_cons, List.map_cons, hmap, hout]
      · rw [compileAll_of_ok (Prod.ext houtcome rfl), List.append_cons]
        exact hend

/-- What the files hold after some entries does not depend on the order of these. -/
theorem After.contentAt?_eq (ht : m₀.files.Sound)
    (h : After launch c shaderDir outputDir m₀ es m)
    (h' : After launch c shaderDir outputDir m₀ es' m') (hp : es.Perm es') (k : Location) :
    m'.files.contentAt? k = m.files.contentAt? k := by
  by_cases hk : ∃ l ∈ batchOutlets m₀.files shaderDir outputDir es, m₀.files.OneFile l k
  · obtain ⟨l, hl, hone⟩ := hk
    obtain ⟨e, he, hl⟩ := mem_batchOutlets.mp hl
    rw [h.content e he l hl k hone, h'.content e (hp.mem_iff.mp he) l hl k hone]
  · have hnone : ∀ l ∈ batchOutlets m₀.files shaderDir outputDir es, ¬ m₀.files.OneFile k l :=
      fun l hl hone => hk ⟨l, hl, hone.symm⟩
    have hnone' : ∀ l ∈ batchOutlets m₀.files shaderDir outputDir es', ¬ m₀.files.OneFile k l :=
      fun l hl => hnone l ((batchOutlets_perm hp).mem_iff.mpr hl)
    rw [h.differs.files.contentAt?_eq ht hnone, h'.differs.files.contentAt?_eq ht hnone']

/-- If a batch of independent entries succeeds in a directory that is there, it succeeds in every
order: each entry has its output in its place, and every file holds the same in the end. -/
theorem compileAll_perm
    (hc : launch.Compiles c m (batchOutlets m.files shaderDir outputDir es))
    (ht : m.files.Sound) (hdir : m.files.isDir outputDir = true)
    (hi : Independent m.files shaderDir outputDir es) {paths : List Path}
    (hok : (compileAll launch c shaderDir outputDir es m).1 = .ok paths) (hp : es.Perm es') :
    paths.map some = es.map (fun e => (e.shader shaderDir).outputPath? outputDir) ∧
    ∃ paths', (compileAll launch c shaderDir outputDir es' m).1 = .ok paths' ∧
      paths'.map some = es'.map (fun e => (e.shader shaderDir).outputPath? outputDir) ∧
      ∀ l, (compileAll launch c shaderDir outputDir es' m).2.files.contentAt? l =
        (compileAll launch c shaderDir outputDir es m).2.files.contentAt? l := by
  have hstart : After launch c shaderDir outputDir m [] m :=
    ⟨.refl ht [], fun e he => absurd he List.not_mem_nil⟩
  have halone := hstart.exists_alone_ok hc ht hdir hi hok
  obtain ⟨paths₁, hok₁, hmap, hend⟩ := hstart.run hc ht hdir hi halone
  have hc' : launch.Compiles c m (batchOutlets m.files shaderDir outputDir ([] ++ es')) :=
    hc.mono ht fun l hl => (batchOutlets_perm hp).mem_iff.mpr hl
  have hi' : Independent m.files shaderDir outputDir ([] ++ es') := hi.perm hp
  obtain ⟨paths', hok', hmap', hend'⟩ := hstart.run hc' ht hdir hi'
    fun e he => halone e (hp.mem_iff.mpr he)
  rw [hok] at hok₁
  cases hok₁
  exact ⟨hmap, paths', hok', hmap', hend.contentAt?_eq ht hend' hp⟩

end

/-- A compiler that copies its source to its output. -/
def Compiler.copying : Launcher := fun i m =>
  match i.args.reverse with
  | output :: _ :: source :: _ =>
    match m.files.read ⟨source⟩ with
    | .error _ => (.ok (.exited 1), m)
    | .ok content =>
      match m.files.write ⟨output⟩ content with
      | .error _ => (.ok (.exited 1), m)
      | .ok files => (.ok (.exited 0), { m with files })
  | _ => (.ok (.exited 1), m)

theorem copying_invocation (c : Compiler) (source output : Path) (m : Machine) :
    Compiler.copying (c.invocation source output) m =
      match m.files.read source with
      | .error _ => (.ok (.exited 1), m)
      | .ok content =>
        match m.files.write output content with
        | .error _ => (.ok (.exited 1), m)
        | .ok files => (.ok (.exited 0), { m with files }) := by
  unfold Compiler.copying Compiler.invocation
  rw [List.reverse_append]
  rfl

theorem compiles_copying (c : Compiler) (m₀ : Machine) (ls : List Location) :
    Compiler.copying.Compiles c m₀ ls where
  touches m source output l _ ht ho := by
    rw [copying_invocation]
    cases m.files.read source with
    | error _ => exact .refl ht [l]
    | ok content =>
        dsimp only
        cases hw : m.files.write output content with
        | error _ => exact .refl ht [l]
        | ok files => exact ⟨FileTree.differsAt_of_write ht ho hw, rfl⟩
  depends m m' source output l _ ht _ ht' hspot hread := by
    rw [copying_invocation, copying_invocation, hread]
    cases m.files.read source with
    | error _ => exact ⟨rfl, fun k hk => hspot.contentAt?_of_oneFile hk⟩
    | ok content =>
        dsimp only
        obtain ⟨cause, hw, hw'⟩ | ⟨files, files', hw, hw', _, _, _, hsame⟩ :=
          hspot.write ht ht' content
        · rw [hw, hw']
          exact ⟨rfl, fun k hk => hspot.contentAt?_of_oneFile hk⟩
        · rw [hw, hw']
          exact ⟨rfl, hsame⟩

/-- A machine with the shaders `s/a.frag`, which includes `s/i.glsl`, and `s/b.vert`. -/
def twoShaders : Machine where
  files :=
    { root := FileTree.directory
        [("s", FileTree.directory
          [("a.frag", .file 0), ("b.vert", .file 1), ("i.glsl", .file 2)]),
          ("out", FileTree.directory [])]
      bodies := #[⟨"//#INCLUDE \"i.glsl\"\n".toByteArray, .plain, 0⟩,
        ⟨"float b;\n".toByteArray, .plain, 0⟩, ⟨"float i;\n".toByteArray, .plain, 0⟩]
      workingDir := []
      clock := 0 }

/-- The batch of the shaders of `twoShaders`. -/
def twoEntries : List ShaderEntry :=
  [⟨"a", .fragment⟩, ⟨"b", .vertex⟩]

/-- The files of `twoShaders`. -/
def twoShaderFiles : List SourceFile :=
  [.ofTexts (.ofString "s/a.frag") ["//#INCLUDE \"i.glsl\""],
    .ofTexts (.ofString "s/b.vert") ["float b;"], .ofTexts (.ofString "s/i.glsl") ["float i;"]]

theorem lookups_twoShaders {e : ShaderEntry} (he : e ∈ twoEntries) {p : Path}
    (h : (e.shader (.ofString "s")).LooksUp twoShaders.files.disk defaultMaxDepth p) :
    p ∈ twoShaderFiles.map SourceFile.path := by
  have htop : ∀ e ∈ twoEntries, ∃ f ∈ twoShaderFiles, SourceFile.load twoShaders.files.disk
      (e.shader (.ofString "s")).sourcePath = .ok f := by
    decide +kernel
  have hload : ∀ target ∈ ["i.glsl"], ∃ f ∈ twoShaderFiles, SourceFile.load twoShaders.files.disk
      ((Path.ofString "s").join (.ofString target)) = .ok f := by
    decide +kernel
  have hlines : ∀ f ∈ twoShaderFiles, f.texts.filterMap includePath? ⊆ ["i.glsl"] := by
    decide +kernel
  have hpaths : ∀ e ∈ twoEntries, ∀ p ∈ (e.shader (.ofString "s")).sourcePath ::
      ["i.glsl"].map fun target => (Path.ofString "s").join (.ofString target),
        p ∈ twoShaderFiles.map SourceFile.path := by
    decide +kernel
  refine hpaths e he p (h.mem ?_ hlines ?_)
  · intro file hfile
    obtain ⟨f, hf, hok⟩ := htop e he
    rw [hfile] at hok
    cases hok
    exact hf
  · intro target htarget file hfile
    obtain ⟨f, hf, hok⟩ := hload target htarget
    rw [show (e.shader (.ofString "s")).baseDir = Path.ofString "s" from rfl, hok] at hfile
    cases hfile
    exact hf

/-- The second shader may be compiled first. -/
theorem compileAll_perm_twoShaders :
    (compileAll Compiler.copying {} (.ofString "s") (.ofString "out") twoEntries.reverse
        twoShaders).1 =
      .ok [.ofString "out/b.vert.spv", .ofString "out/a.frag.spv"] ∧
    ∀ l, (compileAll Compiler.copying {} (.ofString "s") (.ofString "out") twoEntries.reverse
        twoShaders).2.files.contentAt? l =
      (compileAll Compiler.copying {} (.ofString "s") (.ofString "out") twoEntries
        twoShaders).2.files.contentAt? l := by
  have hplain : twoShaders.files.Plain := FileTree.plain_of_isPlain (by decide +kernel)
  have hi : Independent twoShaders.files (.ofString "s") (.ofString "out") twoEntries := by
    refine ⟨by decide +kernel, by decide +kernel, ?_⟩
    have hpassed : ∀ p ∈ twoShaderFiles.map SourceFile.path,
        ∀ k ∈ twoShaders.files.passed p,
          ∀ l ∈ batchOutlets twoShaders.files (.ofString "s") (.ofString "out") twoEntries,
            ¬ twoShaders.files.OneFile k l := by
      decide +kernel
    exact fun e he p hp => hpassed p (lookups_twoShaders he hp)
  have hok : (compileAll Compiler.copying {} (.ofString "s") (.ofString "out") twoEntries
      twoShaders).1 = .ok [.ofString "out/a.frag.spv", .ofString "out/b.vert.spv"] := by
    decide +kernel
  obtain ⟨_, paths, hpaths, hmap, hfiles⟩ := compileAll_perm (compiles_copying _ _ _) hplain.toSound
    (by decide +kernel) hi hok (List.reverse_perm _).symm
  have houtputs : twoEntries.reverse.map (fun e => (e.shader (.ofString "s")).outputPath?
      (.ofString "out")) =
      [Path.ofString "out/b.vert.spv", .ofString "out/a.frag.spv"].map some := by
    decide +kernel
  rw [houtputs] at hmap
  rw [hpaths, (List.map_injective_iff.mpr (Option.some_injective _)) hmap]
  exact ⟨rfl, hfiles⟩

end ShaderBuild
