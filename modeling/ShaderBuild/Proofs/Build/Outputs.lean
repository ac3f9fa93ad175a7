import ShaderBuild.Proofs.Build.Order
import ShaderBuild.Proofs.FileName
import ShaderBuild.Proofs.Text.Utf8

/-! # Outputs that do not collide

An output has one component more than the output directory, the name that the source ends in with a
suffix (`outputPath?_eq_some_iff`); a source that ends in no name has no output.  The shaders of a
batch are compiled into such files too, two for each: one called like the shader, with the extension
of its kind, and one with the suffix behind that.  No extension is the suffix, so different shaders
are compiled into different files (`outputs_apart`). -/

namespace ShaderBuild

/-- A path leads one name further than a directory, to `n`. -/
structure Path.LiesIn (p dir : Path) (n : Bytes) : Prop where
  eq_join : p = dir.join ⟨n⟩
  components_eq : p.components = dir.components ++ [.name n]

/-! ### Names -/

section
variable {n : Bytes} {s : String}

theorem Path.isPlainName_of_length (hlen : 2 < n.length) (hslash : slash ∉ n) :
    Path.IsPlainName n := by
  refine ⟨?_, ?_, ?_, ?_⟩
  · rintro rfl
    simp at hlen
  · rintro rfl
    simp at hlen
  · rintro rfl
    simp at hlen
  · intro b hb
    rw [beq_eq_false_iff_ne]
    rintro rfl
    exact hslash hb

theorem Path.liesIn_join (hn : Path.IsPlainName n) (dir : Path) : (dir.join ⟨n⟩).LiesIn dir n :=
  ⟨rfl, Path.components_join hn dir⟩

/-- A text without slashes has no slash among its bytes. -/
theorem slash_not_mem_encode (h : '/' ∉ s.toList) : slash ∉ encode s := by
  intro hmem
  obtain ⟨c, hc, hnat⟩ := exists_char_of_mem_encode (by decide) hmem
  have hchar : c = '/' := Char.toNat_inj.mp hnat
  exact h (hchar ▸ hc)

end

/-! ### Where outputs go -/

section
variable {source source' outputDir o : Path} {n : Bytes}

theorem isPlainName_append_suffix (hn : Path.IsPlainName n) :
    Path.IsPlainName (n ++ encode outputSuffix) := by
  have hlen : (encode outputSuffix).length = 4 := by decide +kernel
  have hslash : slash ∉ encode outputSuffix := by decide +kernel
  have hpos := List.length_pos_iff.mpr hn.1
  apply Path.isPlainName_of_length
  · rw [List.length_append, hlen]
    omega
  · rw [List.mem_append, not_or]
    exact ⟨hn.slash_not_mem, hslash⟩

/-- The output for a source lies in the output directory, under the name that the source ends in
with the suffix behind it. -/
theorem outputPath?_eq_some_iff : outputPath? source outputDir = some o ↔
    ∃ n, source.EndsIn n ∧ o.LiesIn outputDir (n ++ encode outputSuffix) := by
  unfold outputPath?
  rw [Option.map_eq_some_iff]
  constructor
  · rintro ⟨n, hn, rfl⟩
    have hends := Path.fileName?_eq_some_iff.mp hn
    exact ⟨n, hends, Path.liesIn_join (isPlainName_append_suffix hends.1) outputDir⟩
  · rintro ⟨n, hends, ho⟩
    exact ⟨n, Path.fileName?_eq_some_iff.mpr hends, ho.eq_join.symm⟩

theorem outputPath?_eq_none_iff :
    outputPath? source outputDir = none ↔ ∀ n, ¬ source.EndsIn n := by
  unfold outputPath?
  rw [Option.map_eq_none_iff, Option.eq_none_iff_forall_ne_some]
  exact forall_congr' fun n => not_congr Path.fileName?_eq_some_iff

/-- Sources of different names have different outputs, also if paths are told apart by their
components only. -/
theorem components_outputPath?_eq_iff :
    (outputPath? source outputDir).map Path.components =
        (outputPath? source' outputDir).map Path.components ↔
      source.fileName? = source'.fileName? := by
  have hcomponents : ∀ p : Path, (outputPath? p outputDir).map Path.components =
      p.fileName?.map fun n => outputDir.components ++ [.name (n ++ encode outputSuffix)] := by
    intro p
    unfold outputPath?
    rw [Option.map_map]
    apply Option.map_congr
    intro n hn
    have hplain := (Path.fileName?_eq_some_iff.mp hn).1
    exact Path.components_join (isPlainName_append_suffix hplain) outputDir
  rw [hcomponents, hcomponents]
  apply (Option.map_injective _).eq_iff
  intro n m h
  simpa using h

end

/-! ### The outputs of a batch -/

namespace ShaderEntry

variable {e e' : ShaderEntry}

/-- The name of the file that the flattened text of an entry goes to. -/
def outputName (e : ShaderEntry) : String :=
  e.name ++ "." ++ e.kind.extension

theorem encode_outputName (e : ShaderEntry) :
    encode e.outputName = encode e.name ++ dot :: encode e.kind.extension := by
  rw [outputName, encode_append, encode_append, List.append_assoc]
  rfl

theorem length_encode_extension (k : ShaderKind) : (encode k.extension).length = 4 := by
  cases k <;> decide +kernel

theorem encode_extension_injective {k k' : ShaderKind}
    (h : encode k.extension = encode k'.extension) : k = k' := by
  revert h
  cases k <;> cases k' <;> decide +kernel

/-- An entry is known by the name of its output. -/
theorem outputName_injective (h : encode e.outputName = encode e'.outputName) : e = e' := by
  obtain ⟨name, kind⟩ := e
  obtain ⟨name', kind'⟩ := e'
  rw [encode_outputName, encode_outputName] at h
  obtain ⟨hname, hkind⟩ := List.append_inj' h (by simp [length_encode_extension])
  have hname' : name = name' := encode_injective hname
  have hkind' : kind = kind' := encode_extension_injective (List.cons.inj hkind).2
  rw [hname', hkind']

/-- No extension is the suffix of outputs. -/
theorem outputName_ne_append_suffix (e : ShaderEntry) (bs : Bytes) :
    encode e.outputName ≠ bs ++ encode outputSuffix := by
  intro h
  have hlen : (encode e.kind.extension).length = (encode outputSuffix).length := by
    rw [length_encode_extension]
    decide +kernel
  rw [encode_outputName, List.append_cons] at h
  obtain ⟨_, hext⟩ := List.append_inj' h hlen
  revert hext
  cases e.kind <;> decide +kernel

theorem isPlainName_outputName (h : '/' ∉ e.name.toList) :
    Path.IsPlainName (encode e.outputName) := by
  apply Path.isPlainName_of_length
  · rw [encode_outputName, List.length_append, List.length_cons, length_encode_extension]
    omega
  · rw [encode_outputName, List.mem_append, List.mem_cons, not_or, not_or]
    refine ⟨slash_not_mem_encode h, by decide, ?_⟩
    cases e.kind <;> decide +kernel

/-- Where the outputs of an entry go. -/
theorem writtenPaths_eq (h : '/' ∉ e.name.toList) (shaderDir outputDir : Path) :
    (e.shader shaderDir).writtenPaths outputDir =
      [outputDir.join (.ofString e.outputName),
        outputDir.join (.ofString (e.outputName ++ outputSuffix))] := by
  have hflat : Compiler.flattenedPath (e.shader shaderDir) outputDir =
      outputDir.join (.ofString e.outputName) := rfl
  have hname : (outputDir.join (.ofString e.outputName)).fileName? = some (encode e.outputName) :=
    Path.fileName?_join (isPlainName_outputName h) outputDir
  rw [Shader.writtenPaths, Shader.outputPath?, hflat, outputPath?, hname, Path.ofString,
    Path.ofString, encode_append]
  rfl

/-- Outputs of different entries are different, and so are the two of one entry. -/
theorem pairwise_writtenPaths {entries : List ShaderEntry}
    (hslash : ∀ e ∈ entries, '/' ∉ e.name.toList) (hdistinct : entries.Nodup)
    (shaderDir outputDir : Path) :
    (entries.flatMap fun e => (e.shader shaderDir).writtenPaths outputDir).Pairwise
      fun p q => p.same q = false := by
  have hsame : ∀ {n m : Bytes}, Path.IsPlainName n → Path.IsPlainName m → n ≠ m →
      (outputDir.join ⟨n⟩).same (outputDir.join ⟨m⟩) = false := by
    intro n m hn hm hne
    rw [Bool.eq_false_iff]
    exact fun h => hne ((Path.same_join_iff hn hm outputDir).mp h)
  rw [List.pairwise_flatMap]
  constructor
  · intro e he
    have hplain := isPlainName_outputName (hslash e he)
    rw [writtenPaths_eq (hslash e he), List.pairwise_pair, Path.ofString, Path.ofString,
      encode_append]
    exact hsame hplain (isPlainName_append_suffix hplain) (outputName_ne_append_suffix e _)
  · refine List.Pairwise.imp_of_mem ?_ hdistinct
    intro e e' he he' hne p hp q hq
    have hplain := isPlainName_outputName (hslash e he)
    have hplain' := isPlainName_outputName (hslash e' he')
    have hname : encode e.outputName ≠ encode e'.outputName :=
      fun h => hne (outputName_injective h)
    rw [writtenPaths_eq (hslash e he), List.mem_pair, Path.ofString, Path.ofString,
      encode_append] at hp
    rw [writtenPaths_eq (hslash e' he'), List.mem_pair, Path.ofString, Path.ofString,
      encode_append] at hq
    obtain rfl | rfl := hp
    · obtain rfl | rfl := hq
      · exact hsame hplain hplain' hname
      · exact hsame hplain (isPlainName_append_suffix hplain') (outputName_ne_append_suffix e _)
    · obtain rfl | rfl := hq
      · exact hsame (isPlainName_append_suffix hplain) hplain'
          (outputName_ne_append_suffix e' _).symm
      · exact hsame (isPlainName_append_suffix hplain) (isPlainName_append_suffix hplain')
          fun h => hname (List.append_cancel_right h)

end ShaderEntry

namespace Compiler

variable {launch : Launcher} {c : Compiler} {s : Shader} {source path outputDir : Path}
  {m : Machine}

/-- The flattened text of a shader is written in the output directory. -/
theorem exists_write_of_writeFlattened {text : String} {files files' : FileTree}
    (h : writeFlattened s outputDir text files = (.ok (), files')) :
    ∃ dirs, ensureOutputDir outputDir files = (.ok (), dirs) ∧
      dirs.write (flattenedPath s outputDir) text.toByteArray = .ok files' := by
  unfold writeFlattened at h
  split at h
  · cases h
  · rename_i dirs hensured
    dsimp only at h
    split at h
    · cases h
    · split at h
      · cases h
      · rename_i hwrite
        cases h
        exact ⟨dirs, hensured, hwrite⟩

/-- A compiler that ran was given the source together with the path of its output. -/
theorem exists_launch_of_dispatch {status : ExitStatus} {m' : Machine}
    (h : c.dispatch launch source outputDir m = (.ok status, m')) :
    ∃ output files, outputPath? source outputDir = some output ∧
      launch (c.invocation source output) { m with files } = (.ok status, m') := by
  unfold dispatch at h
  split at h
  · cases h
  · rename_i output ho
    split at h
    · cases h
    · rename_i files _
      split at h
      · cases h
      · rename_i hlaunch
        cases h
        exact ⟨output, files, ho, hlaunch⟩

theorem exists_launch_of_compile (h : (c.compile launch source outputDir m).1 = .ok path) :
    outputPath? source outputDir = some path ∧ ∃ files status,
      (launch (c.invocation source path) { m with files }).1 = .ok status ∧
        status.success = true := by
  unfold compile at h
  split at h
  · cases h
  · rename_i status m' hdispatch
    obtain ⟨output, files, ho, hlaunch⟩ := exists_launch_of_dispatch hdispatch
    rw [ho] at h
    split at h
    · rename_i hsuccess
      cases h
      exact ⟨ho, files, status, congrArg Prod.fst hlaunch, hsuccess⟩
    · cases h

/-- A call that succeeds returns the path of the output, which the compiler was given together with
the path of the flattened text. -/
theorem exists_launch_of_compilePreprocessed
    (h : (c.compilePreprocessed launch s outputDir m).1 = .ok path) :
    s.outputPath? outputDir = some path ∧ ∃ files status,
      (launch (c.invocation (flattenedPath s outputDir) path) { m with files }).1 = .ok status ∧
        status.success = true := by
  unfold compilePreprocessed at h
  split at h
  · cases h
  · split at h
    · cases h
    · obtain ⟨ho, files, hlaunch⟩ := exists_launch_of_compile h
      exact ⟨ho, files, hlaunch⟩

end Compiler

/-- A source that ends in a name has its output in the output directory, under that name with the
suffix, which is another name; a source that ends in none has no output; and sources have one output
exactly if they have one name.  The entries of a batch, if there is no slash in a name, are
flattened and compiled into the two files of the output directory that are called `<name>.<kind>`
and `<name>.<kind>.spv`: these are where the flattened text is written and what the compiler is
given. The files of different entries are all different. -/
theorem outputs_apart (shaderDir outputDir : Path) (entries : List ShaderEntry)
    (hslash : ∀ e ∈ entries, '/' ∉ e.name.toList) :
    (∀ source n, source.EndsIn n → source.fileName? = some n ∧
      ∃ o, outputPath? source outputDir = some o ∧ o.LiesIn outputDir (n ++ encode ".spv") ∧
        o.fileName? = some (n ++ encode ".spv") ∧ o.fileName? ≠ source.fileName?) ∧
    (∀ source, outputPath? source outputDir = none ↔ ∀ n, ¬ source.EndsIn n) ∧
    (∀ source source', (outputPath? source outputDir).map Path.components =
        (outputPath? source' outputDir).map Path.components ↔
      source.fileName? = source'.fileName?) ∧
    (∀ e ∈ entries, ∃ flattened output,
      (e.shader shaderDir).writtenPaths outputDir = [flattened, output] ∧
      flattened.LiesIn outputDir (encode (e.name ++ "." ++ e.kind.extension)) ∧
      output.LiesIn outputDir (encode (e.name ++ "." ++ e.kind.extension ++ ".spv")) ∧
      (∀ text files files',
        Compiler.writeFlattened (e.shader shaderDir) outputDir text files = (.ok (), files') →
          ∃ dirs, ensureOutputDir outputDir files = (.ok (), dirs) ∧
            dirs.write flattened text.toByteArray = .ok files') ∧
      ∀ launch c m path,
        (Compiler.compilePreprocessed launch c (e.shader shaderDir) outputDir m).1 = .ok path →
          path = output ∧ ∃ files status,
            (launch ⟨c.program, c.args ++ [flattened.bytes, encode "-o", output.bytes]⟩
              { m with files }).1 = .ok status ∧ status.success = true) ∧
    (entries.Nodup → (entries.flatMap fun e => (e.shader shaderDir).writtenPaths outputDir).Pairwise
      fun p q => p.same q = false) := by
  refine ⟨?_, fun _ => outputPath?_eq_none_iff, fun _ _ => components_outputPath?_eq_iff, ?_,
    fun hdistinct => ShaderEntry.pairwise_writtenPaths hslash hdistinct shaderDir outputDir⟩
  · intro source n hn
    have hsource := Path.fileName?_eq_some_iff.mpr hn
    have hplain := isPlainName_append_suffix hn.1
    have ho : outputPath? source outputDir = some (outputDir.join ⟨n ++ encode outputSuffix⟩) := by
      rw [outputPath?, hsource, Option.map_some]
    have hname := Path.fileName?_join hplain outputDir
    refine ⟨hsource, _, ho, Path.liesIn_join hplain outputDir, hname, ?_⟩
    rw [hname, hsource]
    intro h
    have hlen := congrArg List.length (Option.some.inj h)
    have hsuffix : (encode outputSuffix).length = 4 := by decide +kernel
    rw [List.length_append, hsuffix] at hlen
    omega
  · intro e he
    have hplain := ShaderEntry.isPlainName_outputName (hslash e he)
    have hpaths := ShaderEntry.writtenPaths_eq (hslash e he) shaderDir outputDir
    have houtput : Path.IsPlainName (encode (e.outputName ++ outputSuffix)) := by
      rw [encode_append]
      exact isPlainName_append_suffix hplain
    refine ⟨_, _, hpaths, Path.liesIn_join hplain outputDir,
      Path.liesIn_join houtput outputDir,
      fun _ _ _ => Compiler.exists_write_of_writeFlattened, ?_⟩
    intro launch c m path h
    obtain ⟨hpath, hlaunch⟩ := Compiler.exists_launch_of_compilePreprocessed h
    rw [Shader.writtenPaths, hpath] at hpaths
    obtain rfl := (List.cons.inj (List.cons.inj hpaths).2).1
    exact ⟨rfl, hlaunch⟩

/-- Entries with names that look like outputs or like directories. -/
def dottedEntries : List ShaderEntry :=
  [⟨"", .vertex⟩, ⟨".", .vertex⟩, ⟨"a", .vertex⟩, ⟨"a", .fragment⟩, ⟨"a.vert", .vertex⟩]

theorem outputs_apart_dottedEntries :
    (∀ e ∈ dottedEntries, '/' ∉ e.name.toList) ∧ dottedEntries.Nodup ∧
      dottedEntries.flatMap
          (fun e => (e.shader (.ofString "src")).writtenPaths (.ofString "out")) =
        ["out/.vert", "out/.vert.spv", "out/..vert", "out/..vert.spv", "out/a.vert",
          "out/a.vert.spv", "out/a.frag", "out/a.frag.spv", "out/a.vert.vert",
          "out/a.vert.vert.spv"].map Path.ofString ∧
      (dottedEntries.flatMap
          fun e => (e.shader (.ofString "src")).writtenPaths (.ofString "out")).Pairwise
        fun p q => p.same q = false := by
  have hslash : ∀ e ∈ dottedEntries, '/' ∉ e.name.toList := by decide +kernel
  have hdistinct : dottedEntries.Nodup := by decide +kernel
  refine ⟨hslash, hdistinct, by decide +kernel, ?_⟩
  obtain ⟨_, _, _, _, hapart⟩ :=
    outputs_apart (.ofString "src") (.ofString "out") dottedEntries hslash
  exact hapart hdistinct

end ShaderBuild
