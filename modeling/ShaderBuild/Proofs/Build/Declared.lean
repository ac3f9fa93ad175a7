import ShaderBuild.Proofs.Build.Effects
import ShaderBuild.Proofs.Build.Sources
import ShaderBuild.Proofs.Text.Utf8

/-! # What a build script declares

A build script lists the shader files below its directory after it has compiled its shaders.  The
files that it read to flatten them are still there then, if the compiler takes none away: compiling
only makes files grow (`compileAll_extends`).  So a file that was read is declared as long as it
lies below the directory as a shader file (`buildScript_declares`).  Other files that were read are
not declared (`exists_undeclared`). -/

namespace ShaderBuild

/-- A launcher of programs that leave every entry where it is. -/
def Launcher.Keeps (launch : Launcher) : Prop :=
  ∀ (i : Invocation) (m : Machine), m.files.Extends (launch i m).2.files

/-- Compiling the entries flattens `s` when the files are `files`. -/
inductive Flattens (launch : Launcher) (c : Compiler) (shaderDir outputDir : Path) :
    List ShaderEntry → Machine → Shader → FileTree → Prop
  | here {e : ShaderEntry} {es : List ShaderEntry} {m : Machine} :
      Flattens launch c shaderDir outputDir (e :: es) m ⟨e.name, e.kind, shaderDir⟩ m.files
  | there {e : ShaderEntry} {es : List ShaderEntry} {m m' : Machine} {path : Path} {s : Shader}
      {files : FileTree} :
      c.compilePreprocessed launch ⟨e.name, e.kind, shaderDir⟩ outputDir m = (.ok path, m') →
      Flattens launch c shaderDir outputDir es m' s files →
      Flattens launch c shaderDir outputDir (e :: es) m s files

/-! ### Growth -/

section
variable {launch : Launcher} {t files : FileTree} {m m' : Machine} {s : Shader}

theorem ensureOutputDir_extends (ht : t.HasWorkingDir) (dir : Path) :
    t.Extends (ensureOutputDir dir t).2 := by
  obtain ⟨files, hadded, h | ⟨cause, h⟩⟩ := ensureOutputDir_cases ht dir
  · rw [h]
    exact hadded.toExtends
  · rw [h]
    exact hadded.toExtends

namespace Compiler

theorem writeFlattened_extends (ht : t.HasWorkingDir) (s : Shader) (outputDir : Path)
    (text : String) : t.Extends (writeFlattened s outputDir text t).2 := by
  have hensure := ensureOutputDir_extends ht outputDir
  unfold writeFlattened
  split
  · rename_i he
    rw [he] at hensure
    exact hensure
  · rename_i dirs he
    rw [he] at hensure
    dsimp only
    split
    · exact hensure
    · split
      · exact hensure
      · rename_i hwrite
        exact hensure.trans (FileTree.extends_of_write (hensure.hasWorkingDir ht) hwrite)

theorem dispatch_extends (hl : launch.Keeps) (hw : m.files.HasWorkingDir) (c : Compiler)
    (source outputDir : Path) : m.files.Extends (c.dispatch launch source outputDir m).2.files := by
  have hensure := ensureOutputDir_extends hw outputDir
  unfold dispatch
  split
  · exact .refl m.files
  · rename_i output _
    split
    · rename_i he
      rw [he] at hensure
      exact hensure
    · rename_i dirs he
      rw [he] at hensure
      have hlaunch := hensure.trans (hl (c.invocation source output) { m with files := dirs })
      split
      · rename_i hlaunched
        rw [hlaunched] at hlaunch
        exact hlaunch
      · rename_i hlaunched
        rw [hlaunched] at hlaunch
        exact hlaunch

/-- Judging how the compiler ended changes nothing. -/
theorem compile_snd (launch : Launcher) (c : Compiler) (source outputDir : Path) (m : Machine) :
    (c.compile launch source outputDir m).2 = (c.dispatch launch source outputDir m).2 := by
  unfold compile
  split
  · rename_i h
    rw [h]
  · rename_i h
    rw [h]
    split <;> rfl

/-- Compiling a shader leaves every entry where it is, if the compiler does. -/
theorem compilePreprocessed_extends (hl : launch.Keeps) (hw : m.files.HasWorkingDir) (c : Compiler)
    (s : Shader) (outputDir : Path) :
    m.files.Extends (c.compilePreprocessed launch s outputDir m).2.files := by
  unfold compilePreprocessed
  split
  · exact .refl m.files
  · rename_i out _
    have hwritten := writeFlattened_extends hw s outputDir out.source
    split
    · rename_i he
      rw [he] at hwritten
      exact hwritten
    · rename_i files he
      rw [he] at hwritten
      have hcompiled := dispatch_extends (m := { m with files }) hl (hwritten.hasWorkingDir hw) c
        (flattenedPath s outputDir) outputDir
      rw [compile_snd]
      exact hwritten.trans hcompiled

end Compiler

variable {c : Compiler} {shaderDir outputDir path : Path} {e : ShaderEntry} {es : List ShaderEntry}

attribute [local irreducible] Compiler.compilePreprocessed in
theorem compileAll_cons (launch : Launcher) (c : Compiler) (shaderDir outputDir : Path)
    (e : ShaderEntry) (es : List ShaderEntry) (m : Machine) :
    compileAll launch c shaderDir outputDir (e :: es) m =
      match c.compilePreprocessed launch ⟨e.name, e.kind, shaderDir⟩ outputDir m with
      | (.error fault, m') => (.error fault, m')
      | (.ok path, m') =>
        match compileAll launch c shaderDir outputDir es m' with
        | (.error fault, m'') => (.error fault, m'')
        | (.ok paths, m'') => (.ok (path :: paths), m'') := rfl

theorem compileAll_of_error {fault : BuildFault}
    (h : c.compilePreprocessed launch ⟨e.name, e.kind, shaderDir⟩ outputDir m =
      (.error fault, m')) :
    (compileAll launch c shaderDir outputDir (e :: es) m).2 = m' := by
  rw [compileAll_cons, h]

theorem compileAll_of_ok
    (h : c.compilePreprocessed launch ⟨e.name, e.kind, shaderDir⟩ outputDir m = (.ok path, m')) :
    (compileAll launch c shaderDir outputDir (e :: es) m).2 =
      (compileAll launch c shaderDir outputDir es m').2 := by
  rw [compileAll_cons, h]
  dsimp only
  split
  · rename_i hrest
    rw [hrest]
  · rename_i hrest
    rw [hrest]

theorem compileAll_extends (hl : launch.Keeps) (hw : m.files.HasWorkingDir) :
    m.files.Extends (compileAll launch c shaderDir outputDir es m).2.files := by
  induction es generalizing m with
  | nil => exact .refl m.files
  | cons e es ih =>
      have hstep := Compiler.compilePreprocessed_extends hl hw c ⟨e.name, e.kind, shaderDir⟩
        outputDir
      cases h : c.compilePreprocessed launch ⟨e.name, e.kind, shaderDir⟩ outputDir m with
      | mk outcome m' =>
          rw [h] at hstep
          cases outcome with
          | error fault =>
              rw [compileAll_of_error h]
              exact hstep
          | ok path =>
              rw [compileAll_of_ok h]
              exact hstep.trans (ih (hstep.hasWorkingDir hw))

/-- The files that a shader is flattened from are kept until all shaders are compiled. -/
theorem Flattens.extends (h : Flattens launch c shaderDir outputDir es m s files)
    (hl : launch.Keeps) (hw : m.files.HasWorkingDir) :
    files.HasWorkingDir ∧ files.Extends (compileAll launch c shaderDir outputDir es m).2.files := by
  induction h with
  | here => exact ⟨hw, compileAll_extends hl hw⟩
  | @there e _ _ _ _ _ _ h _ ih =>
      have hstep := Compiler.compilePreprocessed_extends hl hw c ⟨e.name, e.kind, shaderDir⟩
        outputDir
      rw [h] at hstep
      rw [compileAll_of_ok h]
      exact ih (hstep.hasWorkingDir hw)

end

/-! ### Printed lines -/

/-- The lines of a text. -/
def linesOf (text : String) : List String :=
  (pieces (· == '\n') text.toList).map String.ofList

/-- What a build script prints behind the path of a file that should run it again. -/
def rerunMark : String := "cargo:rerun-if-changed="

/-- What stands before a separator is a piece, unless a separator is inside it. -/
theorem mem_pieces_flatMap {α : Type} {sep : α → Bool} {x : α} (hx : sep x = true) {d : List α}
    {ds : List (List α)} (hd : d ∈ ds) (hsep : ∀ y ∈ d, sep y = false) (rest : List α) :
    d ∈ pieces sep (ds.flatMap (· ++ [x]) ++ rest) := by
  induction ds with
  | nil => cases hd
  | cons d' ds ih =>
      rw [List.flatMap_cons, List.append_assoc, List.append_assoc, List.singleton_append,
        pieces_append_cons hx, List.mem_append]
      obtain rfl | hd := List.mem_cons.mp hd
      · left
        rw [pieces_eq_singleton sep hsep]
        exact List.mem_singleton_self d
      · exact .inr (ih hd)

/-- A text of lines that end in line feeds has these lines, unless a line feed is inside one. -/
theorem mem_linesOf_join {d : String} {ds : List String} (hd : d ∈ ds) (hfeed : '\n' ∉ d.toList)
    (rest : String) : d ∈ linesOf (String.join (ds.map (· ++ "\n")) ++ rest) := by
  have hchars : (String.join (ds.map (· ++ "\n")) ++ rest).toList =
      (ds.map String.toList).flatMap (· ++ ['\n']) ++ rest.toList := by
    simp [List.flatMap_map]
  have hnone : ∀ x ∈ d.toList, (x == '\n') = false := by
    intro x hx
    rw [beq_eq_false_iff_ne]
    rintro rfl
    exact hfeed hx
  have hmem : d.toList ∈ pieces (· == '\n')
      ((ds.map String.toList).flatMap (· ++ ['\n']) ++ rest.toList) :=
    mem_pieces_flatMap (by decide) (List.mem_map_of_mem hd) hnone rest.toList
  rw [linesOf, hchars]
  exact List.mem_map.mpr ⟨d.toList, hmem, String.ofList_toList⟩

/-- The text that a build script prints in the end. -/
def scriptText (files : FileTree) (shaderDir : Path) : String :=
  String.join
    (((shaderSources files shaderDir).map fun p => rerunMark ++ p.display).map (· ++ "\n"))
    ++ ("cargo:rerun-if-env-changed=" ++ Compiler.environmentName ++ "\n")

/-- A build script flattens `s` when the files are `files`. -/
def ScriptFlattens (launch : Launcher) (shaderDir : Path) (entries : List ShaderEntry) (m : Machine)
    (s : Shader) (files : FileTree) : Prop :=
  ∃ dir, m.environmentValue? outputDirName = some dir ∧
    Flattens launch (Compiler.selected m) shaderDir ⟨dir⟩ entries m s files

/-- A build script prints a line after its shaders are compiled. -/
def ScriptPrints (launch : Launcher) (shaderDir : Path) (entries : List ShaderEntry) (m : Machine)
    (line : String) : Prop :=
  ∃ dir text, m.environmentValue? outputDirName = some dir ∧
    (buildScript launch shaderDir entries m).2.stdout =
      (compileAll launch (Compiler.selected m) shaderDir ⟨dir⟩ entries m).2.stdout
        ++ text.toByteArray ∧
    line ∈ linesOf text

section
variable {launch : Launcher} {shaderDir p : Path} {entries : List ShaderEntry} {m : Machine}
  {s : Shader} {files : FileTree}

/-- What a build script that does not give up does after its shaders are compiled. -/
theorem exists_of_buildScript_ok (h : (buildScript launch shaderDir entries m).1 = .ok ()) :
    ∃ dir, m.environmentValue? outputDirName = some dir ∧
      (buildScript launch shaderDir entries m).2.files =
        (compileAll launch (Compiler.selected m) shaderDir ⟨dir⟩ entries m).2.files ∧
      (buildScript launch shaderDir entries m).2.stdout =
        (compileAll launch (Compiler.selected m) shaderDir ⟨dir⟩ entries m).2.stdout ++
          (scriptText (buildScript launch shaderDir entries m).2.files shaderDir).toByteArray := by
  unfold buildScript at h ⊢
  cases hdir : m.environmentValue? outputDirName with
  | none => simp [hdir] at h
  | some dir =>
      cases hall : compileAll launch (Compiler.selected m) shaderDir ⟨dir⟩ entries m with
      | mk outcome m' =>
          cases outcome with
          | error fault => simp [hdir, hall] at h
          | ok paths =>
              refine ⟨dir, rfl, by simp only [hall, Machine.print], ?_⟩
              simp only [hall, Machine.print, scriptText, rerunMark, List.map_map]
              rw [String.toByteArray_append, ByteArray.append_assoc]
              rfl

/-- The lines of a build script that does not give up. -/
theorem scriptPrints_iff (h : (buildScript launch shaderDir entries m).1 = .ok ()) {line : String} :
    ScriptPrints launch shaderDir entries m line ↔
      line ∈ linesOf (scriptText (buildScript launch shaderDir entries m).2.files shaderDir) := by
  obtain ⟨dir, hdir, _, hstdout⟩ := exists_of_buildScript_ok h
  constructor
  · rintro ⟨dir', text, hdir', hstdout', hline⟩
    obtain rfl : dir = dir' := Option.some.inj (hdir.symm.trans hdir')
    rw [hstdout, ByteArray.append_right_inj, String.toByteArray_inj] at hstdout'
    rwa [hstdout']
  · intro hline
    exact ⟨dir, _, hdir, hstdout, hline⟩

/-- A file that was read to flatten a shader is declared, if it lies below the directory of the
shaders as a shader file. -/
theorem buildScript_declares (hl : launch.Keeps) (hw : m.files.HasWorkingDir)
    (h : (buildScript launch shaderDir entries m).1 = .ok ())
    (hs : ScriptFlattens launch shaderDir entries m s files) (hp : s.Reads files.disk p) :
    ∃ l e, files.find p = .ok (l, e) ∧
      ∀ names text, LiesBelow files shaderDir names → shaderDir.below names = .ofString text →
        '\n' ∉ text.toList → files.find (.ofString text) = .ok (l, e) →
        ScriptPrints launch shaderDir entries m (rerunMark ++ text) ∧
          (buildScript launch shaderDir entries m).2.files.find (.ofString text) = .ok (l, e) := by
  obtain ⟨file, hload⟩ := hp.exists_load
  obtain ⟨l, e, hf, hcontent⟩ := FileTree.exists_find_of_load hload
  have he : e.isDir = false := by
    obtain ⟨n, rfl⟩ | ⟨d, rfl⟩ := hcontent
    · rfl
    · rfl
  refine ⟨l, e, hf, ?_⟩
  intro names text hlies hbelow hfeed hfind
  obtain ⟨dir, hdir, hfiles, _⟩ := exists_of_buildScript_ok h
  obtain ⟨dir', hdir', hflattens⟩ := hs
  obtain rfl : dir = dir' := Option.some.inj (hdir.symm.trans hdir')
  obtain ⟨hw', hx⟩ := hflattens.extends hl hw
  rw [← hfiles] at hx
  have hfind' := hx.find hw' hfind he
  have hsource := (hlies.extends hx hw').mem_shaderSources (hbelow ▸ hfind') he
  refine ⟨(scriptPrints_iff h).mpr ?_, hfind'⟩
  have hline : rerunMark ++ text ∈
      (shaderSources (buildScript launch shaderDir entries m).2.files shaderDir).map
        fun p => rerunMark ++ p.display := by
    refine List.mem_map.mpr ⟨_, hsource, ?_⟩
    rw [hbelow, Path.display, Path.ofString, lossy_encode]
  apply mem_linesOf_join hline
  rw [String.toList_append, List.mem_append, not_or]
  exact ⟨by decide, hfeed⟩

end

theorem keeps_idle : Launcher.Keeps Compiler.idle :=
  fun _ m => .refl m.files

/-- A machine with a shader `s/x.frag` that includes `s/inc/a.glsl` and `common.glsl`. -/
def twoIncludes : Machine where
  files :=
    { root := FileTree.directory
        [("s", FileTree.directory
          [("x.frag", .file 0), ("inc", FileTree.directory [("a.glsl", .file 1)])]),
          ("common.glsl", .file 2)]
      bodies := #[
        ⟨"//#INCLUDE \"inc/a.glsl\"\n//#INCLUDE \"../common.glsl\"\n".toByteArray, .plain, 0⟩,
        ⟨"float a;\n".toByteArray, .plain, 0⟩, ⟨"float b;\n".toByteArray, .plain, 0⟩]
      workingDir := []
      clock := 0 }
  environment := [(encode outputDirName, encode "out")]

/-- The shader of `twoIncludes`. -/
def twoIncludesShader : Shader :=
  ⟨"x", .fragment, .ofString "s"⟩

theorem load_twoIncludes : SourceFile.load twoIncludes.files.disk twoIncludesShader.sourcePath =
    .ok (.ofTexts (.ofString "s/x.frag")
      ["//#INCLUDE \"inc/a.glsl\"", "//#INCLUDE \"../common.glsl\""]) := by
  decide +kernel

theorem scriptFlattens_twoIncludes :
    ScriptFlattens Compiler.idle (.ofString "s") [⟨"x", .fragment⟩] twoIncludes twoIncludesShader
      twoIncludes.files :=
  ⟨encode "out", by decide +kernel, .here⟩

theorem buildScript_twoIncludes :
    (buildScript Compiler.idle (.ofString "s") [⟨"x", .fragment⟩] twoIncludes).1 = .ok () := by
  decide +kernel

/-- The file in a directory below that of the shaders is declared. -/
theorem buildScript_declares_twoIncludes :
    ScriptPrints Compiler.idle (.ofString "s") [⟨"x", .fragment⟩] twoIncludes
      "cargo:rerun-if-changed=s/inc/a.glsl" := by
  have hplain : twoIncludes.files.Plain := FileTree.plain_of_isPlain (by decide +kernel)
  have hincluded : SourceFile.load twoIncludes.files.disk (.ofString "s/inc/a.glsl") =
      .ok (.ofTexts (.ofString "s/inc/a.glsl") ["float a;"]) := by
    decide +kernel
  have hknown : twoIncludes.files.canonical (.ofString "s/inc/a.glsl") =
      .ok (.ofString "/s/inc/a.glsl") := by
    decide +kernel
  have hreads : twoIncludesShader.Reads twoIncludes.files.disk (.ofString "s/inc/a.glsl") :=
    .included (Shader.includesFile_of_line 0 "inc/a.glsl" load_twoIncludes rfl (by decide +kernel)
      (by decide +kernel) hknown hincluded)
  have hlies : LiesBelow twoIncludes.files (.ofString "s") [encode "inc", encode "a.glsl"] := by
    refine ⟨by simp, by decide +kernel, ?_, by decide +kernel⟩
    intro k hk
    match k, hk with
    | 0, _ => exact FileTree.lists_of_mem_namesAt (n := encode "inc") (by decide +kernel)
    | 1, _ => exact FileTree.lists_of_mem_namesAt (n := encode "a.glsl") (by decide +kernel)
  obtain ⟨l, e, hf, hdeclared⟩ := buildScript_declares keeps_idle hplain.hasWorkingDir
    buildScript_twoIncludes scriptFlattens_twoIncludes hreads
  exact (hdeclared _ "s/inc/a.glsl" hlies (by decide +kernel) (by decide +kernel) hf).1

/-- What the build script for `twoIncludes` prints. -/
theorem linesOf_scriptText_twoIncludes :
    linesOf (scriptText (buildScript Compiler.idle (.ofString "s") [⟨"x", .fragment⟩]
      twoIncludes).2.files (.ofString "s")) =
      [rerunMark ++ "s/inc/a.glsl", rerunMark ++ "s/x.frag",
        "cargo:rerun-if-env-changed=GLSLANG_VALIDATOR", ""] := by
  have hsources : sourcesBelow (buildScript Compiler.idle (.ofString "s") [⟨"x", .fragment⟩]
      twoIncludes).2.files FileTree.pathLimit (.ofString "s") =
      [.ofString "s/x.frag", .ofString "s/inc/a.glsl"] := by
    decide +kernel
  have horder : (Path.order (.ofString "s/x.frag") (.ofString "s/inc/a.glsl")).isLE = false := by
    decide +kernel
  have hsorted : shaderSources (buildScript Compiler.idle (.ofString "s") [⟨"x", .fragment⟩]
      twoIncludes).2.files (.ofString "s") =
      [.ofString "s/inc/a.glsl", .ofString "s/x.frag"] := by
    rw [shaderSources, hsources]
    simp [List.mergeSort, List.MergeSort.Internal.splitInTwo, horder]
  rw [scriptText, hsorted]
  decide +kernel

/-- The file outside the directory of the shaders is read and not declared. -/
theorem exists_undeclared :
    (buildScript Compiler.idle (.ofString "s") [⟨"x", .fragment⟩] twoIncludes).1 = .ok () ∧
    ScriptFlattens Compiler.idle (.ofString "s") [⟨"x", .fragment⟩] twoIncludes twoIncludesShader
      twoIncludes.files ∧
    twoIncludesShader.Reads twoIncludes.files.disk (.ofString "s/../common.glsl") ∧
    twoIncludes.files.canonical (.ofString "s/../common.glsl") = .ok (.ofString "/common.glsl") ∧
    ∀ q, ScriptPrints Compiler.idle (.ofString "s") [⟨"x", .fragment⟩] twoIncludes
        (rerunMark ++ q) →
      (buildScript Compiler.idle (.ofString "s") [⟨"x", .fragment⟩] twoIncludes).2.files.canonical
        (.ofString q) ≠ .ok (.ofString "/common.glsl") := by
  have hknown : twoIncludes.files.canonical (.ofString "s/../common.glsl") =
      .ok (.ofString "/common.glsl") := by
    decide +kernel
  have hincluded : SourceFile.load twoIncludes.files.disk (.ofString "s/../common.glsl") =
      .ok (.ofTexts (.ofString "s/../common.glsl") ["float b;"]) := by
    decide +kernel
  have hreads : twoIncludesShader.Reads twoIncludes.files.disk (.ofString "s/../common.glsl") :=
    .included (Shader.includesFile_of_line 1 "../common.glsl" load_twoIncludes rfl
      (by decide +kernel) (by decide +kernel) hknown hincluded)
  refine ⟨buildScript_twoIncludes, scriptFlattens_twoIncludes, hreads, hknown, ?_⟩
  intro q hq
  rw [scriptPrints_iff buildScript_twoIncludes, linesOf_scriptText_twoIncludes] at hq
  have hmark : ∀ {path : String}, rerunMark ++ q = rerunMark ++ path → q = path :=
    fun h => (String.append_right_inj rerunMark).mp h
  have hno : ∀ {line : String}, (line.toList[16]? == rerunMark.toList[16]?) = false →
      rerunMark ++ q ≠ line := by
    rintro _ hline rfl
    rw [String.toList_append, List.getElem?_append_left (by decide), beq_self_eq_true] at hline
    cases hline
  simp only [List.mem_cons, List.not_mem_nil, or_false] at hq
  obtain h | h | h | h := hq
  · rw [hmark h]
    decide +kernel
  · rw [hmark h]
    decide +kernel
  · exact absurd h (hno (by decide))
  · exact absurd h (hno (by decide))

end ShaderBuild
