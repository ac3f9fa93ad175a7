import Mathlib.Logic.Basic
import ShaderBuild.Proofs.Build.Inputs
import ShaderBuild.Proofs.FileTree.Writing
import ShaderBuild.Proofs.Path

/-! # What compiling a flattened shader does

A call of `Compiler.compilePreprocessed` takes one of five courses (`Compiler.Course`).  Which one
does not depend on the launcher, and only in the last one is it used, once: the flattened text has
then been written, and no other file has changed (`Compiler.compilePreprocessed_course`).

The shader itself is safe as long as its path and the path of the flattened text have canonical
paths, which is how the two are compared.  Where a canonical path would be too long, or a directory
above may not be searched, the shader may be overwritten (`Compiler.exists_shader_overwritten`). -/

namespace ShaderBuild

section
variable {t t' t'' : FileTree} {dir : Path}

/-! ### The output directory -/

/-- Seeing to the output directory adds directories at most. -/
theorem ensureOutputDir_cases (ht : t.HasWorkingDir) (dir : Path) :
    ∃ files, t.DirsAdded files ∧ (ensureOutputDir dir t = (.ok (), files) ∨
      ∃ cause, ensureOutputDir dir t = (.error (.directoryCreation dir cause), files)) := by
  unfold ensureOutputDir
  by_cases hdir : t.isDir dir = true
  · simp [hdir, FileTree.DirsAdded.refl]
  · obtain ⟨hadded, _⟩ := FileTree.makeDirs_dirsAdded ht dir
    refine ⟨(t.makeDirs dir).2, hadded, ?_⟩
    rw [if_neg hdir]
    obtain ⟨outcome, files⟩ := t.makeDirs dir
    cases outcome with
    | ok _ => exact .inl rfl
    | error cause =>
        dsimp only
        split
        · exact .inl rfl
        · exact .inr ⟨cause, rfl⟩

/-- An output directory that was seen to is there, and stays there. -/
theorem ensureOutputDir_again (ht : t.HasWorkingDir) (h : ensureOutputDir dir t = (.ok (), t'))
    (hx : t'.Extends t'') : ensureOutputDir dir t'' = (.ok (), t'') := by
  unfold ensureOutputDir at h
  by_cases hdir : t.isDir dir = true
  · rw [if_pos hdir] at h
    cases h
    rw [ensureOutputDir, if_pos (hx.isDir ht hdir)]
  · rw [if_neg hdir] at h
    obtain ⟨hadded, hmade⟩ := FileTree.makeDirs_dirsAdded ht dir
    cases hmakes : t.makeDirs dir with
    | mk outcome files =>
        rw [hmakes] at h hadded hmade
        cases outcome with
        | error cause =>
            dsimp only at h
            split at h
            · rename_i hthere
              cases h
              rw [Bool.and_eq_true] at hthere
              rw [ensureOutputDir, if_pos (hx.isDir (hadded.hasWorkingDir ht) hthere.2)]
            · cases h
        | ok _ =>
            cases h
            obtain hempty | hdir' := hmade rfl
            · have hnothing : t''.makeDirs dir = (.ok (), t'') := by
                simp [FileTree.makeDirs, FileTree.ancestors, hempty, FileTree.makeFirst]
              rw [ensureOutputDir, hnothing]
              split <;> rfl
            · rw [ensureOutputDir, if_pos (hx.isDir (hadded.hasWorkingDir ht) hdir')]

end

/-! ### The path of the output -/

namespace Compiler

variable {c : Compiler} {s : Shader} {outputDir : Path} {m : Machine}

/-- The flattened text of a shader goes to a file whose name the output can be called by. -/
theorem exists_outputPath? (s : Shader) (outputDir : Path) :
    ∃ output, outputPath? (flattenedPath s outputDir) outputDir = some output := by
  obtain ⟨bs, hbs⟩ := outputDir.exists_join_bytes (.ofString s.fileName)
  have hname : (Path.ofString s.fileName).bytes =
      encode s.name ++ dot :: encode s.kind.extension := by
    rw [Path.ofString, Shader.fileName, encode_append, encode_append, List.append_assoc]
    rfl
  have hext : (encode s.kind.extension).length = 4 ∧
      ∀ b ∈ encode s.kind.extension, (b == slash) = false := by
    cases s.kind <;> decide +kernel
  have hbytes : (flattenedPath s outputDir).bytes =
      (bs ++ encode s.name) ++ dot :: encode s.kind.extension := by
    rw [flattenedPath, hbs, hname, List.append_assoc]
  obtain ⟨n, hn⟩ := Path.exists_fileName? hbytes (by omega) hext.2
  exact ⟨_, by rw [outputPath?, hn, Option.map_some]⟩

/-! ### Courses of a call -/

/-- The outcome of a call after the compiler was launched. -/
def concluded (c : Compiler) (source output : Path) :
    Except FileFault ExitStatus × Machine → Except BuildFault Path × Machine
  | (.error cause, m) => (.error (.compilerLaunch c.program cause), m)
  | (.ok status, m) =>
    (if status.success then .ok output else .error (.compilerFailed source status), m)

/-- The shader is flattened, and its output directory made: `dirs` are the files then. -/
structure Prepared (s : Shader) (outputDir : Path) (t : FileTree) (out : Flattened)
    (dirs : FileTree) : Prop where
  flattened : s.preprocess t.disk defaultMaxDepth = .ok out
  ensured : ensureOutputDir outputDir t = (.ok (), dirs)
  added : t.DirsAdded dirs

/-- The files when the compiler is launched: `t` before the call, `dirs` when the output directory
was made, `t'` in the end.  The flattened text is at `l`, and the shader at `k`. -/
structure Placed (s : Shader) (outputDir : Path) (source : String) (t dirs t' : FileTree)
    (l k : Location) : Prop where
  flattened : ∃ n, t'.find (flattenedPath s outputDir) = .ok (l, .file n)
  content : t'.contentAt? l = some source.toByteArray
  /-- No other regular file is new or holds something new. -/
  others : ∀ j, j ≠ l → t'.contentAt? j = t.contentAt? j
  shader : ∃ n, t.find s.sourcePath = .ok (k, .file n) ∧ t'.find s.sourcePath = .ok (k, .file n)
  /-- The shader is one of the other files, if the two could be compared. -/
  apart : ¬ FileTree.Refused (dirs.canonical (flattenedPath s outputDir)) →
    ¬ FileTree.Refused (dirs.canonical s.sourcePath) → k ≠ l

/-- The courses that a call takes, as functions of the launcher. -/
inductive Course (c : Compiler) (s : Shader) (outputDir : Path) (m : Machine) :
    (Launcher → Except BuildFault Path × Machine) → Prop
  | unflattened {fault : SourceFault} :
      s.preprocess m.files.disk defaultMaxDepth = .error fault →
      Course c s outputDir m fun _ => (.error (.preprocess fault), m)
  | noDirectory {out : Flattened} {cause : FileFault} {files : FileTree} :
      s.preprocess m.files.disk defaultMaxDepth = .ok out →
      ensureOutputDir outputDir m.files = (.error (.directoryCreation outputDir cause), files) →
      m.files.DirsAdded files →
      Course c s outputDir m fun _ =>
        (.error (.directoryCreation outputDir cause), { m with files })
  | refused {out : Flattened} {dirs : FileTree} :
      Prepared s outputDir m.files out dirs →
      sameFile dirs (flattenedPath s outputDir) s.sourcePath = true →
      Course c s outputDir m fun _ =>
        (.error (.overwritesSource (flattenedPath s outputDir)), { m with files := dirs })
  | unwritten {out : Flattened} {dirs : FileTree} {cause : FileFault} {m' : Machine} :
      Prepared s outputDir m.files out dirs →
      sameFile dirs (flattenedPath s outputDir) s.sourcePath = false →
      dirs.write (flattenedPath s outputDir) out.source.toByteArray = .error cause →
      Course c s outputDir m fun _ =>
        (.error (.writeSource (flattenedPath s outputDir) cause), m')
  | launched {out : Flattened} {dirs files : FileTree} {output : Path} {l k : Location} :
      Prepared s outputDir m.files out dirs →
      sameFile dirs (flattenedPath s outputDir) s.sourcePath = false →
      dirs.write (flattenedPath s outputDir) out.source.toByteArray = .ok files →
      Placed s outputDir out.source m.files dirs files l k →
      outputPath? (flattenedPath s outputDir) outputDir = some output →
      Course c s outputDir m fun launch =>
        c.concluded (flattenedPath s outputDir) output
          (launch
            ⟨c.program, c.args ++ [(flattenedPath s outputDir).bytes, encode "-o", output.bytes]⟩
            { m with files })

/-- Where the output directory is there, compiling is launching the compiler. -/
theorem compile_eq_concluded {source output : Path}
    (ho : outputPath? source outputDir = some output)
    (he : ensureOutputDir outputDir m.files = (.ok (), m.files)) (launch : Launcher) :
    c.compile launch source outputDir m =
      c.concluded source output (launch (c.invocation source output) m) := by
  unfold compile dispatch
  rw [ho, he]
  dsimp only
  cases launch (c.invocation source output) m with
  | mk outcome m' =>
      cases outcome with
      | error cause => rfl
      | ok status =>
          dsimp only [concluded]
          split <;> simp

/-- Two paths of one file that are not found to be the same file: one has no canonical path. -/
theorem refused_canonical_of_sameFile {t : FileTree} {p q : Path} {l : Location} {n k : ℕ}
    (hp : t.find p = .ok (l, .file n)) (hq : t.find q = .ok (l, .file k))
    (h : sameFile t p q = false) :
    FileTree.Refused (t.canonical p) ∨ FileTree.Refused (t.canonical q) := by
  obtain hp' | hp' := FileTree.canonical_of_find hp rfl
  · obtain hq' | hq' := FileTree.canonical_of_find hq rfl
    · simp [sameFile, hp', hq'] at h
    · exact .inr hq'
  · exact .inl hp'

/-- What a write of the flattened text leaves. -/
theorem exists_placed (ht : m.files.Plain) {out : Flattened} {dirs files : FileTree}
    (hprep : Prepared s outputDir m.files out dirs)
    (hsame : sameFile dirs (flattenedPath s outputDir) s.sourcePath = false)
    (hwrite : dirs.write (flattenedPath s outputDir) out.source.toByteArray = .ok files) :
    ∃ l k, Placed s outputDir out.source m.files dirs files l k := by
  have hdirs := hprep.added.plain ht
  obtain ⟨file, hload⟩ := Shader.exists_load_of_preprocess hprep.flattened
  obtain ⟨k, n, hshader⟩ := ht.exists_find_of_load hload
  have hshader' := hprep.added.find ht.hasWorkingDir hshader rfl
  obtain ⟨l, j, hwritten⟩ | ⟨_, l, d, hdevice⟩ := FileTree.exists_written hdirs.toSound hwrite
  · refine ⟨l, k, ⟨j, hwritten.find_eq⟩, hwritten.contentAt?_self hdirs.hasWorkingDir, ?_, ?_, ?_⟩
    · intro i hi
      rw [hwritten.contentAt?_eq_of_plain hdirs hi, hprep.added.contentAt?_eq]
    · exact ⟨n, hshader, hwritten.find hdirs.hasWorkingDir hshader' rfl⟩
    · rintro hF hS rfl
      obtain hfind | ⟨hnone, _⟩ := hwritten.before
      · obtain h | h := refused_canonical_of_sameFile hfind hshader' hsame
        · exact hF h
        · exact hS h
      · rw [FileTree.lookup_of_find hdirs.hasWorkingDir hshader'] at hnone
        cases hnone
  · exact absurd (FileTree.lookup_of_find hdirs.hasWorkingDir hdevice) (hdirs.not_device l d)

/-- Every call takes one of the courses, whatever the launcher is. -/
theorem compilePreprocessed_course (c : Compiler) (s : Shader) (outputDir : Path) (m : Machine)
    (ht : m.files.Plain) :
    Course c s outputDir m fun launch => c.compilePreprocessed launch s outputDir m := by
  have hw := ht.hasWorkingDir
  unfold compilePreprocessed writeFlattened
  cases hpre : s.preprocess m.files.disk defaultMaxDepth with
  | error fault => exact .unflattened hpre
  | ok out =>
      obtain ⟨dirs, hadded, hensured | ⟨cause, hfailed⟩⟩ := ensureOutputDir_cases hw outputDir
      · have hprep : Prepared s outputDir m.files out dirs := ⟨hpre, hensured, hadded⟩
        simp only [hensured]
        cases hsame : sameFile dirs (flattenedPath s outputDir) s.sourcePath with
        | true => exact .refused hprep hsame
        | false =>
            simp only [Bool.false_eq_true, if_false]
            cases hwrite : dirs.write (flattenedPath s outputDir) out.source.toByteArray with
            | error cause => exact .unwritten hprep hsame hwrite
            | ok files =>
                obtain ⟨l, k, hplaced⟩ := exists_placed ht hprep hsame hwrite
                obtain ⟨output, ho⟩ := exists_outputPath? s outputDir
                have hagain := ensureOutputDir_again hw hensured
                  (FileTree.extends_of_write (hadded.hasWorkingDir hw) hwrite)
                simp only [compile_eq_concluded (m := { m with files }) ho hagain]
                exact .launched hprep hsame hwrite hplaced ho
      · simp only [hfailed]
        exact .noDirectory hpre hfailed hadded

/-- A launcher of a compiler that succeeds and changes nothing: after a call with it, the files are
as they were when the compiler was launched. -/
def idle : Launcher :=
  fun _ m => (.ok (.exited 0), m)

/-- A tree with one shader, `s/x.frag`. -/
def oneShader : FileTree where
  root := FileTree.directory [("s", FileTree.directory [("x.frag", .file 0)])]
  bodies := #[⟨"void main() \x7b\x7d\n".toByteArray, .plain, 0⟩]
  workingDir := []
  clock := 0

theorem compilePreprocessed_course_oneShader :
    oneShader.Plain ∧
    Course {} ⟨"x", .fragment, .ofString "s"⟩ (.ofString "out") { files := oneShader }
      (fun launch => compilePreprocessed launch {} ⟨"x", .fragment, .ofString "s"⟩
        (.ofString "out") { files := oneShader }) ∧
    (compilePreprocessed idle {} ⟨"x", .fragment, .ofString "s"⟩ (.ofString "out")
      { files := oneShader }).1 = .ok (.ofString "out/x.frag.spv") := by
  have hplain : oneShader.Plain := FileTree.plain_of_isPlain (by decide +kernel)
  exact ⟨hplain, compilePreprocessed_course _ _ _ _ hplain, by decide +kernel⟩

/-! ### A shader too deep to be recognised -/

/-- A tree in which the link `l` leads fifteen directories of long names down.  Two more such
directories below it, more than `pathLimit` bytes from the root, lies a shader. -/
def deepTree : FileTree where
  root := FileTree.directory
    [("l", .link (.ofString ("/".intercalate (List.replicate 15 (FileTree.longName 'a'))))),
      (FileTree.longName 'a', FileTree.nested
        (List.replicate 14 (FileTree.longName 'a') ++ List.replicate 2 (FileTree.longName 'b'))
        (FileTree.directory [("x.frag", .file 0)])),
      ("inc.glsl", .file 1)]
  bodies := #[⟨"//#INCLUDE \"inc.glsl\"\nvoid main() \x7b\x7d\n".toByteArray, .plain, 0⟩,
    ⟨"float a;\n".toByteArray, .plain, 0⟩]
  workingDir := []
  clock := 0

/-- The shader of `deepTree`, seen from the root. -/
def deepShader : Shader :=
  ⟨"/".intercalate ["l", FileTree.longName 'b', FileTree.longName 'b', "x"], .fragment,
    .ofString "."⟩

/-- Compiling a shader into its own directory overwrites it when the shader is too far from the root
to have a canonical path. -/
theorem exists_shader_overwritten :
    deepTree.Plain ∧ flattenedPath deepShader (.ofString ".") = deepShader.sourcePath ∧
    deepTree.readText deepShader.sourcePath =
      .ok "//#INCLUDE \"inc.glsl\"\nvoid main() \x7b\x7d\n" ∧
    (compilePreprocessed idle {} deepShader (.ofString ".") { files := deepTree }).1.isOk = true ∧
    (compilePreprocessed idle {} deepShader (.ofString ".") { files := deepTree }).2.files.readText
      deepShader.sourcePath = .ok "float a;\nvoid main() \x7b\x7d" := by
  have hplain : deepTree.Plain := FileTree.plain_of_isPlain (by decide +kernel)
  exact ⟨hplain, by decide +kernel, by decide +kernel, by decide +kernel, by decide +kernel⟩

end Compiler

end ShaderBuild
