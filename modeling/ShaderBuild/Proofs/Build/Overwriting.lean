import ShaderBuild.Proofs.Build.Effects

/-! # Flattened texts that go over included files

Before a flattened text is written, its path is compared with that of the shader and with no other.
If it leads to a file that the shader includes, that file is overwritten; otherwise the included
files keep what they hold (`Compiler.writeFlattened_included`). -/

namespace ShaderBuild

namespace Compiler

/-- The flattened text of `s` goes over the file with the body `n`: its path leads there and is not
found to be that of the shader, and the file may be written. -/
def Overwrites (s : Shader) (outputDir : Path) (t : FileTree) (n : ℕ) : Prop :=
  ∃ dirs l, ensureOutputDir outputDir t = (.ok (), dirs) ∧
    sameFile dirs (flattenedPath s outputDir) s.sourcePath = false ∧
    dirs.find (flattenedPath s outputDir) = .ok (l, .file n) ∧
    (dirs.modeOf (.file n)).mayWrite = true

/-- What writing `source` as the flattened text of `s` does to the file at `l` with the body `n`. -/
structure WriteEffect (s : Shader) (outputDir : Path) (source : String) (t : FileTree)
    (l : Location) (n : ℕ) : Prop where
  overwritten : Overwrites s outputDir t n →
    (writeFlattened s outputDir source t).1 = .ok () ∧
      (writeFlattened s outputDir source t).2.contentAt? l = some source.toByteArray
  kept : ¬ Overwrites s outputDir t n →
    (writeFlattened s outputDir source t).2.contentAt? l = t.contentAt? l

section
variable {s : Shader} {outputDir p : Path} {t : FileTree} {l : Location} {n : ℕ}

theorem writeFlattened_of_overwrites (ht : t.Sound) (h : Overwrites s outputDir t n)
    (hf : t.find p = .ok (l, .file n)) (source : String) :
    (writeFlattened s outputDir source t).1 = .ok () ∧
      (writeFlattened s outputDir source t).2.contentAt? l = some source.toByteArray := by
  obtain ⟨dirs, l', hensured, hsame, hfind, hmode⟩ := h
  obtain ⟨dirs', hadded, hcases⟩ := ensureOutputDir_cases ht.hasWorkingDir outputDir
  obtain rfl : dirs = dirs' := by
    obtain h | ⟨cause, h⟩ := hcases
    · rw [hensured] at h
      cases h
      rfl
    · rw [hensured] at h
      cases h
  have hwrite := FileTree.write_eq_of_find hfind source.toByteArray
  rw [if_pos hmode] at hwrite
  have hresult : writeFlattened s outputDir source t =
      (.ok (), dirs.setContent n source.toByteArray) := by
    unfold writeFlattened
    rw [hensured]
    simp only [hsame, Bool.false_eq_true, if_false, hwrite]
  have hwritten := FileTree.written_setContent (hadded.sound ht) hfind source.toByteArray
  have hx := hadded.toExtends.trans hwritten.toExtends
  rw [hresult]
  refine ⟨rfl, ?_⟩
  rw [FileTree.contentAt?_of_find (hx.hasWorkingDir ht.hasWorkingDir)
    (hx.find ht.hasWorkingDir hf rfl)]
  exact hwritten.content_eq

theorem writeFlattened_of_not_overwrites (ht : t.Sound) (h : ¬ Overwrites s outputDir t n)
    (hf : t.find p = .ok (l, .file n)) (source : String) :
    (writeFlattened s outputDir source t).2.contentAt? l = t.contentAt? l := by
  have hw := ht.hasWorkingDir
  obtain ⟨dirs, hadded, hensured | ⟨cause, hfailed⟩⟩ := ensureOutputDir_cases hw outputDir
  · have hdirs := hadded.contentAt?_eq l
    have hf' := hadded.find hw hf rfl
    unfold writeFlattened
    simp only [hensured]
    cases hsame : sameFile dirs (flattenedPath s outputDir) s.sourcePath with
    | true => exact hdirs
    | false =>
        simp only [Bool.false_eq_true, if_false]
        cases hwrite : dirs.write (flattenedPath s outputDir) source.toByteArray with
        | error cause => exact hdirs
        | ok t' =>
            have hsound := hadded.sound ht
            obtain ⟨k, j, hwritten⟩ | ⟨rfl, _⟩ := FileTree.exists_written hsound hwrite
            · have hl := FileTree.lookup_of_find hsound.hasWorkingDir hf'
              have hj : j ≠ n := by
                rintro rfl
                obtain hfind | ⟨_, hsize⟩ := hwritten.before
                · refine h ⟨dirs, k, hensured, hsame, hfind, ?_⟩
                  by_contra hmode
                  rw [FileTree.write_eq_of_find hfind, if_neg hmode] at hwrite
                  cases hwrite
                · exact absurd (hsound.body_lt hl) (hsize ▸ lt_irrefl _)
              have hx := hadded.toExtends.trans hwritten.toExtends
              rw [FileTree.contentAt?_of_find (hx.hasWorkingDir hw) (hx.find hw hf rfl),
                FileTree.contentAt?_of_find hw hf, hwritten.body_eq n hj.symm, hadded.body?_eq]
            · exact hdirs
  · unfold writeFlattened
    rw [hfailed]
    exact hadded.contentAt?_eq l

/-- A file that the shader includes holds the flattened text after this was written, if the
flattened text goes over it, and else what it held. -/
theorem writeFlattened_included (ht : t.Sound) (hp : s.IncludesFile t.disk p) (source : String) :
    (∃ l n, t.find p = .ok (l, .file n) ∧ WriteEffect s outputDir source t l n) ∨
      ∃ l d, t.find p = .ok (l, .device d) := by
  obtain ⟨file, hload⟩ := hp.exists_load
  obtain ⟨l, e, hf, ⟨n, rfl⟩ | ⟨d, rfl⟩⟩ := FileTree.exists_find_of_load hload
  · have heffect : WriteEffect s outputDir source t l n :=
      ⟨fun h => writeFlattened_of_overwrites ht h hf source,
        fun h => writeFlattened_of_not_overwrites ht h hf source⟩
    exact .inl ⟨l, n, hf, heffect⟩
  · exact .inr ⟨l, d, hf⟩

end

/-- A tree with a shader `s/x.frag` that includes a file of the same name in `s/out`. -/
def sameNames : FileTree where
  root := FileTree.directory [("s", FileTree.directory
    [("x.frag", .file 0), ("out", FileTree.directory [("x.frag", .file 1)])])]
  bodies := #[⟨"//#INCLUDE \"out/x.frag\"\nvoid main() \x7b\x7d\n".toByteArray, .plain, 0⟩,
    ⟨"float a;\n".toByteArray, .plain, 0⟩]
  workingDir := []
  clock := 0

/-- The shader of `sameNames`. -/
def sameNamesShader : Shader :=
  ⟨"x", .fragment, .ofString "s"⟩

theorem plain_sameNames : sameNames.Plain :=
  FileTree.plain_of_isPlain (by decide +kernel)

theorem includesFile_sameNames :
    sameNamesShader.IncludesFile sameNames.disk (.ofString "s/out/x.frag") := by
  have hfile : SourceFile.load sameNames.disk sameNamesShader.sourcePath =
      .ok (.ofTexts (.ofString "s/x.frag")
        ["//#INCLUDE \"out/x.frag\"", "void main() \x7b\x7d"]) := by
    decide +kernel
  have hknown : sameNames.canonical (.ofString "s/out/x.frag") =
      .ok (.ofString "/s/out/x.frag") := by
    decide +kernel
  have hincluded : SourceFile.load sameNames.disk (.ofString "s/out/x.frag") =
      .ok (.ofTexts (.ofString "s/out/x.frag") ["float a;"]) := by
    decide +kernel
  exact Shader.includesFile_of_line 0 "out/x.frag" hfile rfl (by decide +kernel)
    (by decide +kernel) hknown hincluded

theorem writeFlattened_included_sameNames :
    (∃ l n, sameNames.find (.ofString "s/out/x.frag") = .ok (l, .file n) ∧
      WriteEffect sameNamesShader (.ofString "s/out") "float b;" sameNames l n) ∨
      ∃ l d, sameNames.find (.ofString "s/out/x.frag") = .ok (l, .device d) :=
  writeFlattened_included plain_sameNames.toSound includesFile_sameNames "float b;"

/-- Compiling into the directory of an included file of the same name overwrites that file. -/
theorem exists_included_overwritten :
    sameNames.Plain ∧ sameNamesShader.IncludesFile sameNames.disk (.ofString "s/out/x.frag") ∧
    sameNames.readText (.ofString "s/out/x.frag") = .ok "float a;\n" ∧
    (compilePreprocessed idle {} sameNamesShader (.ofString "s/out") { files := sameNames }).1 =
      .ok (.ofString "s/out/x.frag.spv") ∧
    (compilePreprocessed idle {} sameNamesShader (.ofString "s/out")
      { files := sameNames }).2.files.readText (.ofString "s/out/x.frag") =
        .ok "float a;\nvoid main() \x7b\x7d" :=
  ⟨plain_sameNames, includesFile_sameNames, by decide +kernel, by decide +kernel,
    by decide +kernel⟩

end Compiler

end ShaderBuild
