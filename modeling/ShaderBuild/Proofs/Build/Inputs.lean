import ShaderBuild.Build.Compiler
import ShaderBuild.Proofs.FileTree.Plain
import ShaderBuild.Proofs.Include.Walk
import ShaderBuild.Proofs.Source.Lines

/-! # What flattening reads

Flattening a shader reads the shader and every file on an include walk from it (`Shader.Reads`).
Each of them was loaded, so its path leads to a file or a device (`exists_find_of_load`). -/

namespace ShaderBuild

/-- `s` includes the file at the path `p`, directly or through other files. -/
def Shader.IncludesFile (disk : Disk) (s : Shader) (p : Path) : Prop :=
  ∃ file ws v i w, SourceFile.load disk s.sourcePath = .ok file ∧
    Walk disk s.baseDir (Visit.start disk file) ws v ∧ Leads disk s.baseDir v.file i w ∧
    w.file.path = p

/-- Flattening `s` reads the file at a path: the shader itself or a file that it includes. -/
inductive Shader.Reads (disk : Disk) (s : Shader) : Path → Prop
  | shader {file : SourceFile} : SourceFile.load disk s.sourcePath = .ok file →
      Shader.Reads disk s s.sourcePath
  | included {p : Path} : s.IncludesFile disk p → Shader.Reads disk s p

section
variable {t : FileTree} {s : Shader} {p : Path} {l : Location} {e : Entry}

namespace FileTree

/-- Only files and devices have a content. -/
theorem eq_file_or_device_of_contentOf {content : ByteArray} (h : t.contentOf e = .ok content) :
    (∃ n, e = .file n) ∨ ∃ d, e = .device d := by
  unfold contentOf at h
  split at h
  · cases h
  · cases e with
    | dir _ _ => cases h
    | file n => exact .inl ⟨n, rfl⟩
    | link _ => cases h
    | device d => exact .inr ⟨d, rfl⟩

theorem exists_find_of_readText {text : String} (h : t.readText p = .ok text) :
    ∃ l e, t.find p = .ok (l, e) ∧ ((∃ n, e = .file n) ∨ ∃ d, e = .device d) := by
  unfold readText at h
  cases hr : t.read p with
  | error cause => simp [hr] at h
  | ok content =>
      obtain ⟨⟨l, e⟩, hf, hc⟩ := bind_eq_ok_iff.mp hr
      exact ⟨l, e, hf, eq_file_or_device_of_contentOf hc⟩

/-- What is loaded is a file or a device. -/
theorem exists_find_of_load {file : SourceFile} (h : SourceFile.load t.disk p = .ok file) :
    ∃ l e, t.find p = .ok (l, e) ∧ ((∃ n, e = .file n) ∨ ∃ d, e = .device d) := by
  obtain ⟨text, htext, _⟩ := SourceFile.load_eq_ok_iff.mp h
  exact exists_find_of_readText htext

theorem Plain.exists_find_of_load (ht : t.Plain) {file : SourceFile}
    (h : SourceFile.load t.disk p = .ok file) : ∃ l n, t.find p = .ok (l, .file n) := by
  obtain ⟨l, e, hf, ⟨n, rfl⟩ | ⟨d, rfl⟩⟩ := FileTree.exists_find_of_load h
  · exact ⟨l, n, hf⟩
  · exact absurd (lookup_of_find ht.hasWorkingDir hf) (ht.not_device l d)

end FileTree

/-- A shader that is flattened was loaded. -/
theorem Shader.exists_load_of_preprocess {disk : Disk} {maxDepth : ℕ} {out : Flattened}
    (h : s.preprocess disk maxDepth = .ok out) :
    ∃ file, SourceFile.load disk s.sourcePath = .ok file := by
  obtain ⟨file, hfile, _⟩ := bind_eq_ok_iff.mp h
  exact ⟨file, hfile⟩

/-- A shader includes what one of its own lines names. -/
theorem Shader.includesFile_of_line {disk : Disk} {file included : SourceFile} {text : String}
    {known : Path} (i : ℕ) (target : String) (hfile : SourceFile.load disk s.sourcePath = .ok file)
    (hline : file.text? i = some text) (htarget : includePath? text = some target)
    (hp : s.baseDir.join (.ofString target) = p) (hknown : disk.canonical p = .ok known)
    (hincluded : SourceFile.load disk p = .ok included) : s.IncludesFile disk p := by
  subst hp
  have hleads : Leads disk s.baseDir file i ⟨known, included⟩ :=
    ⟨text, hline, target, htarget, hknown, hincluded⟩
  exact ⟨file, _, _, i, _, hfile, .start, hleads, SourceFile.load_path hincluded⟩

theorem Shader.IncludesFile.exists_load {disk : Disk} (h : s.IncludesFile disk p) :
    ∃ file, SourceFile.load disk p = .ok file := by
  obtain ⟨_, _, v, i, w, _, _, ⟨text, _, target, _, _, hload⟩, rfl⟩ := h
  rw [SourceFile.load_path hload]
  exact ⟨_, hload⟩

theorem Shader.Reads.exists_load {disk : Disk} (h : s.Reads disk p) :
    ∃ file, SourceFile.load disk p = .ok file := by
  cases h with
  | shader hload => exact ⟨_, hload⟩
  | included h => exact h.exists_load

end

end ShaderBuild
