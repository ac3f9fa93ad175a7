import ShaderBuild.Source.Fault

/-! # Shaders

A shader is given by its name, its kind and the directory it lies in; its file is called by the name
with the kind as extension. -/

namespace ShaderBuild

/-- The stage a shader runs in. -/
inductive ShaderKind where
  | vertex
  | fragment
deriving DecidableEq, Repr

/-- A shader to be found at `<baseDir>/<name>.<kind>`. -/
structure Shader where
  name : String
  kind : ShaderKind
  baseDir : Path
deriving DecidableEq, Repr

/-! ### Executable definitions -/

namespace ShaderKind

/-- The extension of the kind, which is also how it is shown. -/
def extension : ShaderKind → String
  | .vertex => "vert"
  | .fragment => "frag"

/-- The kind that an extension stands for. -/
def ofExtension? : String → Option ShaderKind
  | "vert" => some .vertex
  | "frag" => some .fragment
  | _ => none

/-- The kind that a word names, in any case of its ASCII letters. -/
def ofWord? (word : String) : Option ShaderKind :=
  match String.ofList (word.toList.map Char.toLower) with
  | "vert" | "vertex" => some .vertex
  | "frag" | "fragment" => some .fragment
  | _ => none

/-- Read the kind that a word names. -/
def parse (word : String) : Except SourceFault ShaderKind :=
  (ofWord? word).elim (.error (.invalidKind word)) .ok

end ShaderKind

namespace Shader

/-- The name of the shader's file. -/
def fileName (s : Shader) : String :=
  s.name ++ "." ++ s.kind.extension

/-- The path of the shader's file. -/
def sourcePath (s : Shader) : Path :=
  s.baseDir.join (.ofString s.fileName)

end Shader

end ShaderBuild
