import ShaderBuild.Shader
import ShaderBuild.Source.Resolver
import ShaderBuild.Uniform.Block

/-! # Flattened shaders

Flattening a source file reads its outline and its uniform block, expands the includes and assembles
the text.  The block is read from the file before its includes are expanded. -/

namespace ShaderBuild

/-- A flattened source and the uniform block it declares. -/
structure Flattened where
  source : String
  block : Option UniformBlock
deriving DecidableEq, Repr

/-! ### Executable definitions -/

/-- Flatten a source file whose includes lie under `baseDir`. -/
def preprocessFile (disk : Disk) (baseDir : Path) (maxDepth : Nat) (file : SourceFile) :
    Except SourceFault Flattened := do
  let outline ← file.outline
  let block ← outline.marker.mapM (UniformBlock.parse file)
  let resolution := Resolver.resolveAll disk { baseDir, maxDepth } file outline.includes
  resolution.outcome
  let source ← file.assemble resolution.directives
  return { source, block }

/-- Flatten the file of a shader. -/
def Shader.preprocess (disk : Disk) (s : Shader) (maxDepth : Nat) :
    Except SourceFault Flattened := do
  let file ← SourceFile.load disk s.sourcePath
  preprocessFile disk s.baseDir maxDepth file

end ShaderBuild
