import ShaderBuild.FileFault
import ShaderBuild.Path

/-! # What reading sources needs of a file system

Expanding includes asks a file system two questions only: which canonical path a path has, and which
text is read from it.  Flattening is defined over any answers to them. -/

namespace ShaderBuild

/-- The canonical path and the text of every path. -/
structure Disk where
  canonical : Path → Except FileFault Path
  readText : Path → Except FileFault String

end ShaderBuild
