import ShaderBuild.Machine
import ShaderBuild.Source.Fault

/-! # Why a shader cannot be compiled

`BuildFault` names the step that failed; `message` words it, `causes` lists the texts behind it, and
`chain` joins both on one line. -/

namespace ShaderBuild

/-- Why compiling a shader failed. -/
inductive BuildFault where
  | invalidSource (shader : Path)
  | directoryCreation (dir : Path) (cause : FileFault)
  | compilerLaunch (program : Bytes) (cause : FileFault)
  | compilerFailed (shader : Path) (status : ExitStatus)
  | writeSource (path : Path) (cause : FileFault)
  | overwritesSource (path : Path)
  | preprocess (fault : SourceFault)
deriving DecidableEq, Repr

/-- A text and the texts of its causes on one line, a colon between two. -/
def chainText (message : String) (causes : List String) : String :=
  ": ".intercalate (message :: causes)

namespace BuildFault

/-- The text a fault is reported by. -/
def message : BuildFault → String
  | .invalidSource shader => shader.display ++ ": not a shader file path"
  | .directoryCreation dir _ => "could not create output directory " ++ dir.display
  | .compilerLaunch program _ => "could not run shader compiler " ++ lossy program
  | .compilerFailed shader status =>
    shader.display ++ ": shader compilation failed (" ++ status.display ++ ")"
  | .writeSource path _ => "could not write " ++ path.display
  | .overwritesSource path =>
    path.display ++ ": flattened output would overwrite the source shader"
  | .preprocess _ => "shader preprocessing failed"

/-- The texts of the causes behind a fault, outermost first. -/
def causes : BuildFault → List String
  | .directoryCreation _ cause | .compilerLaunch _ cause | .writeSource _ cause => [cause.message]
  | .preprocess fault => fault.message :: fault.causes
  | _ => []

/-- A fault and its causes on one line. -/
def chain (f : BuildFault) : String :=
  chainText f.message f.causes

end BuildFault

end ShaderBuild
