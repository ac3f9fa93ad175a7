import ShaderBuild.FileFault
import ShaderBuild.Path
import ShaderBuild.Text.Quoted

/-! # Why a shader cannot be preprocessed

Each fault carries what is needed to point at it: the file and the line, counted from zero, and the
text or path at issue.  `SourceFault.message` is the one place that words them, with lines counted
from one. -/

namespace ShaderBuild

/-- A line of a file, counted from zero. -/
structure Site where
  file : Path
  line : Nat
deriving DecidableEq, Repr

/-- Why a shader cannot be read, expanded or laid out. -/
inductive SourceFault where
  | invalidKind (text : String)
  | fileNotFound (path : Path)
  | readError (path : Path) (cause : FileFault)
  | includeNotFound (target : Path) (site : Site)
  | malformedInclude (site : Site) (text : String)
  /-- The target is being expanded already; `chain` lists the files being expanded, outermost
  first. -/
  | includeCycle (target : Path) (chain : List Path) (site : Site)
  | includeTooDeep (site : Site) (limit : Nat)
  | duplicateBlock (site : Site) (firstLine : Nat)
  | nestedBlock (site : Site)
  | malformedField (site : Site) (text : String)
  | unterminatedBlock (site : Site)
  | unknownType (type name : String)
  | unresolvedInclude (site : Site)
deriving DecidableEq, Repr

/-- A site as it is shown, its line counted from one. -/
def Site.display (s : Site) : String :=
  s.file.display ++ ", line " ++ Nat.repr (s.line + 1)

namespace SourceFault

/-- The text a fault is reported by. -/
def message : SourceFault → String
  | .invalidKind text => "invalid shader type: " ++ quoted text ++ " (expected vert or frag)"
  | .fileNotFound path => path.display ++ ": file not found"
  | .readError path _ => path.display ++ ": could not read file"
  | .includeNotFound target site =>
    site.display ++ ": could not include \"" ++ target.display ++ "\": no such file"
  | .malformedInclude site text =>
    site.display ++ ": invalid include line (expected //#INCLUDE \"<path>\"): " ++ text
  | .includeCycle target chain site =>
    site.display ++ ": recursive include of \"" ++ target.display ++ "\" ("
      ++ String.join (chain.map fun p => p.display ++ " -> ") ++ target.display ++ ")"
  | .includeTooDeep site limit =>
    site.display ++ ": includes nested deeper than " ++ Nat.repr limit ++ " levels"
  | .duplicateBlock site firstLine =>
    site.display ++ ": uniform block already found at line " ++ Nat.repr (firstLine + 1)
  | .nestedBlock site => site.display ++ ": included files may not declare a uniform block"
  | .malformedField site text =>
    site.display ++ ": expected \"<type> <name>\" inside uniform block, got: " ++ text
  | .unterminatedBlock site => site.display ++ ": uniform block is never closed"
  | .unknownType type name =>
    "uniform \"" ++ name ++ "\" has unsupported type \"" ++ type ++ "\""
  | .unresolvedInclude site => site.display ++ ": include was never resolved"

/-- The texts of the causes behind a fault, outermost first. -/
def causes : SourceFault → List String
  | .readError _ cause => [cause.message]
  | _ => []

end SourceFault

end ShaderBuild
