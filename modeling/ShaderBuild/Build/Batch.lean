import ShaderBuild.Build.Compiler

/-! # Compiling many shaders

`compileAll` compiles the shaders of a directory one after the other and stops at the first fault.
`shaderSources` lists the shader files below a directory, links to directories followed, in the
order of paths.  A build script compiles its shaders and then prints what a change of which should
run it again. -/

namespace ShaderBuild

/-- A shader of a build: its name and kind. -/
structure ShaderEntry where
  name : String
  kind : ShaderKind
deriving DecidableEq, Repr

/-! ### Executable definitions -/

/-- Compile every entry, in order, up to the first fault. -/
def compileAll (launch : Launcher) (c : Compiler) (shaderDir outputDir : Path) :
    List ShaderEntry → Machine → Except BuildFault (List Path) × Machine
  | [], m => (.ok [], m)
  | e :: es, m =>
    match c.compilePreprocessed launch ⟨e.name, e.kind, shaderDir⟩ outputDir m with
    | (.error fault, m') => (.error fault, m')
    | (.ok path, m') =>
      match compileAll launch c shaderDir outputDir es m' with
      | (.error fault, m'') => (.error fault, m'')
      | (.ok paths, m'') => (.ok (path :: paths), m'')

/-- The extensions of shader files. -/
def sourceExtensions : List String := ["vert", "frag", "glsl"]

/-- Whether a path has the extension of a shader file. -/
def isShaderSource (p : Path) : Bool :=
  p.extension?.any fun ext => sourceExtensions.any fun known => ext == encode known

/-- The shader files below `dir`, at most `depth` directories down. -/
def sourcesBelow (files : FileTree) : (depth : Nat) → (dir : Path) → List Path
  | 0, _ => []
  | depth + 1, dir =>
    (files.namesAt dir).flatMap fun name =>
      let p := dir.join ⟨name⟩
      if files.isDir p then sourcesBelow files depth p
      else if isShaderSource p then [p] else []

/-- The shader files below `dir`, in order.  No path of `pathLimit` bytes names a directory, which
bounds how far down they lie. -/
def shaderSources (files : FileTree) (dir : Path) : List Path :=
  (sourcesBelow files FileTree.pathLimit dir).mergeSort fun p q => (p.order q).isLE

/-- The environment variable that names the output directory of a build script. -/
def outputDirName : String := "OUT_DIR"

/-- Why a build script gave up. -/
inductive ScriptFault where
  | noOutputDir
  | failed (fault : BuildFault)
deriving DecidableEq, Repr

/-- The text a build script gives up with. -/
def ScriptFault.message : ScriptFault → String
  | .noOutputDir => outputDirName ++ " is only set for build scripts"
  | .failed fault => "GLSL shader compilation failed: " ++ fault.chain

/-- Run a build script for the given entries.  The environment names the output directory and may
name another compiler. -/
def buildScript (launch : Launcher) (shaderDir : Path) (entries : List ShaderEntry) (m : Machine) :
    Except ScriptFault Unit × Machine :=
  match m.environmentValue? outputDirName with
  | none => (.error .noOutputDir, m)
  | some dir =>
    match compileAll launch (Compiler.selected m) shaderDir ⟨dir⟩ entries m with
    | (.error fault, m') => (.error (.failed fault), m')
    | (.ok _, m') =>
      let declared := (shaderSources m'.files shaderDir).map fun p =>
        "cargo:rerun-if-changed=" ++ p.display ++ "\n"
      (.ok (), (m'.print (String.join declared)).print
        ("cargo:rerun-if-env-changed=" ++ Compiler.environmentName ++ "\n"))

end ShaderBuild
