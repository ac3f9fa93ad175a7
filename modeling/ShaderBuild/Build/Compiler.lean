import ShaderBuild.Build.Fault
import ShaderBuild.Flattened

/-! # Compiling one shader

`dispatch` runs the shader compiler on a source file: the result is to go to the output directory
under the name of the source with `.spv` added, and the directory is made first.
`compilePreprocessed` flattens a shader, writes the flattened text to the output directory and
compiles that.  It refuses to write over the shader itself. -/

namespace ShaderBuild

/-- The shader compiler: a program and the arguments that come before the source. -/
structure Compiler where
  program : Bytes := encode "glslangValidator"
  args : List Bytes := [encode "-V"]
deriving DecidableEq, Repr

/-! ### Where outputs go -/

/-- What is added to the name of a source. -/
def outputSuffix : String := ".spv"

/-- Where the output for a source goes, if the source has a file name. -/
def outputPath? (source outputDir : Path) : Option Path :=
  source.fileName?.map fun name => outputDir.join ⟨name ++ encode outputSuffix⟩

/-- Make the output directory unless it is there.  That another compilation makes it first is no
fault. -/
def ensureOutputDir (dir : Path) (files : FileTree) : Except BuildFault Unit × FileTree :=
  if files.isDir dir then (.ok (), files)
  else
    match files.makeDirs dir with
    | (.ok (), files') => (.ok (), files')
    | (.error cause, files') =>
      if cause == .alreadyExists && files'.isDir dir then (.ok (), files')
      else (.error (.directoryCreation dir cause), files')

/-! ### Running the compiler -/

namespace Compiler

/-- The environment variable that names another compiler. -/
def environmentName : String := "GLSLANG_VALIDATOR"

/-- The compiler that the value of the environment variable selects. -/
def ofEnvironment : Option Bytes → Compiler
  | none | some [] => {}
  | some program => { program }

/-- The compiler that the environment of a machine selects. -/
def selected (m : Machine) : Compiler :=
  ofEnvironment (m.environmentValue? environmentName)

/-- What is run to compile `source` into `output`. -/
def invocation (c : Compiler) (source output : Path) : Invocation where
  program := c.program
  args := c.args ++ [source.bytes, encode "-o", output.bytes]

/-- Run the compiler on a source file. -/
def dispatch (launch : Launcher) (c : Compiler) (source outputDir : Path) (m : Machine) :
    Except BuildFault ExitStatus × Machine :=
  match outputPath? source outputDir with
  | none => (.error (.invalidSource source), m)
  | some output =>
    match ensureOutputDir outputDir m.files with
    | (.error e, files) => (.error e, { m with files })
    | (.ok (), files) =>
      match launch (c.invocation source output) { m with files } with
      | (.error cause, m') => (.error (.compilerLaunch c.program cause), m')
      | (.ok status, m') => (.ok status, m')

/-- Compile a source file; the path of the output if the compiler succeeds. -/
def compile (launch : Launcher) (c : Compiler) (source outputDir : Path) (m : Machine) :
    Except BuildFault Path × Machine :=
  match c.dispatch launch source outputDir m with
  | (.error e, m') => (.error e, m')
  | (.ok status, m') =>
    if status.success then
      ((outputPath? source outputDir).elim (.error (.invalidSource source)) .ok, m')
    else (.error (.compilerFailed source status), m')

/-- Whether two paths name the same existing entry. -/
def sameFile (files : FileTree) (p q : Path) : Bool :=
  match files.canonical p, files.canonical q with
  | .ok a, .ok b => a == b
  | _, _ => false

/-- Where the flattened text of a shader goes. -/
def flattenedPath (s : Shader) (outputDir : Path) : Path :=
  outputDir.join (.ofString s.fileName)

/-- Write the flattened text of a shader to the output directory. -/
def writeFlattened (s : Shader) (outputDir : Path) (source : String) (files : FileTree) :
    Except BuildFault Unit × FileTree :=
  match ensureOutputDir outputDir files with
  | (.error e, files) => (.error e, files)
  | (.ok (), files) =>
    let path := flattenedPath s outputDir
    if sameFile files path s.sourcePath then (.error (.overwritesSource path), files)
    else
      match files.write path source.toByteArray with
      | .error cause => (.error (.writeSource path cause), files)
      | .ok files' => (.ok (), files')

/-- Flatten a shader into the output directory and compile the flattened text. -/
def compilePreprocessed (launch : Launcher) (c : Compiler) (s : Shader) (outputDir : Path)
    (m : Machine) : Except BuildFault Path × Machine :=
  match s.preprocess m.files.disk defaultMaxDepth with
  | .error e => (.error (.preprocess e), m)
  | .ok flattened =>
    match writeFlattened s outputDir flattened.source m.files with
    | (.error e, files) => (.error e, { m with files })
    | (.ok (), files) => c.compile launch (flattenedPath s outputDir) outputDir { m with files }

end Compiler

end ShaderBuild
