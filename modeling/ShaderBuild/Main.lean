import ShaderBuild.CommandLine

/-! # The program

The outer layer of the tool.  The text of a shader is flattened by the same functions as everywhere
else; what they ask of the file system is asked of the real one.  A pass is run on the answers known
so far, and a question without an answer shows in its fault: the question is then asked and the pass
run again.  Processes are not started from here, so that a compiler cannot be run. -/

namespace ShaderBuild.Program

/-- The answers of the file system about one path. -/
structure Answer where
  path : Path
  canonical : Except FileFault Path
  text : Except FileFault String

/-- Stands in for an answer that is not known yet. -/
def unasked : FileFault := .described "not asked yet"

/-- The answers known so far, as a disk. -/
def diskOf (known : List Answer) : Disk where
  canonical p := (known.find? fun a => a.path = p).elim (.error unasked) Answer.canonical
  readText p := (known.find? fun a => a.path = p).elim (.error unasked) Answer.text

/-- The path that a pass could not go on without. -/
def question? : Except SourceFault Flattened → Option Path
  | .error (.readError p cause) => if cause = unasked then some p else none
  | _ => none

/-- The cause that an exception of the system stands for. -/
def faultOf : IO.Error → FileFault
  | .noFileOrDirectory _ _ _ => .notFound
  | .permissionDenied _ _ _ => .accessDenied
  | .inappropriateType _ code _ => if code = 21 then .isDirectory else .notDirectory
  | e => .described (toString e)

/-- Ask the file system about a path. -/
def ask (p : Path) : IO Answer := do
  let name := p.display
  let canonical ← (IO.FS.realPath name).toBaseIO
  let content ← (IO.FS.readBinFile name).toBaseIO
  return {
    path := p
    canonical := (canonical.mapError faultOf).map fun c => .ofString c.toString
    text := (content.mapError faultOf).bind fun c =>
      (String.fromUTF8? c).elim (.error .notUtf8) .ok }

/-- Ask for all that flattening a shader needs. -/
partial def gather (s : Shader) (known : List Answer) : IO Disk := do
  match question? (s.preprocess (diskOf known) defaultMaxDepth) with
  | none => return diskOf known
  | some p => gather s ((← ask p) :: known)

/-- Print the result of a command and give the exit code. -/
def conclude : Except Report String → IO UInt32
  | .ok text => do
    (← IO.getStdout).putStr text
    return 0
  | .error e => do
    (← IO.getStderr).putStr (e.line)
    return 1

/-- Run a command. -/
def run : Command → IO UInt32
  | .preprocess s => do
    conclude ((Command.flatten (← gather s []) s).map Command.sourceText)
  | .uniforms s => do
    conclude (Command.uniformTable (← gather s []) s)
  | .compile source _ => do
    let compiler := Compiler.ofEnvironment ((← IO.getEnv Compiler.environmentName).map encode)
    let fault : BuildFault :=
      .compilerLaunch compiler.program (.described "processes cannot be started")
    conclude (.error (Command.compileReport source fault))

end ShaderBuild.Program

/-- Run the tool with the arguments of the process. -/
def main (args : List String) : IO UInt32 :=
  match ShaderBuild.Command.parse (args.map ShaderBuild.encode) with
  | .error e => ShaderBuild.Program.conclude (.error e.report)
  | .ok command => ShaderBuild.Program.run command
