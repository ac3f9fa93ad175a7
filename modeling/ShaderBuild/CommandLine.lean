import ShaderBuild.Build.Compiler
import ShaderBuild.Uniform.Layout

/-! # The command line

`Command.parse` reads the arguments of the tool.  Paths may be any bytes; the command, the kind and
the name of a shader have to be UTF-8.  `runTool` parses, runs the command and prints: results go to
the standard output, faults as one line to the standard error. -/

namespace ShaderBuild

/-- What the tool is asked to do. -/
inductive Command where
  /-- Print the flattened source. -/
  | preprocess (s : Shader)
  /-- Print the layout of the uniform block. -/
  | uniforms (s : Shader)
  /-- Run the shader compiler. -/
  | compile (source outputDir : Path)
deriving DecidableEq, Repr

/-- Why the arguments name no command. -/
inductive UsageFault where
  | missingCommand
  | notUtf8 (what : String) (arg : Bytes)
  | badKind (word : String)
  | shaderArguments
  | compileArguments
  | unknownCommand (word : String)
deriving DecidableEq, Repr

/-- What the tool fails with: a text and the texts of its causes. -/
structure Report where
  message : String
  causes : List String
deriving DecidableEq, Repr

/-! ### Reading arguments -/

/-- How the tool is called. -/
def usage : String :=
  "usage:\n  shader-tool preprocess <name> <base_dir> [vert|frag]\n"
    ++ "  shader-tool uniforms <name> <base_dir> [vert|frag]\n"
    ++ "  shader-tool compile <source> <output_dir>"

/-- A report as the line that is printed. -/
def Report.line (r : Report) : String :=
  "error: " ++ chainText r.message r.causes ++ "\n"

namespace UsageFault

/-- The report of a usage fault. -/
def report : UsageFault → Report
  | .missingCommand => ⟨"missing command\n" ++ usage, []⟩
  | .notUtf8 what arg => ⟨what ++ " is not valid UTF-8: " ++ lossy arg, []⟩
  | .badKind word =>
    ⟨"bad shader kind argument " ++ quoted word, [(SourceFault.invalidKind word).message]⟩
  | .shaderArguments => ⟨"expected <name> <base_dir> [vert|frag]\n" ++ usage, []⟩
  | .compileArguments => ⟨"expected <source> <output_dir>\n" ++ usage, []⟩
  | .unknownCommand word => ⟨"unknown command " ++ quoted word ++ "\n" ++ usage, []⟩

end UsageFault

namespace Command

/-- An argument that has to be UTF-8. -/
def textArg (what : String) (arg : Bytes) : Except UsageFault String :=
  (decode? arg).elim (.error (.notUtf8 what arg)) .ok

/-- The shader that the arguments after a command name. -/
def parseShader : List Bytes → Except UsageFault Shader
  | [name, baseDir] => do
    return ⟨← textArg "shader name" name, .vertex, ⟨baseDir⟩⟩
  | [name, baseDir, kind] => do
    let word ← textArg "shader kind" kind
    match ShaderKind.ofWord? word with
    | none => throw (.badKind word)
    | some kind => return ⟨← textArg "shader name" name, kind, ⟨baseDir⟩⟩
  | _ => .error .shaderArguments

/-- The command that the arguments name. -/
def parse : List Bytes → Except UsageFault Command
  | [] => .error .missingCommand
  | command :: rest => do
    match ← textArg "command" command with
    | "preprocess" => return .preprocess (← parseShader rest)
    | "uniforms" => return .uniforms (← parseShader rest)
    | "compile" =>
      match rest with
      | [source, outputDir] => return .compile ⟨source⟩ ⟨outputDir⟩
      | _ => throw .compileArguments
    | word => throw (.unknownCommand word)

/-- The arguments that name a command. -/
def toArgs : Command → List Bytes
  | .preprocess s =>
    [encode "preprocess", encode s.name, s.baseDir.bytes, encode s.kind.extension]
  | .uniforms s => [encode "uniforms", encode s.name, s.baseDir.bytes, encode s.kind.extension]
  | .compile source outputDir => [encode "compile", source.bytes, outputDir.bytes]

end Command

/-! ### Running commands -/

/-- `s` after as many spaces as make it `width` wide. -/
def padLeft (width : Nat) (s : String) : String :=
  String.ofList (List.replicate (width - s.length) ' ' ++ s.toList)

/-- `s` before as many spaces as make it `width` wide. -/
def padRight (width : Nat) (s : String) : String :=
  String.ofList (s.toList ++ List.replicate (width - s.length) ' ')

/-- The row of a field in the table of a block: offset, size, declared type and name. -/
def fieldRow (f : UniformField) (p : PlacedField) : String :=
  padLeft 5 (Nat.repr p.offset.toNat) ++ " " ++ padLeft 4 (Nat.repr p.size.toNat) ++ " "
    ++ padRight 6 f.type ++ " " ++ p.name ++ "\n"

/-- The table of a block with its layout. -/
def blockTable (b : UniformBlock) (l : UniformLayout) : String :=
  b.name.elim "" (fun n => "block " ++ n ++ "\n")
    ++ String.join (List.zipWith fieldRow b.fields l.fields)
    ++ "size " ++ Nat.repr l.size.toNat ++ "\n"

namespace Command

/-- Flatten the shader of a command. -/
def flatten (disk : Disk) (s : Shader) : Except Report Flattened :=
  (s.preprocess disk defaultMaxDepth).mapError fun e =>
    ⟨"failed to preprocess " ++ s.sourcePath.display, e.message :: e.causes⟩

/-- A flattened source as it is printed. -/
def sourceText (f : Flattened) : String :=
  f.source ++ "\n"

/-- The table of the uniform block of a shader. -/
def uniformTable (disk : Disk) (s : Shader) : Except Report String := do
  let flattened ← flatten disk s
  match flattened.block with
  | none => throw ⟨s.fileName ++ " has no uniform block", []⟩
  | some block =>
    match layout block.fields with
    | .error e => throw ⟨"failed to lay out uniform block", e.message :: e.causes⟩
    | .ok placed => return blockTable block placed

/-- The report of a compilation that failed. -/
def compileReport (source : Path) (fault : BuildFault) : Report :=
  ⟨"failed to compile " ++ source.display, fault.message :: fault.causes⟩

/-- Run the shader compiler and pass its exit code on; a compiler ended by a signal counts as code
one. -/
def runCompiler (launch : Launcher) (c : Compiler) (source outputDir : Path) (m : Machine) :
    Except Report UInt8 × Machine :=
  match c.dispatch launch source outputDir m with
  | (.error e, m') => (.error (compileReport source e), m')
  | (.ok status, m') =>
    if status.success then (.ok 0, m')
    else
      (.ok (status.code?.getD 1),
        m'.printError ("ERROR shader_tool: shader compiler failed shader=" ++ source.display
          ++ " status=" ++ status.display ++ "\n"))

/-- Run a command: its exit code, or what it fails with. -/
def run (launch : Launcher) (c : Compiler) : Command → Machine → Except Report UInt8 × Machine
  | .preprocess s, m =>
    match flatten m.files.disk s with
    | .error e => (.error e, m)
    | .ok flattened => (.ok 0, m.print (sourceText flattened))
  | .uniforms s, m =>
    match uniformTable m.files.disk s with
    | .error e => (.error e, m)
    | .ok table => (.ok 0, m.print table)
  | .compile source outputDir, m => runCompiler launch c source outputDir m

end Command

/-- Run the tool with these arguments.  Gives the exit code. -/
def runTool (launch : Launcher) (args : List Bytes) (m : Machine) : UInt8 × Machine :=
  let (result, m') := match Command.parse args with
    | .error e => (Except.error e.report, m)
    | .ok command => command.run launch (Compiler.selected m) m
  match result with
  | .ok code => (code, m')
  | .error e => (1, m'.printError e.line)

end ShaderBuild
