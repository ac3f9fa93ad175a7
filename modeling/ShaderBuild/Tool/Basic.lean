import ShaderBuild.FileTree.Change
import ShaderBuild.Machine
import ShaderBuild.Text.Raw

/-! # Tools

A tool is a small program: it is called with arguments, an input and a file tree, and leaves a
status, output and a changed tree.  Tools are written as steps of `Work`; output is kept back and
written when the tool ends, warnings are written at once.  A tool may start other programs; what
these do is known when they have ended.  All texts are raw: one character for each byte. -/

namespace ShaderBuild.Tool

/-- What came of a program that a tool started. -/
structure Spawned where
  files : FileTree
  ending : Except FileFault ExitStatus
  /-- What it wrote to which stream, in order. -/
  written : List (Nat × ByteArray) := []

/-- Starts a program by its name, with its arguments and its input. -/
abbrev Spawn := String → List String → ByteArray → FileTree → Spawned

/-- A regular file that a stream leads to, and the place in it at which the stream stands. -/
structure StreamFile where
  body : Nat
  position : Nat

/-- What a tool is called with. -/
structure Call where
  name : String
  args : List String
  input : ByteArray := .empty
  environment : List (String × String) := []
  /-- The bits that new files and directories do not get. -/
  umask : Mode := ⟨0o022⟩
  /-- The files that the input comes from and the output goes to. -/
  inputFile : Option StreamFile := none
  outputFile : Option StreamFile := none
  /-- Why the input cannot be read, if it cannot. -/
  inputFault : Option FileFault := none
  /-- The streams that are open. -/
  streams : List Nat := [0, 1, 2]
  spawn : Spawn := fun _ _ _ files => { files, ending := .error .notFound }

/-- What a tool has done so far. -/
structure Progress where
  files : FileTree
  status : UInt8 := 0
  /-- What was written to which stream, latest first. -/
  written : List (Nat × ByteArray) := []
  /-- Output that is kept back. -/
  kept : ByteArray := .empty
  /-- How many bytes of the input were used. -/
  consumed : Nat := 0

/-- A step of a tool. -/
abbrev Work := ReaderT Call (StateM Progress)

/-! ### Writing -/

/-- Write to a stream at once. -/
def emit (stream : Nat) (bytes : ByteArray) : Work Unit :=
  modify fun p => { p with written := (stream, bytes) :: p.written }

/-- Write what was kept back. -/
def flush : Work Unit :=
  modify fun p =>
    if p.kept.isEmpty then p else { p with written := (1, p.kept) :: p.written, kept := .empty }

/-- Keep back output. -/
def say (text : String) : Work Unit :=
  modify fun p => { p with kept := p.kept ++ contentOf text }

/-- End with this status, unless something goes wrong later. -/
def fail (status : UInt8) : Work Unit :=
  modify fun p => { p with status }

/-- Write a message about the tool. -/
def warn (text : String) : Work Unit := do
  emit 2 (contentOf ((← read).name ++ ": " ++ text ++ "\n"))

/-- Write a message and fail. -/
def complain (status : UInt8) (text : String) : Work Unit := do
  warn text
  fail status

/-- Refuse the arguments. -/
def refuse (status : UInt8) (text : String) : Work Unit := do
  complain status text
  emit 2 (contentOf ("Try '" ++ (← read).name ++ " --help' for more information.\n"))

/-! ### Names in messages -/

/-- How a character that cannot be shown is written. -/
def escaped (c : Char) : String :=
  match c.toNat with
  | 7 => "\\a"
  | 8 => "\\b"
  | 9 => "\\t"
  | 10 => "\\n"
  | 11 => "\\v"
  | 12 => "\\f"
  | 13 => "\\r"
  | n => String.ofList ('\\' :: [n / 64, n / 8 % 8, n % 8].map Nat.digitChar)

/-- Whether a character can be shown. -/
def isShown (c : Char) : Bool :=
  32 ≤ c.toNat && c.toNat < 127

/-- The runs of characters that can be shown and of those that cannot. -/
def runs (cs : List Char) : List (List Char) :=
  cs.splitBy fun a b => isShown a == isShown b

/-- A name between quotes. -/
def quoted (s : String) : String :=
  let cs := s.toList
  if cs.contains '\'' && cs.all isShown && !cs.any (fun c => "\"$\\\x60".toList.contains c) then
    "\"" ++ s ++ "\""
  else
    let part (run : List Char) : String :=
      if run.all isShown then
        "'" ++ String.join (run.map fun c => if c == '\'' then "'\\''" else c.toString) ++ "'"
      else "$'" ++ String.join (run.map escaped) ++ "'"
    match runs cs with
    | [] => "''"
    | first :: rest =>
      (if first.all isShown then "" else "''") ++ String.join ((first :: rest).map part)

/-- A name, between quotes only where it needs them. -/
def quotedIfNeeded (s : String) : String :=
  if s.isEmpty || s.toList.any (fun c => !isShown c || " !\"#$&'()*;<=>?[\\^\x60|~".toList.contains c)
  then quoted s else s

/-! ### Files -/

/-- The path of an argument. -/
def pathOf (arg : String) : Path :=
  ⟨unraw arg⟩

/-- The argument for a path. -/
def argOf (p : Path) : String :=
  raw p.bytes

/-- What stands in the tree now. -/
def tree : Work FileTree :=
  return (← get).files

/-- Let the files be `files`. -/
def setTree (files : FileTree) : Work Unit :=
  modify fun p => { p with files }

/-- Use all that is left of the input. -/
def takeInput : Work ByteArray := do
  let input := (← read).input
  let consumed := (← get).consumed
  modify fun p => { p with consumed := input.size }
  return input.extract consumed input.size

/-- The mode that a new file gets of the bits that are asked for. -/
def unmasked (bits : Nat) : Work Mode :=
  return Mode.without ⟨bits⟩ (← read).umask

/-- Start a program, let its output follow what was written before, and keep what it did. -/
def startProgram (program : String) (args : List String) (input : ByteArray) :
    Work (Except FileFault ExitStatus) := do
  flush
  let spawned := (← read).spawn program args input (← get).files
  modify fun p =>
    { p with files := spawned.files, written := spawned.written.reverse ++ p.written }
  return spawned.ending

/-- The content of a file, which may be the input. -/
def contentAt (arg : String) : Work (Except FileFault ByteArray) := do
  match (← tree).find (pathOf arg) with
  | .ok (_, .device (.stream 0)) => return .ok (← takeInput)
  | _ => return (← tree).read (pathOf arg)

/-- What is left of the input, if it can be read. -/
def readInput : Work (Except FileFault ByteArray) := do
  match (← read).inputFault with
  | some e => return .error e
  | none => return .ok (← takeInput)

/-- The content of an operand, where `-` is the input. -/
def operand (arg : String) : Work (Except FileFault ByteArray) := do
  if arg == "-" then readInput else contentAt arg

/-- How messages call an operand; the input has a name of its own. -/
def shownOperand (arg : String) : String :=
  if arg == "-" then "'standard input'" else quotedIfNeeded arg

/-- Write a file, which may be a stream. -/
def store (arg : String) (content : ByteArray) : Work (Except FileFault Unit) := do
  match (← tree).find (pathOf arg) with
  | .ok (_, .device (.stream n)) =>
    emit n content
    return .ok ()
  | _ =>
    match (← tree).writeAs (← unmasked 0o666) (pathOf arg) content with
    | .ok files =>
      setTree files
      return .ok ()
    | .error e => return .error e

/-- Change the tree; the cause if that is refused. -/
def change (f : FileTree → Except FileFault FileTree) : Work (Option FileFault) := do
  match f (← tree) with
  | .ok files =>
    setTree files
    return none
  | .error e => return some e

/-- The parts of a text that a character ends; the last one may lack its end. -/
def delimited (ending : Char) (text : String) : List String :=
  let ps := pieces (· == ending) text.toList
  let whole := if ps.getLast? == some [] then ps.dropLast else ps
  whole.map String.ofList

/-- The lines of a text. -/
def linesOf (text : String) : List String :=
  delimited '\n' text

/-- A tool. -/
abbrev Routine := Work Unit

/-- Run a tool to its end. -/
def run (t : Routine) (call : Call) (files : FileTree) : Progress :=
  (((do t; flush) : Work Unit).run call |>.run { files }).2

end ShaderBuild.Tool
