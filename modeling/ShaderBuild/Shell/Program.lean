import ShaderBuild.Shell.Session
import ShaderBuild.Tool.Installed

/-! # Programs in files

An executable file holds the image of an installed program, or it is a script whose first line names
its interpreter.  `programAt` follows interpreters until it finds a program. -/

namespace ShaderBuild.Shell

/-- A program to be started: its name, the name it is called by, and its arguments. -/
structure Started where
  program : String
  calledAs : String
  args : List String

/-! ### First lines of scripts -/

/-- How many bytes of a file are looked at for the interpreter. -/
def headSize : Nat := 256

/-- Whether a character separates the interpreter from its argument. -/
def isHeadBlank (c : Char) : Bool :=
  c == ' ' || c == '\t'

/-- The interpreter of a script and the argument for it, if the content begins as a script does and
its first line can be used.  All that follows the interpreter on its line is one argument.  A line
that does not end within the bytes that are looked at has to hold all of the interpreter at least;
where the file ends, it ends with a zero. -/
def interpreter? (content : ByteArray) : Option (String × Option String) :=
  let head := (rawContent (content.extract 0 headSize)).toList
  let head := head ++ List.replicate (headSize - head.length) (Char.ofNat 0)
  match head with
  | '#' :: '!' :: rest =>
    let untilZero := rest.takeWhile fun c => c.toNat != 0
    let ended := untilZero.contains '\n'
    let body := if ended then untilZero.takeWhile (· != '\n') else rest.dropLast
    let trimmed := (body.reverse.dropWhile isHeadBlank).reverse
    let isEnd (c : Char) : Bool := isHeadBlank c || c.toNat == 0
    let text := trimmed.dropWhile isHeadBlank
    let name := text.takeWhile fun c => !isEnd c
    let after := text.drop name.length
    if text.isEmpty || !(ended || (rest.dropWhile isHeadBlank).any isEnd) then none
    else
      let argument := match after with
        | c :: more =>
          if c.toNat == 0 then []
          else (more.dropWhile isHeadBlank).takeWhile fun c => c.toNat != 0
        | [] => []
      some (String.ofList name,
        if argument.isEmpty then none else some (String.ofList argument))
  | _ => none

/-! ### Files -/

/-- The number of interpreters that may follow each other. -/
def interpreterLimit : Nat := 5

/-- The program at a path, called with arguments; scripts are followed at most `n` times. -/
def programFrom (t : FileTree) : Nat → (path calledAs : String) → List String →
    Except FileFault Started
  | n, path, calledAs, args =>
    let bytes := unraw path
    let found : Except FileFault (Location × Entry) :=
      if bytes.isEmpty then .error .accessDenied else t.find ⟨bytes⟩
    match found with
    | .error e => .error e
    | .ok (_, .file body) =>
      let content := ((t.body? body).map FileBody.content).getD .empty
      if !(t.modeOf (.file body)).mayExecute then .error .accessDenied
      else
        match Tool.ofImage? content with
        | some program => .ok ⟨program, calledAs, args⟩
        | none =>
          match interpreter? content with
          | none => .error .badProgram
          | some (interpreter, argument) =>
            match n with
            | 0 => .error .linkLoop
            | n + 1 => programFrom t n interpreter interpreter (argument.toList ++ path :: args)
    | .ok _ => .error .accessDenied

/-- An argument has fewer bytes than this. -/
def argumentLimit : Nat := 131072

/-- The program at a path, called by a name and with arguments. -/
def programAt (t : FileTree) (path calledAs : String) (args : List String) :
    Except FileFault Started :=
  if path.isEmpty then .error .notFound
  else
    let found := programFrom t interpreterLimit path calledAs args
    let tooLong := args.any fun arg => argumentLimit ≤ arg.length
    match found with
    | .ok _ | .error .badProgram => if tooLong then .error .argumentTooLong else found
    | .error e => .error e

/-! ### Searching -/

/-- Where programs are looked for if nothing else is said. -/
def defaultPath : String :=
  "/usr/local/sbin:/usr/local/bin:/usr/sbin:/usr/bin:/sbin:/bin"

/-- The paths at which a command may be found. -/
def candidates (searchPath name : String) : List String :=
  (pieces (· == ':') searchPath.toList).map fun dir =>
    if dir.isEmpty then name else String.ofList dir ++ "/" ++ name

/-- Where a command is found, or why not: some file by its name cannot be used, or there is none. -/
def search (t : FileTree) (searchPath name : String) : Except FileFault String :=
  let look (best : Except FileFault String) (path : String) : Except FileFault String :=
    match best with
    | .ok found => .ok found
    | .error e =>
      match t.find ⟨unraw path⟩ with
      | .ok (_, .file n) =>
        if (t.modeOf (.file n)).mayExecute then .ok path else .error .accessDenied
      | .ok _ => .error .accessDenied
      | .error .notFound | .error .notDirectory => .error e
      | .error e' => .error e'
  (candidates searchPath name).foldl look (.error .notFound)

end ShaderBuild.Shell
