import ShaderBuild.Disk
import ShaderBuild.FileTree.Walk

/-! # Reading and changing a file tree

The accesses that the tools make: the canonical path and the content of a path, the names in a
directory, writing a file, and making directories.  A `makeDir` that fails leaves the tree as it
was; `makeDirs` keeps the directories that it made before it failed.  Of writing a file only opening
it can fail here, and that leaves the tree as it was: there is always room for what is written. -/

namespace ShaderBuild

namespace FileTree

/-! ### Looking -/

/-- The path of a location: absolute, without `.`, `..`, links or needless slashes. -/
def pathOf (l : Location) : Path :=
  ⟨slash :: [slash].intercalate l⟩

/-- The canonical path of an existing entry.  It is found name by name, so the length of the path as
a whole does not matter, but each place on the way is looked up by its path from the root: that must
not be too long, and all directories above the place, also those above the working directory, must
allow to be searched. -/
def canonical (t : FileTree) (p : Path) : Except FileFault Path :=
  ((t.follow { through := true, fromRoot := true } p).bind existing).map fun x => pathOf x.1

/-- What is read from an entry. -/
def contentOf (t : FileTree) (e : Entry) : Except FileFault ByteArray :=
  if !(t.modeOf e).mayRead then .error .accessDenied
  else
    match e with
    | .file n => .ok (((t.body? n).map FileBody.content).getD .empty)
    | .device _ => .ok .empty
    | _ => .error .isDirectory

/-- The content of a file. -/
def read (t : FileTree) (p : Path) : Except FileFault ByteArray :=
  (t.find p).bind fun x => t.contentOf x.2

/-- The content of a file as text. -/
def readText (t : FileTree) (p : Path) : Except FileFault String :=
  match t.read p with
  | .error e => .error e
  | .ok content => (String.fromUTF8? content).elim (.error .notUtf8) .ok

/-- A file tree as what reading sources needs. -/
def disk (t : FileTree) : Disk where
  canonical := t.canonical
  readText := t.readText

/-- Whether a path names a directory. -/
def isDir (t : FileTree) (p : Path) : Bool :=
  match t.find p with
  | .ok (_, .dir _ _) => true
  | _ => false

/-- The names in the directory that a path names; none if it names no directory that may be read. -/
def namesAt (t : FileTree) (p : Path) : List Bytes :=
  match t.find p with
  | .ok (_, .dir mode children) => if mode.mayRead then children.map Prod.fst else []
  | _ => []

/-- Whether an entry may be looked at with all that it holds. -/
def mayShow (t : FileTree) : Entry → Bool
  | .dir mode children => mode.mayRead && (children.isEmpty || mode.mayExecute)
  | e => (t.modeOf e).mayRead

/-- Everything below `l`, in the order of the paths, if all of it may be looked at. -/
def snapshot (t : FileTree) (l : Location) : Except FileFault (List (Path × Entry)) :=
  let entries := t.below l
  if (t.lookup l).all t.mayShow && entries.all (fun x => t.mayShow x.2) then .ok entries
  else .error .accessDenied

/-! ### Writing -/

/-- Whether entries may be put at and taken from a location. -/
def mayChange (t : FileTree) (l : Location) : Bool :=
  (t.lookup l.dropLast).all fun e => (t.modeOf e).mayWrite

/-- Make `content` the content of the file that a path names, which is created with a mode if it is
missing and its directory exists. -/
def writeAs (t : FileTree) (mode : Mode) (p : Path) (content : ByteArray) :
    Except FileFault FileTree :=
  match t.place true p with
  | .error e => .error e
  | .ok ⟨_, _, true⟩ => .error .isDirectory
  | .ok ⟨l, none, false⟩ =>
    if t.mayChange l then .ok (t.setFile l content mode) else .error .accessDenied
  | .ok ⟨_, some (.file n), false⟩ =>
    if (t.modeOf (.file n)).mayWrite then .ok (t.setContent n content) else .error .accessDenied
  | .ok ⟨_, some (.device _), false⟩ => .ok t
  | .ok ⟨_, some _, false⟩ => .error .isDirectory

/-- Make `content` the content of the file that a path names. -/
def write (t : FileTree) (p : Path) (content : ByteArray) : Except FileFault FileTree :=
  t.writeAs .plain p content

/-- Make one directory with a mode. -/
def makeDirAs (t : FileTree) (mode : Mode) (p : Path) : Except FileFault FileTree :=
  match t.place false p with
  | .error e => .error e
  | .ok ⟨l, none, _⟩ => if t.mayChange l then .ok (t.set l (.dir mode [])) else .error .accessDenied
  | .ok ⟨_, some _, _⟩ => .error .alreadyExists

/-- Make one directory. -/
def makeDir (t : FileTree) (p : Path) : Except FileFault FileTree :=
  t.makeDirAs .program p

/-- The outcome of making a directory that may have been there already. -/
def settleDir (t : FileTree) (p : Path) :
    Except FileFault FileTree → Except FileFault Unit × FileTree
  | .ok t' => (.ok (), t')
  | .error e => if t.isDir p then (.ok (), t) else (.error e, t)

/-- Make the first of these directories, making the next ones before it where they are missing. -/
def makeFirst (t : FileTree) : List Path → Except FileFault Unit × FileTree
  | [] => (.ok (), t)
  | p :: outer =>
    match t.makeDir p with
    | .error .notFound =>
      match t.makeFirst outer with
      | (.ok (), t') => t'.settleDir p (t'.makeDir p)
      | failed => failed
    | made => t.settleDir p made

/-- A path and its parents up to the root or the empty path, at most `n` of them. -/
def ancestors : Nat → Path → List Path
  | 0, _ => []
  | n + 1, p => if p.bytes.isEmpty then [] else p :: p.parent?.elim [] (ancestors n)

/-- Make a directory and every missing directory above it.  Nothing is to be done for the empty
path. -/
def makeDirs (t : FileTree) (p : Path) : Except FileFault Unit × FileTree :=
  t.makeFirst (ancestors (p.components.length + 1) p)

end FileTree

end ShaderBuild
