import ShaderBuild.FileTree.Access

/-! # Removing, moving and linking

The changes of a file tree that go beyond writing a file: removing one entry, moving an entry to
another place, making links, and setting a tree up.  A change that is refused gives the cause and no
new tree. -/

namespace ShaderBuild

namespace FileTree

/-! ### Removing -/

/-- Remove a file or link. -/
def removeFile (t : FileTree) (p : Path) : Except FileFault FileTree :=
  match t.place false p with
  | .error e => .error e
  | .ok ⟨_, none, _⟩ => .error .notFound
  | .ok ⟨l, some e, slashed⟩ =>
    if slashed && !e.isDir then .error .notDirectory
    else if !t.mayChange l then .error .accessDenied
    else if e.isDir then .error .isDirectory
    else .ok (t.erase l)

/-- Remove an empty directory. -/
def removeDir (t : FileTree) (p : Path) : Except FileFault FileTree :=
  match t.place false p with
  | .error e => .error e
  | .ok ⟨_, none, _⟩ => .error .notFound
  | .ok ⟨l, some e, _⟩ =>
    if (pieces (· == slash) p.bytes).reverse.find? (fun n => n != []) == some [dot] then
      .error .badArgument
    else if !e.isDir then .error .notDirectory
    else if !t.mayChange l then .error .accessDenied
    else if e.children.isEmpty then .ok (t.erase l)
    else .error .notEmpty

/-! ### Moving -/

/-- Let what stands at `source` stand at `target` instead. -/
def moveTo (t : FileTree) (source target : Location) (e : Entry) : FileTree :=
  (t.erase source).set target e

/-- Whether two entries are names of one file. -/
def sameBody : Entry → Option Entry → Bool
  | .file n, some (.file m) => n == m
  | _, _ => false

/-- Move an entry to another path.  A file may take the place of another file, and a directory that
of an empty directory. -/
def rename (t : FileTree) (source target : Path) : Except FileFault FileTree :=
  match t.place false source, t.place false target with
  | .error e, _ => .error e
  | .ok ⟨_, none, _⟩, _ => .error .notFound
  | .ok _, .error e => .error e
  | .ok ⟨s, some e, sourceSlashed⟩, .ok ⟨l, there, slashed⟩ =>
    let mayMove := t.mayChange s && t.mayChange l
      && (!e.isDir || s.dropLast = l.dropLast || (t.modeOf e).mayWrite)
    if !e.isDir && (sourceSlashed || slashed) then .error .notDirectory
    else if s = l || sameBody e there then .ok t
    else if s.isPrefixOf l then .error .badArgument
    else if l.isPrefixOf s then .error .notEmpty
    else if !mayMove then .error .accessDenied
    else
      match there with
      | none => .ok (t.moveTo s l e)
      | some found =>
        if !e.isDir then
          if found.isDir then .error .isDirectory else .ok (t.moveTo s l e)
        else if !found.isDir then .error .notDirectory
        else if found.children.isEmpty then .ok (t.moveTo s l e)
        else .error .notEmpty

/-! ### Making -/

/-- Put an entry where none is. -/
def create (t : FileTree) (p : Path) (e : Entry) : Except FileFault FileTree :=
  match t.place false p with
  | .error e => .error e
  | .ok ⟨l, none, slashed⟩ =>
    if slashed then .error .notFound
    else if t.mayChange l then .ok (t.set l e)
    else .error .accessDenied
  | .ok ⟨_, some _, _⟩ => .error .alreadyExists

/-- Where a link that stands at a path leads. -/
def linkTarget? (t : FileTree) (p : Path) : Option Path :=
  match t.place false p with
  | .ok ⟨_, some (.link target), false⟩ => some target
  | _ => none

/-! ### Setting up -/

/-- What is put at a path when a tree is set up. -/
inductive Planted where
  | dir
  | file (content : ByteArray) (executable : Bool)
  | link (target : Path)

/-- Put something at a path, with the directories above it.  A file is written through links. -/
def put (t : FileTree) (p : Path) (planted : Planted) : Except FileFault FileTree :=
  match p.parent?.elim (.ok (), t) t.makeDirs with
  | (.error e, _) => .error e
  | (.ok (), t) =>
    match planted with
    | .dir =>
      match t.makeDirs p with
      | (.ok (), t) => .ok t
      | (.error e, _) => .error e
    | .link target => t.create p (.link target)
    | .file content executable => do
      let t ← t.write p content
      if executable then
        let (l, _) ← t.find p
        return t.setMode l .program
      else return t

/-- Whether all that an entry holds can be taken away. -/
def mayClear (t : FileTree) (l : Location) (e : Entry) : Bool :=
  (t.below l).all (fun x => x.2.children.isEmpty || (t.modeOf x.2).bits &&& 0o700 == 0o700)
    && (e.children.isEmpty || (t.modeOf e).bits &&& 0o700 == 0o700)

/-- Remove a file or link, or a directory with all that it holds. -/
def remove (t : FileTree) (p : Path) : Except FileFault FileTree :=
  match t.place false p with
  | .error e => .error e
  | .ok ⟨_, none, _⟩ => .error .notFound
  | .ok ⟨l, some e, slashed⟩ =>
    if slashed && !e.isDir then .error .notDirectory
    else if t.mayChange l && t.mayClear l e then .ok (t.erase l)
    else .error .accessDenied

end FileTree

end ShaderBuild
