import ShaderBuild.FileFault
import ShaderBuild.FileTree.Basic

/-! # Walking a path

`FileTree.follow` leads from the root or the working directory to the place that a path names.
Names are looked up one after the other, `..` goes back to the directory above, and a symbolic link
continues with its target; at most `linkLimit` links are followed.  A name is looked up only in a
directory whose mode allows that, and where every place is looked up by its path from the root, the
modes of all directories above have to allow it too.  The last name need not exist: the place then
says where it would stand.  The recursion is on the number of links that may still be followed, and
inside it on the names left to walk. -/

namespace ShaderBuild

/-- Where a path leads: a location whose directory exists, what stands there, and whether slashes
followed the last name. -/
structure Place where
  location : Location
  entry : Option Entry
  slashed : Bool

/-- How a path is walked. -/
structure Gait where
  /-- Whether a link in last place is followed. -/
  through : Bool
  /-- Whether every place on the way is looked up by its path from the root, which must not be too
  long and leads only through directories that may be searched. -/
  fromRoot : Bool := false
deriving DecidableEq, Repr

/-- A directory on a walk: its name and those of the directories above it, innermost first, its mode
and its entries. -/
structure Standpoint where
  trail : List Bytes
  mode : Mode
  children : Directory

namespace FileTree

/-! ### Limits -/

/-- The number of symbolic links one walk may follow. -/
def linkLimit : Nat := 40

/-- The greatest number of bytes in a name. -/
def nameLimit : Nat := 255

/-- The number of bytes at which a path is too long to be walked. -/
def pathLimit : Nat := 4096

/-! ### Executable definitions -/

/-- The names of a path, with the empty ones that repeated and trailing slashes leave. -/
def stepsOf (p : Path) : List Bytes :=
  pieces (· == slash) p.bytes

/-- The number of bytes in the path from the root along a trail. -/
def trailLength (trail : List Bytes) : Nat :=
  trail.foldl (fun n name => n + 1 + name.length) 0

/-- The directory at a location; an empty one if there is none. -/
def standpoint (t : FileTree) (l : Location) : Standpoint :=
  match t.lookup l with
  | some (.dir mode children) => ⟨l.reverse, mode, children⟩
  | _ => ⟨l.reverse, .program, []⟩

/-- The directory from which a walk along `p` starts, seen from `s`. -/
def startOf (t : FileTree) (s : Standpoint) (p : Path) : Standpoint :=
  if p.isAbsolute then t.standpoint [] else s

/-- Whether the names after a directory ask for nothing but that it is one. -/
def asksForDir (rest : List Bytes) : Bool :=
  match rest.dropWhile fun n => n == [] || n == [dot] with
  | [] => !rest.isEmpty
  | n :: _ => n == [dot, dot]

/-- Why a name cannot be looked up in a directory, if it cannot. -/
def refusal? (t : FileTree) (g : Gait) (s : Standpoint) (n : Bytes) : Option FileFault :=
  if g.fromRoot && decide (pathLimit ≤ trailLength (n :: s.trail)) then some .nameTooLong
  else if !s.mode.mayExecute then some .accessDenied
  else if g.fromRoot && !t.root.mayReach s.trail.reverse then some .accessDenied
  else if nameLimit < n.length then some .nameTooLong
  else none

/-- Walk the names from a directory; `follow` continues after a link. -/
def stepsWith (t : FileTree) (g : Gait)
    (follow : Standpoint → List Bytes → Except FileFault Place) :
    Standpoint → List Bytes → Except FileFault Place
  | s, [] => .ok ⟨s.trail.reverse, some (.dir s.mode s.children), false⟩
  | s, n :: rest =>
    if n == [] then stepsWith t g follow s rest
    else if !g.fromRoot && !s.mode.mayExecute then .error .accessDenied
    else if n == [dot] then stepsWith t g follow s rest
    else if n == [dot, dot] then
      stepsWith t g follow (t.standpoint s.trail.tail.reverse) rest
    else
      match t.refusal? g s n with
      | some fault => .error fault
      | none =>
        let trail := n :: s.trail
        let last := rest.all (· == [])
        let place (e : Option Entry) : Place := ⟨trail.reverse, e, !rest.isEmpty⟩
        match s.children.lookup n with
        | none => if last then .ok (place none) else .error .notFound
        | some (.dir mode children) =>
          if g.fromRoot && asksForDir rest && !mode.mayExecute then .error .accessDenied
          else stepsWith t g follow ⟨trail, mode, children⟩ rest
        | some (.link target) =>
          if last && !g.through then .ok (place (some (.link target)))
          else follow (t.startOf s target) (stepsOf target ++ rest)
        | some e => if last then .ok (place (some e)) else .error .notDirectory

/-- Walk the names with at most `links` links followed. -/
def walk (t : FileTree) (g : Gait) : Nat → Standpoint → List Bytes → Except FileFault Place
  | 0 => stepsWith t g fun _ _ => .error .linkLoop
  | links + 1 => stepsWith t g (walk t g links)

/-- The place a path leads to.  A path with a NUL byte and the empty path lead nowhere. -/
def follow (t : FileTree) (g : Gait) (p : Path) : Except FileFault Place :=
  if p.bytes.contains 0 then .error .nulInPath
  else if p.bytes.isEmpty then .error .notFound
  else walk t g linkLimit (t.startOf (t.standpoint t.workingDir) p) (stepsOf p)

/-- The place a path names for an access: it leads there and is shorter than `pathLimit` bytes. -/
def place (t : FileTree) (through : Bool) (p : Path) : Except FileFault Place :=
  if pathLimit ≤ p.bytes.length && !p.bytes.contains 0 then .error .nameTooLong
  else t.follow { through } p

/-- The location and the entry at a place, if there is one.  Slashes ask for a directory. -/
def existing : Place → Except FileFault (Location × Entry)
  | ⟨_, none, _⟩ => .error .notFound
  | ⟨l, some (.dir mode children), _⟩ => .ok (l, .dir mode children)
  | ⟨l, some e, slashed⟩ => if slashed then .error .notDirectory else .ok (l, e)

/-- The location and the entry that a path names through all links, if there is one. -/
def find (t : FileTree) (p : Path) : Except FileFault (Location × Entry) :=
  (t.place true p).bind existing

end FileTree

end ShaderBuild
