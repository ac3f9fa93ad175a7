import ShaderBuild.Text.Pieces
import ShaderBuild.Text.Utf8

/-! # Paths

A path is a byte string; nothing is normalised when one is built or joined.  Its `components` are
read off afterwards: the root, names, `..`, and a leading `.`, while repeated slashes and every
other `.` drop out.  File name, extension, parent and order are all defined on components. -/

namespace ShaderBuild

/-- A path, byte for byte as it was given. -/
structure Path where
  bytes : Bytes
deriving DecidableEq, Repr, Inhabited

/-- One step of a path. -/
inductive Component where
  | root
  | here
  | up
  | name (n : Bytes)
deriving DecidableEq, Repr

/-! ### Executable definitions -/

/-- The byte `/`. -/
def slash : UInt8 := 0x2f

/-- The byte `.`. -/
def dot : UInt8 := 0x2e

namespace Component

/-- One component as it is written. -/
def bytes : Component → Bytes
  | .root => []
  | .here => [dot]
  | .up => [dot, dot]
  | .name n => n

/-- The place of a component in the order of paths: the root, `.`, `..`, then the names. -/
def rank : Component → Nat
  | .root => 0
  | .here => 1
  | .up => 2
  | .name _ => 3

/-- The order of components; names are compared byte by byte. -/
def order (a b : Component) : Ordering :=
  (compare a.rank b.rank).then (List.compareLex compare a.bytes b.bytes)

end Component

namespace Path

/-- The path spelled by a text. -/
def ofString (s : String) : Path :=
  ⟨encode s⟩

/-- A path as it is shown. -/
def display (p : Path) : String :=
  lossy p.bytes

/-- Whether a path starts at the root. -/
def isAbsolute (p : Path) : Bool :=
  p.bytes.head? == some slash

/-- `q` seen from `p`: an absolute `q` stands alone, and a slash is put between unless `p` is empty
or ends in one. -/
def join (p q : Path) : Path :=
  if q.isAbsolute then q
  else if p.bytes.isEmpty || p.bytes.getLast? == some slash then ⟨p.bytes ++ q.bytes⟩
  else ⟨p.bytes ++ slash :: q.bytes⟩

/-- The component that a piece between slashes stands for inside a path, if any. -/
def inner (piece : Bytes) : Option Component :=
  if piece == [] || piece == [dot] then none
  else if piece == [dot, dot] then some .up
  else some (.name piece)

/-- The components of the pieces of a relative path, where a leading `.` counts. -/
def relative : List Bytes → List Component
  | [] => []
  | p :: ps => (if p == [dot] then [.here] else (inner p).toList) ++ ps.filterMap inner

/-- The components of a path. -/
def components (p : Path) : List Component :=
  let ps := pieces (· == slash) p.bytes
  if p.isAbsolute then .root :: ps.filterMap inner else relative ps

/-- The name that a path ends in, if its last component is one. -/
def fileName? (p : Path) : Option Bytes :=
  match p.components.getLast? with
  | some (.name n) => some n
  | _ => none

/-- What stands after the last dot of a name, unless the name has no dot after its first byte. -/
def extensionOf (n : Bytes) : Option Bytes :=
  match (pieces (· == dot) n).reverse with
  | ext :: before :: earlier => if before == [] && earlier == [] then none else some ext
  | _ => none

/-- The extension of the file name of a path. -/
def extension? (p : Path) : Option Bytes :=
  p.fileName?.bind extensionOf

/-- The path with these components, a slash between two. -/
def ofComponents : List Component → Path
  | [.root] => ⟨[slash]⟩
  | cs => ⟨[slash].intercalate (cs.map Component.bytes)⟩

/-- A path without its last component; the root and the empty path have no parent. -/
def parent? (p : Path) : Option Path :=
  match p.components.getLast? with
  | none => none
  | some .root => none
  | some _ => some (ofComponents p.components.dropLast)

/-- The order of paths, component by component. -/
def order (p q : Path) : Ordering :=
  List.compareLex Component.order p.components q.components

/-- Whether two paths have the same components. -/
def same (p q : Path) : Bool :=
  p.components == q.components

end Path

end ShaderBuild
