import ShaderBuild.Path

/-! # File trees

A file tree is a directory, the root, whose entries are found by their names: directories, regular
files, symbolic links and devices.  A location is the list of names from the root to an entry, so
it holds no `.`, `..` or link; paths are turned into locations by walking the tree.  What a regular
file holds stands apart from its name, in a numbered body, and several names may share one body.
`Entry.find?_alter` and `Entry.find?_alter_of_not_isPrefix` say what a change of one entry does to
every lookup. -/

namespace ShaderBuild

/-- A place in the tree: the names leading to it from the root. -/
abbrev Location := List Bytes

/-- A file that is no store of bytes. -/
inductive Device where
  /-- It reads as empty and drops what is written. -/
  | null
  /-- A stream of the process that opens it, by its number. -/
  | stream (number : Nat)
deriving DecidableEq, Repr

/-- What may be done with a file or directory: three bits each for its owner, its group and others,
and three more above them. -/
structure Mode where
  bits : Nat
deriving DecidableEq, Repr

/-- What a regular file holds, whatever its names are. -/
structure FileBody where
  content : ByteArray
  mode : Mode
  /-- The time of the last change, in nanoseconds. -/
  modified : Nat

/-- What stands under a name. -/
inductive Entry where
  | dir (mode : Mode) (children : List (Bytes × Entry))
  | file (body : Nat)
  | link (target : Path)
  | device (d : Device)

/-- The entries of a directory by their names. -/
abbrev Directory := List (Bytes × Entry)

/-- A file system, the directory that relative paths start from, and the time. -/
structure FileTree where
  root : Entry
  bodies : Array FileBody
  workingDir : Location
  clock : Nat

/-! ### Executable definitions -/

/-- How many units of the clock are a second. -/
def nanosPerSecond : Nat := 1000000000

namespace Mode

/-- The mode of a new file. -/
def plain : Mode := ⟨0o644⟩

/-- The mode of a program and of a new directory. -/
def program : Mode := ⟨0o755⟩

/-- Whether the owner may read. -/
def mayRead (m : Mode) : Bool := m.bits.testBit 8

/-- Whether the owner may write. -/
def mayWrite (m : Mode) : Bool := m.bits.testBit 7

/-- Whether the owner may execute a file, or look names up in a directory. -/
def mayExecute (m : Mode) : Bool := m.bits.testBit 6

/-- A mode without the bits of a mask. -/
def without (m mask : Mode) : Mode := ⟨m.bits - (m.bits &&& mask.bits)⟩

end Mode

namespace Directory

/-- Let `e` stand under the name `n`. -/
def insert : Directory → Bytes → Entry → Directory
  | [], n, e => [(n, e)]
  | (m, d) :: rest, n, e => if n = m then (n, e) :: rest else (m, d) :: insert rest n e

/-- Take away the entry under the name `n`. -/
def erase (d : Directory) (n : Bytes) : Directory :=
  d.filter fun x => x.1 != n

end Directory

namespace Entry

/-- The entries below an entry; none if it is no directory. -/
def children : Entry → Directory
  | .dir _ children => children
  | _ => []

/-- Whether an entry is a directory. -/
def isDir : Entry → Bool
  | .dir _ _ => true
  | _ => false

/-- What stands at a location below an entry. -/
def find? : Entry → Location → Option Entry
  | e, [] => some e
  | e, n :: l => (e.children.lookup n).bind fun child => child.find? l

/-- Whether every directory on the way to a location below an entry may be searched. -/
def mayReach : Entry → Location → Bool
  | _, [] => true
  | .dir mode children, n :: l =>
    mode.mayExecute && (children.lookup n).all fun child => child.mayReach l
  | _, _ :: _ => true

/-- Change the entry at a location below an entry, if there is one. -/
def alter (f : Entry → Entry) : Location → Entry → Entry
  | [], e => f e
  | n :: l, .dir mode children =>
    match children.lookup n with
    | some child => .dir mode (Directory.insert children n (alter f l child))
    | none => .dir mode children
  | _ :: _, e => e

/-- Change the entries below an entry, if it is a directory. -/
def mapChildren (f : Directory → Directory) : Entry → Entry
  | .dir mode children => .dir mode (f children)
  | e => e

/-- An entry in which all directories on the way to a location exist. -/
def withDirs : Location → Entry → Entry
  | [], e => e
  | n :: l, .dir mode children =>
    .dir mode (Directory.insert children n
      (withDirs l ((children.lookup n).getD (.dir .program []))))
  | _ :: _, e => e

mutual

/-- Everything below an entry, each with its path; `above` is the path of the entry. -/
def listing (above : Bytes) : Entry → List (Path × Entry)
  | .dir _ children => listingAll (above ++ [slash]) children
  | _ => []

/-- The entries of a directory and everything below them; `above` comes before their names. -/
def listingAll (above : Bytes) : List (Bytes × Entry) → List (Path × Entry)
  | [] => []
  | (n, e) :: rest => (⟨above ++ n⟩, e) :: (e.listing (above ++ n) ++ listingAll above rest)

end

end Entry

namespace FileTree

/-- What stands at a location. -/
def lookup (t : FileTree) (l : Location) : Option Entry :=
  t.root.find? l

/-- The body with a number. -/
def body? (t : FileTree) (n : Nat) : Option FileBody :=
  t.bodies[n]?

/-- The mode of an entry; links and devices have a mode that does not change. -/
def modeOf (t : FileTree) : Entry → Mode
  | .dir mode _ => mode
  | .file n => ((t.body? n).map FileBody.mode).getD .program
  | .link _ => ⟨0o777⟩
  | .device _ => ⟨0o666⟩

/-- Let `e` stand at `l`, if the directory around `l` exists. -/
def set (t : FileTree) (l : Location) (e : Entry) : FileTree :=
  match l.getLast? with
  | some n =>
    { t with root := t.root.alter (Entry.mapChildren fun d => d.insert n e) l.dropLast }
  | none => t

/-- Take away `l` and all that stands below it. -/
def erase (t : FileTree) (l : Location) : FileTree :=
  match l.getLast? with
  | some n => { t with root := t.root.alter (Entry.mapChildren fun d => d.erase n) l.dropLast }
  | none => t

/-- A new body, and its number. -/
def addBody (t : FileTree) (content : ByteArray) (mode : Mode) : Nat × FileTree :=
  (t.bodies.size, { t with bodies := t.bodies.push ⟨content, mode, t.clock⟩ })

/-- Let a new regular file stand at `l`. -/
def setFile (t : FileTree) (l : Location) (content : ByteArray) (mode : Mode) : FileTree :=
  let (n, t) := t.addBody content mode
  t.set l (.file n)

/-- Change a body. -/
def alterBody (t : FileTree) (n : Nat) (f : FileBody → FileBody) : FileTree :=
  match t.body? n with
  | some b => { t with bodies := t.bodies.setIfInBounds n (f b) }
  | none => t

/-- Give a body other content. -/
def setContent (t : FileTree) (n : Nat) (content : ByteArray) : FileTree :=
  t.alterBody n fun b => { b with content, modified := t.clock }

/-- Give what stands at a location another mode. -/
def setMode (t : FileTree) (l : Location) (mode : Mode) : FileTree :=
  match t.lookup l with
  | some (.file n) => t.alterBody n fun b => { b with mode }
  | some (.dir _ _) =>
    { t with root := t.root.alter (fun | .dir _ children => .dir mode children | e => e) l }
  | _ => t

/-- Everything below `l`, each with its path from `l`, in the order of the bytes of the paths. -/
def below (t : FileTree) (l : Location) : List (Path × Entry) :=
  (Entry.listingAll [] (((t.lookup l).map Entry.children).getD [])).mergeSort fun a b =>
    (List.compareLex compare a.1.bytes b.1.bytes).isLE

/-! ### A new file system -/

/-- Top directories that are empty in a new file system. -/
def plainDirs : List String :=
  ["boot", "etc", "home", "media", "mnt", "opt", "proc", "root", "run", "srv", "sys", "tmp", "var"]

/-- Top directories that are links. -/
def linkedDirs : List (String × String) :=
  [("bin", "usr/bin"), ("lib", "usr/lib"), ("lib64", "usr/lib64"), ("sbin", "usr/sbin")]

/-- A directory with these entries. -/
def directory (children : List (String × Entry)) : Entry :=
  .dir .program (children.map fun x => (encode x.1, x.2))

/-- The devices of a new file system. -/
def devices : Entry :=
  directory
    [("null", .device .null), ("stdin", .device (.stream 0)), ("stdout", .device (.stream 1)),
      ("stderr", .device (.stream 2)),
      ("fd", directory ((List.range 10).map fun n => (Nat.repr n, .device (.stream n))))]

/-- The time in a new file system. -/
def startTime : Nat := 1767225600 * nanosPerSecond

/-- A file system with the installed programs, the devices and an empty working directory. -/
def fresh (programs : List (String × ByteArray)) (workingDir : Location) : FileTree where
  root :=
    let usr : Entry := directory
      (("bin", directory (programs.zipIdx.map fun x => (x.1.1, .file x.2)))
        :: ["include", "lib", "lib64", "local", "sbin", "share", "src"].map fun n =>
          (n, directory []))
    Entry.withDirs workingDir (directory
      ([("dev", devices), ("usr", usr)] ++ plainDirs.map (fun n => (n, directory []))
        ++ linkedDirs.map fun x => (x.1, .link (.ofString x.2))))
  bodies := (programs.map fun x => ⟨x.2, .program, startTime⟩).toArray
  workingDir := workingDir
  clock := startTime

end FileTree

/-! ### Lookups after a change -/

/-- After an insertion the name holds what was inserted and every other one what it held before. -/
theorem Directory.lookup_insert (d : Directory) (n : Bytes) (e : Entry) (m : Bytes) :
    (d.insert n e).lookup m = if m = n then some e else d.lookup m := by
  induction d with
  | nil =>
    by_cases hm : m = n
    · simp [insert, hm]
    · have hb : (m == n) = false := by simpa using hm
      simp [insert, List.lookup_cons, hm, hb]
  | cons x d ih =>
    obtain ⟨k, c⟩ := x
    by_cases hk : n = k
    · subst hk
      by_cases hm : m = n
      · simp [insert, hm]
      · have hb : (m == n) = false := by simpa using hm
        simp [insert, List.lookup_cons, hm, hb]
    · by_cases hm : m = k
      · subst hm
        have hn : m ≠ n := fun h => hk h.symm
        simp [insert, hk, hn]
      · have hb : (m == k) = false := by simpa using hm
        simp [insert, List.lookup_cons, hk, hb, ih]

namespace Entry

/-- A changed entry is found where it was. -/
theorem find?_alter (f : Entry → Entry) (l : Location) (e inner : Entry)
    (h : e.find? l = some inner) : (e.alter f l).find? l = some (f inner) := by
  induction l generalizing e with
  | nil =>
    simp only [find?, Option.some.injEq] at h
    simp [alter, find?, h]
  | cons n l ih =>
    cases e with
    | dir mode children =>
      simp only [find?, Entry.children] at h
      obtain ⟨child, hc, hl⟩ := Option.bind_eq_some_iff.1 h
      simp only [alter, hc, find?, Entry.children, Directory.lookup_insert, if_true,
        Option.bind_some]
      exact ih child hl
    | file _ => simp [find?, Entry.children] at h
    | link _ => simp [find?, Entry.children] at h
    | device _ => simp [find?, Entry.children] at h

/-- A change of an entry is not seen at a location that neither leads to it nor through it. -/
theorem find?_alter_of_not_isPrefix (f : Entry → Entry) (l m : Location) (e : Entry)
    (hlm : ¬ l <+: m) (hml : ¬ m <+: l) : (e.alter f l).find? m = e.find? m := by
  induction l generalizing e m with
  | nil => simp at hlm
  | cons n l ih =>
    cases m with
    | nil => simp at hml
    | cons k m =>
      cases e with
      | dir mode children =>
        rw [alter]
        split
        · rename_i child hc
          by_cases hk : k = n
          · subst hk
            have hlm' : ¬ l <+: m := fun h => hlm (by simpa using h)
            have hml' : ¬ m <+: l := fun h => hml (by simpa using h)
            simp only [find?, Entry.children, Directory.lookup_insert, if_true, hc,
              Option.bind_some]
            exact ih m child hlm' hml'
          · simp only [find?, Entry.children, Directory.lookup_insert, hk, if_false]
        · rfl
      | file _ => rfl
      | link _ => rfl
      | device _ => rfl

end Entry

end ShaderBuild
