import ShaderBuild.Disk
import ShaderBuild.Source.Fault
import ShaderBuild.Text.Pieces

/-! # Source files

A source file is a path and its lines, each with its number.  A line ends at `\n`, `\r\n` or a lone
`\r`, and spaces, tabs and line ends are stripped from both of its ends; a text that ends in a line
end has no further empty line. -/

namespace ShaderBuild

/-- A line with its number, counted from zero. -/
structure Line where
  index : Nat
  text : String
deriving DecidableEq, Repr

/-- A file as numbered lines, in order. -/
structure SourceFile where
  path : Path
  lines : List Line
  numbered : lines.map Line.index = List.range lines.length
deriving DecidableEq, Repr

/-! ### Executable definitions -/

/-- Whether a character is stripped from the ends of a line. -/
def isMargin (c : Char) : Bool :=
  c == '\n' || c == '\r' || c == '\t' || c == ' '

/-- A list of characters without the margin at both ends. -/
def stripped (cs : List Char) : List Char :=
  ((cs.dropWhile isMargin).reverse.dropWhile isMargin).reverse

/-- The lines of a text between its line ends `\n`, `\r\n` and lone `\r`. -/
def physicalLines : List Char → List (List Char)
  | [] => []
  | '\r' :: '\n' :: cs => [] :: physicalLines cs
  | c :: cs =>
    if c = '\n' ∨ c = '\r' then [] :: physicalLines cs else consFirst c (physicalLines cs)

/-- The lines of a text, numbered and stripped. -/
def numberedLines (text : String) : List Line :=
  (physicalLines text.toList).zipIdx.map fun x => ⟨x.2, String.ofList (stripped x.1)⟩

theorem map_index_numberedLines (text : String) :
    (numberedLines text).map Line.index = List.range (numberedLines text).length := by
  unfold numberedLines
  rw [List.map_map, List.length_map, List.length_zipIdx, List.range_eq_range',
    ← List.zipIdx_map_snd 0]
  rfl

namespace SourceFile

/-- The source file with this path and text. -/
def ofText (path : Path) (text : String) : SourceFile where
  path := path
  lines := numberedLines text
  numbered := map_index_numberedLines text

/-- Read a source file. -/
def load (disk : Disk) (path : Path) : Except SourceFault SourceFile :=
  match disk.readText path with
  | .ok text => .ok (ofText path text)
  | .error .notFound => .error (.fileNotFound path)
  | .error cause => .error (.readError path cause)

/-- A line of a file by its place; there is none past the end. -/
def line? (f : SourceFile) (i : Nat) : Option Line :=
  f.lines[i]?

/-- The text of a line. -/
def text? (f : SourceFile) (i : Nat) : Option String :=
  (f.line? i).map Line.text

end SourceFile

end ShaderBuild
