import ShaderBuild.Source.Directive
import ShaderBuild.Text.Blank

/-! # Uniform blocks

A uniform block starts at its marker line, whose second word is its name, and ends at the first line
whose first word is `END_UNIFORM_BLOCK`.  Between them every line is skipped (empty, or a comment),
declares a field (`<type> <name>`, perhaps with a semicolon), or is a fault. -/

namespace ShaderBuild

/-- A field as it is declared. -/
structure UniformField where
  type : String
  name : String
deriving DecidableEq, Repr

/-- A uniform block: its name, the lines of its two ends, and its fields in order. -/
structure UniformBlock where
  name : Option String
  startLine : Nat
  endLine : Nat
  fields : List UniformField
deriving DecidableEq, Repr

/-- What a line inside a block is. -/
inductive BlockLine where
  | terminator
  | skipped
  | field (f : UniformField)
  | bad
deriving DecidableEq, Repr

/-! ### Executable definitions -/

/-- The word that ends a uniform block. -/
def blockTerminator : String := "END_UNIFORM_BLOCK"

/-- A text without one final semicolon. -/
def dropSemicolon (s : String) : String :=
  if s.toList.getLast? = some ';' then String.ofList s.toList.dropLast else s

/-- Classify a line inside a block. -/
def BlockLine.ofText (text : String) : BlockLine :=
  if (words text).head? = some blockTerminator then .terminator
  else if text.isEmpty || beginsWith text "//" then .skipped
  else
    match words text with
    | [type, name] =>
      if (dropSemicolon name).isEmpty then .bad else .field ⟨type, dropSemicolon name⟩
    | _ => .bad

namespace UniformBlock

/-- The fields on the given lines, and the number of the line that ends the block. -/
def fieldsFrom (file : Path) (start : Nat) :
    List Line → Except SourceFault (List UniformField × Nat)
  | [] => .error (.unterminatedBlock ⟨file, start⟩)
  | line :: rest =>
    match BlockLine.ofText line.text with
    | .terminator => .ok ([], line.index)
    | .skipped => fieldsFrom file start rest
    | .field f => (fieldsFrom file start rest).map fun x => (f :: x.1, x.2)
    | .bad => .error (.malformedField ⟨file, line.index⟩ line.text)

/-- The block whose marker stands at line `start`. -/
def parse (file : SourceFile) (start : Nat) : Except SourceFault UniformBlock :=
  (fieldsFrom file.path start (file.lines.drop (start + 1))).map fun x =>
    { name := (file.text? start).bind fun text => (words text)[1]?
      startLine := start
      endLine := x.2
      fields := x.1 }

end UniformBlock

end ShaderBuild
