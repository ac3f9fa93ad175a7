import ShaderBuild.Source.Directive

/-! # Assembling the expanded text of a file

`SourceFile.assemble` puts the resolved text of every directive in the place of its line and joins
the lines.  The texts are collected first, by line, and a directive that is not resolved ends that;
then the lines are gone through and each is replaced by the text collected for it. -/

namespace ShaderBuild

/-- Texts by the number of the line that they replace. -/
structure Expansions where
  entries : List (Nat × String) := []
deriving DecidableEq, Repr

namespace Expansions

/-- Keep a text for a line, in place of the one that was kept for it. -/
def insert (m : Expansions) (i : Nat) (text : String) : Expansions :=
  ⟨(i, text) :: m.entries.filter fun x => x.1 != i⟩

/-- The text that is kept for a line. -/
def get? (m : Expansions) (i : Nat) : Option String :=
  m.entries.lookup i

end Expansions

/-- Collect the texts of directives, after those in `m`. -/
def collect (file : Path) : Expansions → List Directive → Except SourceFault Expansions
  | m, [] => .ok m
  | m, d :: ds =>
    match d.resolved with
    | some text => collect file (m.insert d.line text) ds
    | none => .error (.unresolvedInclude ⟨file, d.line⟩)

namespace SourceFile

/-- The text of a file with every directive replaced. -/
def assemble (f : SourceFile) (ds : List Directive) : Except SourceFault String := do
  let expansions ← collect f.path {} ds
  return "\n".intercalate (f.lines.map fun line => (expansions.get? line.index).getD line.text)

end SourceFile

end ShaderBuild
