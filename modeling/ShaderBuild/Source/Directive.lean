import ShaderBuild.Source.File

/-! # Include directives and the outline of a file

A line that begins with `//#INCLUDE` is an include directive, one that begins with `UNIFORM_BLOCK`
opens the uniform block.  `SourceFile.outline` lists the directives of a file and finds its block
marker; a file may have one marker only.  `includePath?` reads the path of a directive and is
strict: `//#INCLUDE`, one space, and a non-empty path without spaces between double quotes. -/

namespace ShaderBuild

/-- An include directive: its line, the path it names once that is read, and the text that replaces
it once that is known. -/
structure Directive where
  line : Nat
  target : Option String := none
  resolved : Option String := none
deriving DecidableEq, Repr

/-- The directives of a file and the line of its block marker. -/
structure Outline where
  includes : List Directive
  marker : Option Nat
deriving DecidableEq, Repr

/-! ### Executable definitions -/

/-- The word that begins an include directive. -/
def includeToken : String := "//#INCLUDE"

/-- The word that begins a uniform block. -/
def blockToken : String := "UNIFORM_BLOCK"

/-- Whether `text` begins with `head`. -/
def beginsWith (text head : String) : Bool :=
  head.toList.isPrefixOf text.toList

/-- Whether a line is an include directive. -/
def isIncludeLine (text : String) : Bool :=
  beginsWith text includeToken

/-- Whether a line opens a uniform block. -/
def isMarkerLine (text : String) : Bool :=
  beginsWith text blockToken

/-- What stands between two double quotes, if it is not empty. -/
def unquoted? : List Char → Option (List Char)
  | '"' :: rest =>
    if rest.getLast? = some '"' ∧ rest.dropLast ≠ [] then some rest.dropLast else none
  | _ => none

/-- The path of a well-formed include directive. -/
def includePath? (text : String) : Option String :=
  match pieces (· == ' ') text.toList with
  | [token, path] =>
    if token = includeToken.toList then (unquoted? path).map String.ofList else none
  | _ => none

/-- The include directive for a path, as `includePath?` reads it back. -/
def includeLine (path : String) : String :=
  includeToken ++ " \"" ++ path ++ "\""

/-- Scan lines, with what was found above them; a second marker is a fault. -/
def scan (file : Path) : Outline → List Line → Except SourceFault Outline
  | found, [] => .ok found
  | found, line :: rest =>
    if isIncludeLine line.text then
      scan file { found with includes := found.includes ++ [{ line := line.index }] } rest
    else if isMarkerLine line.text then
      match found.marker with
      | some first => .error (.duplicateBlock ⟨file, line.index⟩ first)
      | none => scan file { found with marker := some line.index } rest
    else
      scan file found rest

namespace SourceFile

/-- The directives of a file and its block marker. -/
def outline (f : SourceFile) : Except SourceFault Outline :=
  scan f.path ⟨[], none⟩ f.lines

end SourceFile

end ShaderBuild
