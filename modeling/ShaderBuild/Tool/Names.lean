import ShaderBuild.Tool.Transfer

/-! # What a path is

The tools that take paths apart and follow them: `basename`, `dirname`, `readlink`, `realpath` and
`pwd`. -/

namespace ShaderBuild.Tool

/-- A name without the slashes at its end. -/
def withoutSlashes (arg : String) : List Char :=
  (arg.toList.reverse.dropWhile (· == '/')).reverse

/-- The last name of a path, without an ending that is not all of it. -/
def baseName (arg ending : String) : String :=
  let name := lastName arg
  if ending != "" && name != ending && ending.toList.isSuffixOf name.toList then
    String.ofList (name.toList.take (name.length - ending.length))
  else name

/-- A path without its last name. -/
def dirName (arg : String) : String :=
  match withoutSlashes arg with
  | [] => if arg.isEmpty then "." else "/"
  | cs =>
    match (cs.reverse.dropWhile (· != '/')).dropWhile (· == '/') with
    | [] => if cs.contains '/' then "/" else "."
    | rest => String.ofList rest.reverse

/-- The tool `basename`. -/
def baseNameTool : Routine :=
  withOptions
    { flags := "az", valued := "s", ordered := true
      long := [("multiple", 'a'), ("suffix", 's'), ("zero", 'z')] } 1 fun o =>
    needOperands o 1 "operand" do
      if o.has 'a' || o.has 's' then
        o.operands.forM fun arg => say (baseName arg ((o.value? 's').getD "") ++ "\n")
      else
        match o.operands with
        | [arg] => say (baseName arg "" ++ "\n")
        | [arg, ending] => say (baseName arg ending ++ "\n")
        | operands => refuse 1 ("extra operand " ++ quoted (operands.getD 2 ""))

/-- The tool `dirname`. -/
def dirNameTool : Routine :=
  withOptions { flags := "z", ordered := true } 1 fun o =>
    needOperands o 1 "operand" (o.operands.forM fun arg => say (dirName arg ++ "\n"))

/-- The canonical path of an operand, whose last name need not exist. -/
def resolved (strict : Bool) (arg : String) : Work (Except FileFault String) := do
  match (← tree).place true (pathOf arg) with
  | .error e => return .error e
  | .ok ⟨l, none, _⟩ =>
    return if strict then .error .notFound else .ok (argOf (FileTree.pathOf l))
  | .ok ⟨l, some _, _⟩ => return .ok (argOf (FileTree.pathOf l))

/-- The tool `readlink`. -/
def readLinkTool : Routine :=
  withOptions { flags := "femnqsvz", long := [("canonicalize", 'f')] } 1 fun o =>
    needOperands o 1 "operand" do
      let finish := if o.has 'n' then "" else "\n"
      o.operands.forM fun arg => do
        if o.has 'f' || o.has 'e' || o.has 'm' then
          match ← resolved (o.has 'e') arg with
          | .ok path => say (path ++ finish)
          | .error _ => fail 1
        else
          match (← tree).linkTarget? (pathOf arg) with
          | some target => say (argOf target ++ finish)
          | none => fail 1

/-- The tool `realpath`. -/
def realPathTool : Routine :=
  withOptions { flags := "emqszLP" } 1 fun o =>
    needOperands o 1 "operand" do
      o.operands.forM fun arg => do
        match ← resolved (o.has 'e') arg with
        | .ok path => say (path ++ "\n")
        | .error e => complain 1 (quotedIfNeeded arg ++ ": " ++ e.reason)

/-- The tool `pwd`. -/
def workingDirTool : Routine := do
  say (argOf (FileTree.pathOf (← tree).workingDir) ++ "\n")

end ShaderBuild.Tool
