import ShaderBuild.Shell.Builtin.Usage

/-! # Working directories in the extended dialect

Going to directories and back: `cd`, `pwd`, and the stack of directories that `pushd`, `popd` and
`dirs` keep. -/

namespace ShaderBuild.Shell.Extended

/-! ### Going -/

/-- How `cd` is called. -/
def cdUsage : Usage where
  text := "cd [-L|[-P [-e]] [-@]] [dir]"
  flags := "LPe@"

/-- Whether links on the way are forgotten, as options and settings say. -/
def goesPhysically (o : GivenOptions) : Run Bool := do
  match o.reverse.find? fun x => x.1 == 'P' || x.1 == 'L' with
  | some x => return x.1 == 'P'
  | none => return (← shell).settings.physicalPaths

/-- Go to a directory, and print its path if it is to be announced. -/
def goTo (target : String) (announce physically : Bool) : Run UInt8 := do
  match ← enterDir target physically with
  | .ok path => if announce then put (path ++ "\n") else return 0
  | .error e => complain 1 (target ++ ": " ++ e.reason)

/-- The directory below one of a list of directories, and whether its path is to be printed. -/
def searchedDir (target : String) : Run (String × Bool) := do
  let parts := pieces (· == '/') target.toList
  let isPlain := parts.head? != some [] && parts.head? != some ['.'] && parts.head? != some ['.', '.']
  match isPlain, ← value? "CDPATH" with
  | true, some list =>
    let t ← files
    let found := (pieces (· == ':') list.toList).findSome? fun dir =>
      let path := if dir.isEmpty then target else String.ofList dir ++ "/" ++ target
      if t.isDir ⟨unraw path⟩ then some (path, !dir.isEmpty) else none
    return found.getD (target, false)
  | _, _ => return (target, false)

/-- Change the working directory. -/
def cdBuiltin : Builtin := fun args =>
  cdUsage.reading args fun o args => do
    let physically ← goesPhysically o
    match args with
    | [] =>
      match ← value? "HOME" with
      | some "" => return 0
      | some home => goTo home false physically
      | none => complain 1 "HOME not set"
    | ["-"] =>
      match ← value? "OLDPWD" with
      | some old => goTo old true physically
      | none => complain 1 "OLDPWD not set"
    | [""] => return 0
    | [target] =>
      let (path, announce) ← searchedDir target
      if path == target then goTo target announce physically else goTo path announce physically
    | _ => complain 1 "too many arguments"

/-- How `pwd` is called. -/
def pwdUsage : Usage where
  text := "pwd [-LP]"
  flags := "LP"

/-- Print the working directory. -/
def pwdBuiltin : Builtin := fun args =>
  pwdUsage.reading args fun o _ => do
    if ← goesPhysically o then put (raw (FileTree.pathOf (← files).workingDir).bytes ++ "\n")
    else put ((← workingPath) ++ "\n")

/-! ### The stack of directories -/

/-- A path with the home directory at its front as a tilde. -/
def shortPath (path : String) : Run String := do
  match ← value? "HOME" with
  | some home =>
    if home.isEmpty || home == "/" then return path
    else if path == home then return "~"
    else if path.startsWith (home ++ "/") then
      return "~" ++ String.ofList (path.toList.drop home.length)
    else return path
  | none => return path

/-- The working directory and the directories that were left. -/
def dirStack : Run (List String) := do
  return (← workingPath) :: (← shell).leftDirs

/-- Print the stack on a line. -/
def putStack : Run UInt8 := do
  put (" ".intercalate (← (← dirStack).mapM shortPath) ++ "\n")

/-- The place in the stack that an argument names: from its front, or from its back. -/
def stackPlace? (size : Nat) (arg : String) : Option Nat :=
  match arg.toList with
  | sign :: c :: cs =>
    let n := ofDigits 10 ((c :: cs).filterMap digitValue)
    if !((c :: cs).all Char.isDigit) || size ≤ n then none
    else if sign == '+' then some n
    else if sign == '-' then some (size - 1 - n)
    else none
  | _ => none

/-- Whether an argument names a place in the stack. -/
def isStackArg (arg : String) : Bool :=
  match arg.toList with
  | sign :: c :: cs => (sign == '+' || sign == '-') && (c :: cs).all Char.isDigit
  | _ => false

/-- What follows the sign of an argument. -/
def unsigned (arg : String) : String :=
  String.ofList (arg.toList.drop 1)

/-- Put a directory on the stack and go there, or turn the stack. -/
def pushdBuiltin : Builtin := fun args => do
  let stays := args.contains "-n"
  let usage : Usage := ⟨"pushd [-n] [+N | -N | dir]", "", ""⟩
  let stack ← dirStack
  let go (stack : List String) : Run UInt8 := do
    match stack with
    | [] => return 0
    | dir :: rest =>
      match ← enterDir dir false with
      | .ok _ =>
        modifyShell fun s => { s with leftDirs := rest }
        putStack
      | .error e => complain 1 (dir ++ ": " ++ e.reason)
  match args.filter fun a => a != "-n" && a != "--" with
  | [] =>
    match stack with
    | here :: other :: rest => go (other :: here :: rest)
    | _ => complain 1 "no other directory"
  | [arg] =>
    if isStackArg arg then
      match stackPlace? stack.length arg with
      | some n => go (stack.drop n ++ stack.take n)
      | none =>
        if stack.length ≤ 1 then complain 1 "no other directory"
        else complain 1 (unsigned arg ++ ": directory stack index out of range")
    else if arg.startsWith "-" && arg != "-" then
      let _ ← usage.refuse (arg ++ ": invalid number")
      return 2
    else if stays then
      modifyShell fun s => { s with leftDirs := arg :: s.leftDirs }
      putStack
    else
      match ← enterDir arg false with
      | .ok _ =>
        modifyShell fun s => { s with leftDirs := stack }
        putStack
      | .error e => complain 1 (arg ++ ": " ++ e.reason)
  | _ => complain 1 "too many arguments"

/-- Take a directory from the stack; if it was the first one, go to the next. -/
def popdBuiltin : Builtin := fun args => do
  let usage : Usage := ⟨"popd [-n] [+N | -N]", "", ""⟩
  let stack ← dirStack
  let stays := args.contains "-n"
  match args.filter fun a => a != "-n" && a != "--" with
  | [] =>
    match stack with
    | _ :: next :: rest =>
      if stays then
        modifyShell fun s => { s with leftDirs := rest }
        putStack
      else
        match ← enterDir next false with
        | .ok _ =>
          modifyShell fun s => { s with leftDirs := rest }
          putStack
        | .error e => complain 1 (next ++ ": " ++ e.reason)
    | _ => complain 1 "directory stack empty"
  | arg :: _ =>
    if isStackArg arg then
      if stack.length ≤ 1 then complain 1 "directory stack empty"
      else
        match stackPlace? stack.length arg with
        | none => complain 1 (unsigned arg ++ ": directory stack index out of range")
        | some n =>
          if n = 0 then
            let _ ← enterDir ((stack[1]?).getD "") false
          modifyShell fun s => { s with leftDirs := (stack.eraseIdx n).tail }
          putStack
    else usage.refuse (arg ++ ": invalid number")

/-- Print or clear the stack. -/
def dirsBuiltin : Builtin := fun args => do
  let usage : Usage := ⟨"dirs [-clpv] [+N] [-N]", "", ""⟩
  let stack ← dirStack
  let has (c : Char) : Bool := args.any fun a =>
    a.startsWith "-" && !isStackArg a && a.toList.contains c
  match args.find? isStackArg,
      args.find? fun a => !isStackArg a && !(a.startsWith "-" &&
        (a.toList.drop 1).all "clpv-".toList.contains) with
  | _, some bad => usage.refuse (bad ++ ": invalid number")
  | some arg, none =>
    match stackPlace? stack.length arg with
    | some n => put ((← shortPath ((stack[n]?).getD "")) ++ "\n")
    | none => complain 1 (unsigned arg ++ ": directory stack index out of range")
  | none, none =>
    if has 'c' then
      modifyShell fun s => { s with leftDirs := [] }
      return 0
    else
      let shown ← if has 'l' then pure stack else stack.mapM shortPath
      if has 'v' then
        put (String.join (shown.zipIdx.map fun (d, i) =>
          let number := Nat.repr i
          (if number.length < 2 then " " else "") ++ number ++ "  " ++ d ++ "\n"))
      else if has 'p' then put (String.join (shown.map (· ++ "\n")))
      else put (" ".intercalate shown ++ "\n")

end ShaderBuild.Shell.Extended
