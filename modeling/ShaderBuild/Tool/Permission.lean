import ShaderBuild.Tool.Options

/-! # Changing modes

A change of a mode is written as an octal number, or as clauses such as `u+x` and `go=u`, each of
them steps that add, remove or set bits for those who are named.  Where nobody is named, all are
meant, but bits of the mask for new files stay as they are. -/

namespace ShaderBuild.Tool

/-- What a step of a change does with the bits. -/
inductive ModeOperation where
  | add
  | remove
  | set
deriving DecidableEq, Repr

/-- The bits that a step is about. -/
inductive ModeBits where
  | these (bits : Nat)
  /-- These bits, and execution if somebody has it already or it is a directory. -/
  | conditional (bits : Nat)
  /-- What one of the three groups has. -/
  | copied (bits : Nat)
deriving DecidableEq, Repr

/-- One step of a change. -/
structure ModeStep where
  operation : ModeOperation
  /-- The bits of those who are named, or none. -/
  affected : Nat
  bits : ModeBits
  /-- The special bits that are named, which alone are changed in directories. -/
  named : Nat
deriving DecidableEq, Repr

/-! ### Reading -/

/-- All bits of a mode. -/
def allModeBits : Nat := 0o7777

/-- The bits of somebody who is named. -/
def whoBits (c : Char) : Nat :=
  match c with
  | 'u' => 0o4700
  | 'g' => 0o2070
  | 'o' => 0o1007
  | _ => allModeBits

/-- The bits of a right. -/
def rightBits (c : Char) : Nat :=
  match c with
  | 'r' => 0o444
  | 'w' => 0o222
  | 'x' => 0o111
  | 's' => 0o6000
  | 't' => 0o1000
  | _ => 0

/-- The operation that a character stands for. -/
def modeOperation? (c : Char) : Option ModeOperation :=
  match c with
  | '+' => some .add
  | '-' => some .remove
  | '=' => some .set
  | _ => none

/-- The number that octal digits spell. -/
def octalNumber (cs : List Char) : Nat :=
  cs.foldl (fun n c => 8 * n + (c.toNat - '0'.toNat)) 0

/-- The steps of a clause after those who are named, at most `n` of them. -/
def modeSteps? (affected : Nat) : Nat → List Char → Option (List ModeStep)
  | 0, _ => none
  | _, [] => some []
  | n + 1, c :: rest => do
    let operation ← modeOperation? c
    let named := if affected = 0 then allModeBits else affected
    match rest with
    | 'u' :: rest => return ⟨operation, affected, .copied 0o700, named⟩ :: (← modeSteps? affected n rest)
    | 'g' :: rest => return ⟨operation, affected, .copied 0o070, named⟩ :: (← modeSteps? affected n rest)
    | 'o' :: rest => return ⟨operation, affected, .copied 0o007, named⟩ :: (← modeSteps? affected n rest)
    | rest =>
      let rights := rest.takeWhile fun c => "rwxXst".toList.contains c
      let bits := rights.foldl (fun n c => n ||| rightBits c) 0
      let step : ModeStep :=
        ⟨operation, affected, if rights.contains 'X' then .conditional bits else .these bits,
          if affected = 0 then bits else affected &&& bits⟩
      return step :: (← modeSteps? affected n (rest.drop rights.length))

/-- The steps of one clause. -/
def modeClause? (clause : List Char) : Option (List ModeStep) :=
  let who := clause.takeWhile fun c => "ugoa".toList.contains c
  let rest := clause.drop who.length
  if rest.isEmpty then none
  else modeSteps? (who.foldl (fun n c => n ||| whoBits c) 0) (rest.length + 1) rest

/-- The steps of a change; none if the text is none. -/
def modeChange? (text : String) : Option (List ModeStep) :=
  let cs := text.toList
  if !cs.isEmpty && cs.all fun c => '0' ≤ c && c ≤ '7' then
    let bits := octalNumber cs
    if allModeBits < bits then none
    else
      let named := if 4 < cs.length then allModeBits else (bits &&& 0o6000) ||| 0o1777
      some [⟨.set, allModeBits, .these bits, named⟩]
  else ((pieces (· == ',') cs).mapM modeClause?).map List.flatten

/-! ### Changing -/

/-- The bits of `m` that are not in `mask`. -/
def clearBits (m mask : Nat) : Nat :=
  m - (m &&& mask)

/-- What one group has, for all three groups. -/
def spread (bits : Nat) : Nat :=
  [0o444, 0o222, 0o111].foldl (fun n right => if bits &&& right == 0 then n else n ||| right) 0

/-- Apply one step to the mode of a file or directory. -/
def ModeStep.apply (s : ModeStep) (umask : Mode) (isDir : Bool) (m : Mode) : Mode :=
  let omitted := if isDir then clearBits 0o6000 s.named else 0
  let value := match s.bits with
    | .these bits => bits
    | .conditional bits => if isDir || m.bits &&& 0o111 != 0 then bits ||| 0o111 else bits
    | .copied group => spread (m.bits &&& group)
  let limit := if s.affected = 0 then clearBits allModeBits umask.bits else s.affected
  let value := clearBits (value &&& limit) omitted
  match s.operation with
  | .add => ⟨m.bits ||| value⟩
  | .remove => ⟨clearBits m.bits value⟩
  | .set =>
    let kept := (if s.affected = 0 then 0 else clearBits allModeBits s.affected) ||| omitted
    ⟨(m.bits &&& kept) ||| value⟩

/-- Apply the steps of a change. -/
def changedMode (steps : List ModeStep) (umask : Mode) (isDir : Bool) (m : Mode) : Mode :=
  steps.foldl (fun m s => s.apply umask isDir m) m

/-! ### Showing -/

/-- The nine letters that show a mode. -/
def modeLetters (m : Mode) : String :=
  let bit (i : Nat) (c : Char) : Char := if m.bits.testBit i then c else '-'
  let special (i j : Nat) (both only : Char) : Char :=
    if m.bits.testBit i then (if m.bits.testBit j then both else only) else bit j 'x'
  String.ofList
    [bit 8 'r', bit 7 'w', special 11 6 's' 'S', bit 5 'r', bit 4 'w', special 10 3 's' 'S',
      bit 2 'r', bit 1 'w', special 9 0 't' 'T']

/-- A number in octal digits, with zeros before it up to a width. -/
def octalText (width n : Nat) : String :=
  let digits := Nat.toDigits 8 n
  String.ofList (List.replicate (width - digits.length) '0' ++ digits)

/-! ### The tool -/

/-- How modes are changed. -/
structure ModeManner where
  steps : List ModeStep
  /-- Whether the change was written as an option, so that a mask it did not expect is told. -/
  asOption : Bool
  recursive : Bool
  verbose : Bool
  changesOnly : Bool
  quiet : Bool

/-- Change the mode of one operand, and of all below it; nested at most `n` deep. -/
def changeMode (m : ModeManner) : Nat → (inner : Bool) → String → Work Unit
  | 0, _, _ => pure ()
  | n + 1, inner, arg => do
    let files ← tree
    if inner && (files.linkTarget? (pathOf arg)).isSome then pure ()
    else
      match files.find (pathOf arg) with
      | .error e =>
        fail 1
        if !m.quiet then
          if (files.linkTarget? (pathOf arg)).isSome && e = .notFound then
            complain 1 ("cannot operate on dangling symlink " ++ quoted arg)
          else complain 1 ("cannot access " ++ quoted arg ++ ": " ++ e.reason)
      | .ok (l, e) =>
        let before := files.modeOf e
        let umask := (← read).umask
        let after := changedMode m.steps umask e.isDir before
        setTree (files.setMode l after)
        if m.verbose || m.changesOnly && before != after then
          let text (x : Mode) : String := octalText 4 x.bits ++ " (" ++ modeLetters x ++ ")"
          say ("mode of " ++ quoted arg ++
            (if before = after then " retained as " ++ text after
              else " changed from " ++ text before ++ " to " ++ text after) ++ "\n")
        let naive := changedMode m.steps ⟨0⟩ e.isDir before
        if m.asOption && clearBits after.bits naive.bits != 0 then
          complain 1 (quotedIfNeeded arg ++ ": new permissions are " ++ modeLetters after
            ++ ", not " ++ modeLetters naive)
        if m.recursive then
          if e.isDir && !after.mayRead then
            complain 1 ("cannot read directory " ++ quoted arg ++ ": " ++ FileFault.accessDenied.reason)
          else
            e.children.forM fun child =>
              changeMode m n true (arg ++ (if arg.endsWith "/" then "" else "/") ++ raw child.1)

/-- The options, the change and the operands in the arguments of `chmod`. -/
def modeArguments (args : List String) : List Char × Option String × Bool × List String :=
  args.foldl (fun (flags, change, asOption, operands) arg =>
    match arg.toList with
    | '-' :: c :: cs =>
      if change.isNone && "rwxXstugoa,+=01234567".toList.contains c then
        (flags, some arg, true, operands)
      else if arg == "--" then (flags, change, asOption, operands)
      else if (c :: cs).all fun c => "Rcfv".toList.contains c then
        (flags ++ (c :: cs), change, asOption, operands)
      else if arg == "--recursive" then (flags ++ ['R'], change, asOption, operands)
      else (flags ++ ['?'], change, asOption, operands)
    | _ =>
      if change.isNone then (flags, some arg, asOption, operands)
      else (flags, change, asOption, operands ++ [arg])) ([], none, false, [])

/-- The tool `chmod`. -/
def modeTool : Routine := do
  let args := (← read).args
  let (flags, change, asOption, operands) := modeArguments args
  match change, operands with
  | none, _ => refuse 1 "missing operand"
  | some change, [] =>
    if asOption then refuse 1 "missing operand"
    else refuse 1 ("missing operand after " ++ quoted change)
  | some change, operands =>
    match modeChange? change with
    | none => refuse 1 ("invalid mode: " ++ quoted change)
    | some steps =>
      let manner : ModeManner :=
        { steps, asOption, recursive := flags.contains 'R', verbose := flags.contains 'v'
          changesOnly := flags.contains 'c', quiet := flags.contains 'f' }
      operands.forM (changeMode manner FileTree.pathLimit false)

/-! ### Owners -/

/-- Whether a text names the one user, by name or number. -/
def isOwner (name : String) : Bool :=
  name.isEmpty || name == "root" || (!name.isEmpty && name.toList.all Char.isDigit)

/-- The tools `chown` and `chgrp`, for the one user there is: files keep their owner. -/
def ownerTool (ofGroup : Bool) : Routine :=
  withOptions
    { flags := "cfhvRHLP", valued := "ZY"
      long := [("recursive", 'R'), ("verbose", 'v'), ("changes", 'c'), ("silent", 'f'), ("quiet", 'f'),
        ("no-dereference", 'h'), ("dereference", 'D'), ("reference", 'Z'), ("from", 'Y')] } 1 fun o => do
    let (owner, operands) := match o.value? 'Z' with
      | some _ => ("", o.operands)
      | none => (o.operands.headD "", o.operands.tail)
    let user := if ofGroup then "" else String.ofList (owner.toList.takeWhile (· != ':'))
    let group := if ofGroup then owner
      else String.ofList (owner.toList.drop (user.length + 1))
    if o.operands.isEmpty then refuse 1 "missing operand"
    else if operands.isEmpty then refuse 1 ("missing operand after " ++ quoted owner)
    else if !isOwner user then complain 1 ("invalid user: " ++ quoted owner)
    else if !isOwner group then complain 1 ("invalid group: " ++ quoted owner)
    else
      operands.forM fun arg => do
        match ((← tree).place (!o.has 'h') (pathOf arg)).bind FileTree.existing with
        | .error e =>
          if o.has 'f' then fail 1
          else complain 1 ("cannot access " ++ quoted arg ++ ": " ++ e.reason)
        | .ok _ =>
          if o.has 'v' then
            say ((if ofGroup then "group" else "ownership") ++ " of " ++ quoted arg
              ++ " retained as root\n")

end ShaderBuild.Tool
