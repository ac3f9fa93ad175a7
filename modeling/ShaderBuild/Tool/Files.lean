import ShaderBuild.Tool.Moment
import ShaderBuild.Tool.Transfer

/-! # Making and removing files

The tools `rm`, `rmdir`, `unlink`, `mkdir`, `touch`, `truncate`, `mktemp` and `dd`. -/

namespace ShaderBuild.Tool

/-! ### Removing -/

/-- How files are removed. -/
structure RemoveManner where
  recursive : Bool
  emptyDirs : Bool
  force : Bool
  verbose : Bool

/-- Complain that something cannot be removed. -/
def cannotRemove (arg : String) (e : FileFault) : Work Unit :=
  complain 1 ("cannot remove " ++ quoted arg ++ ": " ++ e.reason)

/-- Remove an entry that is there, with all that it holds; nested at most `n` deep.  Whether all of
it is gone. -/
def removeAll (m : RemoveManner) : Nat → String → Entry → Work Bool
  | 0, _, _ => return false
  | n + 1, arg, e => do
    if e.isDir then
      if !e.children.isEmpty && !((← tree).modeOf e).mayRead then
        cannotRemove arg .accessDenied
        return false
      else
        let gone ← e.children.mapM fun child => removeAll m n (inside arg (raw child.1)) child.2
        if gone.all id then
          match ← change fun t => t.removeDir (pathOf arg) with
          | none =>
            if m.verbose then say ("removed directory " ++ quoted arg ++ "\n")
            return true
          | some e =>
            cannotRemove arg e
            return false
        else return false
    else
      match ← change fun t => t.removeFile (pathOf arg) with
      | none =>
        if m.verbose then say ("removed " ++ quoted arg ++ "\n")
        return true
      | some e =>
        cannotRemove arg e
        return false

/-- Remove one operand. -/
def removeEntry (m : RemoveManner) (arg : String) : Work Unit := do
  let name := lastName arg
  match (← tree).place false (pathOf arg) with
  | .error e => if m.force && (e = .notFound || e = .notDirectory) then pure () else cannotRemove arg e
  | .ok ⟨_, none, _⟩ => if m.force then pure () else cannotRemove arg .notFound
  | .ok ⟨l, some e, slashed⟩ =>
    if e.isDir then
      if !m.recursive && !(m.emptyDirs && e.children.isEmpty) then
        cannotRemove arg (if m.emptyDirs then .notEmpty else .isDirectory)
      else if name == "." || name == ".." then
        complain 1 ("refusing to remove '.' or '..' directory: skipping " ++ quoted arg)
      else if l.isEmpty then
        warn "it is dangerous to operate recursively on '/'"
        complain 1 "use --no-preserve-root to override this failsafe"
      else
        let _ ← removeAll m deepest arg e
    else if slashed then cannotRemove arg .notDirectory
    else
      let _ ← removeAll m 1 arg e

/-- The tool `rm`. -/
def removeTool : Routine :=
  withOptions
    { flags := "dfiIrRv"
      long := [("recursive", 'r'), ("force", 'f'), ("dir", 'd'), ("verbose", 'v')] } 1 fun o =>
    if o.operands.isEmpty then
      if o.has 'f' then pure () else refuse 1 "missing operand"
    else
      o.operands.forM (removeEntry
        { recursive := o.has 'r' || o.has 'R', emptyDirs := o.has 'd', force := o.has 'f'
          verbose := o.has 'v' })

/-- The tool `unlink`. -/
def unlinkTool : Routine :=
  withOptions {} 1 fun o =>
    match o.operands with
    | [] => refuse 1 "missing operand"
    | [arg] => do
      match ← change fun t => t.removeFile (pathOf arg) with
      | none => pure ()
      | some e => complain 1 ("cannot unlink " ++ quoted arg ++ ": " ++ e.reason)
    | _ :: extra :: _ => refuse 1 ("extra operand " ++ quoted extra)

/-- The tool `rmdir`. -/
def removeDirTool : Routine :=
  withOptions
    { flags := "pvi", long := [("parents", 'p'), ("verbose", 'v'),
      ("ignore-fail-on-non-empty", 'i')] } 1 fun o =>
    needOperands o 1 "operand" do
      o.operands.forM fun arg => do
        let outer := if o.has 'p' then
            (FileTree.ancestors (arg.length + 1) (pathOf arg)).map argOf
          else [arg]
        let _ ← outer.foldlM (fun going dir => do
          if !going then return false
          if o.has 'v' then say ("rmdir: removing directory, " ++ quoted dir ++ "\n")
          match ← change fun t => t.removeDir (pathOf dir) with
          | none => return true
          | some e =>
            if !(o.has 'i' && e = .notEmpty) then
              complain 1 ((if dir == arg then "failed to remove " else "failed to remove directory ")
                ++ quoted dir ++ ": " ++ e.reason)
            return false) true

/-! ### Making -/

/-- Make the directories on the way to a path, the outermost first; the last one with a mode. -/
def makePath (verbose : Bool) (mode : Mode) : List String → Work Unit
  | [] => pure ()
  | dir :: rest => do
    let files ← tree
    if files.isDir (pathOf dir) then makePath verbose mode rest
    else
      let outer ← unmasked 0o777
      match files.makeDirAs (if rest.isEmpty then mode else ⟨outer.bits ||| 0o300⟩) (pathOf dir) with
      | .ok files =>
        setTree files
        if verbose then say ((← read).name ++ ": created directory " ++ quoted dir ++ "\n")
        makePath verbose mode rest
      | .error e =>
        let isLink := (files.linkTarget? (pathOf dir)).isSome
        let e := if e = .alreadyExists && !rest.isEmpty && !isLink then .notDirectory else e
        complain 1 ("cannot create directory " ++ quoted dir ++ ": " ++ e.reason)

/-- The tool `mkdir`. -/
def makeDirTool : Routine :=
  withOptions
    { flags := "pvZ", valued := "m"
      long := [("parents", 'p'), ("mode", 'm'), ("verbose", 'v')] } 1 fun o =>
    needOperands o 1 "operand" do
      let umask := (← read).umask
      let mode : Option Mode := match o.value? 'm' with
        | none => some (Mode.without ⟨0o777⟩ umask)
        | some text => (modeChange? text).map fun steps => changedMode steps umask true ⟨0o777⟩
      match mode with
      | none => complain 1 ("invalid mode " ++ quoted ((o.value? 'm').getD ""))
      | some mode =>
        o.operands.forM fun arg => do
          if o.has 'p' then
            let outer := (FileTree.ancestors (arg.length + 1) (pathOf arg)).reverse.map argOf
            makePath (o.has 'v') mode (if arg.isEmpty then [arg] else outer.dropLast ++ [arg])
          else
            match ← change fun t => t.makeDirAs mode (pathOf arg) with
            | none =>
              if o.has 'v' then
                say ((← read).name ++ ": created directory " ++ quoted arg ++ "\n")
            | some e => complain 1 ("cannot create directory " ++ quoted arg ++ ": " ++ e.reason)

/-- Set the time of a file, which is made if it is missing. -/
def touchEntry (onlyOld : Bool) (time : Nat) (arg : String) : Work Unit := do
  let files ← tree
  match files.find (pathOf arg) with
  | .ok (_, .file n) => setTree (files.alterBody n fun b => { b with modified := time })
  | .ok _ => pure ()
  | .error e =>
    match files.place true (pathOf arg) with
    | .ok ⟨_, _, true⟩ =>
      if !onlyOld then complain 1 ("setting times of " ++ quoted arg ++ ": " ++ e.reason)
    | .ok ⟨l, none, false⟩ =>
      if onlyOld then pure ()
      else if files.mayChange l then
        setTree ({ files with clock := time }.setFile l .empty (← unmasked 0o666))
        setTree { ← tree with clock := files.clock }
      else complain 1 ("cannot touch " ++ quoted arg ++ ": " ++ FileFault.accessDenied.reason)
    | .ok _ => pure ()
    | .error e => complain 1 ("cannot touch " ++ quoted arg ++ ": " ++ e.reason)

/-- The tool `touch`. -/
def touchTool : Routine :=
  withOptions
    { flags := "acfhm", valued := "drt"
      long := [("no-create", 'c'), ("date", 'd'), ("reference", 'r')] } 1 fun o => do
    let files ← tree
    let time : Except String Nat := match o.value? 'd', o.value? 't', o.value? 'r' with
      | some text, _, _ =>
        match describedTime? files.clock text with
        | some (s, ns) => .ok (s.toNat * nanosPerSecond + ns)
        | none => .error ("invalid date format " ++ quoted text)
      | none, some text, _ =>
        match stampTime? files.clock text with
        | some s => .ok (s.toNat * nanosPerSecond)
        | none => .error ("invalid date format " ++ quoted text)
      | none, none, some file =>
        match files.find (pathOf file) with
        | .ok (_, e) => .ok (timeOf files e)
        | .error e => .error ("failed to get attributes of " ++ quoted file ++ ": " ++ e.reason)
      | none, none, none => .ok files.clock
    match time with
    | .error text => complain 1 text
    | .ok time => needOperands o 1 "file operand" (o.operands.forM (touchEntry (o.has 'c') time))

/-! ### Sizes -/

/-- The factor that a suffix of a size stands for. -/
def sizeFactor? (suffix : List Char) : Option Nat :=
  let powers := "KMGTPE".toList
  match suffix with
  | [] => some 1
  | ['b'] => some 512
  | ['k'] => some 1024
  | [c] => (powers.findIdx? (· == c)).map fun i => Nat.pow 1024 (i + 1)
  | [c, 'B'] => (powers.findIdx? (· == c.toUpper)).map fun i => Nat.pow 1000 (i + 1)
  | [c, 'i', 'B'] => (powers.findIdx? (· == c)).map fun i => Nat.pow 1024 (i + 1)
  | _ => none

/-- A number with a suffix. -/
def sizeNumber? (cs : List Char) : Option Nat := do
  let digits := cs.takeWhile Char.isDigit
  return (← digitsNumber? digits) * (← sizeFactor? (cs.drop digits.length))

/-- A content cut or filled with zeros to a size. -/
def resized (content : ByteArray) (size : Nat) : ByteArray :=
  if size ≤ content.size then content.extract 0 size
  else content ++ ⟨Array.replicate (size - content.size) 0⟩

/-- The size that an argument asks for, of a content with a size before. -/
def askedSize? (arg : String) (before : Nat) : Option Nat :=
  match arg.toList with
  | '+' :: cs => (sizeNumber? cs).map (before + ·)
  | '-' :: cs => (sizeNumber? cs).map (before - ·)
  | '<' :: cs => (sizeNumber? cs).map (min before ·)
  | '>' :: cs => (sizeNumber? cs).map (max before ·)
  | '/' :: cs => (sizeNumber? cs).map fun n => before / n * n
  | '%' :: cs => (sizeNumber? cs).map fun n => (before + n - 1) / n * n
  | cs => sizeNumber? cs

/-- The tool `truncate`. -/
def truncateTool : Routine :=
  withOptions
    { flags := "co", valued := "sr"
      long := [("size", 's'), ("no-create", 'c'), ("reference", 'r'), ("io-blocks", 'o')] } 1 fun o => do
    let files ← tree
    let reference := (o.value? 'r').bind fun file => (files.read (pathOf file)).toOption
    match o.value? 's', reference with
    | none, none => refuse 1 "you must specify either '--size' or '--reference'"
    | asked, reference =>
      if (askedSize? (asked.getD "0") 0).isNone then
        complain 1 ("Invalid number: " ++ quoted (asked.getD ""))
      else
        needOperands o 1 "file operand" do
          o.operands.forM fun arg => do
            let files ← tree
            match files.find (pathOf arg) with
            | .error .notFound =>
              if !o.has 'c' then
                let size := (askedSize? (asked.getD "0") ((reference.map ByteArray.size).getD 0)).getD 0
                match ← store arg (resized .empty size) with
                | .ok () => pure ()
                | .error e => complain 1 ("cannot open " ++ quoted arg ++ " for writing: " ++ e.reason)
            | .ok (_, .file n) =>
              let content := (bodyAt files (.file n)).content
              let base := (reference.map ByteArray.size).getD content.size
              let size := match asked with
                | some text => (askedSize? text base).getD 0
                | none => base
              match ← store arg (resized content size) with
              | .ok () => pure ()
              | .error e => complain 1 ("cannot open " ++ quoted arg ++ " for writing: " ++ e.reason)
            | .ok (_, .dir _ _) =>
              complain 1 ("cannot open " ++ quoted arg ++ " for writing: "
                ++ FileFault.isDirectory.reason)
            | .ok _ => pure ()
            | .error e => complain 1 ("cannot open " ++ quoted arg ++ " for writing: " ++ e.reason)

/-! ### Names that are not taken -/

/-- Letters that a number stands for in a name. -/
def nameLetters (count n : Nat) : List Char :=
  (List.range count).map fun i =>
    let letters := "abcdefghijklmnopqrstuvwxyzABCDEFGHIJKLMNOPQRSTUVWXYZ0123456789".toList
    letters.getD ((n * 7919 + i * 104729 + n / Nat.pow 62 i) % letters.length) 'a'

/-- The tool `mktemp`. -/
def makeTemporaryTool : Routine :=
  withOptions
    { flags := "dqtu", valued := "ps", glued := ""
      long := [("directory", 'd'), ("dry-run", 'u'), ("quiet", 'q'), ("tmpdir", 'p'),
        ("suffix", 's')] } 1 fun o => do
    let call ← read
    let shared := (call.environment.lookup "TMPDIR").getD "/tmp"
    let (template, dir) : String × Option String := match o.operands with
      | [] => ("tmp.XXXXXXXXXX", some ((o.value? 'p').getD shared))
      | t :: _ => (t, if o.has 't' then some shared else o.value? 'p')
    let cs := template.toList
    let ending := match o.value? 's' with
      | some ending => ending.toList
      | none => (cs.reverse.takeWhile (· != 'X')).reverse
    let body := if (o.value? 's').isSome then cs else cs.take (cs.length - ending.length)
    let marks := (body.reverse.takeWhile (· == 'X')).length
    if 1 < o.operands.length then refuse 1 "too many templates"
    else if marks < 3 then complain 1 ("too few X's in template " ++ quoted template)
    else
      let files ← tree
      let path (n : Nat) : String :=
        let name := String.ofList (body.take (body.length - marks) ++ nameLetters marks n ++ ending)
        dir.elim name fun d => inside d name
      let free := (List.range 1000).find? fun n =>
        match files.place false (pathOf (path n)) with
        | .ok ⟨_, some _, _⟩ => false
        | _ => true
      let target := path (free.getD 0)
      let what := if o.has 'd' then "directory" else "file"
      let refused ← if o.has 'u' then pure none
        else if o.has 'd' then change fun t => t.makeDirAs ⟨0o700⟩ (pathOf target)
        else change fun t => t.writeAs ⟨0o600⟩ (pathOf target) .empty
      match refused with
      | none => say (target ++ "\n")
      | some e =>
        let shown := dir.elim template fun d => inside d template
        if o.has 'q' then fail 1
        else
          complain 1 ("failed to create " ++ what ++ " via template " ++ quoted shown ++ ": "
            ++ e.reason)

/-! ### Blocks -/

/-- A number of `dd`: factors joined by `x`, each with a suffix. -/
def blockNumber? (text : String) : Option Nat :=
  (pieces (· == 'x') text.toList).foldl (fun found part => do
    let n ← found
    let digits := part.takeWhile Char.isDigit
    let factor ← match part.drop digits.length with
      | ['c'] => some 1
      | ['w'] => some 2
      | suffix => sizeFactor? suffix
    return n * (← digitsNumber? digits) * factor) (some 1)

/-- The tool `dd`. -/
def blockTool : Routine := do
  let call ← read
  let settings := call.args.map fun a =>
    (String.ofList (a.toList.takeWhile (· != '=')), String.ofList (a.toList.dropWhile (· != '=')).tail)
  let known := ["if", "of", "bs", "ibs", "obs", "cbs", "count", "skip", "seek", "conv", "status",
    "iflag", "oflag"]
  match settings.zip call.args |>.find? fun x => !known.contains x.1.1 || !x.2.toList.contains '=' with
  | some (_, arg) => refuse 1 ("unrecognized operand " ++ quoted arg)
  | none =>
    let text? (name : String) : Option String := settings.reverse.lookup name
    let numbers := ["bs", "ibs", "obs", "count", "skip", "seek"]
    match (settings.filter fun x => numbers.contains x.1).find? fun x => (blockNumber? x.2).isNone with
    | some (_, bad) => complain 1 ("invalid number: " ++ quoted bad)
    | none =>
      let number (name : String) (missing : Nat) : Nat :=
        ((text? name).bind blockNumber?).getD missing
      let input := number "bs" (number "ibs" 512)
      let output := number "bs" (number "obs" 512)
      let conversions := (pieces (· == ',') ((text? "conv").getD "").toList).map String.ofList
      let source ← match text? "if" with
        | none => do
          match ← readInput with
          | .ok content => pure (.ok content)
          | .error e => do
            complain 1 ("error reading 'standard input': " ++ e.reason)
            pure (.ok .empty)
        | some file => contentAt file
      match source with
      | .error e =>
        complain 1 ("failed to open " ++ quoted ((text? "if").getD "") ++ ": " ++ e.reason)
      | .ok content =>
        let bytesOf (flag : String) (blocks size : Nat) : Nat :=
          if (pieces (· == ',') flag.toList).contains "count_bytes".toList
            || (pieces (· == ',') flag.toList).contains "skip_bytes".toList then blocks
          else blocks * size
        let start := bytesOf ((text? "iflag").getD "") (number "skip" 0) input
        let taken := content.extract start content.size
        let taken := match text? "count" with
          | none => taken
          | some _ => taken.extract 0 (bytesOf ((text? "iflag").getD "") (number "count" 0) input)
        let cs := rawContent taken
        let cs := if conversions.contains "ucase" then cs.toUpper else cs
        let cs := if conversions.contains "lcase" then cs.toLower else cs
        let taken := contentOf cs
        let whole := taken.size / input
        let part := if taken.size % input == 0 then 0 else 1
        let taken := if conversions.contains "sync" then resized taken ((whole + part) * input) else taken
        let done ← match text? "of" with
          | none =>
            emit 1 taken
            pure (.ok ())
          | some file =>
            let before := ((← tree).read (pathOf file)).toOption.getD .empty
            let gap := number "seek" 0 * output
            let tail := if conversions.contains "notrunc" then
                before.extract (gap + taken.size) before.size else .empty
            store file (resized before gap ++ taken ++ tail)
        match done with
        | .error e =>
          complain 1 ("failed to open " ++ quoted ((text? "of").getD "") ++ ": " ++ e.reason)
        | .ok () =>
          if text? "status" != some "none" then
            let outWhole := taken.size / output
            let outPart := if taken.size % output == 0 then 0 else 1
            emit 2 (contentOf (Nat.repr whole ++ "+" ++ Nat.repr part ++ " records in\n"
              ++ Nat.repr outWhole ++ "+" ++ Nat.repr outPart ++ " records out\n"))
            if text? "status" != some "noxfer" then
              emit 2 (contentOf (Nat.repr taken.size
                ++ (if taken.size == 1 then " byte" else " bytes") ++ " copied, 0.0001 s, "
                ++ Nat.repr (taken.size / 100) ++ " MB/s\n"))

end ShaderBuild.Tool
