import ShaderBuild.Tool.Condition
import ShaderBuild.Tool.Permission

/-! # Copying, moving and linking

The tools `cp`, `mv`, `ln` and `install`.  They take one source and a target, or several sources
and a directory that each source keeps its name in. -/

namespace ShaderBuild.Tool

/-! ### Targets -/

/-- The name that an operand ends in, without the slashes after it. -/
def lastName (arg : String) : String :=
  match (pieces (· == '/') arg.toList).reverse.find? fun n => !n.isEmpty with
  | some name => String.ofList name
  | none => if arg.isEmpty then "" else "/"

/-- An operand inside a directory. -/
def inside (dir name : String) : String :=
  if dir.endsWith "/" then dir ++ name else dir ++ "/" ++ name

/-- Treat each source together with its target.  `into` is a directory given by an option, and
`plain` says that the last operand is no directory to put things into. -/
def eachPair (into : Option String) (plain : Bool) (operands : List String)
    (body : String → String → Work Unit) : Work Unit := do
  let files ← tree
  match into, operands with
  | _, [] => refuse 1 "missing file operand"
  | some dir, sources =>
    if files.isDir (pathOf dir) then
      sources.forM fun source => body source (inside dir (lastName source))
    else
      let cause := match files.find (pathOf dir) with
        | .error e => e
        | .ok _ => .notDirectory
      complain 1 ("target directory " ++ quoted dir ++ ": " ++ cause.reason)
  | none, [source] =>
    refuse 1 ("missing destination file operand after " ++ quoted source)
  | none, operands =>
    let target := operands.getLast?.getD ""
    let sources := operands.dropLast
    if !plain && files.isDir (pathOf target) then
      sources.forM fun source => body source (inside target (lastName source))
    else
      match sources with
      | [source] => body source target
      | _ =>
        if plain then refuse 1 ("extra operand " ++ quoted target)
        else
          let cause := match files.find (pathOf target) with
            | .error e => e
            | .ok _ => .notDirectory
          complain 1 ("target " ++ quoted target ++ ": " ++ cause.reason)

/-! ### Copying -/

/-- What a copy is. -/
inductive CopyKind where
  | content
  | hardLink
  | symbolicLink
deriving DecidableEq, Repr

/-- How files are copied. -/
structure CopyManner where
  kind : CopyKind := .content
  recursive : Bool := false
  force : Bool := false
  removeFirst : Bool := false
  /-- Whether files that exist stay as they are. -/
  keepOld : Bool := false
  /-- Whether files that are not older stay as they are. -/
  update : Bool := false
  /-- Whether links are copied as links. -/
  keepLinks : Bool := false
  /-- Whether modes and times are copied. -/
  preserve : Bool := false
  /-- What the name of a file that gives way ends in. -/
  backup : Option String := none
  verbose : Bool := false

/-- Say what was copied. -/
def sayPair (verbose : Bool) (source target : String) : Work Unit :=
  if verbose then say (quoted source ++ " -> " ++ quoted target ++ "\n") else pure ()

/-- Keep what stands at a target under another name, if that is wanted. -/
def giveWay (backup : Option String) (target : String) : Work Unit := do
  match backup with
  | none => pure ()
  | some ending =>
    let _ ← change fun t => t.rename (pathOf target) (pathOf (target ++ ending))

/-- Give a new file the mode and the time of its source. -/
def copyManners (m : CopyManner) (target : String) (source : FileBody) : Work Unit := do
  if m.preserve then
    let files ← tree
    if let .ok (l, .file n) := files.find (pathOf target) then
      setTree ((files.setMode l source.mode).alterBody n fun b =>
        { b with modified := source.modified })

/-- The body of an entry; devices read as empty. -/
def bodyAt (files : FileTree) : Entry → FileBody
  | .file n => (files.body? n).getD ⟨.empty, .plain, files.clock⟩
  | _ => ⟨.empty, .plain, files.clock⟩

/-- Make a copy that is a link. -/
def copyAsLink (m : CopyManner) (source target : String) (e : Entry) : Work Unit := do
  let symbolic := m.kind == .symbolicLink
  if m.force then
    let _ ← change fun t => t.removeFile (pathOf target)
  if symbolic && !source.startsWith "/" && target.toList.contains '/' then
    complain 1 (quotedIfNeeded target ++ ": can make relative symbolic links only in current directory")
  else
    match ← change fun t => t.create (pathOf target) (if symbolic then .link (pathOf source) else e) with
    | none => sayPair m.verbose source target
    | some e =>
      if symbolic then
        complain 1 ("cannot create symbolic link " ++ quoted target ++ " to " ++ quoted source
          ++ ": " ++ e.reason)
      else
        complain 1 ("cannot create hard link " ++ quoted target ++ " to " ++ quoted source
          ++ ": " ++ e.reason)

/-- Copy a file to a place that holds a file or nothing. -/
def copyContent (m : CopyManner) (source target : String) (e : Entry) : Work Unit := do
  let files ← tree
  let body := bodyAt files e
  let cannot (e : FileFault) : Work Unit :=
    complain 1 ("cannot create regular file " ++ quoted target ++ ": " ++ e.reason)
  let mode := Mode.without body.mode (← read).umask
  match ← contentAt source with
  | .error e => complain 1 ("cannot open " ++ quoted source ++ " for reading: " ++ e.reason)
  | .ok content =>
    if m.removeFirst then
      let _ ← change fun t => t.removeFile (pathOf target)
    let finish : Work Unit := do
      copyManners m target body
      sayPair m.verbose source target
    let place (files : FileTree) : Work Unit := do
      match files.writeAs mode (pathOf target) content with
      | .ok files =>
        setTree files
        finish
      | .error .isDirectory => cannot .notDirectory
      | .error e => cannot e
    match (← tree).find (pathOf target) with
    | .ok (_, .device (.stream n)) => emit n content
    | _ =>
      match (← tree).writeAs mode (pathOf target) content, m.force with
      | .error .accessDenied, true =>
        match (← tree).removeFile (pathOf target) with
        | .ok files => place files
        | .error e => complain 1 ("cannot remove " ++ quoted target ++ ": " ++ e.reason)
      | _, _ => place (← tree)

/-- Copy a file that is no directory. -/
def copyFile (m : CopyManner) (source target : String) (origin : Location) (e : Entry) :
    Work Unit := do
  let files ← tree
  let finish : Work Unit := do
    giveWay m.backup target
    if m.kind == .content then copyContent m source target e else copyAsLink m source target e
  match files.place false (pathOf target), files.find (pathOf target) with
  | .error e, _ =>
    complain 1 ((if m.kind == .content then "cannot create regular file "
      else if m.kind == .hardLink then "cannot create hard link " else "cannot create symbolic link ")
      ++ quoted target ++ (if m.kind == .content then "" else " to " ++ quoted source)
      ++ ": " ++ e.reason)
  | .ok ⟨_, none, _⟩, _ =>
    if m.kind == .content then copyContent m source target e else copyAsLink m source target e
  | .ok ⟨l, some (.link _), _⟩, .error .notFound =>
    if m.force || m.removeFirst then
      setTree (files.erase l)
      copyContent m source target e
    else if m.kind == .content then
      complain 1 ("not writing through dangling symlink " ++ quoted target)
    else copyAsLink m source target e
  | _, .error e => complain 1 ("cannot stat " ++ quoted target ++ ": " ++ e.reason)
  | .ok there, .ok (l, found) =>
    if found.isDir then
      complain 1 ("cannot overwrite directory " ++ quoted target ++ " with non-directory"
        ++ if lastName source == lastName target && source != target then
            " " ++ quoted source else "")
    else
      let same := l = origin || FileTree.sameBody e (some found)
      if same && m.kind == .hardLink then pure ()
      else if same && !(m.removeFirst && there.location != origin) && m.backup.isNone then
        complain 1 (quoted source ++ " and " ++ quoted target ++ " are the same file")
      else if m.keepOld then pure ()
      else if m.update && timeOf files e ≤ timeOf files found then pure ()
      else finish

/-- Copy a link as a link. -/
def copyLink (m : CopyManner) (source target : String) (leads : Path) : Work Unit := do
  let files ← tree
  let cannot (e : FileFault) : Work Unit :=
    complain 1 ("cannot create symbolic link " ++ quoted target ++ ": " ++ e.reason)
  match files.place false (pathOf target) with
  | .error e => cannot e
  | .ok ⟨_, some (.dir _ _), _⟩ =>
    complain 1 ("cannot overwrite directory " ++ quoted target ++ " with non-directory")
  | .ok ⟨l, found, _⟩ =>
    if found.isSome && m.keepOld then pure ()
    else if files.mayChange l then
      setTree (files.set l (.link leads))
      sayPair m.verbose source target
    else cannot .accessDenied

/-- Copy an operand; directories are nested at most `n` deep. -/
def copyEntry (m : CopyManner) : Nat → (source target : String) → Work Unit
  | 0, _, _ => pure ()
  | n + 1, source, target => do
    let files ← tree
    let umask := (← read).umask
    match m.keepLinks, files.linkTarget? (pathOf source) with
    | true, some leads => copyLink m source target leads
    | _, _ =>
      match files.find (pathOf source) with
      | .error e => complain 1 ("cannot stat " ++ quoted source ++ ": " ++ e.reason)
      | .ok (l, .dir mode children) =>
        if !m.recursive then
          complain 1 ("-r not specified; omitting directory " ++ quoted source)
        else
          match files.place true (pathOf target) with
          | .error e =>
            complain 1 ("cannot create directory " ++ quoted target ++ ": " ++ e.reason)
          | .ok ⟨there, found, _⟩ =>
            if l.isPrefixOf there && l != there then
              complain 1 ("cannot copy a directory, " ++ quoted source ++ ", into itself, "
                ++ quoted target)
            else if l = there then
              complain 1 (quoted source ++ " and " ++ quoted target ++ " are the same file")
            else if (found.map Entry.isDir).getD true then do
              let final := if m.preserve then mode else Mode.without mode umask
              let refused ← match found with
                | some _ => pure none
                | none => change fun t => t.makeDirAs ⟨final.bits ||| 0o700⟩ (pathOf target)
              match refused with
              | some e =>
                complain 1 ("cannot create directory " ++ quoted target ++ ": " ++ e.reason)
              | none =>
                sayPair (m.verbose && found.isNone) source target
                if !mode.mayRead then
                  complain 1 ("cannot access " ++ quoted source ++ ": "
                    ++ FileFault.accessDenied.reason)
                else
                  children.forM fun child =>
                    copyEntry m n (inside source (raw child.1)) (inside target (raw child.1))
                if found.isNone then setTree ((← tree).setMode there final)
            else
              complain 1 ("cannot overwrite non-directory " ++ quoted target
                ++ " with directory " ++ quoted source)
      | .ok (l, e) => copyFile m source target l e

/-- The deepest nesting of directories that is copied or removed. -/
def deepest : Nat := FileTree.pathLimit

/-- What the name of a file that gives way ends in, as the options say. -/
def backupEnding (o : Options) : Option String :=
  if o.has 'b' || o.has 'S' then some ((o.value? 'S').getD "~") else none

/-- The directories above a path, the outermost first. -/
def dirsAbove (arg : String) : List String :=
  ((FileTree.ancestors (arg.length + 1) (pathOf arg)).drop 1).reverse.map argOf

/-- The tool `cp`. -/
def copyTool : Routine :=
  withOptions
    { flags := "abdfilnpHLPRrsuvxTZVW", valued := "tS", glued := "M"
      long := [("archive", 'a'), ("force", 'f'), ("interactive", 'i'), ("no-clobber", 'n'),
        ("no-dereference", 'P'), ("dereference", 'L'), ("recursive", 'R'), ("verbose", 'v'),
        ("target-directory", 't'), ("no-target-directory", 'T'), ("update", 'u'), ("link", 'l'),
        ("symbolic-link", 's'), ("backup", 'b'), ("suffix", 'S'), ("parents", 'V'),
        ("remove-destination", 'W'), ("preserve", 'M')] } 1 fun o => do
    let recursive := o.has 'r' || o.has 'R' || o.has 'a'
    let lastLinks := o.given.reverse.find? fun x => "LPdaH".toList.contains x.1
    let m : CopyManner :=
      { kind := if o.has 's' then .symbolicLink else if o.has 'l' then .hardLink else .content
        recursive
        force := o.has 'f'
        removeFirst := o.has 'W'
        keepOld := o.has 'n'
        update := o.has 'u'
        keepLinks := match lastLinks with
          | some (c, _) => c != 'L' && c != 'H'
          | none => recursive && !o.has 'l'
        preserve := o.has 'p' || o.has 'a' || o.has 'M'
        backup := backupEnding o
        verbose := o.has 'v' }
    if o.has 'n' then
      warn "warning: behavior of -n is non-portable and may change in future; use --update=none instead"
    if o.has 'V' then
      let dir := o.operands.getLast?.getD ""
      if !(← tree).isDir (pathOf dir) then
        refuse 1 "with --parents, the destination must be a directory"
      else
        o.operands.dropLast.forM fun source => do
          (dirsAbove source).forM fun outer => do
            let _ ← change fun t => t.makeDir (pathOf (inside dir outer))
          copyEntry m deepest source (inside dir source)
    else eachPair (o.value? 't') (o.has 'T') o.operands (copyEntry m deepest)

/-! ### Moving -/

/-- How files are moved. -/
structure MoveManner where
  keepOld : Bool
  update : Bool
  backup : Option String
  verbose : Bool

/-- Move one operand. -/
def moveEntry (m : MoveManner) (source target : String) : Work Unit := do
  let files ← tree
  let s := pathOf source
  let p := pathOf target
  match files.place false s with
  | .error e => complain 1 ("cannot stat " ++ quoted source ++ ": " ++ e.reason)
  | .ok ⟨_, none, _⟩ => complain 1 ("cannot stat " ++ quoted source ++ ": " ++ FileFault.notFound.reason)
  | .ok ⟨l, some e, slashed⟩ =>
    if slashed && !e.isDir then
      complain 1 ("cannot stat " ++ quoted source ++ ": " ++ FileFault.notDirectory.reason)
    else
      let there := (files.place false p).toOption
      let found := there.bind Place.entry
      let same := there.map Place.location == some l || FileTree.sameBody e found
      if !e.isDir && same then
        complain 1 (quoted source ++ " and " ++ quoted target ++ " are the same file")
      else if !e.isDir && (found.map Entry.isDir).getD false then
        complain 1 ("cannot overwrite directory " ++ quoted target ++ " with non-directory "
          ++ quoted source)
      else if e.isDir && !(found.map Entry.isDir).getD true then
        complain 1 ("cannot overwrite non-directory " ++ quoted target ++ " with directory "
          ++ quoted source)
      else if m.keepOld && found.isSome then
        complain 1 ("not replacing " ++ quoted target)
      else if m.update && (found.map fun d => decide (timeOf files e ≤ timeOf files d)).getD false then
        pure ()
      else
        if found.isSome then giveWay m.backup target
        match (← tree).rename s p with
        | .ok files =>
          setTree files
          if m.verbose then
            say ("renamed " ++ quoted source ++ " -> " ++ quoted target
              ++ (match m.backup, found with
                | some ending, some _ => " (backup: " ++ quoted (target ++ ending) ++ ")"
                | _, _ => "") ++ "\n")
        | .error .badArgument =>
          complain 1 ("cannot move " ++ quoted source ++ " to a subdirectory of itself, "
            ++ quoted target)
        | .error .notEmpty =>
          complain 1 ("cannot overwrite " ++ quoted target ++ ": " ++ FileFault.notEmpty.reason)
        | .error e =>
          complain 1 ("cannot move " ++ quoted source ++ " to " ++ quoted target ++ ": "
            ++ e.reason)

/-- The tool `mv`. -/
def moveTool : Routine :=
  withOptions
    { flags := "bfinuvTZ", valued := "tS"
      long := [("force", 'f'), ("interactive", 'i'), ("no-clobber", 'n'), ("verbose", 'v'),
        ("target-directory", 't'), ("no-target-directory", 'T'), ("update", 'u'), ("backup", 'b'),
        ("suffix", 'S')] } 1 fun o =>
    let asked := o.given.reverse.find? fun x => "fin".toList.contains x.1
    let m : MoveManner :=
      { keepOld := (asked.map Prod.fst) == some 'n', update := o.has 'u', backup := backupEnding o
        verbose := o.has 'v' }
    eachPair (o.value? 't') (o.has 'T') o.operands (moveEntry m)

/-! ### Paths whose names need not exist -/

/-- The location that names lead to from a directory, where names that do not exist are kept as they
are; with at most `n` steps. -/
def lenientLocation (files : FileTree) : Nat → List Bytes → List Bytes → Option Location
  | 0, _, _ => none
  | _, trail, [] => some trail.reverse
  | n + 1, trail, name :: rest =>
    if name == [] || name == [dot] then lenientLocation files n trail rest
    else if name == [dot, dot] then lenientLocation files n trail.tail rest
    else
      match files.lookup (trail.reverse ++ [name]) with
      | some (.link target) =>
        lenientLocation files n (if target.isAbsolute then [] else trail)
          (FileTree.stepsOf target ++ rest)
      | _ => lenientLocation files n (name :: trail) rest

/-- The location that a path would have if all its names existed. -/
def lenient (files : FileTree) (p : Path) : Option Location :=
  let steps := FileTree.stepsOf p
  let start := if p.isAbsolute then [] else files.workingDir.reverse
  lenientLocation files (steps.length + 4 * FileTree.pathLimit) start steps

/-- The path from one location to another. -/
def relativePath : (start goal : Location) → String
  | a :: as, b :: bs =>
    if a = b then relativePath as bs else climb (a :: as) (b :: bs)
  | as, bs => climb as bs
where
  /-- Up from one location, then down to the other. -/
  climb (as bs : Location) : String :=
    match as.map (fun _ => "..") ++ bs.map raw with
    | [] => "."
    | names => "/".intercalate names

/-! ### Linking -/

/-- How links are made. -/
structure LinkManner where
  symbolic : Bool
  relative : Bool
  force : Bool
  through : Bool
  backup : Option String
  verbose : Bool

/-- Where a link leads, as it is written into the link. -/
def linkText (files : FileTree) (m : LinkManner) (source target : String) : String :=
  if !m.relative then source
  else
    let dir := match files.place false (pathOf target) with
      | .ok x => some x.location.dropLast
      | .error _ => none
    match dir, lenient files (pathOf source) with
    | some dir, some l => relativePath dir l
    | _, _ => source

/-- Make one link. -/
def linkEntry (m : LinkManner) (source target : String) : Work Unit := do
  let files ← tree
  let text := linkText files m source target
  let cannot (e : FileFault) : Work Unit :=
    complain 1 (if m.symbolic then
        "failed to create symbolic link " ++ quoted target
          ++ (if e = .nameTooLong || text.isEmpty then " -> " ++ quoted text else "")
          ++ ": " ++ e.reason
      else
        "failed to create hard link " ++ quoted target
          ++ (if e = .alreadyExists then "" else " => " ++ quoted source) ++ ": " ++ e.reason)
  let place := files.place m.through (pathOf source)
  let entry : Except FileFault Entry :=
    if m.symbolic then .ok (.link (pathOf text))
    else (place.bind FileTree.existing).map Prod.snd
  match entry with
  | .error e => complain 1 ("failed to access " ++ quoted source ++ ": " ++ e.reason)
  | .ok (.dir _ _) => complain 1 (quotedIfNeeded source ++ ": hard link not allowed for directory")
  | .ok entry =>
    let there := files.place false (pathOf target)
    let found := there.toOption.bind Place.entry
    let same := !m.symbolic && there.toOption.map Place.location == place.toOption.map Place.location
    if (m.force || m.backup.isSome) && (found.map Entry.isDir).getD false then
      complain 1 (quotedIfNeeded target ++ ": cannot overwrite directory")
    else if m.force && same then
      complain 1 (quoted source ++ " and " ++ quoted target ++ " are the same file")
    else
      if found.isSome then giveWay m.backup target
      let files ← tree
      let files := if m.force then (files.removeFile (pathOf target)).toOption.getD files else files
      match if m.symbolic && text.isEmpty then .error .notFound else files.create (pathOf target) entry with
      | .ok files =>
        setTree files
        if m.verbose then
          say (quoted target ++ (if m.symbolic then " -> " else " => ")
            ++ quoted (if m.symbolic then text else source) ++ "\n")
      | .error e => cannot e

/-- The tool `ln`. -/
def linkTool : Routine :=
  withOptions
    { flags := "bdFfiLnPrsTv", valued := "tS"
      long := [("symbolic", 's'), ("force", 'f'), ("no-dereference", 'n'), ("verbose", 'v'),
        ("target-directory", 't'), ("no-target-directory", 'T'), ("relative", 'r'),
        ("logical", 'L'), ("physical", 'P'), ("backup", 'b'), ("suffix", 'S')] } 1 fun o => do
    let m : LinkManner :=
      { symbolic := o.has 's', relative := o.has 'r', force := o.has 'f', through := o.has 'L'
        backup := backupEnding o, verbose := o.has 'v' }
    let files ← tree
    let isLink (arg : String) : Bool := (files.linkTarget? (pathOf arg)).isSome
    if m.relative && !m.symbolic then complain 1 "cannot do --relative without --symbolic"
    else
      match o.value? 't', o.operands with
      | none, [source] =>
        if o.has 'T' then refuse 1 ("missing destination file operand after " ++ quoted source)
        else linkEntry m source (inside "." (lastName source))
      | into, operands =>
        let plain := o.has 'T' || (o.has 'n' && (operands.getLast?.map isLink).getD false)
        eachPair into plain operands (linkEntry m)

/-- The tool `link`. -/
def plainLinkTool : Routine :=
  withOptions {} 1 fun o =>
    match o.operands with
    | [] => refuse 1 "missing operand"
    | [source] => refuse 1 ("missing operand after " ++ quoted source)
    | [source, target] => do
      let fault ← match (← tree).place false (pathOf source) with
        | .error e => pure (some e)
        | .ok ⟨_, none, _⟩ => pure (some .notFound)
        | .ok ⟨_, some (.dir _ _), _⟩ => pure (some .notPermitted)
        | .ok ⟨_, some e, _⟩ => change fun t => t.create (pathOf target) e
      if let some e := fault then
        complain 1 ("cannot create link " ++ quoted target ++ " to " ++ quoted source ++ ": "
          ++ e.reason)
    | _ :: _ :: extra :: _ => refuse 1 ("extra operand " ++ quoted extra)

/-! ### Installing -/

/-- The tool `install`. -/
def installTool : Routine :=
  withOptions
    { flags := "bcCDdpsTvZ", valued := "gmotS"
      long := [("directory", 'd'), ("mode", 'm'), ("target-directory", 't'), ("verbose", 'v'),
        ("no-target-directory", 'T'), ("owner", 'o'), ("group", 'g'), ("preserve-timestamps", 'p')] }
    1 fun o => do
    match modeChange? ((o.value? 'm').getD "755") with
    | none => complain 1 ("invalid mode " ++ quoted ((o.value? 'm').getD ""))
    | some steps =>
      let mode := changedMode steps ⟨0⟩ false ⟨0⟩
      let makeAll (dirs : List String) : Work Unit :=
        dirs.forM fun dir => do
          if !(← tree).isDir (pathOf dir) then
            match ← change fun t => t.makeDirAs .program (pathOf dir) with
            | none =>
              if o.has 'v' then say ("install: creating directory " ++ quoted dir ++ "\n")
            | some e => complain 1 ("cannot create directory " ++ quoted dir ++ ": " ++ e.reason)
      let finish (target : String) : Work Unit := do
        if let .ok (l, _) := (← tree).find (pathOf target) then
          setTree ((← tree).setMode l mode)
      if o.has 'd' then
        needOperands o 1 "file operand" do
          o.operands.forM fun arg => do
            makeAll (dirsAbove arg ++ [arg])
            finish arg
      else
        if o.has 'D' && o.operands.length == 2 then makeAll (dirsAbove (o.operands.getD 1 ""))
        if let some dir := o.value? 't' then
          if o.has 'D' then makeAll (dirsAbove dir ++ [dir])
        let m : CopyManner :=
          { removeFirst := true, backup := backupEnding o, verbose := o.has 'v' }
        eachPair (o.value? 't') (o.has 'T') o.operands fun source target => do
          let before := (← get).status
          match (← tree).find (pathOf source) with
          | .ok (_, .dir _ _) => complain 1 ("omitting directory " ++ quoted source)
          | _ =>
            copyEntry m deepest source target
            if (← get).status == before then finish target

end ShaderBuild.Tool
