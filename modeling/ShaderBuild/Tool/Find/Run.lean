import ShaderBuild.Tool.Arguments
import ShaderBuild.Tool.Find.Expression
import ShaderBuild.Tool.Listing
import ShaderBuild.Tool.Names
import ShaderBuild.Tool.Search

/-! # Finding files

`find` goes through directories and asks its expression about each file.  Programs that are started
once with all files are started at the end. -/

namespace ShaderBuild.Tool.Find

open Shell (Glob Sign)

/-- A file on the way. -/
structure Sight where
  path : String
  /-- The path that the way began with. -/
  start : String
  depth : Nat
  /-- What the file counts as, and what it is if links are followed where they are not, or not
  followed where they are. -/
  entry : Entry
  other : Entry

/-- What is known on the way. -/
structure Journey where
  /-- The paths for the programs that are started at the end, latest first. -/
  gathered : List (Nat × String) := []
  /-- Do not go into the directory. -/
  skips : Bool := false
  finished : Bool := false

/-- A step on the way. -/
abbrev Hunt := StateT Journey Work

/-! ### Traits -/

/-- The letter for what an entry is. -/
def letterOf : Entry → Char
  | .dir _ _ => 'd'
  | .file _ => 'f'
  | .link _ => 'l'
  | .device _ => 'c'

/-- Whether a pattern matches a text. -/
def fits (anyCase : Bool) (pattern : List Sign) (text : String) : Bool :=
  if anyCase then Glob.matchesAnyCase pattern false text.toList
  else Glob.matches (Glob.ofSigns false pattern) text.toList

/-- A number of nanoseconds as a number of units, of which `part` says whether a part counts. -/
def inUnits (nanoseconds unit : Nat) (part : Bool) : Nat :=
  nanoseconds / (unit * nanosPerSecond) + if part then 1 else 0

/-- Whether a file has a trait. -/
def Trait.holds (files : FileTree) (s : Sight) : Trait → Bool
  | .always holds => holds
  | .name anyCase pattern => fits anyCase pattern (lastName s.path)
  | .path anyCase pattern => fits anyCase pattern s.path
  | .target anyCase pattern =>
    match s.entry with
    | .link leads => fits anyCase pattern (argOf leads)
    | _ => false
  | .spelled anyCase r => lineMatches [r] { anyCase } .wholeLine s.path.toList
  | .kind letters other => letters.contains (letterOf (if other then s.other else s.entry))
  | .empty =>
    match s.entry with
    | .dir _ children => children.isEmpty
    | .file n => sizeOf files (.file n) == 0
    | _ => false
  | .size unit a => a.admits ((sizeOf files s.entry + unit - 1) / unit)
  | .days a => a.admits (inUnits (files.clock - timeOf files s.entry) 86400 false)
  | .minutes a =>
    let age := files.clock - timeOf files s.entry
    match a with
    | .below n => age < n * 60 * nanosPerSecond
    | a => a.admits (inUnits age 60 true)
  | .changedAfter time => time < timeOf files s.entry
  | .sameAs arg => areSame files arg s.path
  | .links a => a.admits (linkCount files s.entry)
  | .rights how bits =>
    let mode := (files.modeOf s.entry).bits
    match how with
    | none => mode == bits
    | some '-' => mode &&& bits == bits
    | some _ => bits == 0 || mode &&& bits != 0
  | .allows bit => (files.modeOf s.entry).bits.testBit bit

/-! ### Formats -/

/-- The path below the one that the way began with. -/
def Sight.below (s : Sight) : String :=
  String.ofList ((s.path.toList.drop s.start.length).dropWhile (· == '/'))

/-- The part of a path before its last slash. -/
def Sight.dir (s : Sight) : String :=
  let cs := s.path.toList
  if !cs.contains '/' then "."
  else String.ofList (cs.reverse.dropWhile (· != '/')).tail.reverse

/-- What a letter of a format stands for; none if it stands for nothing. -/
def Sight.field? (files : FileTree) (s : Sight) (c : Char) : Option String :=
  match c with
  | 'p' => some s.path
  | 'f' => some (lastName s.path)
  | 'h' => some s.dir
  | 'P' => some s.below
  | 'H' => some s.start
  | 'd' => some (Nat.repr s.depth)
  | 'y' => some (letterOf s.entry).toString
  | 'Y' => some (letterOf s.other).toString
  | 'm' => some (String.ofList (Nat.toDigits 8 (files.modeOf s.entry).bits))
  | 'M' => some (kindLetter s.entry ++ modeLetters (files.modeOf s.entry))
  | 's' => some (Nat.repr (sizeOf files s.entry))
  | 'u' | 'g' => some "root"
  | 'U' | 'G' => some "0"
  | 'n' => some (Nat.repr (linkCount files s.entry))
  | 'k' => some (Nat.repr (spaceOf files s.entry))
  | 'b' => some (Nat.repr (2 * spaceOf files s.entry))
  | 'i' | 'D' => some "1"
  | 'l' =>
    match s.entry with
    | .link target => some (argOf target)
    | _ => some ""
  | 't' | 'a' | 'c' =>
    let time := timeOf files s.entry
    some (formatDate (time / nanosPerSecond : Nat) (time % nanosPerSecond) "%a %b %e %H:%M:%S.%N0 %Y".toList)
  | _ => none

/-- The time of a file as a letter asks for it. -/
def Sight.time (files : FileTree) (s : Sight) (c : Char) : String :=
  let time := timeOf files s.entry
  let format := match c with
    | '@' => "%s.%N0"
    | 'S' => "%S.%N0"
    | 'T' => "%T.%N0"
    | 'X' => "%T.%N0"
    | '+' => "%Y-%m-%d+%T.%N0"
    | c => String.ofList ['%', c]
  formatDate (time / nanosPerSecond : Nat) (time % nanosPerSecond) format.toList

/-- What an escape of a format stands for, and what follows it; none if it is no escape. -/
def formatEscape? : List Char → Option (List Char × List Char)
  | 'a' :: cs => some ([Char.ofNat 7], cs)
  | 'b' :: cs => some ([Char.ofNat 8], cs)
  | 'f' :: cs => some ([Char.ofNat 12], cs)
  | 'n' :: cs => some (['\n'], cs)
  | 'r' :: cs => some (['\r'], cs)
  | 't' :: cs => some (['\t'], cs)
  | 'v' :: cs => some ([Char.ofNat 11], cs)
  | '\\' :: cs => some (['\\'], cs)
  | cs =>
    match (cs.take 3).takeWhile isOctal with
    | [] => none
    | digits => some ([Char.ofNat (octalNumber digits % 256)], cs.drop digits.length)

/-- Show a file as a format says; `n` bounds the length. -/
def Sight.show (s : Sight) : Nat → List Char → Work Unit
  | 0, _ | _, [] => pure ()
  | n + 1, '\\' :: cs =>
    match cs with
    | 'c' :: _ => pure ()
    | _ =>
      match formatEscape? cs with
      | some (found, rest) => do
        say (String.ofList found)
        s.show n rest
      | none => do
        say "\\"
        s.show n cs
  | n + 1, '%' :: '%' :: cs => do
    say "%"
    s.show n cs
  | n + 1, '%' :: cs => do
    let files ← tree
    let flags := cs.takeWhile fun c => "-0 +#".toList.contains c
    let width := (cs.drop flags.length).takeWhile Char.isDigit
    let room := (digitsNumber? width).getD 0
    let put (field : String) : Work Unit :=
      say (if flags.contains '-' then atLeft room field
        else if flags.contains '0' && field.toList.all Char.isDigit then
          String.ofList (List.replicate (room - field.length) '0') ++ field
        else atRight room field)
    match cs.drop (flags.length + width.length) with
    | [] => pure ()
    | c :: rest =>
      match rest with
      | d :: rest' =>
        if c == 'T' || c == 'A' || c == 'C' then do
          put (s.time files d)
          s.show n rest'
        else do
          match s.field? files c with
          | some field => put field
          | none => say (String.ofList ['%', c])
          s.show n rest
      | [] =>
        match s.field? files c with
        | some field => put field
        | none => say (String.ofList ['%', c])
  | n + 1, c :: cs => do
    say c.toString
    s.show n cs

/-! ### Deeds -/

/-- Start a program; whether it ended well. -/
def started (words : List String) : Work Bool := do
  match words with
  | [] => return false
  | program :: args =>
    match ← startProgram program args .empty with
    | .ok (.exited code) => return code == 0
    | .ok _ => return false
    | .error e =>
      warn (quoted program ++ ": " ++ e.reason)
      return false

/-- Words with a path in each place that is marked for it. -/
def filled (path : String) (words : List String) : List String :=
  words.map fun w =>
    String.ofList (filledIn ['\x7b', '\x7d'] path.toList (w.length + 1) w.toList)

/-- Do something with a file; whether that succeeded. -/
def Deed.run (s : Sight) : Deed → Hunt Bool
  | .print ending => do
    say (s.path ++ ending)
    return true
  | .format text => do
    s.show (text.length + 1) text.toList
    return true
  | .start words inDir => do
    if inDir then
      let before ← tree
      match before.find (pathOf s.dir) with
      | .ok (dir, _) =>
        setTree { before with workingDir := dir }
        let done ← started (filled ("./" ++ lastName s.path) words)
        setTree { (← tree : FileTree) with workingDir := before.workingDir }
        return done
      | .error _ => return false
    else started (filled s.path words)
  | .gather number _ => do
    modify fun j => { j with gathered := (number, s.path) :: j.gathered }
    return true
  | .delete => do
    if s.path == "." then return true
    else
      let remove (files : FileTree) : Except FileFault FileTree :=
        if s.entry.isDir then files.removeDir (pathOf s.path) else files.removeFile (pathOf s.path)
      match ← change remove with
      | none => return true
      | some e =>
        complain 1 ("cannot delete " ++ quoted s.path ++ ": " ++ e.reason)
        return false
  | .prune => do
    modify fun j => { j with skips := true }
    return true
  | .quit => do
    modify fun j => { j with finished := true }
    return true

/-- Ask an expression about a file. -/
def Goal.ask (s : Sight) : Goal → Hunt Bool
  | .trait t => return t.holds (← tree) s
  | .deed d => d.run s
  | .not g => return !(← g.ask s)
  | .both g h => do
    if (← g.ask s) && !(← get).finished then h.ask s else return false
  | .either g h => do
    if (← g.ask s) || (← get).finished then return true else h.ask s
  | .series g h => do
    let _ ← g.ask s
    if (← get).finished then return true else h.ask s

/-- The programs that are started once with all files. -/
def Goal.gatherings : Goal → List (Nat × List String)
  | .deed (.gather number words) => [(number, words)]
  | .trait _ | .deed _ => []
  | .not g => g.gatherings
  | .both g h | .either g h | .series g h => g.gatherings ++ h.gatherings

/-! ### The way -/

/-- What a path names, as it counts and otherwise. -/
def looked (files : FileTree) (through : Bool) (path : String) :
    Except FileFault (Location × Entry × Entry) := do
  let arg := pathOf path
  let through := through || path.endsWith "/"
  let (place, itself) ← (files.place (path.endsWith "/") arg).bind FileTree.existing
  match files.find arg with
  | .ok (l, e) => return if through then (l, e, itself) else (place, itself, e)
  | .error _ => return (place, itself, itself)

/-- Go to a path and, if it is a directory, through it, nested at most `n` deep; `above` are the
directories on the way to it. -/
def visit (r : Request) : Nat → (start : String) → (depth : Nat) → (above : List (Location × String)) →
    (path : String) → Hunt Unit
  | 0, _, _, _, _ => pure ()
  | n + 1, start, depth, above, path => do
    if (← get).finished then return ()
    let through := if depth = 0 then r.walk.followsNamed else r.walk.follows
    match looked (← tree) through path with
    | .error e => complain 1 (quoted path ++ ": " ++ e.reason)
    | .ok (l, entry, other) =>
      match if entry.isDir then above.lookup l else none with
      | some first =>
        complain 1 ("File system loop detected; " ++ quoted path
          ++ " is part of the same file system loop as " ++ quoted first ++ ".")
      | none =>
        let s : Sight := { path, start, depth, entry, other }
        modify fun j => { j with skips := false }
        if r.walk.least ≤ depth && !r.walk.childrenFirst then
          let _ ← r.goal.ask s
        let skips := (← get).skips && !r.walk.childrenFirst
        if entry.isDir && !skips && !(← get).finished && r.walk.most.all (depth < ·) then
          match looked (← tree) through path with
          | .error e => complain 1 (quoted path ++ ": " ++ e.reason)
          | .ok (_, entry, _) =>
            if !((← tree).modeOf entry).mayRead then
              complain 1 (quoted path ++ ": " ++ FileFault.accessDenied.reason)
            else
              entry.children.forM fun child =>
                visit r n start (depth + 1) ((l, path) :: above) (inside path (raw child.1))
        if r.walk.least ≤ depth && r.walk.childrenFirst && !(← get).finished then
          let _ ← r.goal.ask s

/-- The tool `find`. -/
def findTool : Routine := do
  match Request.read (← tree) (← read).args with
  | .error text => complain 1 text
  | .ok r =>
    let ((), j) ← (r.paths.forM fun path => visit r deepest path 0 [] path : Hunt Unit).run {}
    r.goal.gatherings.forM fun (number, words) => do
      let paths := (j.gathered.filter fun x => x.1 == number).reverse.map Prod.snd
      if !paths.isEmpty then
        if !(← started (words ++ paths)) then fail 1

end ShaderBuild.Tool.Find
