import ShaderBuild.Tool.Lines

/-! # Listing files

`ls` lists the names in directories, and `stat` shows what is known about a file in a format that
the caller gives. -/

namespace ShaderBuild.Tool

/-! ### What is shown -/

/-- A name to be listed, where it is found, and what it names. -/
structure Listed where
  name : String
  path : String
  entry : Entry

/-- How directories are listed. -/
structure ListManner where
  all : Bool
  almostAll : Bool
  plainDirs : Bool
  /-- `F` marks what a name is, `p` marks directories only. -/
  mark : Option Char
  recursive : Bool
  /-- Whether links are followed. -/
  through : Bool
  /-- `l`, `m`, `C`, `x` or `1`. -/
  format : Char
  long : List Char
  /-- `t`, `S`, `U` or none. -/
  order : Option Char
  backwards : Bool
  quotes : Bool
  /-- Whether characters that cannot be shown, and blanks, are escaped. -/
  escapes : Bool

/-- The number of names that an entry has. -/
def linkCount (files : FileTree) : Entry → Nat
  | .file n =>
    ((files.below []).filter fun x => match x.2 with
      | .file m => m == n
      | _ => false).length
  | .dir _ children => 2 + (children.filter fun x => x.2.isDir).length
  | _ => 1

/-- The letter for the kind of an entry. -/
def kindLetter : Entry → String
  | .dir _ _ => "d"
  | .file _ => "-"
  | .link _ => "l"
  | .device _ => "c"

/-- What is written after a name to say what it is. -/
def kindMark (files : FileTree) (m : ListManner) (e : Entry) : String :=
  match m.mark, e with
  | none, _ => ""
  | some _, .dir _ _ => "/"
  | some 'F', .link _ => "@"
  | some 'F', .file n => if (files.modeOf (.file n)).bits &&& 0o111 == 0 then "" else "*"
  | _, _ => ""

/-- The text that shows a name. -/
def Listed.text (files : FileTree) (m : ListManner) (x : Listed) : String :=
  let name := if m.escapes then
      String.join (x.name.toList.map fun c =>
        if c == ' ' || c == '\\' then String.ofList ['\\', c]
        else if isShown c then c.toString else escaped c)
    else x.name
  (if m.quotes then "\"" ++ name ++ "\"" else name) ++ kindMark files m x.entry

/-- The names in the order that was asked for. -/
def ordered (files : FileTree) (m : ListManner) (xs : List Listed) : List Listed :=
  let byName (a b : Listed) : Ordering := List.compareLex compare (unraw a.name) (unraw b.name)
  let order (a b : Listed) : Ordering := match m.order with
    | some 't' => (compare (timeOf files b.entry) (timeOf files a.entry)).then (byName a b)
    | some 'S' => (compare (sizeOf files b.entry) (sizeOf files a.entry)).then (byName a b)
    | some 'U' => .eq
    | _ => byName a b
  let sorted := xs.mergeSort fun a b => (order a b).isLE
  if m.backwards then sorted.reverse else sorted

/-! ### Formats -/

/-- The most characters of a line of names. -/
def lineWidth : Nat := 80

/-- Names with commas between them, in lines of limited length. -/
def commaLines (texts : List String) : String :=
  let (out, _) := texts.foldl (fun (out, position) text =>
    match position with
    | none => (text, some text.length)
    | some n =>
      if n + text.length + 2 < lineWidth then (out ++ ", " ++ text, some (n + 2 + text.length))
      else (out ++ ",\n" ++ text, some text.length)) (("", none) : String × Option Nat)
  if texts.isEmpty then "" else out ++ "\n"

/-- Blanks and tabs from one column to another. -/
def indentation : Nat → Nat → Nat → List Char
  | 0, _, _ => []
  | n + 1, column, goal =>
    if column < goal then
      if (column + 1) / 8 < goal / 8 then '\t' :: indentation n (column + 8 - column % 8) goal
      else ' ' :: indentation n (column + 1) goal
    else []

/-- Names in columns, filled downwards or across. -/
def columnLines (across : Bool) (texts : List String) : String :=
  let count := texts.length
  let rowsFor (columns : Nat) : Nat := (count + columns - 1) / columns
  let index (columns i : Nat) : Nat := if across then i % columns else i / rowsFor columns
  let widths (columns : Nat) : List Nat :=
    (List.range columns).map fun c =>
      (texts.zipIdx.filterMap fun x =>
        if index columns x.2 == c then
          some (x.1.length + if c + 1 == columns then 0 else 2)
        else none).foldl max 0
  let fits (columns : Nat) : Bool := decide ((widths columns).foldl (· + ·) 0 < lineWidth)
  let columns := ((List.range count).reverse.find? fun c => fits (c + 1)).map (· + 1) |>.getD 1
  let ws := widths columns
  let rows := rowsFor columns
  String.join ((List.range rows).map fun r =>
    let cells := (List.range columns).filterMap fun c =>
      (texts[if across then r * columns + c else c * rows + r]?).map fun t => (t, c)
    let line := cells.foldl (fun (out, position, start) cell =>
      let gap := String.ofList (indentation lineWidth position start)
      (out ++ gap ++ cell.1, start + cell.1.length, start + ws.getD cell.2 0))
      (("", 0, 0) : String × Nat × Nat)
    line.1 ++ "\n")

/-- The units of space that an entry takes. -/
def spaceOf (files : FileTree) : Entry → Nat
  | .file n => (sizeOf files (.file n) + 4095) / 4096 * 4
  | .dir _ _ => 4
  | _ => 0

/-- Long lines, one for each name. -/
def longLines (files : FileTree) (m : ListManner) (xs : List Listed) : String :=
  let owner := if m.long.contains 'n' then "0" else "root"
  let rows := xs.map fun x =>
    let t := timeOf files x.entry
    let s : Int := (t / nanosPerSecond : Nat)
    let old := (files.clock - t) / nanosPerSecond > 15778476
    let date := formatDate s 0 (if old then "%b %e  %Y" else "%b %e %H:%M").toList
    let target := match x.entry with
      | .link p => " -> " ++ argOf p
      | _ => ""
    (kindLetter x.entry ++ modeLetters (files.modeOf x.entry), Nat.repr (linkCount files x.entry),
      Nat.repr (sizeOf files x.entry), date, x.text files { m with mark := none } ++ target)
  let width (f : String × String × String × String × String → String) : Nat :=
    (rows.map fun r => (f r).length).foldl max 0
  let links := width fun r => r.2.1
  let sizes := width fun r => r.2.2.1
  String.join (rows.map fun (mode, count, size, date, name) =>
    " ".intercalate ([mode, atRight links count]
      ++ (if m.long.contains 'g' then [] else [owner])
      ++ (if m.long.contains 'o' then [] else [owner])
      ++ [atRight sizes size, date, name]) ++ "\n")

/-- The lines that names are listed in. -/
def listLines (files : FileTree) (m : ListManner) (inDir : Bool) (xs : List Listed) : String :=
  let xs := ordered files m xs
  let texts := xs.map (Listed.text files m)
  match m.format with
  | 'l' =>
    (if inDir then
      "total " ++ Nat.repr ((xs.map fun x => spaceOf files x.entry).foldl (· + ·) 0) ++ "\n" else "")
      ++ longLines files m xs
  | 'm' => commaLines texts
  | 'C' => if texts.isEmpty then "" else columnLines false texts
  | 'x' => if texts.isEmpty then "" else columnLines true texts
  | _ => String.join (texts.map (· ++ "\n"))

/-! ### Directories -/

/-- What a name in a directory is listed as. -/
def listedIn (files : FileTree) (m : ListManner) (dir name : String) (e : Entry) : Listed :=
  let path := inside dir name
  let entry := if m.through then ((files.find (pathOf path)).toOption.map Prod.snd).getD e else e
  ⟨name, path, entry⟩

/-- The names in a directory that are to be listed. -/
def listedNames (files : FileTree) (m : ListManner) (dir : String) (children : Directory) : List Listed :=
  let names := children.map fun x => listedIn files m dir (raw x.1) x.2
  let names := if m.all || m.almostAll then names else names.filter fun x => !x.name.startsWith "."
  if m.all then
    [".", ".."].map (fun n => ⟨n, inside dir n, .dir .program []⟩) ++ names
  else names

/-- List a directory and, if asked, those below it; nested at most `n` deep.  `first` says that
nothing was printed before. -/
def listDir (m : ListManner) (titled : Bool) : Nat → Bool → String → Entry → Work Unit
  | 0, _, _, _ => pure ()
  | n + 1, first, path, e => do
    let files ← tree
    if !(files.modeOf e).mayRead then
      complain 2 ("cannot open directory " ++ quoted path ++ ": " ++ FileFault.accessDenied.reason)
    else
      let names := listedNames files m path e.children
      if !first then say "\n"
      if titled then say (path ++ ":\n")
      say (listLines files m true names)
      if m.recursive then
        (ordered files m names).forM fun x => do
          if x.entry.isDir && x.name != "." && x.name != ".." then
            listDir m titled n false x.path x.entry

/-- How `ls` is to list, as the options say. -/
def listManner (o : Options) : ListManner :=
  let last (letters : String) : Option Char :=
    (o.given.reverse.find? fun x => letters.toList.contains x.1).map Prod.fst
  { all := o.has 'a' || o.has 'f', almostAll := o.has 'A', plainDirs := o.has 'd'
    mark := last "Fp", recursive := o.has 'R' && !o.has 'd', through := o.has 'L'
    format := match last "lgonmCx1" with
      | some c => if "lgon".toList.contains c then 'l' else c
      | none => '1'
    long := o.given.map Prod.fst
    order := match last "tSUf" with
      | some 'f' => some 'U'
      | found => found
    backwards := o.has 'r', quotes := o.has 'Q', escapes := o.has 'b' }

/-- The tool `ls`; the letters are options that are always given. -/
def listTool (letters : List Char) : Routine :=
  withOptions
    { flags := "1aAbBcCdDfFgGhHiklLmnNopqQrRsStuUvxXZ", valued := "IwT", glued := "K"
      long := [("all", 'a'), ("almost-all", 'A'), ("directory", 'd'), ("classify", 'F'),
        ("recursive", 'R'), ("reverse", 'r'), ("color", 'K'), ("dereference", 'L'),
        ("quote-name", 'Q'), ("human-readable", 'h'), ("inode", 'i'), ("size", 's')] } 2 fun o => do
    let o := { o with given := letters.map (fun c => (c, "")) ++ o.given }
    let m := listManner o
    let files ← tree
    let operands := if o.operands.isEmpty then ["."] else o.operands
    let follows := m.through || o.has 'H'
      || !(m.plainDirs || m.mark == some 'F' || m.format == 'l')
    let found ← operands.filterMapM fun arg => do
      let itself := (files.place false (pathOf arg)).bind FileTree.existing
      match if follows then files.find (pathOf arg) else itself, itself with
      | .ok (_, e), .ok (_, own) =>
        return some (Listed.mk arg arg (if e.isDir || m.through then e else own))
      | .error _, .ok (_, own) => return some ⟨arg, arg, own⟩
      | _, .error e =>
        complain 2 ("cannot access " ++ quoted arg ++ ": " ++ e.reason)
        return none
    let isDir (x : Listed) : Bool := !m.plainDirs && x.entry.isDir
    let plain := found.filter fun x => !isDir x
    let dirs := ordered files m (found.filter isDir)
    say (listLines files m false plain)
    let titled := 1 < operands.length || m.recursive
    let _ ← dirs.foldlM (fun first x => do
      listDir m titled deepest first x.path x.entry
      return false) plain.isEmpty

/-! ### What is known about a file -/

/-- What a file is called. -/
def kindName (files : FileTree) : Entry → String
  | .dir _ _ => "directory"
  | .file n => if sizeOf files (.file n) == 0 then "regular empty file" else "regular file"
  | .link _ => "symbolic link"
  | .device _ => "character special file"

/-- What a letter of a format stands for. -/
def statField (files : FileTree) (arg : String) (e : Entry) (letter : Char) : String :=
  let mode := files.modeOf e
  let time := timeOf files e
  let seconds : Int := (time / nanosPerSecond : Nat)
  match letter with
  | 'n' => arg
  | 'N' =>
    quoted arg ++ match e with
      | .link p => " -> " ++ quoted (argOf p)
      | _ => ""
  | 's' => Nat.repr (sizeOf files e)
  | 'F' => kindName files e
  | 'a' => String.ofList (Nat.toDigits 8 mode.bits)
  | 'A' => kindLetter e ++ modeLetters mode
  | 'h' => Nat.repr (linkCount files e)
  | 'u' | 'g' => "0"
  | 'U' | 'G' => "root"
  | 'b' => Nat.repr (2 * spaceOf files e)
  | 'B' => "512"
  | 'o' => "4096"
  | 'Y' | 'X' | 'Z' => toString seconds
  | 'y' | 'x' | 'z' => formatDate seconds (time % nanosPerSecond) "%Y-%m-%d %H:%M:%S.%N %z".toList
  | 'W' => "0"
  | 'w' => "-"
  | 'f' =>
    let kind := match e with
      | .dir _ _ => 0o040000
      | .file _ => 0o100000
      | .link _ => 0o120000
      | .device _ => 0o020000
    String.ofList (Nat.toDigits 16 (kind + mode.bits))
  | 'i' | 'd' => "1"
  | 't' | 'T' => "0"
  | '%' => "%"
  | _ => "?"

/-- What a format shows of a file; with escapes if asked for. -/
def statText (files : FileTree) (arg : String) (e : Entry) (escapes : Bool) : Nat → List Char → String
  | 0, _ | _, [] => ""
  | n + 1, '%' :: rest =>
    let isFlag (c : Char) : Bool := "#-+ 0'".toList.contains c
    let flags := rest.takeWhile isFlag
    let width := (rest.dropWhile isFlag).takeWhile Char.isDigit
    match rest.drop (flags.length + width.length) with
    | [] => "%"
    | c :: rest =>
      let room := (digitsNumber? width).getD 0
      let field := statField files arg e c
      (if flags.contains '-' then atLeft room field
        else if flags.contains '0' then
          String.ofList (List.replicate (room - field.length) '0') ++ field
        else atRight room field) ++ statText files arg e escapes n rest
  | n + 1, '\\' :: rest =>
    if escapes then
      let (c, rest) := escape rest
      c.toString ++ statText files arg e escapes n rest
    else "\\" ++ statText files arg e escapes n rest
  | n + 1, c :: rest => c.toString ++ statText files arg e escapes n rest

/-- What `stat` shows without a format. -/
def statDefault : String :=
  "  File: %N\n  Size: %-10s\tBlocks: %-10b IO Block: %-6o %F\n"
    ++ "Device: 0,1\tInode: %-11i Links: %h\n"
    ++ "Access: (%04a/%10A)  Uid: (%5u/%8U)   Gid: (%5g/%8G)\n"
    ++ "Access: %x\nModify: %y\nChange: %z\n Birth: %w"

/-- The tool `stat`. -/
def statTool : Routine :=
  withOptions
    { flags := "Lft", valued := "cP"
      long := [("format", 'c'), ("printf", 'P'), ("dereference", 'L'), ("terse", 't')] } 1 fun o =>
    needOperands o 1 "operand" do
      o.operands.forM fun arg => do
        let files ← tree
        match (files.place (o.has 'L') (pathOf arg)).bind FileTree.existing with
        | .error e => complain 1 ("cannot statx " ++ quoted arg ++ ": " ++ e.reason)
        | .ok (_, e) =>
          match o.value? 'P', o.value? 'c' with
          | some format, _ => say (statText files arg e true (format.length + 1) format.toList)
          | none, format =>
            let format := format.getD statDefault
            say (statText files arg e false (format.length + 1) format.toList ++ "\n")

end ShaderBuild.Tool
