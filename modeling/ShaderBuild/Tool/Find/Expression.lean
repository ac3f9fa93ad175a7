import ShaderBuild.Shell.Pattern
import ShaderBuild.Tool.Condition
import ShaderBuild.Tool.Moment
import ShaderBuild.Tool.Permission
import ShaderBuild.Tool.Regex

/-! # Expressions about files

`find` walks through directories and asks an expression about each file on the way.  An expression
joins traits of the file and deeds, which are done when the expression gets to them.  It is read in
two stages: arguments make signs, and signs make an expression. -/

namespace ShaderBuild.Tool.Find

open Shell (Sign)

/-! ### Expressions -/

/-- An amount that is asked for. -/
inductive Amount where
  | exactly (n : Nat)
  | above (n : Nat)
  | below (n : Nat)
deriving DecidableEq, Repr

/-- A trait of a file. -/
inductive Trait where
  | always (holds : Bool)
  | name (anyCase : Bool) (pattern : List Sign)
  | path (anyCase : Bool) (pattern : List Sign)
  /-- The target of a link. -/
  | target (anyCase : Bool) (pattern : List Sign)
  /-- The path as a whole. -/
  | spelled (anyCase : Bool) (r : Regex)
  /-- What it is; `other` says that links count as what they lead to where they do not otherwise. -/
  | kind (letters : List Char) (other : Bool)
  | empty
  /-- The size in units, of which a part counts as a whole one. -/
  | size (unit : Nat) (a : Amount)
  | days (a : Amount)
  | minutes (a : Amount)
  | changedAfter (time : Nat)
  | sameAs (path : String)
  | links (a : Amount)
  /-- Its mode has exactly these bits, `-` all of them, or `/` any of them. -/
  | rights (how : Option Char) (bits : Nat)
  /-- Its owner may do what this bit stands for. -/
  | allows (bit : Nat)

/-- What is done with a file. -/
inductive Deed where
  | print (ending : String)
  | format (text : String)
  /-- Start a program, perhaps in the directory of the file; whether it ends well. -/
  | start (words : List String) (inDir : Bool)
  /-- Start a program once with all files; `number` tells such deeds apart. -/
  | gather (number : Nat) (words : List String)
  | delete
  /-- Do not go into the directory. -/
  | prune
  | quit

/-- An expression. -/
inductive Goal where
  | trait (t : Trait)
  | deed (d : Deed)
  | not (g : Goal)
  | both (g h : Goal)
  | either (g h : Goal)
  | series (g h : Goal)

/-- How directories are walked through. -/
structure Walk where
  least : Nat := 0
  most : Option Nat := none
  childrenFirst : Bool := false
  extended : Bool := false
  /-- Whether links are followed where they are named, and elsewhere. -/
  followsNamed : Bool := false
  follows : Bool := false

/-! ### Amounts -/

/-- Whether an amount is as asked for. -/
def Amount.admits (a : Amount) (n : Nat) : Bool :=
  match a with
  | .exactly m => n == m
  | .above m => m < n
  | .below m => n < m

/-- The amount that a text asks for. -/
def Amount.ofText? (cs : List Char) : Option Amount :=
  match cs with
  | '+' :: cs => (digitsNumber? cs).map .above
  | '-' :: cs => (digitsNumber? cs).map .below
  | cs => (digitsNumber? cs).map .exactly

/-! ### Signs -/

/-- A sign of an expression. -/
inductive Token where
  | leaf (g : Goal)
  | opened
  | closed
  | not
  | both (spelling : String)
  | either (spelling : String)
  | series

/-- What arguments say. -/
structure Reading where
  /-- The signs, latest first. -/
  tokens : List Token := []
  walk : Walk := {}
  /-- Whether something is done with the files. -/
  acts : Bool := false

/-- The pattern that a text spells, in which a backslash quotes. -/
def patternOf : List Char → List Sign
  | '\\' :: c :: cs => ⟨c, true⟩ :: patternOf cs
  | c :: cs => ⟨c, false⟩ :: patternOf cs
  | [] => []

/-- An expression of the plain flavour in which `+` and `?` are operators, as one in which they are
not. -/
def withOperators : (inSet : Bool) → List Char → List Char
  | _, [] => []
  | true, ']' :: cs => ']' :: withOperators false cs
  | true, c :: cs => c :: withOperators true cs
  | false, '\\' :: c :: cs =>
    if c == '+' || c == '?' then c :: withOperators false cs
    else if c == '\x7b' then c :: withOperators false cs
    else '\\' :: c :: withOperators false cs
  | false, '[' :: ']' :: cs => '[' :: ']' :: withOperators true cs
  | false, '[' :: cs => '[' :: withOperators true cs
  | false, c :: cs =>
    if c == '+' || c == '?' then '\\' :: c :: withOperators false cs
    else c :: withOperators false cs

/-- The number of bytes in the unit that a letter stands for. -/
def unitOf? (c : Char) : Option Nat :=
  match c with
  | 'b' => some 512
  | 'c' => some 1
  | 'w' => some 2
  | 'k' => some 1024
  | 'M' => some (Nat.pow 1024 2)
  | 'G' => some (Nat.pow 1024 3)
  | _ => none

/-- The size that a text asks for. -/
def readSize (text : String) : Except String Trait :=
  match text.toList.getLast? with
  | none => .error "invalid null argument to -size"
  | some c =>
    let (unit, cs) := if c.isDigit then (some 512, text.toList) else (unitOf? c, text.toList.dropLast)
    match unit with
    | none => .error ("invalid -size type \x60" ++ c.toString ++ "'")
    | some unit =>
      match Amount.ofText? cs with
      | some a => .ok (.size unit a)
      | none => .error ("Invalid argument \x60" ++ text ++ "' to -size")

/-- The rights that a text asks for. -/
def readRights (text : String) : Except String Trait :=
  let (how, cs) : Option Char × List Char := match text.toList with
    | '-' :: cs => (some '-', cs)
    | '/' :: cs => (some '/', cs)
    | cs => (none, cs)
  match modeChange? (String.ofList cs) with
  | some steps => .ok (.rights how (changedMode steps ⟨0⟩ false ⟨0⟩).bits)
  | none => .error ("invalid mode " ++ quoted text)

/-- The kinds that a text lists. -/
def readKinds (option text : String) (other : Bool) : Except String Trait :=
  let listed := pieces (· == ',') text.toList
  match listed.find? fun cs => cs.length != 1 || !"bcdpflsD".toList.contains (cs.headD ' ') with
  | none => .ok (.kind listed.flatten other)
  | some [] =>
    .error ("Last file type in list argument to " ++ option
      ++ " is missing, i.e., list is ending on: ','")
  | some [c] => .error ("Unknown argument to " ++ option ++ ": " ++ c.toString)
  | some _ => .error ("Must separate multiple arguments to " ++ option ++ " using: ','")

/-- The words of a program that is to be started, whether it is started once with all files, and
what follows; `before` holds the words read so far, latest first. -/
def programWords? : (before : List String) → List String →
    Option (List String × Bool × List String)
  | _, [] => none
  | before, ";" :: rest => if before.isEmpty then none else some (before.reverse, false, rest)
  | before, word :: rest =>
    if word == "+" && before.head? == some "\x7b\x7d" then some (before.reverse, true, rest)
    else programWords? (word :: before) rest

/-- The traits that need no argument. -/
def plainTraits : List (String × Trait) :=
  [("-true", .always true), ("-false", .always false), ("-empty", .empty), ("-readable", .allows 8),
    ("-writable", .allows 7), ("-executable", .allows 6), ("-nouser", .always false),
    ("-nogroup", .always false), ("-noleaf", .always true), ("-mount", .always true),
    ("-xdev", .always true), ("-daystart", .always true), ("-warn", .always true),
    ("-nowarn", .always true), ("-ignore_readdir_race", .always true),
    ("-noignore_readdir_race", .always true)]

/-- The deeds that need no argument, and whether they count as doing something with a file. -/
def plainDeeds : List (String × Deed × Bool) :=
  [("-print", .print "\n", true), ("-print0", .print (Char.ofNat 0).toString, true),
    ("-delete", .delete, true), ("-prune", .prune, false), ("-quit", .quit, false)]

/-- The names of the ways to write expressions about paths. -/
def flavors : List String :=
  ["findutils-default", "ed", "emacs", "gnu-awk", "grep", "posix-awk", "awk", "posix-basic",
    "posix-egrep", "egrep", "posix-extended", "posix-minimal-basic", "sed"]

/-- What is asked by an option that takes one argument. -/
def readTrait (files : FileTree) (extended : Bool) (option text : String) :
    Option (Except String Trait) :=
  let pattern := patternOf text.toList
  let amount (f : Amount → Trait) : Except String Trait :=
    match Amount.ofText? text.toList with
    | some a => .ok (f a)
    | none => .error ("invalid argument \x60" ++ text ++ "' to \x60" ++ option ++ "'")
  let spelled (anyCase : Bool) : Except String Trait :=
    let cs := if extended then text.toList else withOperators false text.toList
    match Regex.parse { extended } cs with
    | .ok found => .ok (.spelled anyCase found.regex)
    | .error _ =>
      .error ("failed to compile regular expression " ++ quoted text
        ++ ": Invalid regular expression")
  match option with
  | "-name" => some (.ok (.name false pattern))
  | "-iname" => some (.ok (.name true pattern))
  | "-path" | "-wholename" => some (.ok (.path false pattern))
  | "-ipath" | "-iwholename" => some (.ok (.path true pattern))
  | "-lname" => some (.ok (.target false pattern))
  | "-ilname" => some (.ok (.target true pattern))
  | "-regex" => some (spelled false)
  | "-iregex" => some (spelled true)
  | "-type" => some (readKinds option text false)
  | "-xtype" => some (readKinds option text true)
  | "-size" => some (readSize text)
  | "-mtime" | "-atime" | "-ctime" => some (amount .days)
  | "-mmin" | "-amin" | "-cmin" => some (amount .minutes)
  | "-links" => some (amount .links)
  | "-uid" | "-gid" => some (amount fun a => .always (a.admits 0))
  | "-inum" => some (amount fun _ => .always false)
  | "-perm" => some (readRights text)
  | "-user" =>
    some (if text == "root" || text == "0" then .ok (.always true)
      else .error (quoted text ++ " is not the name of a known user"))
  | "-group" =>
    some (if text == "root" || text == "0" then .ok (.always true)
      else .error (quoted text ++ " is not the name of an existing group"))
  | "-newer" | "-anewer" | "-cnewer" | "-samefile" =>
    match files.find (pathOf text) with
    | .error e => some (.error (quoted text ++ ": " ++ e.reason))
    | .ok (_, e) =>
      some (.ok (if option == "-samefile" then .sameAs text else .changedAfter (timeOf files e)))
  | _ =>
    if !option.startsWith "-newer" || option.length != 8 then none
    else if option.endsWith "t" then
      match describedTime? files.clock text with
      | some (s, ns) => some (.ok (.changedAfter (s.toNat * nanosPerSecond + ns)))
      | none =>
        some (.error ("I cannot figure out how to interpret " ++ quoted text ++ " as a date or time"))
    else
      match files.find (pathOf text) with
      | .error e => some (.error (quoted text ++ ": " ++ e.reason))
      | .ok (_, e) => some (.ok (.changedAfter (timeOf files e)))

/-- The number that an option for the depth is given. -/
def readDepth (option text : String) : Except String Nat :=
  match digitsNumber? text.toList with
  | some n => .ok n
  | none =>
    .error ("Expected a positive decimal integer argument to " ++ option ++ ", but got " ++ quoted text)

/-- Add a sign. -/
def Reading.add (r : Reading) (t : Token) : Reading :=
  { r with tokens := t :: r.tokens }

/-- Read one argument and those that belong to it; what is left of the arguments. -/
def Reading.step (r : Reading) (files : FileTree) (option : String) (rest : List String) :
    Except String (Reading × List String) :=
  let missing {α : Type} : Except String α := .error ("missing argument to \x60" ++ option ++ "'")
  let act (d : Deed) : Reading := { r.add (.leaf (.deed d)) with acts := true }
  match option with
  | "(" => .ok (r.add .opened, rest)
  | ")" => .ok (r.add .closed, rest)
  | "!" | "-not" => .ok (r.add .not, rest)
  | "-a" | "-and" => .ok (r.add (.both option), rest)
  | "-o" | "-or" => .ok (r.add (.either option), rest)
  | "," => .ok (r.add .series, rest)
  | "-depth" | "-d" =>
    .ok ({ r with walk.childrenFirst := true }.add (.leaf (.trait (.always true))), rest)
  | "-follow" =>
    .ok ({ r with walk.follows := true, walk.followsNamed := true }.add
      (.leaf (.trait (.always true))), rest)
  | "-maxdepth" | "-mindepth" =>
    match rest with
    | [] => missing
    | text :: rest => do
      let n ← readDepth option text
      let walk := if option == "-maxdepth" then { r.walk with most := some n }
        else { r.walk with least := n }
      return ({ r with walk }.add (.leaf (.trait (.always true))), rest)
  | "-regextype" =>
    match rest with
    | [] => missing
    | text :: rest =>
      if flavors.contains text then
        let extended := ["extended", "awk", "egrep"].any fun kind => text.endsWith kind
        .ok ({ r with walk.extended := extended }.add (.leaf (.trait (.always true))), rest)
      else
        .error ("Unknown regular expression type " ++ quoted text ++ "; valid types are "
          ++ ", ".intercalate (flavors.map quoted) ++ ".")
  | "-printf" =>
    match rest with
    | [] => missing
    | text :: rest => .ok (act (.format text), rest)
  | "-exec" | "-execdir" | "-ok" | "-okdir" =>
    match programWords? [] rest with
    | none => missing
    | some (words, gathers, rest) =>
      if gathers then .ok (act (.gather r.tokens.length words.dropLast), rest)
      else .ok (act (.start words (option.endsWith "dir")), rest)
  | _ =>
    match plainTraits.lookup option, plainDeeds.lookup option with
    | some t, _ => .ok (r.add (.leaf (.trait t)), rest)
    | none, some (d, acts) =>
      let childrenFirst := r.walk.childrenFirst || option == "-delete"
      .ok ({ r.add (.leaf (.deed d)) with
        acts := r.acts || acts, walk.childrenFirst := childrenFirst }, rest)
    | none, none =>
      match readTrait files r.walk.extended option (rest.headD "") with
      | none => .error ("unknown predicate \x60" ++ option ++ "'")
      | some found =>
        if rest.isEmpty then missing
        else do return (r.add (.leaf (.trait (← found))), rest.tail)

/-- Whether an argument begins an expression. -/
def begins (arg : String) : Bool :=
  (arg.startsWith "-" && 1 < arg.length) || ["(", ")", "!", ","].contains arg

/-- Read at most `n` arguments; `before` is the last one that was an option. -/
def Reading.all (files : FileTree) : Nat → (before : Option String) → Reading → List String →
    Except String Reading
  | 0, _, r, _ | _, _, r, [] => .ok r
  | n + 1, before, r, arg :: rest =>
    if begins arg then do
      let (r, rest) ← r.step files arg rest
      Reading.all files n (some arg) r rest
    else
      let hint := match before, files.find (pathOf arg) with
        | some option, .ok _ =>
          "\nfind: possible unquoted pattern after predicate \x60" ++ option ++ "'?"
        | _, _ => ""
      .error ("paths must precede expression: \x60" ++ arg ++ "'" ++ hint)

/-! ### Building -/

/-- What is built from the front of signs, and the rest of them. -/
abbrev Built := Except String (Goal × List Token)

/-- The operator that a sign is. -/
def Token.operator? : Token → Option String
  | .both spelling | .either spelling => some spelling
  | .series => some ","
  | _ => none

/-- An expression without operators between two; `whole` reads what stands between parentheses. -/
def buildOne (whole : List Token → Built) : (after : Option String) → List Token → Built
  | _, .leaf g :: rest => .ok (g, rest)
  | _, .not :: rest => do
    let (g, rest) ← buildOne whole (some "!") rest
    return (.not g, rest)
  | _, .opened :: .closed :: _ =>
    .error "invalid expression; empty parentheses are not allowed."
  | _, .opened :: rest => do
    match ← whole rest with
    | (g, .closed :: rest) => return (g, rest)
    | _ =>
      throw "invalid expression; I was expecting to find a ')' somewhere but did not see one."
  | after, t :: _ =>
    match t.operator?, after with
    | some spelling, _ =>
      .error ("invalid expression; you have used a binary operator '" ++ spelling
        ++ "' with nothing before it.")
    | none, some operator => .error ("expected an expression between '" ++ operator ++ "' and ')'")
    | none, none => .error "invalid expression; you have too many ')'"
  | some operator, [] => .error ("expected an expression after '" ++ operator ++ "'")
  | none, [] =>
    .error "invalid expression; I was expecting to find a ')' somewhere but did not see one."

/-- Expressions that must all hold, at most `n` more of them after the first one. -/
def buildBoth (whole : List Token → Built) : Nat → (after : Option String) → List Token → Built
  | n, after, tokens => do
    let (g, rest) ← buildOne whole after tokens
    match n, rest with
    | n + 1, .both spelling :: rest => do
      let (h, rest) ← buildBoth whole n (some spelling) rest
      return (.both g h, rest)
    | n + 1, .leaf x :: rest => do
      let (h, rest) ← buildBoth whole n none (.leaf x :: rest)
      return (.both g h, rest)
    | n + 1, .not :: rest => do
      let (h, rest) ← buildBoth whole n none (.not :: rest)
      return (.both g h, rest)
    | n + 1, .opened :: rest => do
      let (h, rest) ← buildBoth whole n none (.opened :: rest)
      return (.both g h, rest)
    | _, rest => return (g, rest)

/-- Expressions of which one must hold, at most `n` more of them after the first one. -/
def buildEither (whole : List Token → Built) : Nat → (after : Option String) → List Token → Built
  | n, after, tokens => do
    let (g, rest) ← buildBoth whole tokens.length after tokens
    match n, rest with
    | n + 1, .either spelling :: rest => do
      let (h, rest) ← buildEither whole n (some spelling) rest
      return (.either g h, rest)
    | _, rest => return (g, rest)

/-- Expressions one after the other, at most `n` more of them after the first one. -/
def buildSeries (whole : List Token → Built) : Nat → (after : Option String) → List Token → Built
  | n, after, tokens => do
    let (g, rest) ← buildEither whole tokens.length after tokens
    match n, rest with
    | n + 1, .series :: rest => do
      let (h, rest) ← buildSeries whole n (some ",") rest
      return (.series g h, rest)
    | _, rest => return (g, rest)

/-- The expression at the front of signs, with parentheses nested at most `n` deep. -/
def buildWhole : Nat → List Token → Built
  | 0, _ => .error "invalid expression"
  | n + 1, tokens => buildSeries (buildWhole n) tokens.length none tokens

/-- The expression that signs make. -/
def build (tokens : List Token) : Except String Goal := do
  match ← buildWhole (tokens.length + 1) tokens with
  | (g, []) => return g
  | _ => throw "you have too many ')'"

/-- The letters before the paths, the paths, and the expression. -/
structure Request where
  paths : List String
  goal : Goal
  walk : Walk

/-- What the arguments ask for. -/
def Request.read (files : FileTree) (args : List String) : Except String Request := do
  let isLetter (arg : String) : Bool := ["-H", "-L", "-P"].contains arg
  let letters := args.takeWhile isLetter
  let args := args.dropWhile isLetter
  let paths := args.takeWhile fun arg => !begins arg
  let start : Walk :=
    { follows := letters.getLast? == some "-L"
      followsNamed := letters.getLast? == some "-L" || letters.getLast? == some "-H" }
  let options := args.drop paths.length
  let r ← Reading.all files options.length none { walk := start } options
  let print : Goal := .deed (.print "\n")
  let goal ← if r.tokens.isEmpty then pure print
    else do
      let g ← build r.tokens.reverse
      pure (if r.acts then g else .both g print)
  return { paths := if paths.isEmpty then ["."] else paths, goal, walk := r.walk }

end ShaderBuild.Tool.Find
