import ShaderBuild.Digest
import ShaderBuild.Tool.Dump
import ShaderBuild.Tool.Lines

/-! # Checksums of files

The tools `cksum` and `sum`, and the tools that print one digest each and check lists of digests. -/

namespace ShaderBuild.Tool

/-- A digest by its names. -/
structure DigestKind where
  /-- The name that chooses it. -/
  name : String
  /-- The name that is printed. -/
  tag : String
  digest : List UInt8 → List UInt8

/-- The digests. -/
def digests : List DigestKind :=
  [⟨"md5", "MD5", Digest.md5⟩, ⟨"sha1", "SHA1", Digest.sha1⟩,
    ⟨"sha224", "SHA224", Digest.sha224.digest⟩, ⟨"sha256", "SHA256", Digest.sha256.digest⟩,
    ⟨"sha384", "SHA384", Digest.sha384.digest⟩, ⟨"sha512", "SHA512", Digest.sha512.digest⟩,
    ⟨"blake2b", "BLAKE2b", Digest.blake2b⟩]

/-- How digests are printed. -/
structure DigestManner where
  tagged : Bool := false
  binary : Bool := false
  base64 : Bool := false
  nulEnds : Bool := false

/-- A name on one line, and whether it had to be changed for that. -/
def oneLineName (arg : String) : String × Bool :=
  if arg.toList.any fun c => c == '\\' || c == '\n' || c == '\r' then
    (String.join (arg.toList.map fun c =>
      if c == '\\' then "\\\\" else if c == '\n' then "\\n" else if c == '\r' then "\\r"
      else c.toString), true)
  else (arg, false)

/-- Print the digest of each operand. -/
def sayDigests (k : DigestKind) (m : DigestManner) (operands : List String) : Work Unit :=
  eachContent operands (unreadable 1) fun arg content => do
    let bytes := k.digest content.data.toList
    let text := if m.base64 then inBase64 bytes else Digest.hexText bytes
    let (name, changed) := if m.nulEnds then (arg, false) else oneLineName arg
    say ((if changed then "\\" else "")
      ++ (if m.tagged then k.tag ++ " (" ++ name ++ ") = " ++ text
        else text ++ (if m.binary then " *" else "  ") ++ name)
      ++ (if m.nulEnds then "\x00" else "\n"))

/-- The digest and the name that a line of a list holds. -/
def digestLine? (k : DigestKind) (line : String) : Option (String × String) :=
  let size := 2 * (k.digest []).length
  let tag := k.tag ++ " ("
  if line.startsWith tag then
    let cs := line.toList.drop tag.length
    let text := cs.drop (cs.length - size)
    let name := cs.take (cs.length - size - 4)
    if String.ofList ((cs.drop name.length).take 4) == ") = " then
      some (String.ofList text, String.ofList name)
    else none
  else
    let cs := line.toList
    let text := cs.take size
    match cs.drop size with
    | ' ' :: c :: name =>
      if text.length == size && text.all Char.isAlphanum && (c == ' ' || c == '*') && !name.isEmpty
      then some (String.ofList text, String.ofList name)
      else none
    | _ => none

/-- What checking a list has found. -/
structure CheckCount where
  good : Nat := 0
  bad : Nat := 0
  missing : Nat := 0
  malformed : Nat := 0

/-- A count with the right form of a phrase. -/
def counted (n : Nat) (one many : String) : String :=
  Nat.repr n ++ " " ++ (if n == 1 then one else many)

/-- Check the digests that lists hold. -/
def checkDigests (k : DigestKind) (o : Options) : Work Unit :=
  eachContent o.operands (unreadable 1) fun list content => do
    let status := o.has 'S'
    let found ← (linesOf (rawContent content)).foldlM (fun (found : CheckCount) line => do
      match digestLine? k line with
      | none =>
        return if line.startsWith "#" then found
          else { found with malformed := found.malformed + 1 }
      | some (text, name) =>
        match ← operand name with
        | .error e =>
          if e == .notFound && o.has 'M' then return found
          warn (quotedIfNeeded name ++ ": " ++ e.reason)
          if !status then say (name ++ ": FAILED open or read\n")
          return { found with missing := found.missing + 1 }
        | .ok content =>
          let good := Digest.hexText (k.digest content.data.toList) == text.map Char.toLower
          if !status && !(good && o.has 'q') then
            say (name ++ (if good then ": OK\n" else ": FAILED\n"))
          return if good then { found with good := found.good + 1 }
            else { found with bad := found.bad + 1 }) {}
    flush
    if found.good + found.bad + found.missing == 0 then
      complain 1 (quotedIfNeeded list ++ ": no properly formatted checksum lines found")
    else
      if !status then
        if 0 < found.malformed then
          warn ("WARNING: "
            ++ counted found.malformed "line is improperly formatted" "lines are improperly formatted")
        if 0 < found.missing then
          warn ("WARNING: "
            ++ counted found.missing "listed file could not be read" "listed files could not be read")
        if 0 < found.bad then
          warn ("WARNING: "
            ++ counted found.bad "computed checksum did NOT match" "computed checksums did NOT match")
      if 0 < found.bad + found.missing || (o.has 'T' && 0 < found.malformed) then fail 1

/-- The long options of the tools that print digests. -/
def digestOptions : List (String × Char) :=
  [("check", 'c'), ("binary", 'b'), ("text", 't'), ("tag", 'G'), ("zero", 'z'), ("quiet", 'q'),
    ("status", 'S'), ("strict", 'T'), ("ignore-missing", 'M'), ("warn", 'w')]

/-- The tool that prints one digest. -/
def digestTool (name : String) : Routine :=
  match digests.find? fun k => k.name == name with
  | none => pure ()
  | some k =>
    withOptions { flags := "cbtzwGqSTM", long := digestOptions } 1 fun o =>
      if o.has 'c' then checkDigests k o
      else sayDigests k { tagged := o.has 'G', binary := o.has 'b', nulEnds := o.has 'z' } o.operands

/-- Print a sum of each operand with a count of blocks or bytes; the name is left out if there are
no operands. -/
def saySums (text : List UInt8 → String) (operands : List String) : Work Unit :=
  eachContent operands (unreadable 1) fun arg content =>
    say (text content.data.toList ++ (if operands.isEmpty then "" else " " ++ arg) ++ "\n")

/-- The number of blocks of some size that a content takes. -/
def blockCount (size : Nat) (bs : List UInt8) : Nat :=
  (bs.length + size - 1) / size

/-- A turning sum and the blocks of 1024 bytes. -/
def turningSumText (bs : List UInt8) : String :=
  let sum := Nat.repr (Digest.turningSum bs)
  String.ofList (List.replicate (5 - sum.length) '0') ++ sum ++ " " ++ rightAligned 5 (blockCount 1024 bs)

/-- A folded sum and the blocks of 512 bytes. -/
def foldedSumText (bs : List UInt8) : String :=
  Nat.repr (Digest.foldedSum bs) ++ " " ++ Nat.repr (blockCount 512 bs)

/-- A cyclic checksum and the bytes. -/
def cyclicText (bs : List UInt8) : String :=
  Nat.repr (Digest.cyclic bs) ++ " " ++ Nat.repr bs.length

/-- The tool `sum`. -/
def sumTool : Routine :=
  withOptions { flags := "rs", long := [("sysv", 's')] } 1 fun o =>
    match o.given.getLast? with
    | some ('s', _) => saySums foldedSumText o.operands
    | _ => saySums turningSumText o.operands

/-- The tool `cksum`. -/
def checksumTool : Routine :=
  withOptions
    { flags := "cbtzwGqSTMUB", valued := "al"
      long := digestOptions ++ [("algorithm", 'a'), ("untagged", 'U'), ("base64", 'B')] } 1 fun o =>
    match (o.value? 'a').getD "crc" with
    | "crc" => saySums cyclicText o.operands
    | "bsd" => saySums turningSumText o.operands
    | "sysv" => saySums foldedSumText o.operands
    | name =>
      match digests.find? fun k => k.name == name with
      | some k =>
        if o.has 'c' then checkDigests k o
        else
          sayDigests k { tagged := !o.has 'U', base64 := o.has 'B', nulEnds := o.has 'z' } o.operands
      | none => do
        complain 1 ("invalid argument '" ++ name ++ "' for '--algorithm'")
        emit 2 (contentOf ("Valid arguments are:\n" ++ String.join
          ((["bsd", "sysv", "crc"] ++ digests.map DigestKind.name ++ ["sm3"]).map fun n =>
            "  - '" ++ n ++ "'\n")))
        emit 2 (contentOf "Try 'cksum --help' for more information.\n")

end ShaderBuild.Tool
