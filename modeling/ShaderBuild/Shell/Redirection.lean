import ShaderBuild.Shell.Expansion
import ShaderBuild.Shell.Reader.Basic

/-! # Redirections

Streams are opened, closed and made the same as each other as redirections say, in their order and
up to the first one that does not work.  A stream is bound to an open file, so what several streams
write to one open file comes one after the other. -/

namespace ShaderBuild.Shell

/-! ### Opening -/

/-- Why a file cannot be opened, as the shell says it. -/
def openMessage (creating : Bool) (e : FileFault) : String :=
  if e = .notFound || e = .notDirectory then
    if creating then "Directory nonexistent" else "No such file"
  else e.reason

/-- Open a file; its place among the open files. -/
def openPath (access : Access) (path : String) : Run (Except FileFault Nat) := do
  let t ← files
  let p : Path := ⟨unraw path⟩
  let bound (stream : Nat) : Run (Except FileFault Nat) := do
    match (← shell).streams.lookup stream with
    | some place => return .ok place
    | none => return .error .notFound
  let writing := access != .read
  let reading := access == .read || access == .readWrite
  let opened (body : Nat) : Run (Except FileFault Nat) := do
    return .ok (← addOpen { channel := .file body, appends := access == .append })
  match t.find p with
  | .ok (_, .device (.stream n)) => bound n
  | .ok (_, .device .null) => return .ok (← addOpen { channel := .null })
  | .ok (_, .file n) =>
    let mode := t.modeOf (.file n)
    if (reading && !mode.mayRead) || (writing && !mode.mayWrite) then return .error .accessDenied
    else if access == .write && (← shell).settings.protectFiles then return .error .alreadyExists
    else
      if access == .write || access == .clobber then setFiles (t.setContent n .empty)
      opened n
  | .ok (_, e) =>
    if writing then return .error .isDirectory
    else if !(t.modeOf e).mayRead then return .error .accessDenied
    else return .ok (← addOpen { channel := .dir })
  | .error e =>
    if !writing then return .error e
    else
      match t.writeAs (Mode.without ⟨0o666⟩ (← shell).umask) p .empty with
      | .error e => return .error e
      | .ok t =>
        setFiles t
        match t.find p with
        | .ok (_, .file n) => opened n
        | _ => return .ok (← addOpen { channel := .null })

/-- The path that a target names; none if it does not name one.  In the extended dialect a target is
split into fields like other words. -/
def targetPath (runner : Runner) (target : Word) : Run (Option String) := do
  match (← shell).dialect with
  | .standard => return some (← expandText runner target)
  | .extended =>
    match ← expandWord runner target with
    | [path] => return some path
    | _ =>
      outsideCommand (report (bareText target ++ ": ambiguous redirect"))
      return none

/-- Open a file that a target names, and say so if that does not work. -/
def openTarget (runner : Runner) (access : Access) (target : Word) : Run (Option Nat) := do
  match ← targetPath runner target with
  | none => return none
  | some path =>
    match ← openPath access path, (← shell).dialect with
    | .ok place, _ => return some place
    | .error e, .standard =>
      let creating := access != .read
      report ((if creating then "cannot create " else "cannot open ") ++ path ++ ": "
        ++ openMessage creating e)
      return none
    | .error e, .extended =>
      let reason := if e = .alreadyExists then "cannot overwrite existing file" else e.reason
      outsideCommand (report (path ++ ": " ++ reason))
      return none

/-! ### Streams -/

/-- Let a stream be the same as another one; whether that is open. -/
def copyStream (stream source : Nat) : Run Bool := do
  match (← shell).streams.lookup source with
  | some place =>
    bindStream stream place
    return true
  | none =>
    let text := Nat.repr source ++ ": Bad file descriptor"
    match (← shell).dialect with
    | .standard => report text
    | .extended => outsideCommand (report text)
    return false

/-- Open a file for the output and the errors. -/
def openOutputs (runner : Runner) (access : Access) (target : Word) : Run Bool := do
  match ← openTarget runner access target with
  | some place =>
    bindStream 1 place
    bindStream 2 place
    return true
  | none => return false

/-- Make a stream the same as another one, or close it. -/
def duplicate (runner : Runner) (stream : Nat) (source : Word) : Run Bool := do
  match (← shell).dialect with
  | .standard =>
    match (← expandText runner source).toList with
    | ['-'] =>
      closeStream stream
      return true
    | [c] =>
      if c.isDigit then copyStream stream (c.toNat - '0'.toNat) else die "Syntax error: Bad fd number"
    | _ => die "Syntax error: Bad fd number"
  | .extended =>
    match ← targetPath runner source with
    | none => return false
    | some text =>
      let digits := text.toList.takeWhile Char.isDigit
      let number := ofDigits 10 (digits.filterMap digitValue)
      match text.toList.drop digits.length with
      | ['-'] =>
        if digits.isEmpty then
          closeStream stream
          return true
        else
          let done ← copyStream stream number
          if done && stream != number then closeStream number
          return done
      | [] => if digits.isEmpty then refused else copyStream stream number
      | _ => if stream = 1 then openOutputs runner .write [.text text true] else refused
where
  /-- Complain about a source that is no stream. -/
  refused : Run Bool := do
    outsideCommand (report (bareText source ++ ": ambiguous redirect"))
    return false

/-- The lowest number from ten on that no stream has. -/
def freeStream : Run Nat := do
  let streams := (← shell).streams
  return (((List.range (streams.length + 1)).map (· + 10)).find? fun n =>
    (streams.lookup n).isNone).getD 10

/-- A redirection of another stream. -/
def Redirect.withStream (stream : Nat) : Redirect → Redirect
  | .file _ access target => .file stream access target
  | .duplicate _ source => .duplicate stream source
  | .document _ number => .document stream number
  | .line _ word => .line stream word
  | r => r

/-- Whether a redirection closes a stream. -/
def Redirect.closes : Redirect → Bool
  | .duplicate _ source => plainText? source == some "-"
  | _ => false

/-- Open one redirection; whether that worked. -/
def openRedirect (runner : Runner) (r : Redirect) : Run Bool := do
  match r with
  | .allotted name r =>
    if r.closes then
      match ((← value? name).bind String.toNat?) with
      | some stream =>
        closeStream stream
        return true
      | none =>
        outsideCommand (report (name ++ ": ambiguous redirect"))
        return false
    else
      let stream ← freeStream
      if ← openPlain (r.withStream stream) then
        assign name (Nat.repr stream)
        return true
      else return false
  | r => openPlain r
where
  /-- Open a redirection of a stream whose number is known. -/
  openPlain (r : Redirect) : Run Bool := do
  let given (stream : Nat) (text : String) : Run Bool := do
    let place ← addOpen { channel := .pipe (contentOf text) }
    bindStream stream place
    return true
  match r with
  | .file stream access target =>
    match ← openTarget runner access target with
    | some place =>
      bindStream stream place
      return true
    | none => return false
  | .duplicate stream source => duplicate runner stream source
  | .document stream number =>
    let word := ((← shell).documents[number]?).getD []
    given stream (← expandText runner word)
  | .line stream word => given stream ((← expandText runner word) ++ "\n")
  | .outputs appends target =>
    openOutputs runner (if appends then .append else .write) target
  | .allotted _ _ => return false

/-- Open redirections in order up to the first that does not work. -/
def openRedirects (runner : Runner) : List Redirect → Run Bool
  | [] => return true
  | r :: rs => do
    if ← openRedirect runner r then openRedirects runner rs else return false

end ShaderBuild.Shell
