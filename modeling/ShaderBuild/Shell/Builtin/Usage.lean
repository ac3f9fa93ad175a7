import ShaderBuild.Shell.Builtin.Standard

/-! # Options of built-in commands

The built-in commands of the extended dialect read their options alike: letters, which may be
written together, some of them with a value that follows.  A command that is called wrongly says
how it is used. -/

namespace ShaderBuild.Shell.Extended

/-- The letters that were given, in order, each with its value. -/
abbrev GivenOptions := List (Char × String)

/-- Whether an option was given. -/
def GivenOptions.has (o : GivenOptions) (c : Char) : Bool :=
  o.any fun x => x.1 == c

/-- The value that was given last for an option. -/
def GivenOptions.value? (o : GivenOptions) (c : Char) : Option String :=
  (o.reverse.find? fun x => x.1 == c).map Prod.snd

/-- How a command is called. -/
structure Usage where
  text : String
  /-- The letters of options without a value. -/
  flags : String := ""
  /-- The letters of options with a value. -/
  valued : String := ""

namespace Usage

/-- Read letters written together; the arguments after them, or what is wrong. -/
def readLetters (u : Usage) (args : List String) : List Char → GivenOptions →
    Except String (GivenOptions × List String)
  | [], found => .ok (found, args)
  | c :: cs, found =>
    if u.flags.toList.contains c then u.readLetters args cs (found ++ [(c, "")])
    else if u.valued.toList.contains c then
      match cs, args with
      | [], [] => .error (String.ofList ['-', c] ++ ": option requires an argument")
      | [], value :: rest => .ok (found ++ [(c, value)], rest)
      | cs, args => .ok (found ++ [(c, String.ofList cs)], args)
    else .error (String.ofList ['-', c] ++ ": invalid option")

/-- The options at the front of at most `n` arguments, and the other arguments, or what is wrong. -/
def read (u : Usage) : Nat → List String → GivenOptions → Except String (GivenOptions × List String)
  | 0, args, found => .ok (found, args)
  | _, [], found => .ok (found, [])
  | n + 1, arg :: args, found =>
    match arg.toList with
    | ['-', '-'] => .ok (found, args)
    | '-' :: c :: cs => do
      let (found, rest) ← u.readLetters args (c :: cs) found
      u.read n rest found
    | _ => .ok (found, arg :: args)

/-- Say how the command that is running is used. -/
def explain (u : Usage) : Run UInt8 := do
  let name := (← shell).command.getD ""
  let _ ← writeTo 2 (contentOf (name ++ ": usage: " ++ u.text ++ "\n"))
  return 2

/-- Refuse a call, and say how the command is used. -/
def refuse (u : Usage) (text : String) : Run UInt8 := do
  report text
  u.explain

/-- Run a command with its options read. -/
def reading (u : Usage) (args : List String) (act : GivenOptions → List String → Run UInt8) :
    Run UInt8 :=
  match u.read (args.length + 1) args [] with
  | .ok (options, rest) => act options rest
  | .error text => u.refuse text

end Usage

end ShaderBuild.Shell.Extended
