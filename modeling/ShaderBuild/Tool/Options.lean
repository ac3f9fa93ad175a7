import ShaderBuild.Tool.Basic

/-! # Options

Most tools take single-letter options, which may be written together, options with a value, and long
names for some of them.  Options may stand anywhere among the operands; `--` ends them. -/

namespace ShaderBuild.Tool

/-- The options a tool knows. -/
structure OptionTable where
  /-- Letters of options without a value. -/
  flags : String := ""
  /-- Letters of options with a value. -/
  valued : String := ""
  /-- Letters of options with a value only if it is written together with them. -/
  glued : String := ""
  /-- Long names and the letter each stands for. -/
  long : List (String × Char) := []
  /-- Whether options end at the first operand. -/
  ordered : Bool := false

/-- The options and operands of a call. -/
structure Options where
  /-- The options in order, each with its value. -/
  given : List (Char × String) := []
  operands : List String := []

namespace Options

/-- Whether an option was given. -/
def has (o : Options) (c : Char) : Bool :=
  o.given.any fun x => x.1 == c

/-- The last value given for an option. -/
def value? (o : Options) (c : Char) : Option String :=
  (o.given.reverse.find? fun x => x.1 == c).map Prod.snd

/-- Add an option. -/
def give (c : Char) (value : String) (o : Options) : Options :=
  { o with given := (c, value) :: o.given }

end Options

namespace OptionTable

/-- The letter of the long name that a text is or abbreviates, or what is wrong with it. -/
def long? (t : OptionTable) (name text : String) : Except String (String × Char) :=
  match t.long.find? fun x => x.1 == name with
  | some found => .ok found
  | none =>
    match t.long.filter fun x => name.toList.isPrefixOf x.1.toList with
    | [] => .error ("unrecognized option '--" ++ text ++ "'")
    | found :: others =>
      if others.all fun x => x.2 == found.2 then .ok found
      else
        .error ("option '--" ++ text ++ "' is ambiguous; possibilities:"
          ++ String.join ((found :: others).map fun x => " '--" ++ x.1 ++ "'"))

/-- Read letters written together; the arguments after them and the options found. -/
def letters (t : OptionTable) :
    List Char → List String → Except String (List (Char × String) × List String)
  | [], args => .ok ([], args)
  | c :: cs, args =>
    if t.valued.toList.contains c then
      match cs, args with
      | [], value :: args => .ok ([(c, value)], args)
      | [], [] => .error ("option requires an argument -- '" ++ c.toString ++ "'")
      | cs, args => .ok ([(c, String.ofList cs)], args)
    else if t.glued.toList.contains c then .ok ([(c, String.ofList cs)], args)
    else if t.flags.toList.contains c then do
      let (more, args) ← t.letters cs args
      return ((c, "") :: more, args)
    else .error ("invalid option -- '" ++ c.toString ++ "'")

/-- Read a long option. -/
def longOption (t : OptionTable) (text : String) (args : List String) :
    Except String ((Char × String) × List String) :=
  let name := String.ofList (text.toList.takeWhile (· != '='))
  match t.long? name text with
  | .error e => .error e
  | .ok (name, c) =>
    match text.toList.dropWhile (· != '='), args with
    | '=' :: value, args =>
      if t.valued.toList.contains c || t.glued.toList.contains c then
        .ok ((c, String.ofList value), args)
      else .error ("option '--" ++ name ++ "' doesn't allow an argument")
    | _, args =>
      if t.valued.toList.contains c then
        match args with
        | value :: args => .ok ((c, value), args)
        | [] => .error ("option '--" ++ name ++ "' requires an argument")
      else .ok ((c, ""), args)

/-- Read the arguments of a call, at most `n` of them. -/
def readFrom (t : OptionTable) : Nat → List String → Except String Options
  | 0, _ | _, [] => .ok {}
  | n + 1, arg :: args =>
    match arg.toList with
    | ['-', '-'] => .ok { operands := args }
    | '-' :: '-' :: name => do
      let ((c, value), args) ← t.longOption (String.ofList name) args
      return (← t.readFrom n args).give c value
    | '-' :: c :: cs => do
      let (found, args) ← t.letters (c :: cs) args
      let rest ← t.readFrom n args
      return { rest with given := found ++ rest.given }
    | _ =>
      if t.ordered then .ok { operands := arg :: args }
      else do
        let rest ← t.readFrom n args
        return { rest with operands := arg :: rest.operands }

end OptionTable

/-- Run a tool with its options, or refuse the arguments with a status. -/
def withOptions (t : OptionTable) (status : UInt8) (body : Options → Work Unit) : Work Unit := do
  let args := (← read).args
  match t.readFrom (args.length + 1) args with
  | .ok o => body o
  | .error text => refuse status text

/-- Check that there are operands. -/
def needOperands (o : Options) (status : UInt8) (what : String) (body : Work Unit) : Work Unit :=
  if o.operands.isEmpty then refuse status ("missing " ++ what) else body

end ShaderBuild.Tool
