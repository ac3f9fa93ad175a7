/-! # Programs over records

The programs of `awk` as data: rules that are applied to each record of the input, rules for the
beginning and the end, and functions. -/

namespace ShaderBuild.Tool.Record

/-- How two values are compared. -/
inductive Relation where
  | less
  | lessOrEqual
  | equal
  | notEqual
  | greater
  | greaterOrEqual
deriving DecidableEq, Repr

/-- An operation on numbers. -/
inductive Arithmetic where
  | add
  | subtract
  | multiply
  | divide
  | remainder
  | power
deriving DecidableEq, Repr

/-- An expression. -/
inductive Expr where
  | number (x : Float)
  | text (s : String)
  /-- A regular expression; alone it asks whether the record matches. -/
  | pattern (source : String)
  | field (index : Expr)
  | variable (name : String)
  | element (array : String) (keys : List Expr)
  /-- An assignment, of what an operation makes of the old value if there is one. -/
  | assign (target : Expr) (op : Option Arithmetic) (value : Expr)
  | choice (condition yes no : Expr)
  | either (a b : Expr)
  | both (a b : Expr)
  | not (a : Expr)
  | negative (a : Expr)
  | positive (a : Expr)
  | arithmetic (op : Arithmetic) (a b : Expr)
  | joined (a b : Expr)
  | compare (r : Relation) (a b : Expr)
  | isMatch (negated : Bool) (a b : Expr)
  | contains (keys : List Expr) (array : String)
  /-- A step up or down; the value is that before or after it. -/
  | step (before up : Bool) (target : Expr)
  | call (name : String) (args : List Expr)
  | builtin (name : String) (args : List Expr)
  /-- Read the next record of the input. -/
  | readInput (target : Option Expr)
  | readFile (file : Expr) (target : Option Expr)
  | readCommand (command : Expr) (target : Option Expr)

/-- Where printing goes. -/
inductive Target where
  | output
  | file (append : Bool) (name : Expr)
  | command (text : Expr)

/-- A statement. -/
inductive Statement where
  | evaluate (e : Expr)
  | print (args : List Expr) (target : Target)
  | format (args : List Expr) (target : Target)
  | block (body : List Statement)
  | choice (condition : Expr) (yes no : Statement)
  /-- A loop that tests its condition before each round, or after it. -/
  | loop (after : Bool) (condition : Expr) (body : Statement)
  | counted (start : Statement) (condition : Option Expr) (next body : Statement)
  | each (name array : String) (body : Statement)
  | breaking
  | continuing
  | nextRecord
  | nextFile
  | leave (status : Option Expr)
  | returning (value : Option Expr)
  /-- Remove an element, or all of them. -/
  | delete (array : String) (keys : List Expr)

/-- Which records a rule is for. -/
inductive Selector where
  | always
  | when (e : Expr)
  | range (first last : Expr)

/-- A rule; without an action the record is printed. -/
structure Rule where
  selector : Selector
  action : Option Statement

/-- A function. -/
structure Function where
  params : List String
  body : Statement

/-- A program. -/
structure Program where
  start : List Statement := []
  rules : List Rule := []
  finish : List Statement := []
  functions : List (String × Function) := []

/-- Whether an expression may be assigned to. -/
def Expr.isTarget : Expr → Bool
  | .field _ | .variable _ | .element _ _ => true
  | _ => false

/-- The functions that are built in. -/
def builtins : List String :=
  ["length", "substr", "index", "split", "sub", "gsub", "match", "sprintf", "sin", "cos", "atan2",
    "exp", "log", "sqrt", "int", "rand", "srand", "tolower", "toupper", "system", "close", "fflush",
    "systime", "mktime", "strftime"]

/-- How many arguments functions that are built in may be called with. -/
def argumentCounts : List (String × List Nat) :=
  [("length", [0, 1]), ("substr", [2, 3]), ("index", [2]), ("split", [2, 3]), ("sub", [2, 3]),
    ("gsub", [2, 3]), ("match", [2]), ("sin", [1]), ("cos", [1]), ("atan2", [2]), ("exp", [1]),
    ("log", [1]), ("sqrt", [1]), ("int", [1]), ("rand", [0]), ("srand", [0, 1]), ("tolower", [1]),
    ("toupper", [1]), ("system", [1]), ("close", [1]), ("fflush", [0, 1]), ("systime", [0]),
    ("mktime", [1, 2]), ("strftime", [0, 1, 2, 3])]

/-- The words that are no names. -/
def keywords : List String :=
  ["BEGIN", "END", "function", "if", "else", "while", "for", "do", "break", "continue", "next",
    "nextfile", "exit", "return", "delete", "in", "getline", "print", "printf"]

end ShaderBuild.Tool.Record
