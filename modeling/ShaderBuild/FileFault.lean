/-! # Why the file system refuses

The causes that an access to the file system or the start of a program can fail with, and the text
each is reported by. -/

namespace ShaderBuild

/-- The cause of a failed access to the file system or of a program that does not start. -/
inductive FileFault where
  | notFound
  | argumentTooLong
  | badProgram
  | accessDenied
  | alreadyExists
  | notDirectory
  | isDirectory
  | nameTooLong
  | linkLoop
  | notEmpty
  | notPermitted
  | badArgument
  | badDescriptor
  | nulInPath
  | nulInArgument
  | notUtf8
  /-- A cause known only by its text. -/
  | described (text : String)
deriving DecidableEq, Repr

namespace FileFault

/-- What is wrong, without the number it is known by. -/
def reason : FileFault → String
  | .notFound => "No such file or directory"
  | .argumentTooLong => "Argument list too long"
  | .badProgram => "Exec format error"
  | .accessDenied => "Permission denied"
  | .alreadyExists => "File exists"
  | .notDirectory => "Not a directory"
  | .isDirectory => "Is a directory"
  | .nameTooLong => "File name too long"
  | .linkLoop => "Too many levels of symbolic links"
  | .notEmpty => "Directory not empty"
  | .notPermitted => "Operation not permitted"
  | .badArgument => "Invalid argument"
  | .badDescriptor => "Bad file descriptor"
  | .nulInPath => "file name contained an unexpected NUL byte"
  | .nulInArgument => "nul byte found in provided data"
  | .notUtf8 => "stream did not contain valid UTF-8"
  | .described text => text

/-- The number that the operating system knows a cause by. -/
def number? : FileFault → Option Nat
  | .notFound => some 2
  | .argumentTooLong => some 7
  | .badProgram => some 8
  | .accessDenied => some 13
  | .alreadyExists => some 17
  | .notDirectory => some 20
  | .isDirectory => some 21
  | .nameTooLong => some 36
  | .linkLoop => some 40
  | .notEmpty => some 39
  | .notPermitted => some 1
  | .badArgument => some 22
  | .badDescriptor => some 9
  | _ => none

/-- The text a cause is reported by. -/
def message (f : FileFault) : String :=
  f.reason ++ f.number?.elim "" fun n => " (os error " ++ Nat.repr n ++ ")"

end FileFault

end ShaderBuild
