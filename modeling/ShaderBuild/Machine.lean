import ShaderBuild.FileTree.Access

/-! # Machines and processes

A machine is a file tree, an environment, and what has been printed on it.  A launcher runs a
program on a machine: it either cannot start it or says how the process ended, and gives the
machine afterwards.  What the tools do is stated for any launcher. -/

namespace ShaderBuild

/-- A file system, the environment that programs inherit, and what has been printed so far. -/
structure Machine where
  files : FileTree
  environment : List (Bytes × Bytes) := []
  stdout : ByteArray := .empty
  stderr : ByteArray := .empty

/-- A program to run and its arguments. -/
structure Invocation where
  program : Bytes
  args : List Bytes
deriving DecidableEq, Repr

/-- How a process ended. -/
inductive ExitStatus where
  | exited (code : UInt8)
  | signaled (signal : Nat)
deriving DecidableEq, Repr

/-- Runs a program, or says why it cannot be started. -/
abbrev Launcher := Invocation → Machine → Except FileFault ExitStatus × Machine

/-! ### Executable definitions -/

namespace Machine

/-- The value of a variable of the environment. -/
def environmentValue? (m : Machine) (name : String) : Option Bytes :=
  m.environment.lookup (encode name)

/-- Print on the standard output. -/
def print (m : Machine) (s : String) : Machine :=
  { m with stdout := m.stdout ++ s.toByteArray }

/-- Print on the standard error. -/
def printError (m : Machine) (s : String) : Machine :=
  { m with stderr := m.stderr ++ s.toByteArray }

end Machine

namespace ExitStatus

/-- Whether a process ended with code zero. -/
def success : ExitStatus → Bool
  | .exited code => code == 0
  | .signaled _ => false

/-- The exit code of a process that was not ended by a signal. -/
def code? : ExitStatus → Option UInt8
  | .exited code => some code
  | .signaled _ => none

/-- The signal that ended a process. -/
def signal? : ExitStatus → Option Nat
  | .exited _ => none
  | .signaled signal => some signal

/-- The names of the signals, from signal 1 on. -/
def signalNames : List String :=
  ["SIGHUP", "SIGINT", "SIGQUIT", "SIGILL", "SIGTRAP", "SIGABRT", "SIGBUS", "SIGFPE", "SIGKILL",
    "SIGUSR1", "SIGSEGV", "SIGUSR2", "SIGPIPE", "SIGALRM", "SIGTERM", "SIGSTKFLT", "SIGCHLD",
    "SIGCONT", "SIGSTOP", "SIGTSTP", "SIGTTIN", "SIGTTOU", "SIGURG", "SIGXCPU", "SIGXFSZ",
    "SIGVTALRM", "SIGPROF", "SIGWINCH", "SIGIO", "SIGPWR", "SIGSYS"]

/-- The name of a signal, if it has one. -/
def signalName? (signal : Nat) : Option String :=
  if signal = 0 then none else signalNames[signal - 1]?

/-- How a status is shown. -/
def display : ExitStatus → String
  | .exited code => "exit status: " ++ Nat.repr code.toNat
  | .signaled signal =>
    "signal: " ++ Nat.repr signal ++ (signalName? signal).elim "" fun n => " (" ++ n ++ ")"

end ExitStatus

end ShaderBuild
