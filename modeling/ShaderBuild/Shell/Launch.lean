import ShaderBuild.Shell.Evaluation

/-! # Starting programs

`launch` starts a program on a machine the way an operating system does: a name without a slash is
looked up along the search path, any other is a path to an executable file.  It is the launcher that
the command line and the build scripts run on, with scripts in the place of the shader compiler; what
is proved of them holds for every launcher.  The program reads an empty input, and what it prints is
printed by the machine. -/

namespace ShaderBuild.Shell

/-! ### Executable definitions -/

/-- A machine on which no shell runs yet, with the three streams that a program is started with. -/
def Session.ofMachine (m : Machine) : Session where
  machine := m
  opened := #[{ channel := .null }, { channel := .output }, { channel := .errors }]
  shell := { name := "", streams := [(0, 0), (1, 1), (2, 2)], process := 1 }

/-- How a program ended that ended more than itself. -/
def Halt.ending : Halt → ExitStatus
  | .killed signal _ | .replaced signal => .signaled signal
  | _ => .exited 0

/-- Start a program, or say why it cannot be started. -/
def launch : Launcher := fun i m =>
  if (i.program :: i.args).any fun arg => arg.contains 0 then (.error .nulInArgument, m)
  else if i.program.isEmpty then (.error .notFound, m)
  else
    let environment := m.environment.map fun x => (raw x.1, raw x.2)
    let searchPath := (environment.lookup "PATH").getD defaultPath
    match launchWith (evaluate deepest) deepestLaunch none searchPath (raw i.program)
        (i.args.map raw) environment (.ofMachine m) with
    | .ok result s => (result, s.machine)
    | .error halt s => (.ok halt.ending, s.machine)

end ShaderBuild.Shell
