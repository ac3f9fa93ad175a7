import ShaderBuild.Shell.Invocation
import ShaderBuild.Shell.Question

/-! # Running commands

`evaluate` runs a command.  Each way of running one is written over `again`, which runs the
commands inside it, so that the only recursion is `evaluate` itself, on how deeply commands may
nest.  Processes that run side by side on a real machine run one after the other here: each stage
of a pipeline ends before the next one begins. -/

namespace ShaderBuild.Shell

/-! ### Pipelines -/

/-- Note the statuses of the stages of a pipeline. -/
def noteStages (statuses : List UInt8) : Run Unit :=
  modifyShell fun s => { s with stageStatuses := statuses }

/-- Run the stages of a pipeline, each with the output of the one before as its input; their
statuses. -/
def runStages (again : Evaluate) (input : Option Nat) : List Command → Run (List UInt8)
  | [] => return []
  | [last] => do
    let body : Run UInt8 := do
      if let some place := input then bindStream 0 place
      again last { final := true }
    if (← shell).settings.lastStageInside then
      return [← keepingStreams do
        if let some place := input then bindStream 0 place
        again last { tested := true }]
    else return [← waited (← fork again body)]
  | stage :: rest => do
    let place ← addOpen { channel := .pipe .empty }
    let ending ← fork again do
      if let some place := input then bindStream 0 place
      bindStream 1 place
      again stage { final := true }
    let status ← waited ending
    return status :: (← runStages again (some place) rest)

/-- The status of a pipeline: that of its last stage, or of the last one that failed. -/
def pipelineStatus (anyFails : Bool) (statuses : List UInt8) : UInt8 :=
  let last := statuses.getLastD 0
  if anyFails then (statuses.reverse.find? (· != 0)).getD 0 else last

/-! ### Loops -/

/-- The most rounds of one loop. -/
def longestLoop : Nat := 1000000

/-- Run a round of a loop; its status, and whether the loop goes on. -/
def round (body : Run (UInt8 × Bool)) : Run (UInt8 × Bool) := do
  match ← caught body with
  | .ok x => return x
  | .error (.breaking n) =>
    if n ≤ 1 then return ((← shell).status, false) else throw (.breaking (n - 1))
  | .error (.continuing n) =>
    if n ≤ 1 then return ((← shell).status, true) else throw (.continuing (n - 1))
  | .error h => throw h

/-- Run a step inside one more loop. -/
def inLoop {α : Type} (act : Run α) : Run α := do
  modifyShell fun s => { s with loops := s.loops + 1 }
  after act (modifyShell fun s => { s with loops := s.loops - 1 })

/-- Run `while` and `until`. -/
def runLoop (again : Evaluate) (f : Flags) (negated : Bool) (condition body : Command) :
    Run UInt8 :=
  inLoop (repeatStep (fun status => round do
    let test ← again condition { tested := true }
    if (test == 0) != negated then return (← again body { tested := f.tested }, true)
    else return (status, false)) longestLoop 0)

/-- Give the variable of a loop its next value; whether that was done. -/
def assignRound (name value : String) : Run Bool := do
  match (← shell).dialect with
  | .standard =>
    assign name value
    return true
  | .extended =>
    if isName name then assignElement name none false value
    else
      report ("\x60" ++ name ++ "': not a valid identifier")
      return false

/-- Run a loop over words. -/
def runEach (again : Evaluate) (f : Flags) (name : String) (words : List String)
    (body : Command) : Run UInt8 :=
  inLoop do
    let (status, _) ← words.foldlM (fun (status, going) word => do
      if going then
        runEventTrap again "DEBUG" ((← shell).settings.others.contains "functrace")
        if ← assignRound name word then
          round do return (← again body { tested := f.tested }, true)
        else return (1, false)
      else return (status, false)) ((0 : UInt8), true)
    return status

/-- The value of an expression in double parentheses; none if the expression makes no sense. -/
def valueOf (again : Evaluate) (expression : Word) : Run (Option Int64) := do
  let before := (← shell).command
  modifyShell fun s => { s with command := some "((" }
  after (do
    match ← caught (do evaluated (← expandText (runner again) expression)) with
    | .ok n => return some n
    | .error .discarding => return none
    | .error h => throw h) (modifyShell fun s => { s with command := before })

/-- Run a loop with expressions for its start, its condition and its steps. -/
def runCounted (again : Evaluate) (f : Flags) (start condition next : Word) (body : Command) :
    Run UInt8 := do
  match ← valueOf again start with
  | none => return 1
  | some _ =>
    inLoop (repeatStep (fun status => do
      let holds ← if condition.isEmpty then pure (some 1) else valueOf again condition
      match holds with
      | none => return (1, false)
      | some 0 => return (status, false)
      | some _ =>
        let (status, goes) ← round do return (← again body { tested := f.tested }, true)
        if !goes then return (status, false)
        else
          match ← valueOf again next with
          | none => return (1, false)
          | some _ => return (status, true)) longestLoop 0)

/-- Print the words of a menu, each with its number. -/
def showMenu (words : List String) : Run Unit := do
  let width := (Nat.repr words.length).length
  let line (x : String × Nat) : String :=
    let number := Nat.repr (x.2 + 1)
    String.ofList (List.replicate (width - number.length) ' ') ++ number ++ ") " ++ x.1 ++ "\n"
  let _ ← writeTo 2 (contentOf (String.join (words.zipIdx.map line)))

/-- Read the next choice from a menu, at most `n` times: the line that was read. -/
def readChoice (words : List String) : Nat → Run (Option String)
  | 0 => return none
  | n + 1 => do
    let _ ← writeTo 2 (contentOf ((← value? "PS3").getD "#? "))
    let status ← Extended.readBuiltin []
    let line := (← value? "REPLY").getD ""
    if status != 0 then
      let _ ← put "\n"
      return none
    else if line.isEmpty then
      showMenu words
      readChoice words n
    else return some line

/-- Run a loop over choices from a menu. -/
def runMenu (again : Evaluate) (f : Flags) (name : String) (words : List String) (body : Command) :
    Run UInt8 := do
  if words.isEmpty then return 0
  showMenu words
  inLoop (repeatStep (fun _ => do
    match ← readChoice words longestLoop with
    | none => return (1, false)
    | some line =>
      let n := ofDigits 10 (line.toList.filterMap digitValue)
      let isNumber := line.toList.all Char.isDigit
      let word := if !isNumber || n = 0 then none else words[n - 1]?
      if !(← assignRound name (word.getD "")) then return (1, false)
      else round do return (← again body { tested := f.tested }, true)) longestLoop 0)

/-! ### Selections -/

/-- Whether one of the patterns of an arm matches. -/
def matchesArm (again : Evaluate) (subject : String) (patterns : List Word) : Run Bool :=
  patterns.foldlM (fun found w => do
    if found then return true
    else
      let groups := (← shell).settings.groups
      fitsPattern groups (← expandPattern (runner again) w) subject) false

/-- Run the arms whose patterns match, up to one at which the selection ends; `entered` says that
the first one is run in any case. -/
def runSelect (again : Evaluate) (f : Flags) (subject : String) :
    (entered : Bool) → UInt8 → List (List Word × Command × ArmEnd) → Run UInt8
  | _, status, [] => return status
  | entered, status, (patterns, body, ending) :: arms => do
    if entered || (← matchesArm again subject patterns) then
      let last := arms.isEmpty || ending = .stop
      let status ← match body with
        | .empty => pure 0
        | body => again body (if last then f else { tested := f.tested })
      match ending with
      | .stop => return status
      | .fall => runSelect again f subject true status arms
      | .resume => runSelect again f subject false status arms
    else runSelect again f subject false status arms

/-! ### All commands -/

/-- Stop the shell at a failure that nothing looks at, if it is asked to. -/
def checked (again : Evaluate) (f : Flags) (status : UInt8) : Run UInt8 := do
  setStatus status
  if status != 0 && !f.tested then
    runEventTrap again "ERR" (← shell).settings.failuresInside
    if (← shell).settings.stopAtFailure then throw .leave
  return status

/-- Check the status of a command that is a pipeline of its own. -/
def checkedAlone (again : Evaluate) (f : Flags) (status : UInt8) : Run UInt8 := do
  noteStages [status]
  checked again f status

/-- Run a step whose messages begin with a name. -/
def named {α : Type} (name : String) (act : Run α) : Run α := do
  let before := (← shell).command
  modifyShell fun s => { s with command := some name }
  after act (modifyShell fun s => { s with command := before })

/-- Run a command; `again` runs the commands inside it. -/
def step (again : Evaluate) (c : Command) (f : Flags) : Run UInt8 := do
  let s ← shell
  if s.settings.noRun then return s.status
  let reach (line : Nat) : Run Unit := modifyShell fun s => { s with line }
  match c with
  | .empty => return s.status
  | .simple line assignments words redirects =>
    let status ← runSimple again f line assignments words redirects
    setStatus status
    runTraps again
    checkedAlone again f status
  | .pipeline stages =>
    let statuses ← runStages again none stages
    noteStages statuses
    checked again f (pipelineStatus s.settings.anyStageFails statuses)
  | .negation body =>
    let status ← again body { tested := true }
    let status := if status == 0 then 1 else 0
    setStatus status
    return status
  | .sequence first second =>
    let _ ← again first { tested := f.tested }
    again second f
  | .both first second =>
    let status ← again first { tested := true }
    if status == 0 then again second f else return status
  | .either first second =>
    let status ← again first { tested := true }
    if status == 0 then return 0 else again second f
  | .background body =>
    let job := (← get).nextProcess
    modify fun s => { s with nextProcess := job + 1 }
    let place ← addOpen { channel := .null }
    let ending ← fork again do
      bindStream 0 place
      again body { final := true }
    modifyShell fun s => { s with jobs := (job, ending) :: s.jobs }
    setStatus 0
    return 0
  | .redirected line body redirects =>
    if 0 < line then reach line
    let connections := s.connections.length
    let status ← keepingStreams do
      if ← openRedirects (runner again) redirects then again body { tested := f.tested }
      else if s.dialect = .standard then return 2
      else checked again f 1
    setStatus status
    closeConnections (runReader again) connections
    return status
  | .subshell line body redirects =>
    reach line
    let ending ← fork again do
      if ← openRedirects (runner again) redirects then
        again body { tested := f.tested, final := true }
      else return (if s.dialect = .standard then 2 else 1)
    checkedAlone again f (← waited ending)
  | .choice condition yes no =>
    let status ← again condition { tested := true }
    if status == 0 then again yes f
    else
      match no with
      | .empty =>
        setStatus 0
        return 0
      | no => again no f
  | .loop negated condition body =>
    let status ← runLoop again f negated condition body
    setStatus status
    return status
  | .each line name words body =>
    reach line
    let words ← words.mapM (expandWord (runner again))
    let status ← runEach again f name words.flatten body
    setStatus status
    return status
  | .select line subject arms =>
    reach line
    let text ← expandText (runner again) subject
    let status ← runSelect again f text false 0 arms
    setStatus status
    return status
  | .define name body =>
    let source := (s.calls.head?.map Frame.source).getD "environment"
    modifyShell fun s =>
      { s with functions := (name, ⟨body, source⟩) :: s.functions.filter fun x => x.1 != name }
    setStatus 0
    return 0
  | .ask line q =>
    reach line
    let connections := s.connections.length
    let status ← named "[[" (Extended.keepingLine (Extended.answer (runner again) q))
    closeConnections (runReader again) connections
    checkedAlone again f status
  | .compute line expression =>
    reach line
    let value ← valueOf again expression
    checkedAlone again f (if value.all (· == 0) then 1 else 0)
  | .menu line name words body =>
    reach line
    let words ← words.mapM (expandWord (runner again))
    let status ← runMenu again f name words.flatten body
    setStatus status
    return status
  | .counted line start condition next body =>
    reach line
    let status ← runCounted again f start condition next body
    setStatus status
    return status

/-- Run a command, nested at most `n` deep. -/
def evaluate : Nat → Evaluate
  | 0 => fun _ _ => leaveWith 2
  | n + 1 => step (evaluate n)

/-- The deepest nesting of commands, functions and scripts. -/
def deepest : Nat := 1000000

end ShaderBuild.Shell
