import ShaderBuild.Proofs.Include.Resolver

/-! # One resolver for many calls

A resolver holds the files being expanded, and whoever begins to expand a file has to end that
again, also where the expansion fails half-way.  Nothing of a call is left in the resolver: it is
the one that it was before, after every call and at every depth inside one, so a resolver that has
served any calls, on file systems that changed between them, answers the next one like a new
resolver (`calls_as_new`). -/

namespace ShaderBuild

/-- A call on a resolver: to resolve one directive of a file, or directives of a file while that
counts as being expanded. -/
inductive Call where
  | one (file : SourceFile) (d : Directive)
  | all (file : SourceFile) (ds : List Directive)

/-- What a call answers: its outcome, and its directives afterwards. -/
structure Answer where
  outcome : Except SourceFault Unit
  directives : List Directive

namespace Resolver

/-! ### Executable definitions -/

/-- The answer to a call, and the resolver afterwards. -/
def call (disk : Disk) (r : Resolver) : Call → Answer × Resolver
  | .one file d =>
    let done := resolve disk r file d
    (⟨done.outcome, [done.directive]⟩, done.resolver)
  | .all file ds =>
    let done := resolveAll disk r file ds
    (⟨done.outcome, done.directives⟩, done.resolver)

/-- The answers to calls that are made on one resolver one after the other, each on the file system
of its time, and the resolver after each. -/
def calls : Resolver → List (Disk × Call) → List (Answer × Resolver)
  | _, [] => []
  | r, (disk, c) :: cs => call disk r c :: calls (call disk r c).2 cs

/-! ### The resolver after a call -/

theorem resolveAll_resolver (disk : Disk) (r : Resolver) (file : SourceFile) (ds : List Directive) :
    (resolveAll disk r file ds).resolver = r :=
  resolveWithin_resolver (restores_expand disk r.room) r _ file ds

theorem call_resolver (disk : Disk) (r : Resolver) (c : Call) : (call disk r c).2 = r := by
  cases c with
  | one file d => exact resolveWith_resolver (restores_expand disk r.room) r file d
  | all file ds => exact resolveAll_resolver disk r file ds

theorem calls_eq_map (r : Resolver) (history : List (Disk × Call)) :
    calls r history = history.map fun x => ((call x.1 r x.2).1, r) := by
  induction history with
  | nil => rfl
  | cons x history ih =>
      obtain ⟨disk, c⟩ := x
      have hr := call_resolver disk r c
      rw [calls, List.map_cons, hr, ih]
      exact congrArg (· :: _) (Prod.ext rfl hr)

/-- Calls on one resolver are answered one by one as by a new one, and each of them leaves the
resolver as new.  Inside a call every expansion, every directive and all directives of a file leave
it as it was before them, whether they fail or not. -/
theorem calls_as_new (baseDir : Path) (maxDepth : ℕ) (history : List (Disk × Call)) :
    calls ⟨baseDir, maxDepth, []⟩ history =
      history.map (fun x => ((call x.1 ⟨baseDir, maxDepth, []⟩ x.2).1, ⟨baseDir, maxDepth, []⟩)) ∧
    ∀ (disk : Disk) (room : ℕ) (r : Resolver),
      (∀ site target, (expand disk room r site target).2 = r) ∧
      (∀ file d, (resolveWith (expand disk room) r file d).resolver = r) ∧
      ∀ known file ds, (resolveWithin (expand disk room) r known file ds).resolver = r := by
  refine ⟨calls_eq_map ⟨baseDir, maxDepth, []⟩ history, ?_⟩
  intro disk room r
  have hx := restores_expand disk room
  exact ⟨hx r, resolveWith_resolver hx r, resolveWithin_resolver hx r⟩

/-- A resolver that met a cycle one level down resolves the next directive as a new one does. -/
example :
    (calls { baseDir := ⟨[]⟩ }
      [({ canonical := fun p => .ok p, readText := fun _ => .ok "//#INCLUDE \"a\"" },
        .all (.ofText (.ofString "x") "//#INCLUDE \"a\"") [{ line := 0 }]),
      ({ canonical := fun p => .ok p, readText := fun _ => .ok "Y" },
        .one (.ofText (.ofString "x") "//#INCLUDE \"a\"") { line := 0 })]).map
          (fun x => (x.1.directives.map Directive.resolved, x.2.active)) =
      [([none], []), ([some "Y"], [])] := by
  decide +kernel

end Resolver

end ShaderBuild
