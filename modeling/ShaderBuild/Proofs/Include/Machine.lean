import Mathlib.Computability.StateTransition
import ShaderBuild.Proofs.Include.Resolver

/-! # Resolving step by step

`resolveAll` is a recursion; here it is taken apart into single steps, so that one can speak of
every state it passes through.  A `Stage` holds the resolver, the files being expanded with their
directives, innermost first, and the fault that was met, if any.  `Stage.next` opens the target of
the next directive, or puts the text of a finished file into the directive that asked for it, or,
after a fault, abandons the innermost file.

`exists_eval_start` says that the steps lead from the start of `resolveAll` to what it returns. -/

namespace ShaderBuild

open Resolver StateTransition

/-- A file being expanded, with the directives that are done and those that are not.  While the
target of a directive is being expanded, that directive is the first of the latter. -/
structure Frame where
  file : SourceFile
  done : List Directive
  todo : List Directive

/-- A state of a resolution. -/
structure Stage where
  resolver : Resolver
  /-- The files being expanded, innermost first. -/
  frames : List Frame
  /-- The fault for which the files are being left. -/
  fault : Option SourceFault := none

namespace Stage

/-! ### Executable definitions -/

/-- The stage after one step; none when only the first file is left and it is done, or was given
up. -/
def next (disk : Disk) : Stage → Option Stage
  | ⟨r, _ :: outer :: frames, some e⟩ => some ⟨r.leave, outer :: frames, some e⟩
  | ⟨r, ⟨file, done, d :: todo⟩ :: frames, none⟩ =>
    match file.target? d.line with
    | none =>
      some ⟨r, ⟨file, done, d :: todo⟩ :: frames,
        some (.malformedInclude ⟨file.path, d.line⟩ ((file.text? d.line).getD ""))⟩
    | some target =>
      match openTarget disk r ⟨file.path, d.line⟩ target with
      | .error e =>
        some ⟨r, ⟨file, done, { d with target := some target } :: todo⟩ :: frames, some e⟩
      | .ok (known, inner, ds) =>
        some ⟨r.enter known,
          ⟨inner, [], ds⟩ :: ⟨file, done, { d with target := some target } :: todo⟩ :: frames, none⟩
  | ⟨r, ⟨inner, ds, []⟩ :: ⟨file, done, d :: todo⟩ :: frames, none⟩ =>
    match inner.assemble ds with
    | .error e => some ⟨r.leave, ⟨file, done, d :: todo⟩ :: frames, some e⟩
    | .ok text =>
      some ⟨r.leave, ⟨file, done ++ [{ d with resolved := some text }], todo⟩ :: frames, none⟩
  | _ => none

/-- The stage in which `resolveAll` begins to resolve directives. -/
def start (disk : Disk) (r : Resolver) (file : SourceFile) (ds : List Directive) : Stage where
  resolver := r.enter (identity disk file.path)
  frames := [⟨file, [], ds⟩]

/-- What is returned when only the first file is left. -/
def result : Stage → Option Resolution
  | ⟨r, [⟨_, done, todo⟩], fault⟩ => some ⟨fault.elim (.ok ()) .error, done ++ todo, r.leave⟩
  | _ => none

/-! ### Single steps -/

variable {disk : Disk} {r : Resolver} {file : SourceFile} {frames : List Frame}

/-- What one step does. -/
inductive Step (disk : Disk) : Stage → Stage → Prop
  /-- After a fault the innermost file is left. -/
  | abandon {r inner outer frames e} :
      Step disk ⟨r, inner :: outer :: frames, some e⟩ ⟨r.leave, outer :: frames, some e⟩
  /-- The next directive is no well-formed include. -/
  | malformed {r file done d todo frames} : file.target? d.line = none →
      Step disk ⟨r, ⟨file, done, d :: todo⟩ :: frames, none⟩
        ⟨r, ⟨file, done, d :: todo⟩ :: frames,
          some (.malformedInclude ⟨file.path, d.line⟩ ((file.text? d.line).getD ""))⟩
  /-- The target of the next directive cannot be opened. -/
  | refuse {r file done d todo frames target e} : file.target? d.line = some target →
      openTarget disk r ⟨file.path, d.line⟩ target = .error e →
      Step disk ⟨r, ⟨file, done, d :: todo⟩ :: frames, none⟩
        ⟨r, ⟨file, done, { d with target := some target } :: todo⟩ :: frames, some e⟩
  /-- The target of the next directive is opened. -/
  | descend {r file done d todo frames target known inner ds} : file.target? d.line = some target →
      openTarget disk r ⟨file.path, d.line⟩ target = .ok (known, inner, ds) →
      Step disk ⟨r, ⟨file, done, d :: todo⟩ :: frames, none⟩
        ⟨r.enter known,
          ⟨inner, [], ds⟩ :: ⟨file, done, { d with target := some target } :: todo⟩ :: frames, none⟩
  /-- The text of the innermost file cannot be put together. -/
  | spoil {r inner ds file done d todo frames e} : inner.assemble ds = .error e →
      Step disk ⟨r, ⟨inner, ds, []⟩ :: ⟨file, done, d :: todo⟩ :: frames, none⟩
        ⟨r.leave, ⟨file, done, d :: todo⟩ :: frames, some e⟩
  /-- The text of the innermost file goes to the directive that asked for it. -/
  | splice {r inner ds file done d todo frames text} : inner.assemble ds = .ok text →
      Step disk ⟨r, ⟨inner, ds, []⟩ :: ⟨file, done, d :: todo⟩ :: frames, none⟩
        ⟨r.leave, ⟨file, done ++ [{ d with resolved := some text }], todo⟩ :: frames, none⟩

theorem next_of_step {s s' : Stage} (h : Step disk s s') : next disk s = some s' := by
  cases h with
  | abandon => simp only [next]
  | malformed ht => cases ‹List Frame› <;> simp only [next, ht]
  | refuse ht ho => cases ‹List Frame› <;> simp only [next, ht, ho]
  | descend ht ho => cases ‹List Frame› <;> simp only [next, ht, ho]
  | spoil h => simp only [next, h]
  | splice h => simp only [next, h]

theorem step_of_next {s s' : Stage} (h : next disk s = some s') : Step disk s s' := by
  unfold next at h
  split at h
  · cases h
    exact .abandon
  · rename_i r file done d todo frames
    cases ht : file.target? d.line with
    | none =>
        simp only [ht] at h
        cases h
        exact .malformed ht
    | some target =>
        cases ho : openTarget disk r ⟨file.path, d.line⟩ target with
        | error e =>
            simp only [ht, ho] at h
            cases h
            exact .refuse ht ho
        | ok o =>
            simp only [ht, ho] at h
            cases h
            exact .descend ht ho
  · rename_i r inner ds file done d todo frames
    cases ha : inner.assemble ds with
    | error e =>
        simp only [ha] at h
        cases h
        exact .spoil ha
    | ok text =>
        simp only [ha] at h
        cases h
        exact .splice ha
  · cases h

theorem reaches_of_step {s s' : Stage} (h : Step disk s s') : Reaches (next disk) s s' :=
  .single (next_of_step h)

/-! ### Runs of the recursion -/

/-- The fault that an outcome reports. -/
def faultOf : Except SourceFault Unit → Option SourceFault
  | .ok _ => none
  | .error e => some e

/-- The stages in which the innermost file can be when the resolution `res` of its remaining
directives is over. -/
def Settled (r : Resolver) (file : SourceFile) (done : List Directive) (frames : List Frame)
    (res : Resolution) (s : Stage) : Prop :=
  ∃ done' todo', s = ⟨r, ⟨file, done', todo'⟩ :: frames, faultOf res.outcome⟩ ∧
    done' ++ todo' = done ++ res.directives ∧ (res.outcome = .ok () → todo' = [])

/-- One directive is resolved by steps that end with the same files being expanded. -/
def RunsDirective (disk : Disk) (r : Resolver) : Prop :=
  ∀ (file : SourceFile) (done todo : List Directive) (d : Directive) (frames : List Frame),
    Reaches (next disk) ⟨r, ⟨file, done, d :: todo⟩ :: frames, none⟩
      (match (resolveWith (expandAt disk) r file d).outcome with
        | .ok _ =>
          ⟨r, ⟨file, done ++ [(resolveWith (expandAt disk) r file d).directive], todo⟩ :: frames,
            none⟩
        | .error e =>
          ⟨r, ⟨file, done, (resolveWith (expandAt disk) r file d).directive :: todo⟩ :: frames,
            some e⟩)

/-- Steps that resolve one directive after the other resolve all of them. -/
theorem reaches_settled (h : RunsDirective disk r) (file : SourceFile) (frames : List Frame)
    (ds done : List Directive) :
    ∃ s, Settled r file done frames (resolveEach (expandAt disk) file r ds) s ∧
      Reaches (next disk) ⟨r, ⟨file, done, ds⟩ :: frames, none⟩ s := by
  induction ds generalizing done with
  | nil => exact ⟨_, ⟨done, [], rfl, rfl, fun _ => rfl⟩, .refl⟩
  | cons d ds ih =>
      have hstep := h file done ds d frames
      have hr := resolveWith_resolver (restores_expandAt disk) r file d
      cases hd : resolveWith (expandAt disk) r file d with
      | mk outcome d' r' =>
          rw [hd] at hstep hr
          dsimp only at hr
          subst hr
          cases outcome with
          | error e =>
              rw [resolveEach_of_error hd]
              exact ⟨_, ⟨done, d' :: ds, rfl, rfl, fun h => by cases h⟩, hstep⟩
          | ok _ =>
              rw [resolveEach_of_ok hd]
              obtain ⟨s, ⟨done', todo', rfl, happ, htodo⟩, hrun⟩ := ih (done ++ [d'])
              refine ⟨_, ⟨done', todo', rfl, ?_, htodo⟩, hstep.trans hrun⟩
              rw [happ, List.append_assoc]
              rfl

theorem runsDirective (disk : Disk) (r : Resolver) : RunsDirective disk r := by
  induction r using enter_induction with
  | step r ih =>
      intro file done todo d frames
      cases ht : file.target? d.line with
      | none =>
          rw [resolveWith_of_none ht]
          exact reaches_of_step (.malformed ht)
      | some target =>
          cases ho : openTarget disk r ⟨file.path, d.line⟩ target with
          | error e =>
              rw [resolveWith_of_error ht (expandAt_of_error ho)]
              exact reaches_of_step (.refuse ht ho)
          | ok o =>
              obtain ⟨known, inner, ds⟩ := o
              have hd := (openTarget_eq_ok_iff.mp ho).1
              have hopen : Reaches (next disk) ⟨r, ⟨file, done, d :: todo⟩ :: frames, none⟩ _ :=
                reaches_of_step (.descend ht ho)
              -- the inner file is settled on top of the directive that asked for it
              obtain ⟨s, ⟨done', todo', rfl, happ, htodo⟩, hrun⟩ := reaches_settled (ih hd known)
                inner (⟨file, done, { d with target := some target } :: todo⟩ :: frames) ds []
              have hin := hopen.trans hrun
              have hx := expandAt_of_ok ho
              cases hres : (resolveEach (expandAt disk) inner (r.enter known) ds).outcome with
              | error e =>
                  rw [hres] at hx hin
                  rw [resolveWith_of_error ht hx]
                  have hout := hin.trans (reaches_of_step .abandon)
                  rwa [leave_enter] at hout
              | ok _ =>
                  rw [hres] at hx hin htodo
                  obtain rfl := htodo rfl
                  rw [List.append_nil, List.nil_append] at happ
                  subst happ
                  cases hasm : inner.assemble
                      (resolveEach (expandAt disk) inner (r.enter known) ds).directives with
                  | error e =>
                      rw [hasm] at hx
                      rw [resolveWith_of_error ht hx]
                      have hout := hin.trans (reaches_of_step (.spoil hasm))
                      rwa [leave_enter] at hout
                  | ok text =>
                      rw [hasm] at hx
                      rw [resolveWith_of_ok ht hx]
                      have hout := hin.trans (reaches_of_step (.splice hasm))
                      rwa [leave_enter] at hout

/-- The steps lead from the start of `resolveAll` to what it returns. -/
theorem exists_eval_start (disk : Disk) (r : Resolver) (file : SourceFile) (ds : List Directive) :
    ∃ s ∈ eval (next disk) (start disk r file ds), s.result = some (resolveAll disk r file ds) := by
  obtain ⟨s, ⟨done, todo, rfl, happ, htodo⟩, hrun⟩ :=
    reaches_settled (runsDirective disk (r.enter (identity disk file.path))) file [] ds []
  rw [List.nil_append] at happ
  have hres := resolveEach_resolver (restores_expandAt disk) file
    (r.enter (identity disk file.path)) ds
  refine ⟨_, mem_eval.mpr ⟨hrun, ?_⟩, ?_⟩
  · cases ho : (resolveEach (expandAt disk) file (r.enter (identity disk file.path))
        ds).outcome with
    | error e => cases todo <;> rfl
    | ok _ =>
        rw [htodo ho]
        rfl
  · rw [resolveAll_eq]
    simp only [result, resolveWithin, happ, hres]
    cases (resolveEach (expandAt disk) file (r.enter (identity disk file.path)) ds).outcome with
    | error e => rfl
    | ok _ => rfl

theorem fault_of_result {s : Stage} {res : Resolution} {e : SourceFault}
    (h : s.result = some res) (ho : res.outcome = .error e) : s.fault = some e := by
  unfold result at h
  split at h
  · cases h
    rename_i fault
    cases fault with
    | none => cases ho
    | some e' =>
        cases ho
        rfl
  · cases h

end Stage

end ShaderBuild
