import Mathlib.Data.List.Forall2
import ShaderBuild.Flattened

/-! # The recursion of the resolver

`expand` recurses on the room that its caller grants.  With at least as much room as the resolver
has, the grant does not matter (`expand_eq_expandAt`), and every expansion gives the resolver back
as it was (`restores_expand`).  Together they give equations in which no counter occurs: a target
that cannot be opened fails with the fault of opening it, and one that opens is expanded by
resolving its directives one level deeper (`expandAt_of_error`, `expandAt_of_ok`).
`enter_induction` is the induction that goes with these equations. -/

namespace ShaderBuild

theorem bind_eq_ok_iff {ε α β : Type} {m : Except ε α} {f : α → Except ε β} {b : β} :
    m.bind f = .ok b ↔ ∃ a, m = .ok a ∧ f a = .ok b := by
  cases m <;> simp [Except.bind]

theorem bind_eq_error_iff {ε α β : Type} {m : Except ε α} {f : α → Except ε β} {e : ε} :
    m.bind f = .error e ↔ m = .error e ∨ ∃ a, m = .ok a ∧ f a = .error e := by
  cases m <;> simp [Except.bind]

/-- The target that line `i` names, if it is a well-formed include. -/
def SourceFile.target? (f : SourceFile) (i : ℕ) : Option String :=
  includePath? ((f.text? i).getD "")

namespace Resolver

variable {disk : Disk} {r : Resolver} {file : SourceFile} {x y : Expander}

/-! ### Entering and leaving -/

@[simp] theorem enter_active (r : Resolver) (p : Path) : (r.enter p).active = r.active ++ [p] := rfl

@[simp] theorem enter_baseDir (r : Resolver) (p : Path) : (r.enter p).baseDir = r.baseDir := rfl

@[simp] theorem enter_maxDepth (r : Resolver) (p : Path) : (r.enter p).maxDepth = r.maxDepth := rfl

@[simp] theorem leave_enter (r : Resolver) (p : Path) : (r.enter p).leave = r := by
  simp [enter, leave]

theorem room_enter (r : Resolver) (p : Path) : (r.enter p).room = r.room - 1 := by
  simp only [room, enter_active, enter_maxDepth, List.length_append, List.length_singleton]
  omega

/-- What holds of a resolver once it holds after entering any further file that the depth limit
admits, holds of every resolver. -/
theorem enter_induction {P : Resolver → Prop}
    (step : ∀ r, (r.active.length ≤ r.maxDepth → ∀ p, P (r.enter p)) → P r) (r : Resolver) :
    P r := by
  induction h : r.room generalizing r with
  | zero =>
      apply step
      intro hd
      unfold room at h
      omega
  | succ n ih =>
      apply step
      intro _ p
      apply ih
      rw [room_enter, h]
      rfl

/-! ### Resolving one directive -/

theorem resolveWith_of_none {d : Directive} (h : file.target? d.line = none) :
    resolveWith x r file d =
      ⟨.error (.malformedInclude ⟨file.path, d.line⟩ ((file.text? d.line).getD "")), d, r⟩ := by
  unfold SourceFile.target? at h
  simp only [resolveWith, h]

theorem resolveWith_of_ok {d : Directive} {target text : String} {r' : Resolver}
    (h : file.target? d.line = some target)
    (hx : x r ⟨file.path, d.line⟩ target = (.ok text, r')) :
    resolveWith x r file d =
      ⟨.ok (), { d with target := some target, resolved := some text }, r'⟩ := by
  unfold SourceFile.target? at h
  simp only [resolveWith, h, hx]

theorem resolveWith_of_error {d : Directive} {target : String} {e : SourceFault} {r' : Resolver}
    (h : file.target? d.line = some target)
    (hx : x r ⟨file.path, d.line⟩ target = (.error e, r')) :
    resolveWith x r file d = ⟨.error e, { d with target := some target }, r'⟩ := by
  unfold SourceFile.target? at h
  simp only [resolveWith, h, hx]

theorem resolveEach_of_ok {d d' : Directive} {ds : List Directive} {r' : Resolver}
    (h : resolveWith x r file d = ⟨.ok (), d', r'⟩) :
    resolveEach x file r (d :: ds) =
      { resolveEach x file r' ds with
        directives := d' :: (resolveEach x file r' ds).directives } := by
  simp only [resolveEach, h]

theorem resolveEach_of_error {d d' : Directive} {ds : List Directive} {e : SourceFault}
    {r' : Resolver} (h : resolveWith x r file d = ⟨.error e, d', r'⟩) :
    resolveEach x file r (d :: ds) = ⟨.error e, d' :: ds, r'⟩ := by
  simp only [resolveEach, h]

/-! ### The resolver comes back -/

/-- An expander gives back the resolver it was handed. -/
def Restores (x : Expander) : Prop :=
  ∀ r site target, (x r site target).2 = r

theorem resolveWith_resolver (hx : Restores x) (r : Resolver) (file : SourceFile) (d : Directive) :
    (resolveWith x r file d).resolver = r := by
  cases ht : file.target? d.line with
  | none => rw [resolveWith_of_none ht]
  | some target =>
      have hr := hx r ⟨file.path, d.line⟩ target
      cases hxt : x r ⟨file.path, d.line⟩ target with
      | mk outcome r' =>
          rw [hxt] at hr
          cases outcome with
          | error e => rw [resolveWith_of_error ht hxt]; exact hr
          | ok text => rw [resolveWith_of_ok ht hxt]; exact hr

theorem resolveEach_resolver (hx : Restores x) (file : SourceFile) (r : Resolver)
    (ds : List Directive) : (resolveEach x file r ds).resolver = r := by
  induction ds with
  | nil => rfl
  | cons d ds ih =>
      have hr := resolveWith_resolver hx r file d
      cases hd : resolveWith x r file d with
      | mk outcome d' r' =>
          rw [hd] at hr
          dsimp only at hr
          subst hr
          cases outcome with
          | error e => rw [resolveEach_of_error hd]
          | ok _ => rw [resolveEach_of_ok hd]; exact ih

theorem resolveWithin_resolver (hx : Restores x) (r : Resolver) (known : Path) (file : SourceFile)
    (ds : List Directive) : (resolveWithin x r known file ds).resolver = r := by
  unfold resolveWithin
  dsimp only
  rw [resolveEach_resolver hx, leave_enter]

theorem restores_expand (disk : Disk) (room : ℕ) : Restores (expand disk room) := by
  induction room with
  | zero =>
      intro r site target
      rfl
  | succ room ih =>
      intro r site target
      unfold expand
      cases openTarget disk r site target with
      | error e => rfl
      | ok o =>
          obtain ⟨known, file, ds⟩ := o
          have hr := resolveWithin_resolver ih r known file ds
          dsimp only
          cases (resolveWithin (expand disk room) r known file ds).outcome with
          | error e => exact hr
          | ok _ => exact hr

/-- Expanders that agree on a resolver resolve directives alike, since each hands it on
unchanged. -/
theorem resolveEach_congr (hx : Restores x) (h : ∀ site target, x r site target = y r site target)
    (file : SourceFile) (ds : List Directive) :
    resolveEach x file r ds = resolveEach y file r ds := by
  induction ds with
  | nil => rfl
  | cons d ds ih =>
      have hr := resolveWith_resolver hx r file d
      have hxy : resolveWith x r file d = resolveWith y r file d := by
        unfold resolveWith
        simp only [h]
      cases hd : resolveWith x r file d with
      | mk outcome d' r' =>
          rw [hd] at hr
          dsimp only at hr
          subst hr
          have hd' := hxy.symm.trans hd
          cases outcome with
          | error e => rw [resolveEach_of_error hd, resolveEach_of_error hd']
          | ok _ => rw [resolveEach_of_ok hd, resolveEach_of_ok hd', ih]

/-! ### Opening a target -/

/-- The checks of a target in the order in which they are made. -/
theorem openTarget_eq (disk : Disk) (r : Resolver) (site : Site) (target : String) :
    openTarget disk r site target =
      if r.maxDepth < r.active.length then .error (.includeTooDeep site r.maxDepth)
      else (locate disk site (r.baseDir.join (.ofString target))).bind fun known =>
        if r.active.any known.same then .error (.includeCycle known r.active site)
        else (SourceFile.load disk (r.baseDir.join (.ofString target))).bind fun inner =>
          inner.outline.bind fun o =>
            match o.marker with
            | some marker => .error (.nestedBlock ⟨inner.path, marker⟩)
            | none => .ok (known, inner, o.includes) := by
  unfold openTarget
  dsimp only
  split_ifs
  · rfl
  · cases locate disk site (r.baseDir.join (.ofString target)) with
    | error e => rfl
    | ok known =>
        cases hc : r.active.any known.same with
        | true => simp [bind, Except.bind, hc, throw, throwThe, MonadExceptOf.throw]
        | false =>
            simp only [bind, Except.bind, hc, pure, Except.pure, Bool.false_eq_true, if_false]
            rfl

theorem locate_eq_ok_iff {site : Site} {path known : Path} :
    locate disk site path = .ok known ↔ disk.canonical path = .ok known := by
  unfold locate
  cases disk.canonical path with
  | ok c => simp
  | error cause => cases cause <;> simp

theorem eq_of_locate_eq_error {site : Site} {path : Path} {e : SourceFault}
    (h : locate disk site path = .error e) :
    (disk.canonical path = .error .notFound ∧ e = .includeNotFound path site) ∨
      ∃ cause, disk.canonical path = .error cause ∧ cause ≠ .notFound ∧
        e = .readError path cause := by
  unfold locate at h
  split at h
  · cases h
  · next hc =>
      cases h
      exact .inl ⟨hc, rfl⟩
  · next cause hne hc =>
      cases h
      exact .inr ⟨cause, hc, hne, rfl⟩

/-- What it takes to open a target: room, a canonical path that is not being expanded, and a file
without a block marker. -/
theorem openTarget_eq_ok_iff {site : Site} {target : String} {known : Path} {inner : SourceFile}
    {ds : List Directive} :
    openTarget disk r site target = .ok (known, inner, ds) ↔
      r.active.length ≤ r.maxDepth ∧
      disk.canonical (r.baseDir.join (.ofString target)) = .ok known ∧
      (∀ p ∈ r.active, known.same p = false) ∧
      SourceFile.load disk (r.baseDir.join (.ofString target)) = .ok inner ∧
      inner.outline = .ok ⟨ds, none⟩ := by
  rw [openTarget_eq]
  by_cases hd : r.maxDepth < r.active.length
  · simp [hd, Nat.not_le.mpr hd]
  · rw [if_neg hd, bind_eq_ok_iff]
    constructor
    · rintro ⟨k, hk, h⟩
      by_cases hc : r.active.any k.same = true
      · rw [if_pos hc] at h
        cases h
      · rw [if_neg hc, bind_eq_ok_iff] at h
        obtain ⟨f, hf, h⟩ := h
        obtain ⟨⟨includes, marker⟩, ho, h⟩ := bind_eq_ok_iff.mp h
        cases marker with
        | some m => cases h
        | none =>
            cases h
            exact ⟨Nat.not_lt.mp hd, locate_eq_ok_iff.mp hk, by simpa using hc, hf, ho⟩
    · rintro ⟨_, hk, hc, hf, ho⟩
      have hc' : ¬ r.active.any known.same = true := by simpa using hc
      exact ⟨known, locate_eq_ok_iff.mpr hk, by simp only [if_neg hc', hf, ho, Except.bind]⟩

/-- Why a target cannot be opened, one constructor for each check in the order in which they are
made. -/
inductive Refusal (disk : Disk) (r : Resolver) (site : Site) (path : Path) : SourceFault → Prop
  | tooDeep : r.maxDepth < r.active.length →
      Refusal disk r site path (.includeTooDeep site r.maxDepth)
  | lost {e} : r.active.length ≤ r.maxDepth → locate disk site path = .error e →
      Refusal disk r site path e
  | cycle {known} : r.active.length ≤ r.maxDepth → disk.canonical path = .ok known →
      (∃ p ∈ r.active, known.same p = true) →
      Refusal disk r site path (.includeCycle known r.active site)
  | unread {known e} : r.active.length ≤ r.maxDepth → disk.canonical path = .ok known →
      (∀ p ∈ r.active, known.same p = false) → SourceFile.load disk path = .error e →
      Refusal disk r site path e
  | duplicate {known inner e} : r.active.length ≤ r.maxDepth → disk.canonical path = .ok known →
      (∀ p ∈ r.active, known.same p = false) → SourceFile.load disk path = .ok inner →
      inner.outline = .error e → Refusal disk r site path e
  | nested {known inner ds marker} : r.active.length ≤ r.maxDepth →
      disk.canonical path = .ok known → (∀ p ∈ r.active, known.same p = false) →
      SourceFile.load disk path = .ok inner →
      inner.outline = .ok ⟨ds, some marker⟩ →
      Refusal disk r site path (.nestedBlock ⟨inner.path, marker⟩)

/-- A target that cannot be opened is refused by one of the checks, and the fault says by which. -/
theorem refusal_of_openTarget_eq_error {site : Site} {target : String} {e : SourceFault}
    (h : openTarget disk r site target = .error e) :
    Refusal disk r site (r.baseDir.join (.ofString target)) e := by
  rw [openTarget_eq] at h
  by_cases hd : r.maxDepth < r.active.length
  · rw [if_pos hd] at h
    cases h
    exact .tooDeep hd
  · rw [if_neg hd] at h
    have hd' := Nat.not_lt.mp hd
    cases hl : locate disk site (r.baseDir.join (.ofString target)) with
    | error e' =>
        rw [hl] at h
        cases h
        exact .lost hd' hl
    | ok known =>
        rw [hl] at h
        have hk := locate_eq_ok_iff.mp hl
        by_cases hc : r.active.any known.same = true
        · simp only [Except.bind, if_pos hc] at h
          cases h
          exact .cycle hd' hk (by simpa using hc)
        · simp only [Except.bind, if_neg hc] at h
          have hc' : ∀ p ∈ r.active, known.same p = false := by simpa using hc
          cases hf : SourceFile.load disk (r.baseDir.join (.ofString target)) with
          | error e' =>
              rw [hf] at h
              cases h
              exact .unread hd' hk hc' hf
          | ok inner =>
              rw [hf] at h
              dsimp only at h
              cases ho : inner.outline with
              | error e' =>
                  rw [ho] at h
                  cases h
                  exact .duplicate hd' hk hc' hf ho
              | ok o =>
                  obtain ⟨ds, marker⟩ := o
                  rw [ho] at h
                  cases marker with
                  | none => cases h
                  | some marker =>
                      cases h
                      exact .nested hd' hk hc' hf ho

/-! ### Equations without a counter -/

/-- The expansion of a target with as much room as the resolver has. -/
def expandAt (disk : Disk) : Expander :=
  fun r site target => expand disk r.room r site target

theorem restores_expandAt (disk : Disk) : Restores (expandAt disk) :=
  fun r => restores_expand disk r.room r

theorem openTarget_of_room_eq_zero (h : r.room = 0) (site : Site) (target : String) :
    openTarget disk r site target = .error (.includeTooDeep site r.maxDepth) := by
  have hd : r.maxDepth < r.active.length := by
    unfold room at h
    omega
  rw [openTarget_eq, if_pos hd]

/-- More room than the resolver has makes no difference. -/
theorem expand_eq_expandAt {room : ℕ} (h : r.room ≤ room) (site : Site) (target : String) :
    expand disk room r site target = expandAt disk r site target := by
  unfold expandAt
  induction room generalizing r site target with
  | zero => rw [Nat.le_zero.mp h]
  | succ room ih =>
      cases hr : r.room with
      | zero => simp only [expand, openTarget_of_room_eq_zero hr]
      | succ n =>
          simp only [expand]
          cases openTarget disk r site target with
          | error e => rfl
          | ok o =>
              obtain ⟨known, inner, ds⟩ := o
              have hn : (r.enter known).room = n := by rw [room_enter, hr]; rfl
              have heach : resolveEach (expand disk room) inner (r.enter known) ds =
                  resolveEach (expand disk n) inner (r.enter known) ds := by
                apply resolveEach_congr (restores_expand disk room)
                intro site' target'
                rw [ih (by omega), hn]
              simp only [resolveWithin, heach]

theorem expandAt_of_error {site : Site} {target : String} {e : SourceFault}
    (h : openTarget disk r site target = .error e) :
    expandAt disk r site target = (.error e, r) := by
  rw [← expand_eq_expandAt (Nat.le_succ r.room)]
  simp only [expand, h]

theorem expandAt_of_ok {site : Site} {target : String} {known : Path} {inner : SourceFile}
    {ds : List Directive} (h : openTarget disk r site target = .ok (known, inner, ds)) :
    expandAt disk r site target =
      ((resolveEach (expandAt disk) inner (r.enter known) ds).outcome.bind fun _ =>
        inner.assemble (resolveEach (expandAt disk) inner (r.enter known) ds).directives, r) := by
  have heach : resolveEach (expand disk r.room) inner (r.enter known) ds =
      resolveEach (expandAt disk) inner (r.enter known) ds := by
    apply resolveEach_congr (restores_expand disk r.room)
    intro site' target'
    apply expand_eq_expandAt
    rw [room_enter]
    omega
  have hres := resolveEach_resolver (restores_expandAt disk) inner (r.enter known) ds
  rw [← expand_eq_expandAt (Nat.le_succ r.room)]
  simp only [expand, h, resolveWithin, heach, hres, leave_enter]
  cases (resolveEach (expandAt disk) inner (r.enter known) ds).outcome with
  | error e => rfl
  | ok _ => rfl

/-- A target expands exactly if it opens, its directives resolve and its text can be assembled. -/
theorem expandAt_eq_ok_iff {site : Site} {target text : String} :
    (expandAt disk r site target).1 = .ok text ↔
      ∃ known inner ds, openTarget disk r site target = .ok (known, inner, ds) ∧
        (resolveEach (expandAt disk) inner (r.enter known) ds).outcome = .ok () ∧
        inner.assemble (resolveEach (expandAt disk) inner (r.enter known) ds).directives =
          .ok text := by
  cases ho : openTarget disk r site target with
  | error e => simp [expandAt_of_error ho]
  | ok o =>
      obtain ⟨known, inner, ds⟩ := o
      rw [expandAt_of_ok ho, bind_eq_ok_iff]
      constructor
      · rintro ⟨_, hr, hs⟩
        exact ⟨known, inner, ds, rfl, hr, hs⟩
      · rintro ⟨_, _, _, h, hr, hs⟩
        cases h
        exact ⟨(), hr, hs⟩

theorem resolve_eq (disk : Disk) (r : Resolver) (file : SourceFile) (d : Directive) :
    resolve disk r file d = resolveWith (expandAt disk) r file d :=
  rfl

theorem resolveAll_eq (disk : Disk) (r : Resolver) (file : SourceFile) (ds : List Directive) :
    resolveAll disk r file ds =
      resolveWithin (expandAt disk) r (identity disk file.path) file ds := by
  have heach : resolveEach (expand disk r.room) file (r.enter (identity disk file.path)) ds =
      resolveEach (expandAt disk) file (r.enter (identity disk file.path)) ds := by
    apply resolveEach_congr (restores_expand disk r.room)
    intro site target
    apply expand_eq_expandAt
    rw [room_enter]
    omega
  simp only [resolveAll, resolveWithin, heach]

end Resolver

end ShaderBuild
