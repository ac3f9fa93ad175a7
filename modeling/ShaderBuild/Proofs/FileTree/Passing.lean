import Mathlib.Data.Option.Basic
import ShaderBuild.Proofs.FileTree.Growth

/-! # What a path leads through

`FileTree.passed` lists the locations that the names of a path lead through.  Two trees that hold
entries of the same kind there walk the path alike (`walk_congr`): they find the same place, or fail
with the same fault.  What a walk passes before it arrives are directories and links
(`Treads.passed_cases`). -/

namespace ShaderBuild

/-- Entries that a walk cannot tell apart, but for what a directory holds. -/
inductive Entry.Alike : Entry → Entry → Prop
  | dir {mode children children'} : Alike (.dir mode children) (.dir mode children')
  | file {n n'} : Alike (.file n) (.file n')
  | link {target} : Alike (.link target) (.link target)
  | device {d} : Alike (.device d) (.device d)

theorem Entry.Alike.refl (e : Entry) : Alike e e := by
  cases e with
  | dir _ _ => exact .dir
  | file _ => exact .file
  | link _ => exact .link
  | device _ => exact .device

/-- A relation between entries that are alike, under which what a directory holds does not
matter. -/
structure Entry.Refines (R : Entry → Entry → Prop) : Prop where
  alike : ∀ {e e'}, R e e' → Alike e e'
  dir : ∀ {mode children children'}, R (.dir mode children) (.dir mode children')

/-- Whether a walk may go on at an entry. -/
def Entry.leadsOn : Entry → Bool
  | .dir _ _ | .link _ => true
  | _ => false

namespace FileTree

/-! ### Executable definitions -/

/-- The location from which a walk along a path starts, seen from the directory at `l`. -/
def baseOf (l : Location) (p : Path) : Location :=
  if p.isAbsolute then [] else l

/-- The locations that the names lead through from `l`, whatever the modes on the way are;
`follow` continues after a link. -/
def passedWith (t : FileTree) (follow : Location → List Bytes → List Location) :
    Location → List Bytes → List Location
  | _, [] => []
  | l, n :: rest =>
    if n = [] ∨ n = [dot] then passedWith t follow l rest
    else if n = [dot, dot] then l.dropLast :: passedWith t follow l.dropLast rest
    else (l ++ [n]) ::
      match t.lookup (l ++ [n]) with
      | some (.dir _ _) => passedWith t follow (l ++ [n]) rest
      | some (.link target) => baseOf l target :: follow (baseOf l target) (stepsOf target ++ rest)
      | _ => []

/-- The locations that the names lead through with at most `links` links followed. -/
def passedFrom (t : FileTree) : ℕ → Location → List Bytes → List Location
  | 0 => passedWith t fun _ _ => []
  | links + 1 => passedWith t (passedFrom t links)

/-- The locations that a path leads through, from where it starts to where it leads. -/
def passed (t : FileTree) (p : Path) : List Location :=
  baseOf t.workingDir p :: passedFrom t linkLimit (baseOf t.workingDir p) (stepsOf p)

section
variable {t t' : FileTree} {g : Gait} {links : ℕ} {l : Location} {n : Bytes}
  {rest names : List Bytes} {p : Path} {pl : Place}

/-! ### Standing at a location -/

@[simp] theorem standpoint_trail (t : FileTree) (l : Location) :
    (t.standpoint l).trail = l.reverse := by
  unfold standpoint
  split <;> rfl

/-- A name is looked up in the directory at a location, or there is neither. -/
theorem lookup_standpoint (t : FileTree) (l : Location) (n : Bytes) :
    (t.standpoint l).children.lookup n = t.lookup (l ++ [n]) := by
  cases hl : t.lookup (l ++ [n]) with
  | some e =>
      obtain ⟨mode, children, hd⟩ := exists_dir_of_lookup_concat hl
      rw [lookup_concat hd] at hl
      rw [standpoint, hd]
      exact hl
  | none =>
      unfold standpoint
      split
      · next hd => rw [← lookup_concat hd, hl]
      · rfl

theorem standpoint_concat {mode : Mode} {children : Directory}
    (h : t.lookup (l ++ [n]) = some (.dir mode children)) :
    t.standpoint (l ++ [n]) = ⟨n :: (t.standpoint l).trail, mode, children⟩ := by
  rw [standpoint, h]
  simp

theorem standpoint_up (t : FileTree) (l : Location) :
    t.standpoint (t.standpoint l).trail.tail.reverse = t.standpoint l.dropLast := by
  rw [standpoint_trail, List.tail_reverse, List.reverse_reverse]

theorem startOf_standpoint (t : FileTree) (l : Location) (p : Path) :
    t.startOf (t.standpoint l) p = t.standpoint (baseOf l p) := by
  unfold startOf baseOf
  split <;> rfl

theorem outset_eq (t : FileTree) (p : Path) :
    t.outset p = t.standpoint (baseOf t.workingDir p) :=
  startOf_standpoint t t.workingDir p

theorem placeAt_standpoint (t : FileTree) (l : Location) (n : Bytes) (e : Option Entry)
    (rest : List Bytes) :
    placeAt (t.standpoint l) n e rest = ⟨l ++ [n], e, !rest.isEmpty⟩ := by
  simp [placeAt]

/-! ### Single steps -/

/-- What is passed after a link. -/
def passedOnward (t : FileTree) : ℕ → Location → List Bytes → List Location
  | 0 => fun _ _ => []
  | links + 1 => passedFrom t links

theorem passedFrom_eq (t : FileTree) (links : ℕ) :
    passedFrom t links = passedWith t (passedOnward t links) := by
  cases links <;> rfl

theorem passedFrom_nil : passedFrom t links l [] = [] := by
  rw [passedFrom_eq, passedWith]

theorem passedFrom_skip (h : n = [] ∨ n = [dot]) :
    passedFrom t links l (n :: rest) = passedFrom t links l rest := by
  rw [passedFrom_eq, passedWith, if_pos h]

theorem passedFrom_up :
    passedFrom t links l ([dot, dot] :: rest) =
      l.dropLast :: passedFrom t links l.dropLast rest := by
  rw [passedFrom_eq, passedWith, if_neg (by decide), if_pos rfl]

theorem passedFrom_name (h₁ : n ≠ []) (h₂ : n ≠ [dot]) (h₃ : n ≠ [dot, dot]) :
    passedFrom t links l (n :: rest) = (l ++ [n]) ::
      match t.lookup (l ++ [n]) with
      | some (.dir _ _) => passedFrom t links (l ++ [n]) rest
      | some (.link target) =>
        baseOf l target :: passedOnward t links (baseOf l target) (stepsOf target ++ rest)
      | _ => [] := by
  rw [passedFrom_eq, passedWith, if_neg (not_or.mpr ⟨h₁, h₂⟩), if_neg h₃]

/-! ### Walks on two trees -/

/-- Walks that end alike: with the same fault, or at the same location with related entries. -/
inductive EndsAlike (R : Entry → Entry → Prop) :
    Except FileFault Place → Except FileFault Place → Prop
  | error {fault} : EndsAlike R (.error fault) (.error fault)
  | ok {l entry entry' slashed} : Option.Rel R entry entry' →
      EndsAlike R (.ok ⟨l, entry, slashed⟩) (.ok ⟨l, entry', slashed⟩)

/-- Two trees hold related entries at a location, or none. -/
def RelAt (R : Entry → Entry → Prop) (t t' : FileTree) (l : Location) : Prop :=
  Option.Rel R (t.lookup l) (t'.lookup l)

variable {R : Entry → Entry → Prop}

theorem RelAt.cases (h : RelAt R t t' l) : (t.lookup l = none ∧ t'.lookup l = none) ∨
    ∃ e e', t.lookup l = some e ∧ t'.lookup l = some e' ∧ R e e' := by
  unfold RelAt at h
  generalize t.lookup l = x at h ⊢
  generalize t'.lookup l = x' at h ⊢
  cases h with
  | none => exact .inl ⟨rfl, rfl⟩
  | some he => exact .inr ⟨_, _, rfl, rfl, he⟩

theorem RelAt.mode_eq (hR : Entry.Refines R) (h : RelAt R t t' l) :
    (t'.standpoint l).mode = (t.standpoint l).mode := by
  obtain ⟨hl, hl'⟩ | ⟨e, e', hl, hl', he⟩ := h.cases
  · simp only [standpoint, hl, hl']
  · unfold standpoint
    rw [hl, hl']
    cases hR.alike he <;> rfl

/-- Trees that hold related entries at a location and above it let it be reached alike. -/
theorem mayReach_congr (hR : Entry.Refines R) (h : ∀ m, m <+: l → RelAt R t t' m) :
    t'.root.mayReach l = t.root.mayReach l := by
  rw [Bool.eq_iff_iff, Entry.mayReach_iff, Entry.mayReach_iff]
  constructor
  · intro hreach m n mode children hm hl
    obtain ⟨hnone, _⟩ | ⟨e, e', he, he', hrel⟩ := (h m ((List.prefix_append m [n]).trans hm)).cases
    · simp [lookup, hl] at hnone
    · rw [lookup, hl] at he
      cases he
      cases hR.alike hrel with
      | dir => exact hreach m n mode _ hm he'
  · intro hreach m n mode children hm hl
    obtain ⟨_, hnone⟩ | ⟨e, e', he, he', hrel⟩ := (h m ((List.prefix_append m [n]).trans hm)).cases
    · simp [lookup, hl] at hnone
    · rw [lookup, hl] at he'
      cases he'
      cases hR.alike hrel with
      | dir => exact hreach m n mode _ hm he

/-- Two trees hold related entries at a location and, where paths are walked from the root, at all
locations above it. -/
structure RelAlong (R : Entry → Entry → Prop) (g : Gait) (t t' : FileTree) (l : Location) :
    Prop where
  here : RelAt R t t' l
  above : g.fromRoot = true → ∀ m, m <+: l → RelAt R t t' m

theorem RelAlong.refusal?_eq (hR : Entry.Refines R) (h : RelAlong R g t t' l) (n : Bytes) :
    t'.refusal? g (t'.standpoint l) n = t.refusal? g (t.standpoint l) n := by
  unfold refusal?
  rw [h.here.mode_eq hR, standpoint_trail, standpoint_trail, List.reverse_reverse]
  cases hg : g.fromRoot with
  | false => rfl
  | true => rw [mayReach_congr hR (h.above hg)]

/-- A walk goes alike in two trees if it does so after each link and the trees hold related entries
at every location that is passed. -/
theorem walk_congr_of_onward (hR : Entry.Refines R)
    (hon : ∀ l names, (∀ k ∈ l :: passedOnward t links l names, RelAlong R g t t' k) →
      EndsAlike R (onward t g links (t.standpoint l) names)
        (onward t' g links (t'.standpoint l) names))
    (h : ∀ k ∈ l :: passedFrom t links l names, RelAlong R g t t' k) :
    EndsAlike R (t.walk g links (t.standpoint l) names)
      (t'.walk g links (t'.standpoint l) names) := by
  induction names generalizing l with
  | nil =>
      rw [walk_nil, walk_nil, standpoint_trail, standpoint_trail,
        (h l List.mem_cons_self).here.mode_eq hR]
      exact .ok (.some hR.dir)
  | cons n rest ih =>
      have hl := h l List.mem_cons_self
      have hmode := hl.here.mode_eq hR
      by_cases h₁ : n = []
      · subst h₁
        rw [passedFrom_skip (.inl rfl)] at h
        rw [walk_blank, walk_blank]
        exact ih h
      by_cases hturns : Turns g (t.standpoint l)
      swap
      · have hturns' : ¬ Turns g (t'.standpoint l) := by
          unfold Turns at hturns ⊢
          rwa [hmode]
        rw [walk_of_not_turns h₁ hturns, walk_of_not_turns h₁ hturns']
        exact .error
      have hturns' : Turns g (t'.standpoint l) := by
        unfold Turns at hturns ⊢
        rwa [hmode]
      by_cases h₂ : n = [dot]
      · subst h₂
        rw [passedFrom_skip (.inr rfl)] at h
        rw [walk_here hturns, walk_here hturns']
        exact ih h
      by_cases h₃ : n = [dot, dot]
      · subst h₃
        rw [passedFrom_up] at h
        rw [walk_up hturns, walk_up hturns', standpoint_up, standpoint_up]
        exact ih fun k hk => h k (List.mem_cons_of_mem _ hk)
      by_cases hrefusal : t.refusal? g (t.standpoint l) n = none
      swap
      · obtain ⟨fault, hfault⟩ := Option.ne_none_iff_exists'.mp hrefusal
        rw [walk_of_refusal? h₁ h₂ h₃ hfault,
          walk_of_refusal? h₁ h₂ h₃ ((hl.refusal?_eq hR n).trans hfault)]
        exact .error
      have hs : Searches t g (t.standpoint l) n := ⟨h₁, h₂, h₃, hrefusal⟩
      have hs' : Searches t' g (t'.standpoint l) n :=
        ⟨h₁, h₂, h₃, (hl.refusal?_eq hR n).trans hrefusal⟩
      rw [passedFrom_name h₁ h₂ h₃] at h
      rw [walk_name hs, walk_name hs', lookup_standpoint, lookup_standpoint]
      simp only [placeAt_standpoint]
      obtain ⟨hl, hl'⟩ | ⟨e, e', hl, hl', he⟩ :=
        (h (l ++ [n]) (List.mem_cons_of_mem _ List.mem_cons_self)).here.cases
      · rw [hl, hl']
        dsimp only
        split
        · exact .ok .none
        · exact .error
      · rw [hl] at h
        rw [hl, hl']
        cases hR.alike he with
        | dir =>
            dsimp only
            rw [← standpoint_concat hl, ← standpoint_concat hl']
            split
            · exact .error
            · exact ih fun k hk => h k (List.mem_cons_of_mem _ hk)
        | file =>
            dsimp only
            split
            · exact .ok (.some he)
            · exact .error
        | link =>
            dsimp only
            split
            · exact .ok (.some he)
            · rw [startOf_standpoint, startOf_standpoint]
              exact hon _ _ fun k hk => h k (List.mem_cons_of_mem _ (List.mem_cons_of_mem _ hk))
        | device =>
            dsimp only
            split
            · exact .ok (.some he)
            · exact .error

/-- A walk ends alike in two trees that hold related entries at every location that is passed. -/
theorem walk_congr (hR : Entry.Refines R)
    (h : ∀ k ∈ l :: passedFrom t links l names, RelAlong R g t t' k) :
    EndsAlike R (t.walk g links (t.standpoint l) names)
      (t'.walk g links (t'.standpoint l) names) := by
  induction links generalizing l names with
  | zero => exact walk_congr_of_onward hR (fun _ _ _ => .error) h
  | succ links ih => exact walk_congr_of_onward hR (fun _ _ h => ih h) h

/-! ### Paths in two trees -/

theorem follow_congr (hR : Entry.Refines R) (hw : t'.workingDir = t.workingDir)
    (h : ∀ k ∈ t.passed p, RelAlong R g t t' k) : EndsAlike R (t.follow g p) (t'.follow g p) := by
  unfold FileTree.follow
  split
  · exact .error
  · split
    · exact .error
    · rw [startOf_standpoint, startOf_standpoint, hw]
      exact walk_congr hR h

theorem place_congr (hR : Entry.Refines R) (hw : t'.workingDir = t.workingDir)
    (h : ∀ k ∈ t.passed p, RelAt R t t' k) (through : Bool) :
    EndsAlike R (t.place through p) (t'.place through p) := by
  unfold place
  split
  · exact .error
  · exact follow_congr hR hw fun k hk => ⟨h k hk, fun hg => Bool.noConfusion hg⟩

/-- What exists at places that are alike: nothing, for the same reason, or related entries. -/
theorem existing_congr (hR : Entry.Refines R) {x x' : Except FileFault Place}
    (h : EndsAlike R x x') :
    (∃ fault, x.bind existing = .error fault ∧ x'.bind existing = .error fault) ∨
      ∃ l e e', x.bind existing = .ok (l, e) ∧ x'.bind existing = .ok (l, e') ∧ R e e' := by
  cases h with
  | @error fault => exact .inl ⟨fault, rfl, rfl⟩
  | @ok l entry entry' slashed h =>
      cases h with
      | none => exact .inl ⟨.notFound, rfl, rfl⟩
      | some he =>
          cases hR.alike he with
          | dir => exact .inr ⟨l, _, _, rfl, rfl, he⟩
          | file =>
              cases slashed with
              | true => exact .inl ⟨.notDirectory, rfl, rfl⟩
              | false => exact .inr ⟨l, _, _, rfl, rfl, he⟩
          | link =>
              cases slashed with
              | true => exact .inl ⟨.notDirectory, rfl, rfl⟩
              | false => exact .inr ⟨l, _, _, rfl, rfl, he⟩
          | device =>
              cases slashed with
              | true => exact .inl ⟨.notDirectory, rfl, rfl⟩
              | false => exact .inr ⟨l, _, _, rfl, rfl, he⟩

theorem find_congr (hR : Entry.Refines R) (hw : t'.workingDir = t.workingDir)
    (h : ∀ k ∈ t.passed p, RelAt R t t' k) :
    (∃ fault, t.find p = .error fault ∧ t'.find p = .error fault) ∨
      ∃ l e e', t.find p = .ok (l, e) ∧ t'.find p = .ok (l, e') ∧ R e e' :=
  existing_congr hR (place_congr hR hw h true)

theorem canonical_congr (hR : Entry.Refines R) (hw : t'.workingDir = t.workingDir)
    (h : ∀ k ∈ t.passed p, ∀ m, m <+: k → RelAt R t t' m) : t'.canonical p = t.canonical p := by
  have halong : ∀ k ∈ t.passed p, RelAlong R ⟨true, true⟩ t t' k :=
    fun k hk => ⟨h k hk k List.prefix_rfl, fun _ => h k hk⟩
  unfold canonical
  obtain ⟨fault, hx, hx'⟩ | ⟨l, e, e', hx, hx', _⟩ :=
    existing_congr hR (follow_congr hR hw halong)
  · rw [hx, hx']
  · rw [hx, hx']
    rfl

theorem isDir_congr (hR : Entry.Refines R) (hw : t'.workingDir = t.workingDir)
    (h : ∀ k ∈ t.passed p, RelAt R t t' k) : t'.isDir p = t.isDir p := by
  unfold isDir
  obtain ⟨fault, hx, hx'⟩ | ⟨l, e, e', hx, hx', he⟩ := find_congr hR hw h
  · rw [hx, hx']
  · rw [hx, hx']
    cases hR.alike he <;> rfl

/-! ### What stands around the passed locations -/

theorem exists_dir_dropLast_of_stands (hd : Stands t (t.standpoint l)) :
    ∃ mode children, t.lookup l.dropLast = some (.dir mode children) := by
  have h := hd.exists_dir_above
  rwa [standpoint_trail, List.tail_reverse, List.reverse_reverse] at h

/-- What is passed from a directory is a directory or a name in one, if that is so after each
link. -/
theorem exists_dir_of_mem_passedFrom_of_onward
    (hon : ∀ l names, Stands t (t.standpoint l) → ∀ k ∈ l :: passedOnward t links l names,
      ∃ mode children, t.lookup k.dropLast = some (.dir mode children))
    (hd : Stands t (t.standpoint l)) : ∀ k ∈ l :: passedFrom t links l names,
      ∃ mode children, t.lookup k.dropLast = some (.dir mode children) := by
  induction names generalizing l with
  | nil =>
      intro k hk
      rw [passedFrom_nil, List.mem_singleton] at hk
      exact hk ▸ exists_dir_dropLast_of_stands hd
  | cons n rest ih =>
      by_cases hskip : n = [] ∨ n = [dot]
      · rw [passedFrom_skip hskip]
        exact ih hd
      rw [not_or] at hskip
      by_cases hup : n = [dot, dot]
      · subst hup
        rw [passedFrom_up, List.forall_mem_cons]
        exact ⟨exists_dir_dropLast_of_stands hd, ih (standpoint_up t l ▸ hd.up)⟩
      rw [passedFrom_name hskip.1 hskip.2 hup, List.forall_mem_cons]
      refine ⟨exists_dir_dropLast_of_stands hd, ?_⟩
      cases hl : t.lookup (l ++ [n]) with
      | none =>
          rw [List.forall_mem_singleton, List.dropLast_concat]
          exact ⟨_, _, by simpa [Stands] using hd⟩
      | some e =>
          cases e with
          | dir mode children => exact ih (stands_standpoint hl)
          | link target =>
              rw [List.forall_mem_cons, List.dropLast_concat]
              exact ⟨⟨_, _, by simpa [Stands] using hd⟩,
                hon _ _ (startOf_standpoint t l target ▸ hd.startOf target)⟩
          | file _ =>
              rw [List.forall_mem_singleton, List.dropLast_concat]
              exact ⟨_, _, by simpa [Stands] using hd⟩
          | device _ =>
              rw [List.forall_mem_singleton, List.dropLast_concat]
              exact ⟨_, _, by simpa [Stands] using hd⟩

/-- What a path leads through are directories and names in them. -/
theorem exists_dir_of_mem_passed (hw : t.HasWorkingDir) {k : Location} (hk : k ∈ t.passed p) :
    ∃ mode children, t.lookup k.dropLast = some (.dir mode children) := by
  have hfrom : ∀ (links : ℕ) (l : Location) (names : List Bytes), Stands t (t.standpoint l) →
      ∀ k ∈ l :: passedFrom t links l names,
        ∃ mode children, t.lookup k.dropLast = some (.dir mode children) := by
    intro links
    induction links with
    | zero =>
        refine fun l names => exists_dir_of_mem_passedFrom_of_onward fun l names hd => ?_
        exact List.forall_mem_singleton.mpr (exists_dir_dropLast_of_stands hd)
    | succ links ih => exact fun l names => exists_dir_of_mem_passedFrom_of_onward ih
  exact hfrom _ _ _ (outset_eq t p ▸ hw.stands_outset p) k hk

/-! ### Where a walk arrives -/

/-- A walk arrives at a location that it leads through. -/
theorem Treads.location_mem_passedFrom {s : Standpoint} (h : Treads t g links s names pl)
    (hs : s = t.standpoint l) : pl.location ∈ l :: passedFrom t links l names := by
  induction h generalizing l with
  | done =>
      subst hs
      simp
  | blank _ ih =>
      rw [passedFrom_skip (.inl rfl)]
      exact ih hs
  | here _ _ ih =>
      rw [passedFrom_skip (.inr rfl)]
      exact ih hs
  | up _ _ ih =>
      subst hs
      rw [passedFrom_up]
      exact List.mem_cons_of_mem _ (ih (standpoint_up t l))
  | missing hsearch _ _ =>
      subst hs
      rw [passedFrom_name hsearch.ne_empty hsearch.ne_here hsearch.ne_up]
      simp [placeAt]
  | enter hsearch hc _ _ ih =>
      subst hs
      rw [lookup_standpoint] at hc
      rw [passedFrom_name hsearch.ne_empty hsearch.ne_here hsearch.ne_up, hc]
      exact List.mem_cons_of_mem _ (ih (standpoint_concat hc).symm)
  | stay hsearch _ _ _ =>
      subst hs
      rw [passedFrom_name hsearch.ne_empty hsearch.ne_here hsearch.ne_up]
      simp [placeAt]
  | follow hsearch hc _ _ ih =>
      subst hs
      rw [lookup_standpoint] at hc
      rw [passedFrom_name hsearch.ne_empty hsearch.ne_here hsearch.ne_up, hc]
      exact List.mem_cons_of_mem _ (List.mem_cons_of_mem _ (ih (startOf_standpoint t l _)))
  | file hsearch _ _ =>
      subst hs
      rw [passedFrom_name hsearch.ne_empty hsearch.ne_here hsearch.ne_up]
      simp [placeAt]
  | device hsearch _ _ =>
      subst hs
      rw [passedFrom_name hsearch.ne_empty hsearch.ne_here hsearch.ne_up]
      simp [placeAt]

/-- A walk does not go on at an entry that is neither a directory nor a link. -/
theorem passedFrom_last (hs : Searches t g (t.standpoint l) n)
    (h : ∀ e, t.lookup (l ++ [n]) = some e → e.leadsOn = false) :
    passedFrom t links l (n :: rest) = [l ++ [n]] := by
  rw [passedFrom_name hs.ne_empty hs.ne_here hs.ne_up]
  split
  · next hl => cases h _ hl
  · next hl => cases h _ hl
  · rfl

theorem exists_leadsOn_of_stands (h : Stands t (t.standpoint l)) :
    ∃ e, t.lookup l = some e ∧ e.leadsOn = true := by
  unfold Stands at h
  rw [standpoint_trail, List.reverse_reverse] at h
  exact ⟨_, h, rfl⟩

/-- What a walk through all links leads through before it arrives are directories and links. -/
theorem Treads.passed_cases {s : Standpoint} (h : Treads t g links s names pl)
    (hg : g.through = true) (hs : s = t.standpoint l) (hd : Stands t s) {k : Location}
    (hk : k ∈ l :: passedFrom t links l names) :
    k = pl.location ∨ ∃ e, t.lookup k = some e ∧ e.leadsOn = true := by
  -- the first location holds a directory, and nothing is passed behind the last one
  have hlast : ∀ {links l n rest e}, Searches t g (t.standpoint l) n →
      Stands t (t.standpoint l) → (∀ e, t.lookup (l ++ [n]) = some e → e.leadsOn = false) →
      k ∈ l :: passedFrom t links l (n :: rest) →
      k = (placeAt (t.standpoint l) n e rest).location ∨
        ∃ e, t.lookup k = some e ∧ e.leadsOn = true := by
    intro links l n rest e hs hd he hk
    rw [passedFrom_last hs he] at hk
    obtain rfl | hk := List.mem_cons.mp hk
    · exact .inr (exists_leadsOn_of_stands hd)
    · rw [placeAt_standpoint]
      exact .inl (List.mem_singleton.mp hk)
  induction h generalizing l with
  | done =>
      subst hs
      rw [passedFrom_nil] at hk
      obtain rfl := List.mem_singleton.mp hk
      exact .inr (exists_leadsOn_of_stands hd)
  | blank _ ih =>
      rw [passedFrom_skip (.inl rfl)] at hk
      exact ih hs hd hk
  | here _ _ ih =>
      rw [passedFrom_skip (.inr rfl)] at hk
      exact ih hs hd hk
  | up _ _ ih =>
      subst hs
      rw [passedFrom_up] at hk
      obtain rfl | hk := List.mem_cons.mp hk
      · exact .inr (exists_leadsOn_of_stands hd)
      · exact ih (standpoint_up t l) hd.up hk
  | missing hsearch hc _ =>
      subst hs
      rw [lookup_standpoint] at hc
      exact hlast hsearch hd (fun e he => by simp [hc] at he) hk
  | enter hsearch hc _ _ ih =>
      subst hs
      have henter := hd.enter hc
      rw [lookup_standpoint] at hc
      rw [passedFrom_name hsearch.ne_empty hsearch.ne_here hsearch.ne_up, hc] at hk
      obtain rfl | hk := List.mem_cons.mp hk
      · exact .inr (exists_leadsOn_of_stands hd)
      · exact ih (standpoint_concat hc).symm henter hk
  | stay _ _ _ hthrough =>
      rw [hg] at hthrough
      cases hthrough
  | follow hsearch hc _ _ ih =>
      subst hs
      rw [lookup_standpoint] at hc
      rw [passedFrom_name hsearch.ne_empty hsearch.ne_here hsearch.ne_up, hc] at hk
      obtain rfl | hk := List.mem_cons.mp hk
      · exact .inr (exists_leadsOn_of_stands hd)
      · obtain rfl | hk := List.mem_cons.mp hk
        · exact .inr ⟨_, hc, rfl⟩
        · exact ih (startOf_standpoint t l _) (hd.startOf _) hk
  | file hsearch hc _ =>
      subst hs
      rw [lookup_standpoint] at hc
      refine hlast hsearch hd (fun e he => ?_) hk
      rw [hc] at he
      cases he
      rfl
  | device hsearch hc _ =>
      subst hs
      rw [lookup_standpoint] at hc
      refine hlast hsearch hd (fun e he => ?_) hk
      rw [hc] at he
      cases he
      rfl

/-- A walk through all links does not arrive at a link. -/
theorem Treads.entry_ne_link {s : Standpoint} (h : Treads t g links s names pl)
    (hg : g.through = true) (target : Path) : pl.entry ≠ some (.link target) := by
  induction h with
  | done => simp
  | blank _ ih => exact ih
  | here _ _ ih => exact ih
  | up _ _ ih => exact ih
  | missing => simp [placeAt]
  | enter _ _ _ _ ih => exact ih
  | stay _ _ _ hthrough =>
      rw [hg] at hthrough
      cases hthrough
  | follow _ _ _ _ ih => exact ih
  | file => simp [placeAt]
  | device => simp [placeAt]

theorem location_mem_passed (h : t.follow g p = .ok pl) : pl.location ∈ t.passed p :=
  (follow_eq_ok_iff.mp h).2.2.location_mem_passedFrom (outset_eq t p)

end

end FileTree

end ShaderBuild
