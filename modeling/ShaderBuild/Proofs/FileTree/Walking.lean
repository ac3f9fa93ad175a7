import ShaderBuild.Proofs.FileTree.Lookup

/-! # Walks that arrive

`FileTree.walk` recurses on the links it may still follow and on the names that are left.  `Treads`
says of a walk that arrives what each of its steps does, and `walk_eq_ok_iff` that these are the
walks that arrive.  What is proved of walks below goes by induction on it.

A walk that starts in the tree arrives in the tree: what it finds stands where it says, and where it
finds nothing there is a directory around the place (`Treads.lookup_eq`,
`Treads.exists_dir_of_none`). -/

namespace ShaderBuild

namespace FileTree

/-- A name can be looked up in a directory. -/
structure Searches (t : FileTree) (g : Gait) (s : Standpoint) (n : Bytes) : Prop where
  ne_empty : n ≠ []
  ne_here : n ≠ [dot]
  ne_up : n ≠ [dot, dot]
  allowed : t.refusal? g s n = none

/-- A walk may stay in a directory or go back from it. -/
def Turns (g : Gait) (s : Standpoint) : Prop :=
  g.fromRoot = false → s.mode.mayExecute = true

/-- The place at a name in a directory. -/
def placeAt (s : Standpoint) (n : Bytes) (e : Option Entry) (rest : List Bytes) : Place :=
  ⟨(n :: s.trail).reverse, e, !rest.isEmpty⟩

/-- `Treads t g links s names pl`: walking the names from `s` with at most `links` links followed
leads to `pl`. -/
inductive Treads (t : FileTree) (g : Gait) : ℕ → Standpoint → List Bytes → Place → Prop
  | done {links s} : Treads t g links s [] ⟨s.trail.reverse, some (.dir s.mode s.children), false⟩
  | blank {links s rest pl} : Treads t g links s rest pl → Treads t g links s ([] :: rest) pl
  | here {links s rest pl} : Turns g s → Treads t g links s rest pl →
      Treads t g links s ([dot] :: rest) pl
  | up {links s rest pl} : Turns g s →
      Treads t g links (t.standpoint s.trail.tail.reverse) rest pl →
      Treads t g links s ([dot, dot] :: rest) pl
  | missing {links s n rest} : Searches t g s n → s.children.lookup n = none →
      rest.all (· == []) = true → Treads t g links s (n :: rest) (placeAt s n none rest)
  | enter {links s n rest mode children pl} : Searches t g s n →
      s.children.lookup n = some (.dir mode children) →
      (g.fromRoot && asksForDir rest && !mode.mayExecute) = false →
      Treads t g links ⟨n :: s.trail, mode, children⟩ rest pl → Treads t g links s (n :: rest) pl
  | stay {links s n rest target} : Searches t g s n → s.children.lookup n = some (.link target) →
      rest.all (· == []) = true → g.through = false →
      Treads t g links s (n :: rest) (placeAt s n (some (.link target)) rest)
  | follow {links s n rest target pl} : Searches t g s n →
      s.children.lookup n = some (.link target) →
      (rest.all (· == []) && !g.through) = false →
      Treads t g links (t.startOf s target) (stepsOf target ++ rest) pl →
      Treads t g (links + 1) s (n :: rest) pl
  | file {links s n rest body} : Searches t g s n → s.children.lookup n = some (.file body) →
      rest.all (· == []) = true →
      Treads t g links s (n :: rest) (placeAt s n (some (.file body)) rest)
  | device {links s n rest d} : Searches t g s n → s.children.lookup n = some (.device d) →
      rest.all (· == []) = true →
      Treads t g links s (n :: rest) (placeAt s n (some (.device d)) rest)

/-- What is looked up is refused on the way: a name or a path is too long, or a directory may not be
searched. -/
def Refused {α : Type} (x : Except FileFault α) : Prop :=
  x = .error .nameTooLong ∨ x = .error .accessDenied

section
variable {t : FileTree} {g : Gait} {links : ℕ} {s : Standpoint} {n : Bytes}
  {rest names : List Bytes} {pl : Place}

/-! ### Single steps -/

theorem refusal?_eq_none_iff : t.refusal? g s n = none ↔
    s.mode.mayExecute = true ∧ n.length ≤ nameLimit ∧
      (g.fromRoot = true → trailLength (n :: s.trail) < pathLimit ∧
        t.root.mayReach s.trail.reverse = true) := by
  simp only [refusal?, ite_eq_iff, reduceCtorEq, and_false, false_or, Bool.and_eq_true,
    decide_eq_true_eq, not_and, Nat.not_le, Bool.not_eq_true', Bool.not_eq_false, Nat.not_lt,
    and_true]
  constructor
  · rintro ⟨htrail, hmode, hreach, hname⟩
    exact ⟨hmode, hname, fun hg => ⟨htrail hg, hreach hg⟩⟩
  · rintro ⟨hmode, hname, hroot⟩
    exact ⟨fun hg => (hroot hg).1, hmode, fun hg => (hroot hg).2, hname⟩

theorem refused_of_refusal? {α : Type} {fault : FileFault} (h : t.refusal? g s n = some fault) :
    Refused (.error fault : Except FileFault α) := by
  unfold refusal? at h
  split at h
  · cases h
    exact .inl rfl
  split at h
  · cases h
    exact .inr rfl
  split at h
  · cases h
    exact .inr rfl
  split at h
  · cases h
    exact .inl rfl
  · cases h

theorem Searches.executable (h : Searches t g s n) : s.mode.mayExecute = true :=
  (refusal?_eq_none_iff.mp h.allowed).1

/-- How a walk goes on after a link. -/
def onward (t : FileTree) (g : Gait) : ℕ → Standpoint → List Bytes → Except FileFault Place
  | 0 => fun _ _ => .error .linkLoop
  | links + 1 => t.walk g links

theorem walk_eq_stepsWith (t : FileTree) (g : Gait) (links : ℕ) :
    t.walk g links = stepsWith t g (onward t g links) := by
  cases links <;> rfl

theorem walk_nil : t.walk g links s [] =
    .ok ⟨s.trail.reverse, some (.dir s.mode s.children), false⟩ := by
  rw [walk_eq_stepsWith, stepsWith]

theorem walk_blank : t.walk g links s ([] :: rest) = t.walk g links s rest := by
  rw [walk_eq_stepsWith, stepsWith]
  rfl

theorem walk_here (h : Turns g s) : t.walk g links s ([dot] :: rest) = t.walk g links s rest := by
  unfold Turns at h
  rw [walk_eq_stepsWith, stepsWith]
  cases hg : g.fromRoot <;> simp_all

theorem walk_up (h : Turns g s) : t.walk g links s ([dot, dot] :: rest) =
    t.walk g links (t.standpoint s.trail.tail.reverse) rest := by
  unfold Turns at h
  rw [walk_eq_stepsWith, stepsWith]
  cases hg : g.fromRoot <;> simp_all

/-- Where a walk may not turn it goes no further. -/
theorem walk_of_not_turns (hn : n ≠ []) (h : ¬ Turns g s) :
    t.walk g links s (n :: rest) = .error .accessDenied := by
  unfold Turns at h
  rw [walk_eq_stepsWith, stepsWith]
  simp_all

theorem walk_name (h : Searches t g s n) : t.walk g links s (n :: rest) =
    match s.children.lookup n with
    | none => if rest.all (· == []) then .ok (placeAt s n none rest) else .error .notFound
    | some (.dir mode children) =>
      if g.fromRoot && asksForDir rest && !mode.mayExecute then .error .accessDenied
      else t.walk g links ⟨n :: s.trail, mode, children⟩ rest
    | some (.link target) =>
      if rest.all (· == []) && !g.through then .ok (placeAt s n (some (.link target)) rest)
      else onward t g links (t.startOf s target) (stepsOf target ++ rest)
    | some (.file body) =>
      if rest.all (· == []) then .ok (placeAt s n (some (.file body)) rest)
      else .error .notDirectory
    | some (.device d) =>
      if rest.all (· == []) then .ok (placeAt s n (some (.device d)) rest)
      else .error .notDirectory := by
  have hx := h.executable
  obtain ⟨h₁, h₂, h₃, hallowed⟩ := h
  rw [walk_eq_stepsWith, stepsWith]
  simp only [beq_iff_eq, h₁, h₂, h₃, hx, hallowed, if_false, Bool.not_true, Bool.and_false,
    Bool.false_eq_true]
  cases s.children.lookup n with
  | none => rfl
  | some e => cases e <;> rfl

/-- A name that is refused is not looked up. -/
theorem walk_of_refusal? {fault : FileFault} (h₁ : n ≠ []) (h₂ : n ≠ [dot]) (h₃ : n ≠ [dot, dot])
    (h : t.refusal? g s n = some fault) : t.walk g links s (n :: rest) = .error fault := by
  rw [walk_eq_stepsWith, stepsWith]
  simp only [beq_iff_eq, h₁, h₂, h₃, h, if_false]
  split
  · -- without paths from the root the mode of the directory is what is checked first
    rename_i hturn
    rw [Bool.and_eq_true, Bool.not_eq_true', Bool.not_eq_true'] at hturn
    have hdenied : t.refusal? g s n = some .accessDenied := by simp [refusal?, hturn]
    rw [h, Option.some.injEq] at hdenied
    rw [hdenied]
  · rfl

/-- A name at which a walk goes on can be looked up. -/
theorem searches_of_walk (h₁ : n ≠ []) (h₂ : n ≠ [dot]) (h₃ : n ≠ [dot, dot])
    (h : t.walk g links s (n :: rest) = .ok pl) : Searches t g s n := by
  refine ⟨h₁, h₂, h₃, Option.eq_none_iff_forall_ne_some.mpr ?_⟩
  intro fault hfault
  rw [walk_of_refusal? h₁ h₂ h₃ hfault] at h
  cases h

theorem turns_of_walk (hn : n ≠ []) (h : t.walk g links s (n :: rest) = .ok pl) : Turns g s := by
  by_contra ht
  rw [walk_of_not_turns hn ht] at h
  cases h

/-! ### Whole walks -/

theorem walk_of_treads (h : Treads t g links s names pl) : t.walk g links s names = .ok pl := by
  induction h with
  | done => exact walk_nil
  | blank _ ih => rw [walk_blank, ih]
  | here ht _ ih => rw [walk_here ht, ih]
  | up ht _ ih => rw [walk_up ht, ih]
  | missing hs hc hr => simp only [walk_name hs, hc, hr, if_true]
  | enter hs hc hd _ ih => simp only [walk_name hs, hc, hd, Bool.false_eq_true, if_false, ih]
  | stay hs hc hr hg => simp only [walk_name hs, hc, hr, hg, Bool.not_false, Bool.and_self, if_true]
  | follow hs hc hr _ ih =>
      simp only [walk_name hs, hc, hr, Bool.false_eq_true, if_false, onward, ih]
  | file hs hc hr => simp only [walk_name hs, hc, hr, if_true]
  | device hs hc hr => simp only [walk_name hs, hc, hr, if_true]

/-- A walk is trodden step by step if it is after each of its links. -/
theorem treads_of_onward
    (hon : ∀ s names pl, onward t g links s names = .ok pl →
      ∃ k, links = k + 1 ∧ Treads t g k s names pl)
    (h : t.walk g links s names = .ok pl) : Treads t g links s names pl := by
  induction names generalizing s with
  | nil =>
      rw [walk_nil] at h
      cases h
      exact .done
  | cons n rest ih =>
      by_cases h₁ : n = []
      · subst h₁
        rw [walk_blank] at h
        exact .blank (ih h)
      have ht := turns_of_walk h₁ h
      by_cases h₂ : n = [dot]
      · subst h₂
        rw [walk_here ht] at h
        exact .here ht (ih h)
      by_cases h₃ : n = [dot, dot]
      · subst h₃
        rw [walk_up ht] at h
        exact .up ht (ih h)
      have hs := searches_of_walk h₁ h₂ h₃ h
      rw [walk_name hs] at h
      cases hc : s.children.lookup n with
      | none =>
          simp only [hc] at h
          split at h
          · cases h
            exact .missing hs hc ‹_›
          · cases h
      | some e =>
          cases e with
          | dir mode children =>
              simp only [hc] at h
              split at h
              · cases h
              · exact .enter hs hc (Bool.eq_false_iff.mpr ‹_›) (ih h)
          | link target =>
              simp only [hc] at h
              split at h
              · rename_i hlast
                cases h
                rw [Bool.and_eq_true, Bool.not_eq_true'] at hlast
                exact .stay hs hc hlast.1 hlast.2
              · obtain ⟨k, rfl, htreads⟩ := hon _ _ _ h
                exact .follow hs hc (Bool.eq_false_iff.mpr ‹_›) htreads
          | file body =>
              simp only [hc] at h
              split at h
              · cases h
                exact .file hs hc ‹_›
              · cases h
          | device d =>
              simp only [hc] at h
              split at h
              · cases h
                exact .device hs hc ‹_›
              · cases h

theorem treads_of_walk (h : t.walk g links s names = .ok pl) : Treads t g links s names pl := by
  induction links generalizing s names pl with
  | zero =>
      apply treads_of_onward _ h
      intro _ _ _ hon
      cases hon
  | succ links ih =>
      apply treads_of_onward _ h
      intro _ _ _ hon
      exact ⟨links, rfl, ih hon⟩

/-- The walks that arrive are those that can be trodden step by step. -/
theorem walk_eq_ok_iff : t.walk g links s names = .ok pl ↔ Treads t g links s names pl :=
  ⟨treads_of_walk, walk_of_treads⟩

/-- A walk along nothing but slashes stays where it is. -/
theorem treads_of_blank (h : rest.all (· == []) = true) :
    Treads t g links s rest ⟨s.trail.reverse, some (.dir s.mode s.children), false⟩ := by
  induction rest with
  | nil => exact .done
  | cons n rest ih =>
      rw [List.all_cons, Bool.and_eq_true, beq_iff_eq] at h
      rw [h.1]
      exact .blank (ih h.2)

/-- A walk that follows no link in last place arrives where one that does arrives, unless it arrives
at a link. -/
theorem Treads.through {fromRoot : Bool} (h : Treads t ⟨false, fromRoot⟩ links s names pl)
    (hpl : ∀ target, pl.entry ≠ some (.link target)) :
    Treads t ⟨true, fromRoot⟩ links s names pl := by
  have hsearch : ∀ {s n}, Searches t ⟨false, fromRoot⟩ s n → Searches t ⟨true, fromRoot⟩ s n :=
    fun h => ⟨h.1, h.2, h.3, h.4⟩
  induction h with
  | done => exact .done
  | blank _ ih => exact .blank (ih hpl)
  | here ht _ ih => exact .here ht (ih hpl)
  | up ht _ ih => exact .up ht (ih hpl)
  | missing hs hc hr => exact .missing (hsearch hs) hc hr
  | enter hs hc hd _ ih => exact .enter (hsearch hs) hc hd (ih hpl)
  | stay => exact absurd rfl (hpl _)
  | follow hs hc _ _ ih => exact .follow (hsearch hs) hc (by simp) (ih hpl)
  | file hs hc hr => exact .file (hsearch hs) hc hr
  | device hs hc hr => exact .device (hsearch hs) hc hr

end

/-! ### Walks by paths from the root -/

section
variable {t : FileTree} {through : Bool} {links : ℕ} {s : Standpoint} {names : List Bytes}
  {pl : Place} {e : Entry}

/-- A walk that does not end in a directory looks a name up in the first one. -/
theorem Treads.mayExecute (h : Treads t ⟨through, false⟩ links s names pl)
    (he : pl.entry = some e) (hd : e.isDir = false) : s.mode.mayExecute = true := by
  induction h with
  | done =>
      cases he
      cases hd
  | blank _ ih => exact ih he
  | here ht _ _ => exact ht rfl
  | up ht _ _ => exact ht rfl
  | missing hs _ _ => exact hs.executable
  | enter hs _ _ _ _ => exact hs.executable
  | stay hs _ _ _ => exact hs.executable
  | follow hs _ _ _ _ => exact hs.executable
  | file hs _ _ => exact hs.executable
  | device hs _ _ => exact hs.executable

/-- Where a name can be looked up, it may be refused by its path from the root. -/
theorem Searches.fromRoot_or {n : Bytes} (h : Searches t ⟨through, false⟩ s n) (rest : List Bytes) :
    Searches t ⟨through, true⟩ s n ∨ Refused (t.walk ⟨through, true⟩ links s (n :: rest)) := by
  cases hrefusal : t.refusal? ⟨through, true⟩ s n with
  | none => exact .inl ⟨h.ne_empty, h.ne_here, h.ne_up, hrefusal⟩
  | some fault =>
      rw [walk_of_refusal? h.ne_empty h.ne_here h.ne_up hrefusal]
      exact .inr (refused_of_refusal? hrefusal)

/-- A name that can be looked up by its path from the root can be looked up. -/
theorem Searches.plain {n : Bytes} (h : Searches t ⟨through, true⟩ s n) :
    Searches t ⟨through, false⟩ s n := by
  obtain ⟨hx, hname, _⟩ := refusal?_eq_none_iff.mp h.allowed
  exact ⟨h.ne_empty, h.ne_here, h.ne_up,
    refusal?_eq_none_iff.mpr ⟨hx, hname, fun hg => Bool.noConfusion hg⟩⟩

/-- A walk that arrives at something else than a directory arrives there by paths from the root,
unless one of them is refused. -/
theorem Treads.walk_fromRoot (h : Treads t ⟨through, false⟩ links s names pl)
    (he : pl.entry = some e) (hd : e.isDir = false) :
    t.walk ⟨through, true⟩ links s names = .ok pl ∨
      Refused (t.walk ⟨through, true⟩ links s names) := by
  have hturns : ∀ s, Turns ⟨through, true⟩ s := fun _ h => Bool.noConfusion h
  induction h with
  | done => exact .inl walk_nil
  | blank _ ih =>
      rw [walk_blank]
      exact ih he
  | here _ _ ih =>
      rw [walk_here (hturns _)]
      exact ih he
  | up _ _ ih =>
      rw [walk_up (hturns _)]
      exact ih he
  | missing => cases he
  | @enter _ _ _ rest _ _ _ hs hc _ hrest ih =>
      obtain hs | hrefused := hs.fromRoot_or rest
      · rw [walk_name hs]
        simp only [hc, hrest.mayExecute he hd, Bool.not_true, Bool.and_false, Bool.false_eq_true,
          if_false]
        exact ih he
      · exact .inr hrefused
  | @stay _ _ _ rest _ hs hc hr hg =>
      obtain hs | hrefused := hs.fromRoot_or rest
      · exact .inl (walk_of_treads (.stay hs hc hr hg))
      · exact .inr hrefused
  | @follow _ _ _ rest _ _ hs hc hr _ ih =>
      obtain hs | hrefused := hs.fromRoot_or rest
      · rw [walk_name hs]
        simp only [hc, hr, Bool.false_eq_true, if_false, onward]
        exact ih he
      · exact .inr hrefused
  | @file _ _ _ rest _ hs hc hr =>
      obtain hs | hrefused := hs.fromRoot_or rest
      · exact .inl (walk_of_treads (.file hs hc hr))
      · exact .inr hrefused
  | @device _ _ _ rest _ hs hc hr =>
      obtain hs | hrefused := hs.fromRoot_or rest
      · exact .inl (walk_of_treads (.device hs hc hr))
      · exact .inr hrefused

/-- A walk that arrives by paths from the root arrives without them, unless a directory on its way
may not be searched. -/
theorem Treads.walk_plain (h : Treads t ⟨through, true⟩ links s names pl) :
    t.walk ⟨through, false⟩ links s names = .ok pl ∨
      t.walk ⟨through, false⟩ links s names = .error .accessDenied := by
  induction h with
  | done => exact .inl walk_nil
  | blank _ ih =>
      rw [walk_blank]
      exact ih
  | @here _ s _ _ _ _ ih =>
      by_cases ht : Turns ⟨through, false⟩ s
      · rw [walk_here ht]
        exact ih
      · exact .inr (walk_of_not_turns (by decide) ht)
  | @up _ s _ _ _ _ ih =>
      by_cases ht : Turns ⟨through, false⟩ s
      · rw [walk_up ht]
        exact ih
      · exact .inr (walk_of_not_turns (by decide) ht)
  | missing hs hc hr => exact .inl (walk_of_treads (.missing hs.plain hc hr))
  | enter hs hc _ _ ih =>
      simp only [walk_name hs.plain, hc, Bool.false_and, Bool.false_eq_true, if_false]
      exact ih
  | stay hs hc hr hg => exact .inl (walk_of_treads (.stay hs.plain hc hr hg))
  | follow hs hc hr _ ih =>
      simp only [walk_name hs.plain, hc, hr, Bool.false_eq_true, if_false, onward]
      exact ih
  | file hs hc hr => exact .inl (walk_of_treads (.file hs.plain hc hr))
  | device hs hc hr => exact .inl (walk_of_treads (.device hs.plain hc hr))

end

/-! ### Arriving in the tree -/

/-- A directory on a walk is the one that the tree holds there. -/
def Stands (t : FileTree) (s : Standpoint) : Prop :=
  t.lookup s.trail.reverse = some (.dir s.mode s.children)

section
variable {t : FileTree} {g : Gait} {links : ℕ} {s : Standpoint} {names : List Bytes} {pl : Place}

theorem stands_standpoint {l : Location} {mode : Mode} {children : Directory}
    (h : t.lookup l = some (.dir mode children)) : Stands t (t.standpoint l) := by
  unfold Stands standpoint
  simp only [h, List.reverse_reverse]

theorem Stands.exists_root (h : Stands t s) :
    ∃ mode children, t.lookup [] = some (.dir mode children) := by
  unfold Stands at h
  by_cases hs : s.trail.reverse = []
  · rw [hs] at h
    exact ⟨_, _, h⟩
  · exact exists_dir_of_lookup_append (l := []) h hs

theorem Stands.startOf (h : Stands t s) (p : Path) : Stands t (t.startOf s p) := by
  unfold FileTree.startOf
  split
  · obtain ⟨mode, children, hd⟩ := h.exists_root
    exact stands_standpoint hd
  · exact h

/-- The directory above a directory is in the tree; the root is above itself. -/
theorem Stands.exists_dir_above (h : Stands t s) :
    ∃ mode children, t.lookup s.trail.tail.reverse = some (.dir mode children) := by
  unfold Stands at h
  cases hs : s.trail with
  | nil =>
      rw [hs] at h
      exact ⟨_, _, h⟩
  | cons n trail =>
      rw [hs, List.reverse_cons] at h
      exact exists_dir_of_lookup_concat h

theorem Stands.up (h : Stands t s) : Stands t (t.standpoint s.trail.tail.reverse) := by
  obtain ⟨mode, children, hd⟩ := h.exists_dir_above
  exact stands_standpoint hd

theorem Stands.lookup_cons (h : Stands t s) (n : Bytes) :
    t.lookup (n :: s.trail).reverse = s.children.lookup n := by
  rw [List.reverse_cons]
  exact lookup_concat h n

theorem Stands.enter {n : Bytes} {mode : Mode} {children : Directory} (h : Stands t s)
    (hc : s.children.lookup n = some (.dir mode children)) :
    Stands t ⟨n :: s.trail, mode, children⟩ :=
  (h.lookup_cons n).trans hc

/-- What a walk arrives at stands where it arrives. -/
theorem Treads.lookup_eq (h : Treads t g links s names pl) (hs : Stands t s) :
    t.lookup pl.location = pl.entry := by
  induction h with
  | done => exact hs
  | blank _ ih => exact ih hs
  | here _ _ ih => exact ih hs
  | up _ _ ih => exact ih hs.up
  | missing _ hc _ => exact (hs.lookup_cons _).trans hc
  | enter _ hc _ _ ih => exact ih (hs.enter hc)
  | stay _ hc _ _ => exact (hs.lookup_cons _).trans hc
  | follow _ _ _ _ ih => exact ih (hs.startOf _)
  | file _ hc _ => exact (hs.lookup_cons _).trans hc
  | device _ hc _ => exact (hs.lookup_cons _).trans hc

/-- A walk that arrives at nothing arrives at a name in a directory. -/
theorem Treads.exists_dir_of_none (h : Treads t g links s names pl) (hs : Stands t s)
    (he : pl.entry = none) :
    ∃ l n mode children, pl.location = l ++ [n] ∧ t.lookup l = some (.dir mode children) := by
  induction h with
  | done => cases he
  | blank _ ih => exact ih hs he
  | here _ _ ih => exact ih hs he
  | up _ _ ih => exact ih hs.up he
  | missing _ hc _ => exact ⟨_, _, _, _, List.reverse_cons, hs⟩
  | enter _ hc _ _ ih => exact ih (hs.enter hc) he
  | stay => cases he
  | follow _ _ _ _ ih => exact ih (hs.startOf _) he
  | file => cases he
  | device => cases he

end

/-! ### Paths -/

/-- The working directory exists. -/
def HasWorkingDir (t : FileTree) : Prop :=
  ∃ mode children, t.lookup t.workingDir = some (.dir mode children)

/-- The directory from which a walk along a path starts. -/
def outset (t : FileTree) (p : Path) : Standpoint :=
  t.startOf (t.standpoint t.workingDir) p

section
variable {t : FileTree} {g : Gait} {p : Path} {pl : Place} {l : Location} {e : Entry}

theorem HasWorkingDir.stands_outset (h : t.HasWorkingDir) (p : Path) : Stands t (t.outset p) := by
  obtain ⟨mode, children, hd⟩ := h
  exact (stands_standpoint hd).startOf p

theorem follow_eq_ok_iff : t.follow g p = .ok pl ↔
    p.bytes.contains 0 = false ∧ p.bytes ≠ [] ∧
      Treads t g linkLimit (t.outset p) (stepsOf p) pl := by
  unfold FileTree.follow
  rw [← walk_eq_ok_iff]
  cases hnul : p.bytes.contains 0 with
  | true => simp
  | false =>
      cases hb : p.bytes with
      | nil => simp
      | cons b bs => simp [outset]

theorem place_eq_ok_iff {through : Bool} : t.place through p = .ok pl ↔
    p.bytes.length < pathLimit ∧ t.follow { through } p = .ok pl := by
  unfold place
  by_cases hnul : p.bytes.contains 0 = true
  · have hf : t.follow { through } p = .error .nulInPath := by rw [FileTree.follow, if_pos hnul]
    rw [hf, hnul, Bool.not_true, Bool.and_false, if_neg Bool.false_ne_true]
    simp
  · have hnul' : (!p.bytes.contains 0) = true := by
      rw [Bool.not_eq_true']
      exact Bool.eq_false_iff.mpr hnul
    rw [hnul', Bool.and_true]
    by_cases hlen : pathLimit ≤ p.bytes.length
    · simp [hlen, Nat.not_lt.mpr hlen]
    · simp [hlen, Nat.not_le.mp hlen]

/-- A place that is no link is found also by following links. -/
theorem place_through (h : t.place false p = .ok pl)
    (hpl : ∀ target, pl.entry ≠ some (.link target)) : t.place true p = .ok pl := by
  obtain ⟨hlen, hfollow⟩ := place_eq_ok_iff.mp h
  obtain ⟨hnul, hne, htreads⟩ := follow_eq_ok_iff.mp hfollow
  exact place_eq_ok_iff.mpr ⟨hlen, follow_eq_ok_iff.mpr ⟨hnul, hne, htreads.through hpl⟩⟩

/-- Where a path leads to nothing, there is a name that is missing in a directory. -/
theorem exists_dir_of_place_none (hw : t.HasWorkingDir) {through slashed : Bool}
    (h : t.place through p = .ok ⟨l, none, slashed⟩) :
    p.bytes.length < pathLimit ∧ t.lookup l = none ∧ ∃ m n mode children, l = m ++ [n] ∧
      t.lookup m = some (.dir mode children) := by
  obtain ⟨hlen, hfollow⟩ := place_eq_ok_iff.mp h
  have htreads := (follow_eq_ok_iff.mp hfollow).2.2
  have hstands := hw.stands_outset p
  exact ⟨hlen, htreads.lookup_eq hstands, htreads.exists_dir_of_none hstands rfl⟩

/-- What stands at a place, if it may be slashed. -/
theorem existing_eq_ok_iff : existing pl = .ok (l, e) ↔
    pl.location = l ∧ pl.entry = some e ∧ (pl.slashed = true → e.isDir = true) := by
  obtain ⟨location, entry, slashed⟩ := pl
  cases entry with
  | none => simp [existing]
  | some e' =>
      by_cases hd : e'.isDir = true
      · obtain ⟨mode, children, rfl⟩ := Entry.isDir_iff.mp hd
        constructor
        · rintro ⟨⟩
          exact ⟨rfl, rfl, fun _ => rfl⟩
        · rintro ⟨rfl, ⟨⟩, _⟩
          rfl
      · have he : existing ⟨location, some e', slashed⟩ =
            if slashed then .error .notDirectory else .ok (location, e') := by
          cases e' with
          | dir mode children => exact absurd rfl hd
          | file _ => rfl
          | link _ => rfl
          | device _ => rfl
        rw [he]
        cases slashed with
        | false =>
            constructor
            · rintro ⟨⟩
              exact ⟨rfl, rfl, fun h => Bool.noConfusion h⟩
            · rintro ⟨rfl, ⟨⟩, _⟩
              rfl
        | true =>
            constructor
            · rintro ⟨⟩
            · rintro ⟨rfl, ⟨⟩, h⟩
              exact absurd (h rfl) hd

theorem find_eq_ok_iff : t.find p = .ok (l, e) ↔
    p.bytes.length < pathLimit ∧
      ∃ pl, t.follow { through := true } p = .ok pl ∧ existing pl = .ok (l, e) := by
  unfold find
  cases hpl : t.place true p with
  | error fault =>
      simp only [Except.bind, reduceCtorEq, false_iff, not_and, not_exists]
      intro hlen pl hpl' _
      rw [place_eq_ok_iff.mpr ⟨hlen, hpl'⟩] at hpl
      cases hpl
  | ok pl =>
      obtain ⟨hlen, hpl⟩ := place_eq_ok_iff.mp hpl
      constructor
      · intro he
        exact ⟨hlen, pl, hpl, he⟩
      · rintro ⟨_, pl', hpl', he⟩
        rw [hpl] at hpl'
        cases hpl'
        exact he

theorem find_of_place (h : t.place true p = .ok ⟨l, some e, false⟩) : t.find p = .ok (l, e) := by
  obtain ⟨hlen, hfollow⟩ := place_eq_ok_iff.mp h
  exact find_eq_ok_iff.mpr ⟨hlen, _, hfollow,
    existing_eq_ok_iff.mpr ⟨rfl, rfl, fun h => Bool.noConfusion h⟩⟩

theorem place_of_find (h : t.find p = .ok (l, e)) (he : e.isDir = false) :
    t.place true p = .ok ⟨l, some e, false⟩ := by
  obtain ⟨hlen, ⟨location, entry, slashed⟩, hfollow, hex⟩ := find_eq_ok_iff.mp h
  obtain ⟨rfl, rfl, hslashed⟩ := existing_eq_ok_iff.mp hex
  cases slashed with
  | false => exact place_eq_ok_iff.mpr ⟨hlen, hfollow⟩
  | true =>
      rw [hslashed rfl] at he
      cases he

/-- The entry that a path names stands at the location that it names. -/
theorem lookup_of_find (hw : t.HasWorkingDir) (h : t.find p = .ok (l, e)) :
    t.lookup l = some e := by
  obtain ⟨_, pl, hpl, he⟩ := find_eq_ok_iff.mp h
  obtain ⟨rfl, hentry, _⟩ := existing_eq_ok_iff.mp he
  rw [(follow_eq_ok_iff.mp hpl).2.2.lookup_eq (hw.stands_outset p), hentry]

theorem contentAt?_of_find {n : ℕ} (hw : t.HasWorkingDir) (h : t.find p = .ok (l, .file n)) :
    t.contentAt? l = (t.body? n).map FileBody.content := by
  rw [contentAt?, lookup_of_find hw h]

/-- The canonical path of a path that names something else than a directory is that of the location
that it names, unless a place on its way is refused by its path from the root. -/
theorem canonical_of_find (h : t.find p = .ok (l, e)) (he : e.isDir = false) :
    t.canonical p = .ok (pathOf l) ∨ Refused (t.canonical p) := by
  obtain ⟨_, pl, hpl, hex⟩ := find_eq_ok_iff.mp h
  obtain ⟨hnul, hne, htreads⟩ := follow_eq_ok_iff.mp hpl
  have hentry := (existing_eq_ok_iff.mp hex).2.1
  have hfollow : t.follow { through := true, fromRoot := true } p =
      t.walk ⟨true, true⟩ linkLimit (t.outset p) (stepsOf p) := by
    rw [FileTree.follow, hnul, if_neg Bool.false_ne_true, if_neg (by simpa using hne)]
    rfl
  unfold canonical
  rw [hfollow]
  obtain hwalk | hwalk | hwalk := htreads.walk_fromRoot hentry he
  · left
    simp [hwalk, Except.bind, hex, Except.map]
  · simp [Refused, hwalk, Except.bind, Except.map]
  · simp [Refused, hwalk, Except.bind, Except.map]

/-- A path that has a canonical path is not reported missing. -/
theorem find_ne_notFound {c : Path} (h : t.canonical p = .ok c) : t.find p ≠ .error .notFound := by
  unfold canonical at h
  cases hpl : t.follow { through := true, fromRoot := true } p with
  | error fault => simp [hpl, Except.bind, Except.map] at h
  | ok pl =>
      obtain ⟨hnul, hne, htreads⟩ := follow_eq_ok_iff.mp hpl
      have hfollow : t.follow { through := true } p =
          t.walk ⟨true, false⟩ linkLimit (t.outset p) (stepsOf p) := by
        rw [FileTree.follow, hnul, if_neg Bool.false_ne_true, if_neg (by simpa using hne)]
        rfl
      unfold find place
      split
      · simp [Except.bind]
      · rw [hfollow]
        obtain hwalk | hwalk := htreads.walk_plain
        · rw [hwalk]
          intro hex
          simp only [Except.bind] at hex
          simp [hpl, Except.bind, hex, Except.map] at h
        · simp [hwalk, Except.bind]

/-- A file that has a canonical path may be unreadable, but it is not missing when it is read. -/
theorem readText_ne_notFound {c : Path} (h : t.canonical p = .ok c) :
    t.readText p ≠ .error .notFound := by
  unfold readText read
  cases hf : t.find p with
  | error fault =>
      simp only [Except.bind]
      rintro ⟨⟩
      exact find_ne_notFound h hf
  | ok x =>
      simp only [Except.bind, contentOf]
      split
      · rename_i hread
        rintro ⟨⟩
        split at hread
        · cases hread
        · split at hread <;> cases hread
      · rename_i content _
        cases String.fromUTF8? content <;> simp

end

end FileTree

end ShaderBuild
