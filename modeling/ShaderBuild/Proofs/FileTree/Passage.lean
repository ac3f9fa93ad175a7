import ShaderBuild.Proofs.FileTree.Walking
import ShaderBuild.Proofs.Path

/-! # Walks in two parts

A walk along a longer path first passes to a directory (`FileTree.Passes`) and goes on from there
(`Treads.split`, `Passes.treads`).  So what a path one name longer leads to is under that name in
the directory that the path leads to (`exists_lookup_of_find_join`). -/

namespace ShaderBuild

namespace FileTree

/-- `Passes t g links s names links' s'`: walking the names from `s` with at most `links` links
followed leads to the directory `s'`, from where at most `links'` may still be followed. -/
inductive Passes (t : FileTree) (g : Gait) :
    ℕ → Standpoint → List Bytes → ℕ → Standpoint → Prop
  | done {links s} : Passes t g links s [] links s
  | blank {links s rest links' s'} : Passes t g links s rest links' s' →
      Passes t g links s ([] :: rest) links' s'
  | here {links s rest links' s'} : Turns g s → Passes t g links s rest links' s' →
      Passes t g links s ([dot] :: rest) links' s'
  | up {links s rest links' s'} : Turns g s →
      Passes t g links (t.standpoint s.trail.tail.reverse) rest links' s' →
      Passes t g links s ([dot, dot] :: rest) links' s'
  | enter {links s n rest mode children links' s'} : Searches t g s n →
      s.children.lookup n = some (.dir mode children) →
      Passes t g links ⟨n :: s.trail, mode, children⟩ rest links' s' →
      Passes t g links s (n :: rest) links' s'
  | follow {links s n rest target links' s'} : Searches t g s n →
      s.children.lookup n = some (.link target) →
      Passes t g links (t.startOf s target) (stepsOf target ++ rest) links' s' →
      Passes t g (links + 1) s (n :: rest) links' s'

/-- The way in which paths are walked for an access through all links. -/
abbrev throughLinks : Gait :=
  ⟨true, false⟩

section
variable {t : FileTree} {links links' : ℕ} {s s' : Standpoint} {n : Bytes}
  {xs ys : List Bytes} {pl : Place}

/-- A walk goes on from the directory that its first part passes to. -/
theorem Passes.treads (h : Passes t throughLinks links s xs links' s')
    (hy : Treads t throughLinks links' s' ys pl) : Treads t throughLinks links s (xs ++ ys) pl := by
  induction h with
  | done => exact hy
  | blank _ ih => exact .blank (ih hy)
  | here ht _ ih => exact .here ht (ih hy)
  | up ht _ ih => exact .up ht (ih hy)
  | enter hs hc _ ih => exact .enter hs hc rfl (ih hy)
  | follow hs hc _ ih =>
      have htreads := ih hy
      rw [List.append_assoc] at htreads
      exact .follow hs hc (by simp) htreads

/-- A walk passes along the names `xs` and goes on along `ys`. -/
def Splits (t : FileTree) (links : ℕ) (s : Standpoint) (xs ys : List Bytes) (pl : Place) : Prop :=
  ∃ links' s', Passes t throughLinks links s xs links' s' ∧
    Treads t throughLinks links' s' ys pl

/-- A walk is split at its start, or behind its first name. -/
theorem Treads.splits_of_cons {names : List Bytes} (h : Treads t throughLinks links s names pl)
    (hcons : ∀ x xs, names = x :: xs ++ ys → Splits t links s (x :: xs) ys pl)
    (hnames : names = xs ++ ys) : Splits t links s xs ys pl := by
  cases xs with
  | nil =>
      subst hnames
      exact ⟨links, s, .done, h⟩
  | cons x xs => exact hcons x xs hnames

/-- A walk with a name behind some others passes along these to a directory. -/
theorem Treads.splits {names : List Bytes} (h : Treads t throughLinks links s names pl)
    (hn : n ≠ []) (hnames : names = xs ++ n :: ys) : Splits t links s xs (n :: ys) pl := by
  have hall : ∀ {xs : List Bytes}, (xs ++ n :: ys).all (· == []) ≠ true := by
    intro xs
    simp [hn]
  refine h.splits_of_cons ?_ hnames
  clear hnames
  induction h with
  | done =>
      intro x xs hxs
      cases hxs
  | blank h ih =>
      rintro x xs ⟨⟩
      obtain ⟨links', s', hp, ht⟩ := h.splits_of_cons ih rfl
      exact ⟨links', s', .blank hp, ht⟩
  | here hturns h ih =>
      rintro x xs ⟨⟩
      obtain ⟨links', s', hp, ht⟩ := h.splits_of_cons ih rfl
      exact ⟨links', s', .here hturns hp, ht⟩
  | up hturns h ih =>
      rintro x xs ⟨⟩
      obtain ⟨links', s', hp, ht⟩ := h.splits_of_cons ih rfl
      exact ⟨links', s', .up hturns hp, ht⟩
  | missing _ _ hr =>
      rintro x xs ⟨⟩
      exact absurd hr hall
  | enter hs hc _ h ih =>
      rintro x xs ⟨⟩
      obtain ⟨links', s', hp, ht⟩ := h.splits_of_cons ih rfl
      exact ⟨links', s', .enter hs hc hp, ht⟩
  | stay _ _ _ hg => cases hg
  | follow hs hc _ h ih =>
      rintro x xs ⟨⟩
      obtain ⟨links', s', hp, ht⟩ := h.splits_of_cons ih (List.append_assoc _ _ _).symm
      exact ⟨links', s', .follow hs hc hp, ht⟩
  | file _ _ hr =>
      rintro x xs ⟨⟩
      exact absurd hr hall
  | device _ _ hr =>
      rintro x xs ⟨⟩
      exact absurd hr hall

/-- A walk that looks a name up and finds something finds the name in the directory. -/
theorem Treads.exists_lookup {e : Entry} (h : Treads t throughLinks links s [n] pl)
    (hn : Path.IsPlainName n) (he : pl.entry = some e) :
    ∃ e', s.children.lookup n = some e' := by
  cases h with
  | blank _ => exact absurd rfl hn.1
  | here _ _ => exact absurd rfl hn.2.1
  | up _ _ => exact absurd rfl hn.2.2.1
  | missing _ _ _ => cases he
  | enter _ hc _ _ => exact ⟨_, hc⟩
  | stay _ hc _ _ => exact ⟨_, hc⟩
  | follow _ hc _ _ => exact ⟨_, hc⟩
  | file _ hc _ => exact ⟨_, hc⟩
  | device _ hc _ => exact ⟨_, hc⟩

end

/-! ### Longer paths -/

section
variable {t : FileTree} {p : Path} {n : Bytes} {l l' : Location} {mode : Mode}
  {children : Directory} {e : Entry}

/-- What stands at a longer path is under its last name in the directory that the path names. -/
theorem exists_lookup_of_find_join (hd : t.find p = .ok (l, .dir mode children))
    (hn : Path.IsPlainName n) (h : t.find (p.join ⟨n⟩) = .ok (l', e)) :
    ∃ e', children.lookup n = some e' := by
  obtain ⟨_, pl, hpl, hex⟩ := find_eq_ok_iff.mp hd
  obtain ⟨_, hp, htreads⟩ := follow_eq_ok_iff.mp hpl
  obtain ⟨_, pl', hpl', hex'⟩ := find_eq_ok_iff.mp h
  have htreads' := (follow_eq_ok_iff.mp hpl').2.2
  obtain ⟨xs, blanks, hblanks, hxs, hjoin⟩ := Path.exists_pieces_join hp hn
  have houtset : t.outset (p.join ⟨n⟩) = t.outset p := by
    rw [outset, outset, startOf, startOf, Path.isAbsolute_join hp hn]
  rw [houtset, stepsOf, hjoin] at htreads'
  rw [stepsOf, hxs] at htreads
  obtain ⟨links, s, hpasses, hlast⟩ := htreads'.splits hn.1 rfl
  have hpl_eq := walk_of_treads (hpasses.treads (treads_of_blank hblanks))
  rw [walk_of_treads htreads] at hpl_eq
  cases hpl_eq
  obtain ⟨_, hentry, _⟩ := existing_eq_ok_iff.mp hex
  cases hentry
  exact hlast.exists_lookup hn (existing_eq_ok_iff.mp hex').2.1

end

end FileTree

end ShaderBuild
