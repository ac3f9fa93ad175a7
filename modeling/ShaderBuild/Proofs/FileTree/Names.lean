import ShaderBuild.Proofs.FileTree.Plain
import ShaderBuild.Proofs.Path

/-! # The names in a directory

A file system holds no name twice in a directory, and only plain names (`FileTree.Proper`).  A
directory that a path leads to is one of the tree, or an empty one where the tree holds none
(`Treads.backed`), so what is listed for any path are plain names, each once
(`Proper.proper_namesAt`).  `isProper` decides whether a tree is proper: it reads the entries of the
tree once. -/

namespace ShaderBuild

/-- Names that can stand together in a directory. -/
def ProperNames (names : List Bytes) : Prop :=
  names.Nodup ∧ ∀ n ∈ names, Path.IsPlainName n

instance : DecidablePred ProperNames :=
  fun names => inferInstanceAs (Decidable (names.Nodup ∧ ∀ n ∈ names, Path.IsPlainName n))

namespace FileTree

/-- In every directory of the tree the names are plain and different. -/
def Proper (t : FileTree) : Prop :=
  ∀ l mode children, t.lookup l = some (.dir mode children) → ProperNames (children.map Prod.fst)

/-- Whether the names of a tree are plain and different. -/
def isProper (t : FileTree) : Bool :=
  t.root.all.all fun e => decide (ProperNames (e.children.map Prod.fst))

/-- A directory on a walk is one of the tree, or empty. -/
def Backed (t : FileTree) (s : Standpoint) : Prop :=
  Stands t s ∨ s.children = []

section
variable {t : FileTree} {g : Gait} {links : ℕ} {s : Standpoint} {names : List Bytes} {pl : Place}
  {l : Location} {mode : Mode} {children : Directory} {n : Bytes} {p : Path}

theorem proper_of_isProper (h : t.isProper = true) : t.Proper := by
  intro l mode children hl
  exact of_decide_eq_true (List.all_eq_true.mp h _ (Entry.mem_all_of_find? hl))

theorem backed_standpoint (t : FileTree) (l : Location) : Backed t (t.standpoint l) := by
  cases hl : t.lookup l with
  | none =>
      right
      simp [standpoint, hl]
  | some e =>
      cases e with
      | dir mode children => exact .inl (stands_standpoint hl)
      | file _ =>
          right
          simp [standpoint, hl]
      | link _ =>
          right
          simp [standpoint, hl]
      | device _ =>
          right
          simp [standpoint, hl]

theorem Backed.startOf (h : Backed t s) (p : Path) : Backed t (t.startOf s p) := by
  unfold FileTree.startOf
  split
  · exact backed_standpoint t []
  · exact h

theorem Backed.enter (h : Backed t s) (hc : s.children.lookup n = some (.dir mode children)) :
    Backed t ⟨n :: s.trail, mode, children⟩ := by
  obtain hs | hnil := h
  · exact .inl (hs.enter hc)
  · rw [hnil] at hc
    cases hc

/-- A directory at which a walk arrives is one of the tree, or empty. -/
theorem Treads.backed (h : Treads t g links s names pl) (hs : Backed t s)
    (he : pl.entry = some (.dir mode children)) :
    t.lookup pl.location = some (.dir mode children) ∨ children = [] := by
  induction h with
  | done =>
      cases he
      exact hs
  | blank _ ih => exact ih hs he
  | here _ _ ih => exact ih hs he
  | up _ _ ih => exact ih (backed_standpoint t _) he
  | missing => cases he
  | enter _ hc _ _ ih => exact ih (hs.enter hc) he
  | stay => cases he
  | follow _ _ _ _ ih => exact ih (hs.startOf _) he
  | file => cases he
  | device => cases he

theorem lookup_or_eq_nil_of_find (h : t.find p = .ok (l, .dir mode children)) :
    t.lookup l = some (.dir mode children) ∨ children = [] := by
  obtain ⟨_, pl, hpl, he⟩ := find_eq_ok_iff.mp h
  obtain ⟨rfl, hentry, _⟩ := existing_eq_ok_iff.mp he
  have hs : Backed t (t.outset p) := (backed_standpoint t t.workingDir).startOf p
  exact (follow_eq_ok_iff.mp hpl).2.2.backed hs hentry

/-- What is listed for a path are plain names, each once. -/
theorem Proper.proper_namesAt (ht : t.Proper) (p : Path) : ProperNames (t.namesAt p) := by
  have hnil : ProperNames [] := by decide
  unfold namesAt
  split
  · rename_i l mode children hp
    split
    · obtain hl | rfl := lookup_or_eq_nil_of_find hp
      · exact ht l mode children hl
      · exact hnil
    · exact hnil
  · exact hnil

end

end FileTree

end ShaderBuild
