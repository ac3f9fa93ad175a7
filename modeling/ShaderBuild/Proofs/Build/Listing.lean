import ShaderBuild.Build.Batch
import ShaderBuild.Proofs.FileTree.Growth
import ShaderBuild.Proofs.FileTree.Passage

/-! # What lies below a directory

Names lead down from a directory as far as the directories on the way may be listed.  What a name
leads to in a directory is listed there (`FileTree.Lists.mem_namesAt`), and where names lead to a
shader file they go on doing so in a tree that grows (`LiesBelow.extends`). -/

namespace ShaderBuild

/-- The path that names lead down to from a directory. -/
def Path.below (dir : Path) (names : List Bytes) : Path :=
  names.foldl (fun d n => d.join ⟨n⟩) dir

/-- A path leads to a directory that may be listed. -/
def FileTree.Lists (t : FileTree) (dir : Path) : Prop :=
  ∃ l mode children, t.find dir = .ok (l, .dir mode children) ∧ mode.mayRead = true

/-- The names lead down from `dir` to a shader file, through directories that may be listed. -/
structure LiesBelow (t : FileTree) (dir : Path) (names : List Bytes) : Prop where
  ne_nil : names ≠ []
  plain : ∀ n ∈ names, Path.IsPlainName n
  lists : ∀ k < names.length, t.Lists (dir.below (names.take k))
  source : isShaderSource (dir.below names) = true

section
variable {t t' : FileTree} {dir : Path} {names ns : List Bytes} {n : Bytes} {l : Location}
  {e : Entry}

theorem Path.below_cons (dir : Path) (n : Bytes) (ns : List Bytes) :
    dir.below (n :: ns) = (dir.join ⟨n⟩).below ns := rfl

/-- A name behind a path adds to its length. -/
theorem Path.length_lt_join (hn : Path.IsPlainName n) (dir : Path) :
    dir.bytes.length < (dir.join ⟨n⟩).bytes.length := by
  have hpos := List.length_pos_iff.mpr hn.1
  unfold Path.join
  rw [hn.isAbsolute, if_neg Bool.false_ne_true]
  split
  · rw [List.length_append]
    exact Nat.lt_add_of_pos_right hpos
  · rw [List.length_append, List.length_cons]
    omega

/-- Every name adds to the length of a path. -/
theorem Path.length_le_below (hns : ∀ n ∈ ns, Path.IsPlainName n) (dir : Path) :
    dir.bytes.length + ns.length ≤ (dir.below ns).bytes.length := by
  induction ns generalizing dir with
  | nil => exact le_refl _
  | cons n ns ih =>
      have hjoin := Path.length_lt_join (hns n List.mem_cons_self) dir
      have hrest := ih (fun m hm => hns m (List.mem_cons_of_mem n hm)) (dir.join ⟨n⟩)
      rw [Path.below_cons, List.length_cons]
      omega

theorem FileTree.lists_of_mem_namesAt (h : n ∈ t.namesAt dir) : t.Lists dir := by
  unfold FileTree.namesAt at h
  split at h
  · rename_i l mode children hd
    split at h
    · exact ⟨l, mode, children, hd, ‹_›⟩
    · cases h
  · cases h

/-- What a name behind the path of a directory leads to is listed there. -/
theorem FileTree.Lists.mem_namesAt (h : t.Lists dir) (hn : Path.IsPlainName n)
    (he : t.find (dir.join ⟨n⟩) = .ok (l, e)) : n ∈ t.namesAt dir := by
  obtain ⟨_, mode, children, hd, hread⟩ := h
  obtain ⟨e', he'⟩ := FileTree.exists_lookup_of_find_join hd hn he
  unfold FileTree.namesAt
  rw [hd]
  simp only [hread, if_true]
  obtain ⟨before, after, rfl, _⟩ := List.lookup_eq_some_iff.mp he'
  simp

/-- Directories that may be listed stay so in a tree that grows. -/
theorem FileTree.Extends.lists (hx : t.Extends t') (hw : t.HasWorkingDir) (h : t.Lists dir) :
    t'.Lists dir := by
  obtain ⟨l, mode, children, hd, hread⟩ := h
  obtain ⟨children', hd'⟩ := hx.find_dir hw hd
  exact ⟨l, mode, children', hd', hread⟩

theorem LiesBelow.extends (h : LiesBelow t dir names) (hx : t.Extends t') (hw : t.HasWorkingDir) :
    LiesBelow t' dir names :=
  ⟨h.ne_nil, h.plain, fun k hk => hx.lists hw (h.lists k hk), h.source⟩

end

end ShaderBuild
