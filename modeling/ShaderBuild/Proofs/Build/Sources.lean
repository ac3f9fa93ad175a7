import ShaderBuild.Proofs.Build.Listing
import ShaderBuild.Proofs.FileName
import ShaderBuild.Proofs.FileTree.Names
import ShaderBuild.Proofs.PathOrder

/-! # The list of shader files

`SourceAt` says of names that they lead down from a directory, through directories that may be
listed, to an entry with the extension of a shader file that is not found to be a directory.
`shaderSources` lists the paths to which such names lead (`mem_shaderSources_iff`), each once and
in the order of paths (`pairwise_shaderSources`).

The bound on the depth is of no consequence: where there is room for as many names as fit into a
path, more room makes no difference (`sourcesBelow_of_le`). -/

namespace ShaderBuild

/-- The names `above` and then `n` lead down from `dir` to a shader file: something that looking up
its path does not find to be a directory.  So a link to nothing counts, and so does a directory that
cannot be looked up, because its path is too long or it is in one that may be listed but not
searched. -/
structure SourceAt (t : FileTree) (dir : Path) (above : List Bytes) (n : Bytes) : Prop where
  plain : ∀ m ∈ above ++ [n], Path.IsPlainName m
  lists : ∀ k ≤ above.length, t.Lists (dir.below (above.take k))
  entry : ∃ l mode children e, t.find (dir.below above) = .ok (l, .dir mode children) ∧
    children.lookup n = some e
  not_dir : ∀ l mode children, t.find (dir.below (above ++ [n])) ≠ .ok (l, .dir mode children)
  extension : ∃ stem, ∃ ext ∈ ["vert", "frag", "glsl"], stem ≠ [] ∧ n = stem ++ dot :: encode ext

/-- The shader files below a directory, however deep. -/
def sourcesIn (t : FileTree) (dir : Path) : List Path :=
  sourcesBelow t FileTree.pathLimit dir

/-- What an entry adds to the list, if `inside` is what a directory adds. -/
def sourcesOf (t : FileTree) (inside : Path → List Path) (p : Path) : List Path :=
  if t.isDir p then inside p else if isShaderSource p then [p] else []

section
variable {t : FileTree} {inside : Path → List Path} {dir p q : Path} {above ns ms : List Bytes}
  {m n : Bytes} {depth : ℕ} {l : Location} {e : Entry}

/-! ### Longer paths -/

theorem Path.below_concat (dir : Path) (ns : List Bytes) (n : Bytes) :
    dir.below (ns ++ [n]) = (dir.below ns).join ⟨n⟩ :=
  List.foldl_concat _ dir n ns

/-- Names that lead down add as many components. -/
theorem Path.components_below (hns : ∀ n ∈ ns, Path.IsPlainName n) (dir : Path) :
    (dir.below ns).components = dir.components ++ ns.map .name := by
  induction ns generalizing dir with
  | nil => simp [Path.below]
  | cons n ns ih =>
      rw [Path.below_cons, ih fun m hm => hns m (List.mem_cons_of_mem n hm),
        Path.components_join (hns n List.mem_cons_self), List.map_cons, List.append_assoc,
        List.singleton_append]

theorem Path.below_injective (hns : ∀ n ∈ ns, Path.IsPlainName n)
    (hms : ∀ m ∈ ms, Path.IsPlainName m)
    (h : (dir.below ns).components = (dir.below ms).components) : ns = ms := by
  rw [components_below hns, components_below hms, List.append_cancel_left_eq] at h
  exact List.map_injective_iff.mpr (fun _ _ h => Component.name.inj h) h

/-- A path that is too long is listed with no names. -/
theorem FileTree.namesAt_of_pathLimit_le (h : pathLimit ≤ dir.bytes.length) :
    t.namesAt dir = [] := by
  rw [List.eq_nil_iff_forall_not_mem]
  intro n hn
  obtain ⟨l, mode, children, hd, _⟩ := FileTree.lists_of_mem_namesAt hn
  exact absurd (FileTree.find_eq_ok_iff.mp hd).1 (Nat.not_lt.mpr h)

theorem FileTree.length_lt_of_isDir (h : t.isDir dir = true) : dir.bytes.length < pathLimit := by
  obtain ⟨l, mode, children, hd⟩ := FileTree.isDir_iff.mp h
  exact (FileTree.find_eq_ok_iff.mp hd).1

/-! ### Extensions -/

theorem dot_not_mem_encode_sourceExtensions : ∀ ext ∈ sourceExtensions, dot ∉ encode ext := by
  decide +kernel

/-- A path that ends in a plain name has the extension of a shader file if the name has it. -/
theorem isShaderSource_join_iff (hn : Path.IsPlainName n) (dir : Path) :
    isShaderSource (dir.join ⟨n⟩) = true ↔
      ∃ stem, ∃ ext ∈ sourceExtensions, stem ≠ [] ∧ n = stem ++ dot :: encode ext := by
  rw [isShaderSource, Path.extension?, Path.fileName?_join hn, Option.bind_some,
    Option.any_eq_true]
  simp only [List.any_eq_true, beq_iff_eq]
  constructor
  · rintro ⟨_, hext, ext, hmem, rfl⟩
    obtain ⟨stem, hn, hstem, _⟩ := Path.extensionOf_eq_some_iff.mp hext
    exact ⟨stem, ext, hmem, hstem, hn⟩
  · rintro ⟨stem, ext, hmem, hstem, hn⟩
    refine ⟨encode ext, ?_, ext, hmem, rfl⟩
    exact Path.extensionOf_eq_some_iff.mpr
      ⟨stem, hn, hstem, dot_not_mem_encode_sourceExtensions ext hmem⟩

/-! ### Which paths are listed -/

theorem sourcesBelow_succ (t : FileTree) (depth : ℕ) (dir : Path) :
    sourcesBelow t (depth + 1) dir =
      (t.namesAt dir).flatMap fun n => sourcesOf t (sourcesBelow t depth) (dir.join ⟨n⟩) := rfl

theorem mem_sourcesOf_iff : p ∈ sourcesOf t inside q ↔
    t.isDir q = true ∧ p ∈ inside q ∨ t.isDir q = false ∧ isShaderSource q = true ∧ p = q := by
  unfold sourcesOf
  cases t.isDir q with
  | true => simp
  | false => cases isShaderSource q <;> simp

theorem sourceAt_nil_iff : SourceAt t dir [] n ↔ Path.IsPlainName n ∧ n ∈ t.namesAt dir ∧
    t.isDir (dir.join ⟨n⟩) = false ∧ isShaderSource (dir.join ⟨n⟩) = true := by
  constructor
  · rintro ⟨hplain, hlists, ⟨l, mode, children, e, hd, he⟩, hnot, hext⟩
    have hn := hplain n (by simp)
    obtain ⟨l', mode', children', hd', hread⟩ : t.Lists dir := hlists 0 (Nat.le_refl 0)
    have hdir : t.find dir = .ok (l, .dir mode children) := hd
    rw [hdir] at hd'
    cases hd'
    refine ⟨hn, ?_, ?_, (isShaderSource_join_iff hn dir).mpr hext⟩
    · unfold FileTree.namesAt
      rw [hdir]
      simp only [hread, if_true]
      obtain ⟨before, after, rfl, _⟩ := List.lookup_eq_some_iff.mp he
      simp
    · rw [Bool.eq_false_iff]
      intro h
      obtain ⟨l, mode, children, hd⟩ := FileTree.isDir_iff.mp h
      exact hnot l mode children hd
  · rintro ⟨hn, hmem, hdir, hsource⟩
    obtain ⟨l, mode, children, hd, hread⟩ := FileTree.lists_of_mem_namesAt hmem
    refine ⟨by simpa using hn, ?_, ?_, ?_, (isShaderSource_join_iff hn dir).mp hsource⟩
    · intro k _
      rw [List.take_nil]
      exact ⟨l, mode, children, hd, hread⟩
    · rw [FileTree.namesAt, hd] at hmem
      simp only [hread, if_true, List.mem_map] at hmem
      obtain ⟨⟨_, e⟩, he, rfl⟩ := hmem
      obtain ⟨e', he'⟩ := Option.isSome_iff_exists.mp
        (List.lookup_isSome_iff.mpr ⟨_, he, beq_self_eq_true _⟩)
      exact ⟨l, mode, children, e', hd, he'⟩
    · intro l mode children h
      have h' := FileTree.isDir_iff.mpr ⟨l, mode, children, h⟩
      exact Bool.false_ne_true (hdir.symm.trans h')

theorem sourceAt_cons_iff : SourceAt t dir (m :: above) n ↔
    Path.IsPlainName m ∧ t.Lists dir ∧ SourceAt t (dir.join ⟨m⟩) above n := by
  constructor
  · rintro ⟨hplain, hlists, hentry, hnot, hext⟩
    refine ⟨hplain m List.mem_cons_self, hlists 0 (Nat.zero_le _), ?_, ?_, hentry, hnot, hext⟩
    · exact fun k hk => hplain k (List.mem_cons_of_mem m hk)
    · exact fun k hk => hlists (k + 1) (Nat.succ_le_succ hk)
  · rintro ⟨hm, hdir, hplain, hlists, hentry, hnot, hext⟩
    refine ⟨?_, ?_, hentry, hnot, hext⟩
    · intro k hk
      obtain rfl | hk := List.mem_cons.mp hk
      · exact hm
      · exact hplain k hk
    · intro k hk
      cases k with
      | zero => exact hdir
      | succ k => exact hlists k (Nat.le_of_succ_le_succ hk)

/-- Names that lead down to a shader file do not go down further than a path is long. -/
theorem SourceAt.length_lt (h : SourceAt t dir above n) : above.length < FileTree.pathLimit := by
  obtain ⟨l, mode, children, hd, _⟩ := h.lists above.length (Nat.le_refl _)
  rw [List.take_length] at hd
  have hlen := (FileTree.find_eq_ok_iff.mp hd).1
  have hbelow := Path.length_le_below (fun m hm => h.plain m (List.mem_append_left [n] hm)) dir
  omega

theorem SourceAt.mem_sourcesBelow (h : SourceAt t dir above n) (hdepth : above.length < depth) :
    dir.below (above ++ [n]) ∈ sourcesBelow t depth dir := by
  induction above generalizing dir depth with
  | nil =>
      obtain ⟨_, hmem, hdir, hsource⟩ := sourceAt_nil_iff.mp h
      cases depth with
      | zero => cases hdepth
      | succ depth =>
          rw [sourcesBelow_succ, List.mem_flatMap]
          exact ⟨n, hmem, mem_sourcesOf_iff.mpr (.inr ⟨hdir, hsource, rfl⟩)⟩
  | cons m above ih =>
      obtain ⟨hm, hlists, hrest⟩ := sourceAt_cons_iff.mp h
      obtain ⟨l, mode, children, hd, _⟩ : t.Lists (dir.join ⟨m⟩) := hrest.lists 0 (Nat.zero_le _)
      have hdir := FileTree.isDir_iff.mpr ⟨l, mode, children, hd⟩
      cases depth with
      | zero => cases hdepth
      | succ depth =>
          have hmem := ih hrest (Nat.lt_of_succ_lt_succ hdepth)
          rw [sourcesBelow_succ, List.mem_flatMap]
          exact ⟨m, hlists.mem_namesAt hm hd, mem_sourcesOf_iff.mpr (.inl ⟨hdir, hmem⟩)⟩

theorem exists_sourceAt_of_mem (ht : t.Proper) (h : p ∈ sourcesBelow t depth dir) :
    ∃ above n, SourceAt t dir above n ∧ p = dir.below (above ++ [n]) := by
  induction depth generalizing dir with
  | zero => cases h
  | succ depth ih =>
      rw [sourcesBelow_succ, List.mem_flatMap] at h
      obtain ⟨n, hn, hp⟩ := h
      have hplain := (ht.proper_namesAt dir).2 n hn
      obtain ⟨_, hp⟩ | ⟨hdir, hsource, rfl⟩ := mem_sourcesOf_iff.mp hp
      · obtain ⟨above, k, hk, rfl⟩ := ih hp
        have hlists := FileTree.lists_of_mem_namesAt hn
        exact ⟨n :: above, k, sourceAt_cons_iff.mpr ⟨hplain, hlists, hk⟩, rfl⟩
      · exact ⟨[], n, sourceAt_nil_iff.mpr ⟨hplain, hn, hdir, hsource⟩, rfl⟩

theorem mem_shaderSources_iff (ht : t.Proper) : p ∈ shaderSources t dir ↔
    ∃ above n, SourceAt t dir above n ∧ p = dir.below (above ++ [n]) := by
  rw [shaderSources, List.mem_mergeSort]
  constructor
  · exact exists_sourceAt_of_mem ht
  · rintro ⟨above, n, h, rfl⟩
    exact h.mem_sourcesBelow h.length_lt

/-- A shader file that names lead down to is listed. -/
theorem LiesBelow.mem_shaderSources (h : LiesBelow t dir ns)
    (hf : t.find (dir.below ns) = .ok (l, e)) (he : e.isDir = false) :
    dir.below ns ∈ shaderSources t dir := by
  obtain rfl | ⟨above, n, rfl⟩ := ns.eq_nil_or_concat'
  · exact absurd rfl h.ne_nil
  · have hn := h.plain n (by simp)
    have hlists : ∀ k ≤ above.length, t.Lists (dir.below (above.take k)) := by
      intro k hk
      have hk' : k < (above ++ [n]).length := by
        rw [List.length_append]
        exact Nat.lt_succ_of_le hk
      rw [← List.take_append_of_le_length hk]
      exact h.lists k hk'
    have habove := hlists above.length (Nat.le_refl _)
    rw [List.take_length] at habove
    obtain ⟨l', mode, children, hd, _⟩ := habove
    have hsource := h.source
    rw [Path.below_concat] at hf hsource
    obtain ⟨e', he'⟩ := FileTree.exists_lookup_of_find_join hd hn hf
    have hat : SourceAt t dir above n := by
      refine ⟨h.plain, hlists, ⟨l', mode, children, e', hd, he'⟩, ?_,
        (isShaderSource_join_iff hn _).mp hsource⟩
      intro l'' mode' children' hdir
      rw [Path.below_concat, hf] at hdir
      cases hdir
      cases he
    rw [shaderSources, List.mem_mergeSort]
    exact hat.mem_sourcesBelow hat.length_lt

/-! ### How deep they lie -/

theorem sourcesBelow_succ_of_le (ht : t.Proper)
    (h : FileTree.pathLimit ≤ depth + dir.bytes.length) :
    sourcesBelow t (depth + 1) dir = sourcesBelow t depth dir := by
  induction depth generalizing dir with
  | zero =>
      rw [Nat.zero_add] at h
      rw [sourcesBelow_succ, FileTree.namesAt_of_pathLimit_le h]
      rfl
  | succ depth ih =>
      rw [sourcesBelow_succ, sourcesBelow_succ]
      apply List.flatMap_congr
      intro n hn
      have hlen := Path.length_lt_join ((ht.proper_namesAt dir).2 n hn) dir
      rw [sourcesOf, sourcesOf, ih (by omega)]

/-- With room for as many names as fit into a path, all shader files are listed. -/
theorem sourcesBelow_of_le (ht : t.Proper) (h : FileTree.pathLimit ≤ depth + dir.bytes.length)
    (hdepth : depth ≤ FileTree.pathLimit) : sourcesBelow t depth dir = sourcesIn t dir := by
  have hmore : ∀ k, sourcesBelow t (depth + k) dir = sourcesBelow t depth dir := by
    intro k
    induction k with
    | zero => rfl
    | succ k ih => rw [← Nat.add_assoc, sourcesBelow_succ_of_le ht (by omega), ih]
  rw [sourcesIn, ← hmore (FileTree.pathLimit - depth), Nat.add_sub_cancel' hdepth]

/-- The shader files of a directory are among its entries and in the directories among them. -/
theorem sourcesIn_eq (ht : t.Proper) (dir : Path) : sourcesIn t dir =
    (t.namesAt dir).flatMap fun n => sourcesOf t (sourcesIn t) (dir.join ⟨n⟩) := by
  have hlimit : FileTree.pathLimit = 4095 + 1 := rfl
  rw [sourcesIn, hlimit, sourcesBelow_succ]
  apply List.flatMap_congr
  intro n hn
  have hlen := Path.length_lt_join ((ht.proper_namesAt dir).2 n hn) dir
  rw [sourcesOf, sourcesOf, sourcesBelow_of_le ht (by omega) (by omega)]

/-! ### Each once, and in order -/

/-- Listed paths are known by their components. -/
theorem eq_of_components_eq (ht : t.Proper) (hp : p ∈ sourcesIn t dir) (hq : q ∈ sourcesIn t dir)
    (h : p.components = q.components) : p = q := by
  obtain ⟨above, n, hn, rfl⟩ := exists_sourceAt_of_mem ht hp
  obtain ⟨above', m, hm, rfl⟩ := exists_sourceAt_of_mem ht hq
  rw [Path.below_injective hn.plain hm.plain h]

theorem nodup_sourcesBelow (ht : t.Proper) (depth : ℕ) (dir : Path) :
    (sourcesBelow t depth dir).Nodup := by
  induction depth generalizing dir with
  | zero => exact List.nodup_nil
  | succ depth ih =>
      obtain ⟨hnodup, hplain⟩ := ht.proper_namesAt dir
      -- what is listed for one name has that name behind the components of the directory
      have hname : ∀ n ∈ t.namesAt dir,
          ∀ p ∈ sourcesOf t (sourcesBelow t depth) (dir.join ⟨n⟩),
            ∃ cs, p.components = dir.components ++ .name n :: cs := by
        intro n hn p hp
        have hjoin := Path.components_join (hplain n hn) dir
        obtain ⟨_, hp⟩ | ⟨_, _, rfl⟩ := mem_sourcesOf_iff.mp hp
        · obtain ⟨above, k, hk, rfl⟩ := exists_sourceAt_of_mem ht hp
          refine ⟨(above ++ [k]).map .name, ?_⟩
          rw [Path.components_below hk.plain, hjoin, List.append_assoc, List.singleton_append]
        · exact ⟨[], hjoin⟩
      rw [sourcesBelow_succ, List.nodup_flatMap]
      constructor
      · intro n _
        unfold sourcesOf
        split
        · exact ih _
        · split
          · exact List.nodup_singleton _
          · exact List.nodup_nil
      · refine List.Pairwise.imp_of_mem ?_ hnodup
        intro n m hn hm hne p hp hp'
        obtain ⟨cs, hcs⟩ := hname n hn p hp
        obtain ⟨cs', hcs'⟩ := hname m hm p hp'
        rw [hcs, List.append_cancel_left_eq] at hcs'
        exact hne (Component.name.inj (List.cons.inj hcs').1)

theorem pairwise_mergeSort_order (ps : List Path) :
    (ps.mergeSort fun p q => (p.order q).isLE).Pairwise fun p q => (p.order q).isLE = true := by
  apply List.pairwise_mergeSort
  · exact fun _ _ _ => Path.order_isLE_trans
  · exact Path.order_isLE_total

/-- The list is in the order of paths, and no path is listed twice. -/
theorem pairwise_shaderSources (ht : t.Proper) (dir : Path) :
    (shaderSources t dir).Pairwise fun p q => p.order q = .lt := by
  have hnodup : (shaderSources t dir).Nodup :=
    (List.mergeSort_perm _ _).nodup_iff.mpr (nodup_sourcesBelow ht _ dir)
  have hsorted : (shaderSources t dir).Pairwise fun p q => (p.order q).isLE = true :=
    pairwise_mergeSort_order _
  have hmem : ∀ p ∈ shaderSources t dir, p ∈ sourcesIn t dir :=
    fun p hp => List.mem_mergeSort.mp hp
  refine (hnodup.and hsorted).imp_of_mem ?_
  rintro p q hp hq ⟨hne, hle⟩
  exact Path.order_eq_lt hle fun h => hne (eq_of_components_eq ht (hmem p hp) (hmem q hq) h)

/-- However the shader files are found, sorting brings them into one order. -/
theorem mergeSort_eq_shaderSources (ht : t.Proper) {found : List Path}
    (h : found.Perm (sourcesIn t dir)) :
    found.mergeSort (fun p q => (p.order q).isLE) = shaderSources t dir := by
  have hperm : (found.mergeSort fun p q => (p.order q).isLE).Perm (shaderSources t dir) :=
    (List.mergeSort_perm _ _).trans (h.trans (List.mergeSort_perm _ _).symm)
  refine hperm.eq_of_pairwise ?_ (pairwise_mergeSort_order _) (pairwise_mergeSort_order _)
  intro p q hp hq hpq hqp
  have hp' : p ∈ sourcesIn t dir := h.mem_iff.mp (List.mem_mergeSort.mp hp)
  have hq' : q ∈ sourcesIn t dir := List.mem_mergeSort.mp hq
  exact eq_of_components_eq ht hp' hq' (Path.components_eq_of_isLE hpq hqp)

end

end ShaderBuild
