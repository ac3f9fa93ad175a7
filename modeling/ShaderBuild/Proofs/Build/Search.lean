import Mathlib.Logic.Hydra
import Mathlib.Logic.Relation
import ShaderBuild.Proofs.Build.Sources

/-! # Searching for shader files

A search keeps the directories that are still to be read, and reads the last one: the directories
that it holds are put behind the others, and its shader files are found.  In which order the names
of a directory come, each time it is read, is left open (`Search.Step`).

Every step puts directories with longer paths in the place of one, so a search ends
(`Search.wellFounded_step`).  What was found, with the shader files that lie below the directories
still to be read, stays the same up to its order (`Search.Step.total_perm`); so every search finds
the shader files below the directory that it started at, and sorted they are `shaderSources`
(`Search.Reaches.sorted_eq`). -/

namespace ShaderBuild

/-- The directories still to be read, and the shader files found so far. -/
structure Search where
  pending : List Path
  found : List Path

namespace Search

/-- The search that starts at a directory. -/
def start (dir : Path) : Search :=
  ⟨[dir], []⟩

/-- What a search has found in the end, in order. -/
def sorted (s : Search) : List Path :=
  s.found.mergeSort fun p q => (p.order q).isLE

/-- Whether a path leads to a shader file and to no directory. -/
def finds (t : FileTree) (p : Path) : Bool :=
  !t.isDir p && isShaderSource p

/-- A search with the paths of a directory added. -/
def add (t : FileTree) (s : Search) (ps : List Path) : Search :=
  ⟨s.pending ++ ps.filter t.isDir, s.found ++ ps.filter (finds t)⟩

/-- The last pending directory is read, and its names come in some order. -/
inductive Step (t : FileTree) : Search → Search → Prop
  | read {pending found : List Path} {dir : Path} {names : List Bytes} :
      names.Perm (t.namesAt dir) →
        Step t ⟨pending ++ [dir], found⟩ (add t ⟨pending, found⟩ (names.map fun n => dir.join ⟨n⟩))

/-- A search goes on to another. -/
def Reaches (t : FileTree) : Search → Search → Prop :=
  Relation.ReflTransGen (Step t)

section
variable {t : FileTree} {s s' : Search} {dir : Path}

/-! ### A search ends -/

/-- A directory with a longer path than another. -/
def Deeper (t : FileTree) (q p : Path) : Prop :=
  t.isDir q = true ∧ p.bytes.length < q.bytes.length

theorem wellFounded_deeper (t : FileTree) : WellFounded (Deeper t) := by
  apply Subrelation.wf _ (measure fun p : Path => FileTree.pathLimit - p.bytes.length).wf
  rintro q p ⟨hdir, hlen⟩
  have hlimit := FileTree.length_lt_of_isDir hdir
  show FileTree.pathLimit - q.bytes.length < FileTree.pathLimit - p.bytes.length
  omega

/-- A step takes one pending directory away and adds only deeper ones. -/
theorem Step.cutExpand (ht : t.Proper) (h : Step t s s') :
    Relation.CutExpand (Deeper t) (s'.pending : Multiset Path) (s.pending : Multiset Path) := by
  obtain ⟨hnames⟩ := h
  rename_i pending found dir names
  refine ⟨((names.map fun n => dir.join ⟨n⟩).filter t.isDir : List Path), dir, ?_, ?_⟩
  · intro p hp
    rw [Multiset.mem_coe, List.mem_filter, List.mem_map] at hp
    obtain ⟨⟨n, hn, rfl⟩, hdir⟩ := hp
    have hplain := (ht.proper_namesAt dir).2 n (hnames.mem_iff.mp hn)
    exact ⟨hdir, Path.length_lt_join hplain dir⟩
  · rw [← Multiset.coe_singleton, Multiset.coe_add, Multiset.coe_add, Multiset.coe_eq_coe, add,
      List.append_assoc, List.append_assoc]
    exact List.perm_append_comm.append_left pending

/-- No search goes on for ever. -/
theorem wellFounded_step (ht : t.Proper) : WellFounded fun s' s => Step t s s' := by
  have hwf : WellFounded fun s' s : Search =>
      Relation.CutExpand (Deeper t) (s'.pending : Multiset Path) (s.pending : Multiset Path) :=
    InvImage.wf (fun s : Search => (s.pending : Multiset Path)) (wellFounded_deeper t).cutExpand
  exact Subrelation.wf (Step.cutExpand ht) hwf

/-- A search goes on while there are directories to read. -/
theorem exists_step (t : FileTree) (h : s.pending ≠ []) : ∃ s', Step t s s' := by
  obtain ⟨pending, found⟩ := s
  obtain rfl | ⟨rest, dir, rfl⟩ := pending.eq_nil_or_concat'
  · exact absurd rfl h
  · exact ⟨_, .read (List.Perm.refl _)⟩

/-! ### What a search finds -/

/-- What was found and what is still to be found. -/
def total (t : FileTree) (s : Search) : List Path :=
  s.found ++ s.pending.flatMap (sourcesIn t)

theorem total_start (t : FileTree) (dir : Path) : total t (start dir) = sourcesIn t dir := by
  simp [total, start]

/-- Shader files apart from directories are the same files. -/
theorem flatMap_sourcesOf_perm (t : FileTree) (inside : Path → List Path) (ps : List Path) :
    (ps.flatMap (sourcesOf t inside)).Perm
      (ps.filter (finds t) ++ (ps.filter t.isDir).flatMap inside) := by
  induction ps with
  | nil => exact List.Perm.refl _
  | cons p ps ih =>
      rw [List.flatMap_cons, List.filter_cons, List.filter_cons, sourcesOf, finds]
      cases t.isDir p with
      | true =>
          simp only [if_true, Bool.not_true, Bool.false_and, Bool.false_eq_true, if_false,
            List.flatMap_cons]
          exact (ih.append_left _).trans (List.perm_append_comm_assoc _ _ _)
      | false =>
          cases isShaderSource p with
          | true => simpa using ih
          | false => simpa using ih

/-- A step finds what is there to be found. -/
theorem Step.total_perm (ht : t.Proper) (h : Step t s s') : (total t s').Perm (total t s) := by
  obtain ⟨hnames⟩ := h
  rename_i pending found dir names
  have hdir : (sourcesIn t dir).Perm ((names.map fun n => dir.join ⟨n⟩).filter (finds t) ++
      ((names.map fun n => dir.join ⟨n⟩).filter t.isDir).flatMap (sourcesIn t)) := by
    apply List.Perm.trans _ (flatMap_sourcesOf_perm t (sourcesIn t) _)
    rw [sourcesIn_eq ht, List.flatMap_map]
    exact (hnames.flatMap_right _).symm
  simp only [total, add, List.flatMap_append, List.flatMap_singleton, List.append_assoc]
  apply List.Perm.append_left found
  apply (List.perm_append_comm_assoc _ _ _).trans
  exact (hdir.append_left _).symm

theorem Reaches.total_perm (ht : t.Proper) (h : Reaches t s s') :
    (total t s').Perm (total t s) := by
  induction h with
  | refl => exact List.Perm.refl _
  | tail _ hstep ih => exact (hstep.total_perm ht).trans ih

/-- A search that has come to its end has found the shader files below its directory. -/
theorem Reaches.sorted_eq (ht : t.Proper) (h : Reaches t (start dir) s) (hend : s.pending = []) :
    s.sorted = shaderSources t dir := by
  have hfound := h.total_perm ht
  rw [total_start, total, hend, List.flatMap_nil, List.append_nil] at hfound
  exact mergeSort_eq_shaderSources ht hfound

end

end Search

/-- Where the names in every directory are plain and different, a search for shader files goes on
while directories are pending, but not for ever, and whatever the order in which it gets the names
of each directory, sorting what it has found in the end gives the list of shader files.  This holds
the paths to which names lead down, through directories that may be listed, to an entry that has the
extension of a shader file and is no directory, or cannot be looked up: each once, and strictly in
the order of paths. -/
theorem shaderSources_of_search (t : FileTree) (ht : t.Proper) (dir : Path) :
    Acc (fun s' s => Search.Step t s s') (Search.start dir) ∧
    (∀ s, Search.Reaches t (Search.start dir) s →
      (s.pending ≠ [] → ∃ s', Search.Step t s s') ∧
      (s.pending = [] → s.sorted = shaderSources t dir)) ∧
    (∀ p, p ∈ shaderSources t dir ↔
      ∃ above n, SourceAt t dir above n ∧ p = dir.below (above ++ [n])) ∧
    (shaderSources t dir).Pairwise fun p q => p.order q = .lt :=
  ⟨(Search.wellFounded_step ht).apply _,
    fun _ h => ⟨Search.exists_step t, fun hend => h.sorted_eq ht hend⟩,
    fun _ => mem_shaderSources_iff ht, pairwise_shaderSources ht dir⟩

/-- A tree of shader files: one deeper, one that is a link to nothing, one behind a link to its
directory, and one in a directory that is called like a shader file.  Of the others, one has no
extension and one lies in a directory that may not be listed. -/
def scatteredTree : FileTree where
  root := FileTree.directory
    [("s", FileTree.directory
      [("a", FileTree.directory [("b.vert", .file 0)]),
        ("a.frag", .link (.ofString "nowhere")),
        ("b", .link (.ofString "a")),
        ("c.vert", FileTree.directory [("d.glsl", .file 0)]),
        (".vert", .file 0),
        ("locked", .dir ⟨0⟩ [(encode "e.vert", .file 0)])])]
  bodies := #[⟨"float a;\n".toByteArray, .plain, 0⟩]
  workingDir := []
  clock := 0

theorem shaderSources_of_search_scatteredTree :
    scatteredTree.Proper ∧
    Acc (fun s' s => Search.Step scatteredTree s s') (Search.start (.ofString "s")) ∧
    ∀ s, Search.Reaches scatteredTree (Search.start (.ofString "s")) s → s.pending = [] →
      s.sorted = ["s/a/b.vert", "s/a.frag", "s/b/b.vert", "s/c.vert/d.glsl"].map Path.ofString := by
  have hproper : scatteredTree.Proper := FileTree.proper_of_isProper (by decide +kernel)
  have hsources : sourcesBelow scatteredTree FileTree.pathLimit (.ofString "s") =
      ["s/a/b.vert", "s/a.frag", "s/b/b.vert", "s/c.vert/d.glsl"].map Path.ofString := by
    decide +kernel
  have hsorted : shaderSources scatteredTree (.ofString "s") =
      ["s/a/b.vert", "s/a.frag", "s/b/b.vert", "s/c.vert/d.glsl"].map Path.ofString := by
    rw [shaderSources, hsources]
    exact List.mergeSort_of_pairwise (by decide +kernel)
  obtain ⟨hends, hfinds, _⟩ := shaderSources_of_search scatteredTree hproper (.ofString "s")
  refine ⟨hproper, hends, fun s hs hend => ?_⟩
  rw [(hfinds s hs).2 hend, hsorted]

/-- The names of fifteen directories in one another. -/
def deepNames : List String :=
  List.replicate 15 (FileTree.longName 'a')

/-- A name that is as long as names may be and like that of a shader file. -/
def deepName : String :=
  String.ofList (List.replicate 250 'b') ++ ".vert"

/-- A tree of directories in one another.  The innermost is called like a shader file. -/
def deepDirectory : FileTree where
  root := FileTree.nested (deepNames ++ [deepName]) (FileTree.directory [])
  bodies := #[]
  workingDir := []
  clock := 0

/-- The path, by `.`, of the directory that holds the innermost one. -/
def deepPath : Path :=
  (Path.ofString ".").below (deepNames.map encode)

/-- A directory whose path is too long to be followed is listed as a shader file. -/
theorem exists_directory_listed :
    deepDirectory.Proper ∧
    (deepDirectory.lookup ((deepNames ++ [deepName]).map encode)).any Entry.isDir = true ∧
    deepPath.below [encode deepName] ∈ shaderSources deepDirectory deepPath := by
  have hproper : deepDirectory.Proper := FileTree.proper_of_isProper (by decide +kernel)
  have hat : SourceAt deepDirectory deepPath [] (encode deepName) :=
    sourceAt_nil_iff.mpr
      ⟨by decide +kernel, by decide +kernel, by decide +kernel, by decide +kernel⟩
  exact ⟨hproper, by decide +kernel, (mem_shaderSources_iff hproper).mpr ⟨[], _, hat, rfl⟩⟩

end ShaderBuild
