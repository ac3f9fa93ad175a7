import ShaderBuild.Proofs.FileTree.Passing
import ShaderBuild.Proofs.FileTree.Writing

/-! # Changes of some files only

`FileTree.DiffersAt t t' ls` says that between `t` and `t'` nothing changed but the files at the
locations `ls`, under whatever names they are known (`FileTree.OneFile`).  A path that leads to
another file leads there still (`DiffersAt.sameSpot`), and what is read through it is the same
(`DiffersAt.read_eq`).  Writing a file is such a change (`differsAt_of_write`), and where the file
is as it was in another tree, the write does the same in both (`SameSpot.write`). -/

namespace ShaderBuild

/-- An entry that was kept: the same, or a directory of the same mode. -/
inductive Entry.Kept : Entry → Entry → Prop
  | dir {mode children children'} : Kept (.dir mode children) (.dir mode children')
  | same {e} : Kept e e

theorem Entry.refines_kept : Entry.Refines Entry.Kept where
  alike h := by
    cases h with
    | dir => exact .dir
    | same => exact .refl _
  dir := .dir

theorem Entry.Kept.trans {e e' e'' : Entry} (h : Kept e e') (h' : Kept e' e'') : Kept e e'' := by
  cases h with
  | same => exact h'
  | dir =>
      cases h' with
      | dir => exact .dir
      | same => exact .dir

theorem Entry.Kept.eq_of_not_isDir {e e' : Entry} (h : Kept e e')
    (he : e.isDir = false ∨ e'.isDir = false) : e' = e := by
  cases h with
  | dir => exact he.elim (fun h => Bool.noConfusion h) fun h => Bool.noConfusion h
  | same => rfl

namespace FileTree

/-- Two locations are the same, or hold the same regular file. -/
def OneFile (t : FileTree) (l l' : Location) : Prop :=
  l = l' ∨ ∃ n, t.lookup l = some (.file n) ∧ t.lookup l' = some (.file n)

/-- Nothing changed from `t` to `t'` but the files at `ls`.  What stands there is one of the files
that stood there, or new. -/
structure DiffersAt (t t' : FileTree) (ls : List Location) : Prop where
  workingDir_eq : t'.workingDir = t.workingDir
  kept : ∀ l, l ∉ ls → RelAt Entry.Kept t t' l
  body_eq : ∀ n < t.bodies.size, (∀ l ∈ ls, t.lookup l ≠ some (.file n)) → t'.body? n = t.body? n
  file : ∀ l ∈ ls, ∀ n, t'.lookup l = some (.file n) →
    t.lookup l = some (.file n) ∨ t.bodies.size ≤ n
  size_le : t.bodies.size ≤ t'.bodies.size
  body_lt : ∀ l ∈ ls, ∀ n, t'.lookup l = some (.file n) → n < t'.bodies.size

/-- The location at which a path lets a file be put: nothing stands there, or something else than a
directory. -/
def outlet? (t : FileTree) (p : Path) : Option Location :=
  match t.place true p with
  | .ok ⟨l, entry, false⟩ => if entry.any Entry.isDir then none else some l
  | _ => none

/-- A path leads to the same file in two trees, and this file is the same in both: it has the same
names and holds the same, or it is missing, and can be made in both or in none. -/
structure SameSpot (t t' : FileTree) (p : Path) (l : Location) : Prop where
  outlet : t.outlet? p = some l
  outlet' : t'.outlet? p = some l
  lookup_eq : t'.lookup l = t.lookup l
  names : ∀ k, t'.OneFile l k ↔ t.OneFile l k
  body_eq : ∀ n, t.lookup l = some (.file n) → t'.body? n = t.body? n
  mayChange_eq : t'.mayChange l = t.mayChange l

/-- No walk goes on at a location. -/
def EndsWalks (t : FileTree) (l : Location) : Prop :=
  ∀ e, t.lookup l = some e → e.leadsOn = false

section
variable {t t' t'' : FileTree} {l k m : Location} {ls ls' : List Location} {n : ℕ} {e : Entry}
  {p : Path} {content : ByteArray}

/-! ### One file of several names -/

theorem oneFile_iff : t.OneFile l k ↔
    l = k ∨ ((t.lookup l).bind Entry.number?).isSome = true ∧
      (t.lookup l).bind Entry.number? = (t.lookup k).bind Entry.number? := by
  have hfile : ∀ {j n}, (t.lookup j).bind Entry.number? = some n ↔
      t.lookup j = some (.file n) := by
    intro j n
    cases t.lookup j with
    | none => simp
    | some e => cases e <;> simp [Entry.number?]
  unfold OneFile
  refine or_congr_right ?_
  constructor
  · rintro ⟨n, hl, hk⟩
    simp [hfile.mpr hl, hfile.mpr hk]
  · rintro ⟨hsome, heq⟩
    obtain ⟨n, hn⟩ := Option.isSome_iff_exists.mp hsome
    exact ⟨n, hfile.mp hn, hfile.mp (heq ▸ hn)⟩

instance : Decidable (t.OneFile l k) :=
  decidable_of_iff' _ oneFile_iff

theorem OneFile.refl (t : FileTree) (l : Location) : t.OneFile l l :=
  .inl rfl

theorem OneFile.symm (h : t.OneFile l k) : t.OneFile k l := by
  obtain rfl | ⟨n, hl, hk⟩ := h
  · exact .inl rfl
  · exact .inr ⟨n, hk, hl⟩

theorem OneFile.trans (h : t.OneFile l k) (h' : t.OneFile k m) : t.OneFile l m := by
  obtain rfl | ⟨n, hl, hk⟩ := h
  · exact h'
  · obtain rfl | ⟨j, hk', hm⟩ := h'
    · exact .inr ⟨n, hl, hk⟩
    · rw [hk] at hk'
      cases hk'
      exact .inr ⟨n, hl, hm⟩

/-- All names of a file hold it. -/
theorem OneFile.lookup_eq (h : t.OneFile l k) (hl : t.lookup l = some (.file n)) :
    t.lookup k = some (.file n) := by
  obtain rfl | ⟨j, hl', hk⟩ := h
  · exact hl
  · rw [hl] at hl'
    cases hl'
    exact hk

/-- Where there is no regular file there are no other names of it. -/
theorem OneFile.eq_of_ne_file (h : t.OneFile l k) (hl : ∀ n, t.lookup l ≠ some (.file n)) :
    l = k := by
  obtain rfl | ⟨n, hn, _⟩ := h
  · rfl
  · exact absurd hn (hl n)

/-! ### Trees that differ at some files -/

theorem relAt_kept (t : FileTree) (l : Location) : RelAt Entry.Kept t t l := by
  unfold RelAt
  cases t.lookup l with
  | none => exact .none
  | some e => exact .some .same

theorem DiffersAt.refl (ht : t.Sound) (ls : List Location) : t.DiffersAt t ls where
  workingDir_eq := rfl
  kept l _ := relAt_kept t l
  body_eq _ _ _ := rfl
  file _ _ _ h := .inl h
  size_le := le_refl _
  body_lt _ _ _ h := ht.body_lt h

/-- Away from the changed files the same regular files stand. -/
theorem DiffersAt.lookup_file_iff (h : t.DiffersAt t' ls) (hl : l ∉ ls) :
    t'.lookup l = some (.file n) ↔ t.lookup l = some (.file n) := by
  obtain ⟨hn, hn'⟩ | ⟨e, e', he, he', hkept⟩ := (h.kept l hl).cases
  · rw [hn, hn']
  · rw [he, he', Option.some.injEq, Option.some.injEq]
    constructor
    · rintro rfl
      exact (hkept.eq_of_not_isDir (.inr rfl)).symm
    · rintro rfl
      exact hkept.eq_of_not_isDir (.inl rfl)

/-- No file of before has got a new name. -/
theorem DiffersAt.lookup_of_lt (h : t.DiffersAt t' ls) (hn : n < t.bodies.size)
    (hl : t'.lookup l = some (.file n)) : t.lookup l = some (.file n) := by
  by_cases hmem : l ∈ ls
  · exact (h.file l hmem n hl).resolve_right (Nat.not_le.mpr hn)
  · exact (h.lookup_file_iff hmem).mp hl

theorem DiffersAt.trans (h : t.DiffersAt t' ls) (h' : t'.DiffersAt t'' ls') :
    t.DiffersAt t'' (ls ++ ls') where
  workingDir_eq := h'.workingDir_eq.trans h.workingDir_eq
  kept l hl := by
    rw [List.mem_append, not_or] at hl
    unfold RelAt
    obtain ⟨hn, hn'⟩ | ⟨e, e', he, he', hkept⟩ := (h.kept l hl.1).cases
    · obtain ⟨_, hn''⟩ | ⟨_, _, he, _⟩ := (h'.kept l hl.2).cases
      · rw [hn, hn'']
        exact .none
      · simp [hn'] at he
    · obtain ⟨hn', _⟩ | ⟨d, e'', hd, he'', hkept'⟩ := (h'.kept l hl.2).cases
      · simp [hn'] at he'
      · rw [he'] at hd
        cases hd
        rw [he, he'']
        exact .some (hkept.trans hkept')
  body_eq n hn hls := by
    rw [← h.body_eq n hn fun l hl => hls l (List.mem_append_left _ hl)]
    apply h'.body_eq n (Nat.lt_of_lt_of_le hn h.size_le)
    intro l hl hfile
    exact hls l (List.mem_append_right _ hl) (h.lookup_of_lt hn hfile)
  file l hl n hfile := by
    by_cases hn : n < t.bodies.size
    · exact .inl (h.lookup_of_lt hn (h'.lookup_of_lt (Nat.lt_of_lt_of_le hn h.size_le) hfile))
    · exact .inr (Nat.not_lt.mp hn)
  size_le := h.size_le.trans h'.size_le
  body_lt l hl n hfile := by
    by_cases hl' : l ∈ ls'
    · exact h'.body_lt l hl' n hfile
    · have hmem : l ∈ ls := (List.mem_append.mp hl).resolve_right hl'
      exact Nat.lt_of_lt_of_le (h.body_lt l hmem n ((h'.lookup_file_iff hl').mp hfile)) h'.size_le

/-- What differs at some files differs at these and others. -/
theorem DiffersAt.mono (ht : t.Sound) (h : t.DiffersAt t' ls) (hsub : ls ⊆ ls') :
    t.DiffersAt t' ls' where
  workingDir_eq := h.workingDir_eq
  kept l hl := h.kept l fun hmem => hl (hsub hmem)
  body_eq n hn hls := h.body_eq n hn fun l hl => hls l (hsub hl)
  file l _ n hfile := by
    by_cases hn : n < t.bodies.size
    · exact .inl (h.lookup_of_lt hn hfile)
    · exact .inr (Nat.not_lt.mp hn)
  size_le := h.size_le
  body_lt l _ n hfile := by
    by_cases hl : l ∈ ls
    · exact h.body_lt l hl n hfile
    · exact Nat.lt_of_lt_of_le (ht.body_lt ((h.lookup_file_iff hl).mp hfile)) h.size_le

theorem DiffersAt.sound (h : t.DiffersAt t' ls) (ht : t.Sound) (hls : ∀ l ∈ ls, t.EndsWalks l) :
    t'.Sound where
  hasWorkingDir := by
    obtain ⟨mode, children, hd⟩ := ht.hasWorkingDir
    have hw : t.workingDir ∉ ls := fun hw => Bool.noConfusion (hls _ hw _ hd)
    unfold HasWorkingDir
    rw [h.workingDir_eq]
    obtain ⟨hn, _⟩ | ⟨e, e', he, he', hkept⟩ := (h.kept _ hw).cases
    · simp [hd] at hn
    · rw [hd] at he
      cases he
      cases hkept with
      | dir => exact ⟨_, _, he'⟩
      | same => exact ⟨_, _, he'⟩
  body_lt := by
    intro l n hl
    by_cases hmem : l ∈ ls
    · exact h.body_lt l hmem n hl
    · exact Nat.lt_of_lt_of_le (ht.body_lt ((h.lookup_file_iff hmem).mp hl)) h.size_le

/-- The body of a file that is none of the changed ones is as it was. -/
theorem DiffersAt.body?_eq (h : t.DiffersAt t' ls) (ht : t.Sound) (hl : t.lookup l = some (.file n))
    (hls : ∀ k ∈ ls, ¬ t.OneFile l k) : t'.body? n = t.body? n :=
  h.body_eq n (ht.body_lt hl) fun k hk hfile => hls k hk (.inr ⟨n, hl, hfile⟩)

theorem not_mem_of_not_oneFile (hls : ∀ k ∈ ls, ¬ t.OneFile l k) : l ∉ ls :=
  fun hl => hls l hl (.refl t l)

/-- A location holds what it held if it is no name of a changed file. -/
theorem DiffersAt.contentAt?_eq (h : t.DiffersAt t' ls) (ht : t.Sound)
    (hls : ∀ k ∈ ls, ¬ t.OneFile l k) : t'.contentAt? l = t.contentAt? l := by
  have hfile : ∀ n, t'.lookup l = some (.file n) ↔ t.lookup l = some (.file n) :=
    fun n => h.lookup_file_iff (not_mem_of_not_oneFile hls)
  unfold contentAt?
  split
  · rename_i n hn
    simp only [(hfile n).mp hn, h.body?_eq ht ((hfile n).mp hn) hls]
  · rename_i hne
    split
    · rename_i n hn
      exact absurd ((hfile n).mpr hn) (hne n)
    · rfl

/-- A file that is none of the changed ones goes by the same names. -/
theorem DiffersAt.oneFile_iff (h : t.DiffersAt t' ls) (ht : t.Sound)
    (hls : ∀ k ∈ ls, ¬ t.OneFile l k) : t'.OneFile l k ↔ t.OneFile l k := by
  have hl := not_mem_of_not_oneFile hls
  constructor
  · rintro (rfl | ⟨n, hn, hk⟩)
    · exact .refl t l
    · have hn' := (h.lookup_file_iff hl).mp hn
      exact .inr ⟨n, hn', h.lookup_of_lt (ht.body_lt hn') hk⟩
  · rintro (rfl | ⟨n, hn, hk⟩)
    · exact .refl t' l
    · have hk' : k ∉ ls := fun hmem => hls k hmem (.inr ⟨n, hn, hk⟩)
      exact .inr ⟨n, (h.lookup_file_iff hl).mpr hn, (h.lookup_file_iff hk').mpr hk⟩

/-! ### Paths to other files -/

theorem outlet?_eq_some_iff : t.outlet? p = some l ↔
    ∃ entry, t.place true p = .ok ⟨l, entry, false⟩ ∧ entry.any Entry.isDir = false := by
  unfold outlet?
  split
  · rename_i j entry hpl
    rw [hpl]
    by_cases hd : entry.any Entry.isDir = true
    · rw [if_pos hd]
      constructor
      · rintro ⟨⟩
      · rintro ⟨_, ⟨⟩, hd'⟩
        rw [hd] at hd'
        cases hd'
    · rw [if_neg hd]
      constructor
      · rintro ⟨⟩
        exact ⟨entry, rfl, Bool.eq_false_iff.mpr hd⟩
      · rintro ⟨_, ⟨⟩, _⟩
        rfl
  · rename_i hne
    constructor
    · rintro ⟨⟩
    · rintro ⟨entry, hpl, _⟩
      exact absurd hpl (hne l entry)

/-- What stands at an outlet, and what the path leads through. -/
theorem exists_of_outlet? (ht : t.HasWorkingDir) (h : t.outlet? p = some l) :
    t.place true p = .ok ⟨l, t.lookup l, false⟩ ∧ (∀ e, t.lookup l = some e → e.isDir = false) ∧
      t.EndsWalks l ∧ ∀ k ∈ t.passed p, k = l ∨ ∃ e, t.lookup k = some e ∧ e.leadsOn = true := by
  obtain ⟨entry, hpl, hd⟩ := outlet?_eq_some_iff.mp h
  obtain ⟨_, hfollow⟩ := place_eq_ok_iff.mp hpl
  have htreads := (follow_eq_ok_iff.mp hfollow).2.2
  have hstands := ht.stands_outset p
  have hl : t.lookup l = entry := htreads.lookup_eq hstands
  subst hl
  have hdir : ∀ e, t.lookup l = some e → e.isDir = false := by
    intro e he
    rw [he] at hd
    exact hd
  refine ⟨hpl, hdir, ?_, ?_⟩
  · intro e he
    cases e with
    | dir _ _ => exact absurd (hdir _ he) (by simp [Entry.isDir])
    | link target => exact absurd he (htreads.entry_ne_link rfl target)
    | file _ => rfl
    | device _ => rfl
  · intro k hk
    exact htreads.passed_cases rfl (outset_eq t p) hstands hk

/-- Where no walk goes on, nothing is that leads a walk on. -/
theorem EndsWalks.ne (h : t.EndsWalks l) (hk : ∃ e, t.lookup k = some e ∧ e.leadsOn = true) :
    k ≠ l := by
  rintro rfl
  obtain ⟨e, he, hleads⟩ := hk
  rw [h e he] at hleads
  cases hleads

/-- Through a path to one file no other file is passed at which walks end. -/
theorem kept_of_outlet? (ht : t.HasWorkingDir) (h : t.DiffersAt t' ls)
    (hls : ∀ k ∈ ls, t.EndsWalks k) (ho : t.outlet? p = some l) (hl : l ∉ ls) :
    ∀ k ∈ t.passed p, RelAt Entry.Kept t t' k := by
  intro k hk
  apply h.kept
  intro hmem
  obtain rfl | hleads := (exists_of_outlet? ht ho).2.2.2 k hk
  · exact hl hmem
  · exact (hls k hmem).ne hleads rfl

/-- Above what a path leads through there are directories alone, and no file has changed. -/
theorem DiffersAt.kept_of_prefix (ht : t.HasWorkingDir) (h : t.DiffersAt t' ls)
    (hls : ∀ j ∈ ls, t.EndsWalks j) (hk : k ∈ t.passed p) (hkept : RelAt Entry.Kept t t' k)
    (hm : m <+: k) : RelAt Entry.Kept t t' m := by
  obtain rfl | ⟨m', n, rfl⟩ := k.eq_nil_or_concat
  · rwa [List.prefix_nil.mp hm]
  rw [List.concat_eq_append] at hk hkept hm
  obtain rfl | hm := List.prefix_concat_iff.mp hm
  · exact hkept
  obtain ⟨mode, children, hdir⟩ := exists_dir_of_mem_passed ht hk
  rw [List.dropLast_concat] at hdir
  have hleads : ∃ e, t.lookup m = some e ∧ e.leadsOn = true := by
    obtain ⟨rest, rfl⟩ := hm
    by_cases hrest : rest = []
    · subst hrest
      rw [List.append_nil] at hdir
      exact ⟨_, hdir, rfl⟩
    · obtain ⟨_, _, hd⟩ := exists_dir_of_lookup_append hdir hrest
      exact ⟨_, hd, rfl⟩
  exact h.kept m fun hmem => (hls m hmem).ne hleads rfl

/-- A directory is found through directories and links alone. -/
theorem DiffersAt.isDir_eq (ht : t.HasWorkingDir) (h : t.DiffersAt t' ls)
    (hls : ∀ k ∈ ls, t.EndsWalks k) (hd : t.isDir p = true) : t'.isDir p = true := by
  rw [isDir_congr Entry.refines_kept h.workingDir_eq ?_, hd]
  intro k hk
  apply h.kept
  intro hmem
  obtain ⟨j, mode, children, hf⟩ := isDir_iff.mp hd
  obtain ⟨_, pl, hpl, hex⟩ := find_eq_ok_iff.mp hf
  have hloc := (existing_eq_ok_iff.mp hex).1
  have htreads := (follow_eq_ok_iff.mp hpl).2.2
  refine (hls k hmem).ne ?_ rfl
  obtain rfl | hleads := htreads.passed_cases rfl (outset_eq t p) (ht.stands_outset p) hk
  · exact ⟨_, hloc ▸ lookup_of_find ht hf, rfl⟩
  · exact hleads

theorem modeOf_file_of_body?_eq (h : t'.body? n = t.body? n) :
    t'.modeOf (.file n) = t.modeOf (.file n) := by
  rw [modeOf, modeOf, h]

theorem contentOf_file_of_body?_eq (h : t'.body? n = t.body? n) :
    t'.contentOf (.file n) = t.contentOf (.file n) := by
  unfold contentOf
  dsimp only
  rw [modeOf_file_of_body?_eq h, h]

/-- What is read through a path that leads through none of the changed files. -/
theorem DiffersAt.read_eq (ht : t.Sound) (h : t.DiffersAt t' ls)
    (hp : ∀ k ∈ t.passed p, ∀ l ∈ ls, ¬ t.OneFile k l) : t'.read p = t.read p := by
  have hkept : ∀ k ∈ t.passed p, RelAt Entry.Kept t t' k :=
    fun k hk => h.kept k (not_mem_of_not_oneFile (hp k hk))
  unfold read
  obtain ⟨fault, hf, hf'⟩ | ⟨l, e, e', hf, hf', he⟩ :=
    find_congr Entry.refines_kept h.workingDir_eq hkept
  · rw [hf, hf']
    rfl
  · rw [hf, hf']
    cases he with
    | dir => rfl
    | same =>
        cases e with
        | dir _ _ => rfl
        | link _ => rfl
        | device _ => rfl
        | file n =>
            obtain ⟨_, pl, hpl, hex⟩ := find_eq_ok_iff.mp hf
            have hl : l ∈ t.passed p :=
              (existing_eq_ok_iff.mp hex).1 ▸ location_mem_passed hpl
            have hbody := h.body?_eq ht (lookup_of_find ht.hasWorkingDir hf) (hp l hl)
            exact contentOf_file_of_body?_eq hbody

theorem DiffersAt.canonical_eq (ht : t.HasWorkingDir) (h : t.DiffersAt t' ls)
    (hls : ∀ j ∈ ls, t.EndsWalks j) (hp : ∀ k ∈ t.passed p, RelAt Entry.Kept t t' k) :
    t'.canonical p = t.canonical p :=
  canonical_congr Entry.refines_kept h.workingDir_eq fun k hk _ hm =>
    h.kept_of_prefix ht hls hk (hp k hk) hm

/-! ### Files that are as they were -/

theorem SameSpot.symm (h : t.SameSpot t' p l) : t'.SameSpot t p l where
  outlet := h.outlet'
  outlet' := h.outlet
  lookup_eq := h.lookup_eq.symm
  names k := (h.names k).symm
  body_eq n hn := (h.body_eq n (h.lookup_eq ▸ hn)).symm
  mayChange_eq := h.mayChange_eq.symm

theorem SameSpot.trans (h : t.SameSpot t' p l) (h' : t'.SameSpot t'' p l) : t.SameSpot t'' p l where
  outlet := h.outlet
  outlet' := h'.outlet'
  lookup_eq := h'.lookup_eq.trans h.lookup_eq
  names k := (h'.names k).trans (h.names k)
  body_eq n hn := (h'.body_eq n (h.lookup_eq.trans hn)).trans (h.body_eq n hn)
  mayChange_eq := h'.mayChange_eq.trans h.mayChange_eq

/-- When only the file at a spot changes, all others hold what they held. -/
theorem SameSpot.contentAt?_eq (h : t.SameSpot t' p l) (ht' : t'.Sound)
    (hchange : t'.DiffersAt t'' [l]) (hk : ¬ t.OneFile l k) :
    t''.contentAt? k = t'.contentAt? k := by
  apply hchange.contentAt?_eq ht'
  intro j hj hone
  rw [List.mem_singleton.mp hj] at hone
  exact hk ((h.names k).mp hone.symm)

/-- All names of a file that is as it was hold what they held. -/
theorem SameSpot.contentAt?_of_oneFile (h : t.SameSpot t' p l) (hk : t.OneFile l k) :
    t'.contentAt? k = t.contentAt? k := by
  by_cases hl : ∃ n, t.lookup l = some (.file n)
  · obtain ⟨n, hl⟩ := hl
    have hl' : t'.lookup l = some (.file n) := h.lookup_eq.trans hl
    rw [contentAt?, contentAt?, hk.lookup_eq hl, ((h.names k).mpr hk).lookup_eq hl']
    simp only [h.body_eq n hl]
  · obtain rfl := hk.eq_of_ne_file fun n hn => hl ⟨n, hn⟩
    unfold contentAt?
    rw [h.lookup_eq]
    split
    · rename_i n hn
      exact absurd ⟨n, hn⟩ hl
    · rfl

/-- A file stands in a directory, or can be made in one. -/
theorem exists_dir_of_outlet? (ht : t.HasWorkingDir) (h : t.outlet? p = some l) :
    ∃ mode children, t.lookup l.dropLast = some (.dir mode children) := by
  obtain ⟨hpl, hdir, _⟩ := exists_of_outlet? ht h
  cases hl : t.lookup l with
  | none =>
      rw [hl] at hpl
      obtain ⟨_, _, m, n, mode, children, rfl, hd⟩ := exists_dir_of_place_none ht hpl
      rw [List.dropLast_concat]
      exact ⟨mode, children, hd⟩
  | some e =>
      obtain rfl | ⟨m, n, rfl⟩ := l.eq_nil_or_concat
      · -- the root is a directory
        obtain ⟨_, _, hw⟩ := ht
        obtain ⟨mode, children, hroot⟩ := (stands_standpoint hw).exists_root
        have he := hdir e hl
        rw [hroot] at hl
        cases hl
        cases he
      · rw [List.concat_eq_append] at hl ⊢
        rw [List.dropLast_concat]
        exact exists_dir_of_lookup_concat hl

theorem DiffersAt.sameSpot (ht : t.Sound) (h : t.DiffersAt t' ls) (hls : ∀ k ∈ ls, t.EndsWalks k)
    (ho : t.outlet? p = some l) (hl : ∀ k ∈ ls, ¬ t.OneFile l k) : t.SameSpot t' p l := by
  have hmem := not_mem_of_not_oneFile hl
  obtain ⟨hpl, hdir, _⟩ := exists_of_outlet? ht.hasWorkingDir ho
  have hlookup : t'.lookup l = t.lookup l := by
    obtain ⟨hn, hn'⟩ | ⟨e, e', he, he', hkept⟩ := (h.kept l hmem).cases
    · rw [hn, hn']
    · rw [he, he', hkept.eq_of_not_isDir (.inl (hdir e he))]
  refine ⟨ho, ?_, hlookup, fun k => h.oneFile_iff ht hl, fun n hn => h.body?_eq ht hn hl, ?_⟩
  · have halike := place_congr Entry.refines_kept h.workingDir_eq
      (kept_of_outlet? ht.hasWorkingDir h hls ho hmem) true
    rw [hpl] at halike
    generalize hpl' : t'.place true p = x at halike
    cases halike with
    | @ok _ _ entry' _ hrel =>
        refine outlet?_eq_some_iff.mpr ⟨entry', hpl', ?_⟩
        generalize hentry : t.lookup l = entry at hrel
        cases hrel with
        | none => rfl
        | some hkept =>
            have hd := hdir _ hentry
            rw [hkept.eq_of_not_isDir (.inl hd)]
            exact hd
  · obtain ⟨mode, children, hd⟩ := exists_dir_of_outlet? ht.hasWorkingDir ho
    have hmem' : l.dropLast ∉ ls := fun hmem' => Bool.noConfusion (hls _ hmem' _ hd)
    obtain ⟨hn, _⟩ | ⟨e, e', he, he', hkept⟩ := (h.kept _ hmem').cases
    · simp [hd] at hn
    · rw [hd] at he
      cases he
      unfold mayChange
      rw [hd, he']
      cases hkept with
      | dir => rfl
      | same => rfl

/-! ### Writing a file -/

/-- A tree that extends another differs from it where something is new. -/
theorem Extends.kept (hx : t.Extends t') (hnone : t.lookup l = none → t'.lookup l = none) :
    RelAt Entry.Kept t t' l := by
  unfold RelAt
  cases hl : t.lookup l with
  | none =>
      rw [hnone hl]
      exact .none
  | some e =>
      by_cases hd : e.isDir = true
      · obtain ⟨mode, children, rfl⟩ := Entry.isDir_iff.mp hd
        obtain ⟨children', hl'⟩ := hx.dir hl
        rw [hl']
        exact .some .dir
      · rw [hx.other hl (Bool.eq_false_iff.mpr hd)]
        exact .some .same

/-- How a file is written where a path leads to one. -/
inductive Writes (t : FileTree) (p : Path) (content : ByteArray) (l : Location) (u : FileTree) :
    Prop
  | made : t.lookup l = none → t.Written p content l t.bodies.size u →
      u.body? t.bodies.size = some ⟨content, .plain, t.clock⟩ →
      u.bodies.size = t.bodies.size + 1 → (∀ k, k ≠ l → t.lookup k = none → u.lookup k = none) →
      Writes t p content l u
  | filled {n : ℕ} {b : FileBody} : t.lookup l = some (.file n) → t.Written p content l n u →
      t.body? n = some b → u.body? n = some { b with content, modified := t.clock } →
      u.bodies.size = t.bodies.size → (∀ k, u.lookup k = t.lookup k) → Writes t p content l u
  | dropped {d : Device} : t.lookup l = some (.device d) → t.find p = .ok (l, .device d) → u = t →
      Writes t p content l u

theorem writes_of_write (ht : t.Sound) (ho : t.outlet? p = some l) {u : FileTree}
    (h : t.write p content = .ok u) : t.Writes p content l u := by
  have hw := ht.hasWorkingDir
  obtain ⟨hpl, _⟩ := exists_of_outlet? hw ho
  obtain ⟨l', hpl', rfl⟩ | ⟨l', n, hf, rfl⟩ | ⟨l', d, hf, hu⟩ := write_cases h
  · rw [hpl] at hpl'
    obtain ⟨rfl, hnone⟩ : l = l' ∧ t.lookup l = none := by simpa using hpl'
    rw [hnone] at hpl
    obtain ⟨_, _, m, k, mode, children, rfl, hd⟩ := exists_dir_of_place_none hw hpl
    refine .made hnone (written_setFile ht hpl content .plain) ?_ ?_ ?_
    · rw [setFile_eq, body?, set_bodies]
      exact Array.getElem?_push_size
    · rw [setFile_eq, set_bodies]
      exact Array.size_push _
    · intro j hj hnone'
      by_contra hne
      obtain ⟨e, he⟩ := Option.ne_none_iff_exists'.mp hne
      have hd' : (t.addBody content .plain).2.lookup m = some (.dir mode children) := hd
      obtain ⟨rfl, _⟩ | hj' | ⟨_, hj'⟩ := lookup_set_eq_some hd' rfl he
      · exact hj rfl
      · have hold : t.lookup j = some e := hj'
        rw [hnone'] at hold
        cases hold
      · exact hj' hnone'
  · have hpl' := place_of_find hf rfl
    rw [hpl] at hpl'
    obtain ⟨rfl, hl⟩ : l = l' ∧ t.lookup l = some (.file n) := by simpa using hpl'
    have hn := ht.body_lt hl
    have hbody : t.body? n = some t.bodies[n] := Array.getElem?_eq_getElem hn
    refine .filled hl (written_setContent ht hf content) hbody ?_ ?_ ?_
    · rw [setContent, body?_alterBody, if_pos rfl, hbody, Option.map_some]
    · simp only [setContent, alterBody, hbody, Array.size_setIfInBounds]
    · exact fun k => lookup_alterBody t n _ k
  · have hpl' := place_of_find hf rfl
    rw [hpl] at hpl'
    obtain ⟨rfl, hl⟩ : l = l' ∧ t.lookup l = some (.device d) := by simpa using hpl'
    exact .dropped hl hf hu

/-- Writing a file changes that file only. -/
theorem differsAt_of_write (ht : t.Sound) (ho : t.outlet? p = some l) {u : FileTree}
    (h : t.write p content = .ok u) : t.DiffersAt u [l] := by
  cases writes_of_write ht ho h with
  | made hnone hwritten _ hsize hnew =>
      refine ⟨hwritten.workingDir_eq, ?_, ?_, ?_, by omega, ?_⟩
      · intro k hk
        exact hwritten.toExtends.kept fun hk' => hnew k (by simpa using hk) hk'
      · exact fun n hn _ => hwritten.body_eq n (Nat.ne_of_lt hn)
      · intro k _ n hn
        obtain hn | ⟨_, rfl⟩ := hwritten.lookup_file hn
        · exact .inl hn
        · exact .inr (le_refl _)
      · intro k _ n hn
        obtain hn | ⟨_, rfl⟩ := hwritten.lookup_file hn
        · have := ht.body_lt hn
          omega
        · omega
  | filled hl hwritten _ _ hsize hlookup =>
      refine ⟨hwritten.workingDir_eq, ?_, ?_, ?_, by omega, ?_⟩
      · intro k _
        exact hwritten.toExtends.kept fun hk => (hlookup k).trans hk
      · intro n _ hn
        apply hwritten.body_eq
        rintro rfl
        exact hn l (List.mem_singleton_self l) hl
      · exact fun k _ n hn => .inl ((hlookup k).symm.trans hn)
      · intro k _ n hn
        rw [hsize]
        exact ht.body_lt ((hlookup k).symm.trans hn)
  | dropped _ _ hu =>
      subst hu
      exact .refl ht [l]

/-- What the names of a file hold after it was written. -/
theorem contentAt?_of_write (ht : t.Sound) (ho : t.outlet? p = some l) {u : FileTree}
    (h : t.write p content = .ok u) (hk : t.OneFile l k) :
    u.contentAt? k = if (t.lookup l).any Entry.isDevice then none else some content := by
  cases writes_of_write ht ho h with
  | made hnone hwritten _ _ _ =>
      obtain rfl := hk.eq_of_ne_file fun n hn => by simp [hnone] at hn
      rw [hwritten.contentAt?_self ht.hasWorkingDir, hnone]
      rfl
  | filled hl hwritten _ hbody _ hlookup =>
      rw [contentAt?, hlookup, hk.lookup_eq hl, hl]
      simp [hbody, Entry.isDevice]
  | dropped hl _ hu =>
      subst hu
      obtain rfl := hk.eq_of_ne_file fun n hn => by simp [hl] at hn
      simp [contentAt?, hl, Entry.isDevice]

/-- What is read from a file after it was written. -/
theorem read_of_write (ht : t.Sound) (ho : t.outlet? p = some l) {u : FileTree}
    (h : t.write p content = .ok u) :
    u.read p = if (t.lookup l).any Entry.isDevice then .ok .empty
      else if (t.lookup l).all fun e => (t.modeOf e).mayRead then .ok content
      else .error .accessDenied := by
  unfold read
  cases writes_of_write ht ho h with
  | made hnone hwritten hbody _ _ =>
      have hmode : u.modeOf (.file t.bodies.size) = .plain := by
        rw [modeOf, hbody]
        rfl
      have hread : Mode.plain.mayRead = true := by decide
      rw [hwritten.find_eq, hnone]
      simp [Except.bind, contentOf, hmode, hread, hbody]
  | @filled n b hl hwritten hb hbody _ _ =>
      have hmode : u.modeOf (.file n) = t.modeOf (.file n) := by
        rw [modeOf, modeOf, hb, hbody]
        rfl
      rw [hwritten.find_eq, hl]
      cases hread : (t.modeOf (.file n)).mayRead with
      | true => simp [Except.bind, contentOf, hmode, hread, hbody, Entry.isDevice]
      | false => simp [Except.bind, contentOf, hmode, hread, Entry.isDevice]
  | @dropped d hl hf hu =>
      subst hu
      have hread : (u.modeOf (.device d)).mayRead = true := by
        show (Mode.mk 0o666).mayRead = true
        decide
      rw [hf, hl]
      simp [Except.bind, contentOf, hread, Entry.isDevice]

/-- A write does the same where the file is the same. -/
theorem SameSpot.write (h : t.SameSpot t' p l) (ht : t.Sound) (ht' : t'.Sound)
    (content : ByteArray) :
    (∃ cause, t.write p content = .error cause ∧ t'.write p content = .error cause) ∨
      ∃ u u', t.write p content = .ok u ∧ t'.write p content = .ok u' ∧
        t.DiffersAt u [l] ∧ t'.DiffersAt u' [l] ∧ u'.read p = u.read p ∧
        ∀ k, t.OneFile l k → u'.contentAt? k = u.contentAt? k := by
  have hmode : ∀ e, t.lookup l = some e → e.isDir = false → t'.modeOf e = t.modeOf e := by
    intro e he hd
    cases e with
    | dir _ _ => cases hd
    | file n => exact modeOf_file_of_body?_eq (h.body_eq n he)
    | link _ => rfl
    | device _ => rfl
  obtain ⟨hpl, hdir, _⟩ := exists_of_outlet? ht.hasWorkingDir h.outlet
  obtain ⟨hpl', _⟩ := exists_of_outlet? ht'.hasWorkingDir h.outlet'
  rw [h.lookup_eq] at hpl'
  have houtcome : (∃ cause, t.write p content = .error cause ∧
      t'.write p content = .error cause) ∨
        ∃ u u', t.write p content = .ok u ∧ t'.write p content = .ok u' := by
    unfold FileTree.write FileTree.writeAs
    rw [hpl, hpl']
    cases hl : t.lookup l with
    | none =>
        dsimp only
        rw [h.mayChange_eq]
        split
        · exact .inr ⟨_, _, rfl, rfl⟩
        · exact .inl ⟨_, rfl, rfl⟩
    | some e =>
        cases e with
        | dir _ _ => exact absurd (hdir _ hl) (by simp [Entry.isDir])
        | file n =>
            dsimp only
            rw [hmode _ hl rfl]
            split
            · exact .inr ⟨_, _, rfl, rfl⟩
            · exact .inl ⟨_, rfl, rfl⟩
        | link _ => exact .inl ⟨_, rfl, rfl⟩
        | device _ => exact .inr ⟨_, _, rfl, rfl⟩
  obtain hfault | ⟨u, u', hu, hu'⟩ := houtcome
  · exact .inl hfault
  · refine .inr ⟨u, u', hu, hu', differsAt_of_write ht h.outlet hu,
      differsAt_of_write ht' h.outlet' hu', ?_, ?_⟩
    · rw [read_of_write ht h.outlet hu, read_of_write ht' h.outlet' hu', h.lookup_eq]
      cases hl : t.lookup l with
      | none => rfl
      | some e => simp only [Option.any_some, Option.all_some, hmode e hl (hdir e hl)]
    · intro k hk
      rw [contentAt?_of_write ht h.outlet hu hk,
        contentAt?_of_write ht' h.outlet' hu' ((h.names k).mpr hk), h.lookup_eq]

end

end FileTree

end ShaderBuild
