import Mathlib.Data.List.Nodup
import ShaderBuild.Proofs.FileTree.Walking

/-! # Plain file trees

In a sound tree the working directory exists and every regular file has a body.  A plain tree holds
no device besides, and no two names of one file.  `isPlain` decides whether a tree is plain
(`plain_of_isPlain`): it reads the entries of the tree once.

`nested` and `longName` make trees that are deep enough for paths to be too long. -/

namespace ShaderBuild

namespace Entry

/-! ### All entries -/

mutual

/-- An entry and all that stands below it. -/
def all : Entry → List Entry
  | .dir mode children => .dir mode children :: allIn children
  | .file n => [.file n]
  | .link target => [.link target]
  | .device d => [.device d]

/-- The entries of a directory and all that stands below them. -/
def allIn : List (Bytes × Entry) → List Entry
  | [] => []
  | (_, e) :: rest => e.all ++ allIn rest

end

/-- The number of the body of a regular file. -/
def number? : Entry → Option ℕ
  | .file n => some n
  | _ => none

/-- Whether an entry is a device. -/
def isDevice : Entry → Bool
  | .device _ => true
  | _ => false

/-- The numbers of the bodies of all regular files, one for each name of a file. -/
def numbers (e : Entry) : List ℕ :=
  e.all.filterMap number?

section
variable {e e' : Entry} {mode : Mode} {children : Directory} {n m : Bytes} {c d : Entry}
  {b : ℕ} {l : Location}

theorem mem_all_self (e : Entry) : e ∈ e.all := by
  cases e <;> simp [all]

theorem all_sublist_allIn (h : children.lookup n = some c) : c.all.Sublist (allIn children) := by
  induction children with
  | nil => cases h
  | cons x children ih =>
      obtain ⟨k, d⟩ := x
      rw [allIn]
      rw [List.lookup_cons] at h
      split at h
      · cases h
        exact List.sublist_append_left _ _
      · exact (ih h).trans (List.sublist_append_right _ _)

/-- What is found below an entry is among all that stands below it. -/
theorem mem_all_of_find? (h : e.find? l = some e') : e' ∈ e.all := by
  induction l generalizing e with
  | nil =>
      cases h
      exact mem_all_self _
  | cons n l ih =>
      obtain ⟨c, hc, hl⟩ := Option.bind_eq_some_iff.mp h
      cases e with
      | dir mode children =>
          rw [all]
          exact List.mem_cons_of_mem _ ((all_sublist_allIn hc).mem (ih hl))
      | file _ => cases hc
      | link _ => cases hc
      | device _ => cases hc

theorem mem_numbers_of_find? (h : e.find? l = some (.file b)) : b ∈ e.numbers :=
  List.mem_filterMap.mpr ⟨_, mem_all_of_find? h, rfl⟩

theorem numbers_dir (mode : Mode) (children : Directory) :
    (Entry.dir mode children).numbers = (allIn children).filterMap number? := by
  rw [numbers, all, List.filterMap_cons_none rfl]

theorem numbers_sublist (h : children.lookup n = some c) :
    c.numbers.Sublist ((allIn children).filterMap number?) :=
  (all_sublist_allIn h).filterMap _

/-- Entries under different names share no body, if no body is there twice. -/
theorem disjoint_numbers (h : ((allIn children).filterMap number?).Nodup)
    (hc : children.lookup n = some c) (hd : children.lookup m = some d) (hnm : n ≠ m) :
    c.numbers.Disjoint d.numbers := by
  induction children with
  | nil => cases hc
  | cons x children ih =>
      obtain ⟨k, e⟩ := x
      rw [allIn, List.filterMap_append, List.nodup_append'] at h
      obtain ⟨_, hrest, hdisjoint⟩ := h
      have hdisjoint' : ∀ {m d}, children.lookup m = some d → e.numbers.Disjoint d.numbers :=
        fun hd _ hb hb' => hdisjoint hb ((numbers_sublist hd).subset hb')
      rw [List.lookup_cons] at hc hd
      by_cases hn : n = k
      · have hm : (m == k) = false := beq_eq_false_iff_ne.mpr fun h => hnm (hn.trans h.symm)
        rw [hn, beq_self_eq_true] at hc
        rw [hm] at hd
        cases hc
        exact hdisjoint' hd
      · rw [beq_eq_false_iff_ne.mpr hn] at hc
        by_cases hm : m = k
        · rw [hm, beq_self_eq_true] at hd
          cases hd
          exact List.disjoint_comm.mp (hdisjoint' hc)
        · rw [beq_eq_false_iff_ne.mpr hm] at hd
          exact ih hrest hc hd

/-- A body is found under one name, if no body is there twice. -/
theorem eq_of_find? {l m : Location} (h : e.numbers.Nodup) (hl : e.find? l = some (.file b))
    (hm : e.find? m = some (.file b)) : l = m := by
  induction l generalizing e m with
  | nil =>
      cases hl
      by_contra hne
      rw [find?_of_not_isDir rfl (Ne.symm hne)] at hm
      cases hm
  | cons n l ih =>
      cases m with
      | nil =>
          cases hm
          cases hl
      | cons k m =>
          obtain ⟨c, hc, hcl⟩ := Option.bind_eq_some_iff.mp hl
          obtain ⟨d, hd, hdm⟩ := Option.bind_eq_some_iff.mp hm
          cases e with
          | dir mode children =>
              rw [numbers_dir] at h
              by_cases hnk : n = k
              · subst hnk
                have hcd : c = d := Option.some.inj (hc.symm.trans hd)
                subst hcd
                rw [ih (h.sublist (numbers_sublist hc)) hcl hdm]
              · exact absurd (mem_numbers_of_find? hdm)
                  (disjoint_numbers h hc hd hnk (mem_numbers_of_find? hcl))
          | file _ => cases hc
          | link _ => cases hc
          | device _ => cases hc

end

end Entry

namespace FileTree

/-- A tree with a working directory, and with a body for every regular file. -/
structure Sound (t : FileTree) : Prop where
  hasWorkingDir : t.HasWorkingDir
  body_lt : ∀ {l n}, t.lookup l = some (.file n) → n < t.bodies.size

/-- A sound tree of directories, links and regular files of one name each. -/
structure Plain (t : FileTree) : Prop extends t.Sound where
  not_device : ∀ l d, t.lookup l ≠ some (.device d)
  eq_of_body : ∀ {l m n}, t.lookup l = some (.file n) → t.lookup m = some (.file n) → l = m

/-- Whether a tree is plain. -/
def isPlain (t : FileTree) : Bool :=
  (t.lookup t.workingDir).any Entry.isDir && t.root.all.all (fun e => !e.isDevice)
    && t.root.numbers.all (· < t.bodies.size) && decide t.root.numbers.Nodup

theorem plain_of_isPlain {t : FileTree} (h : t.isPlain = true) : t.Plain := by
  simp only [isPlain, Bool.and_eq_true, Option.any_eq_true, List.all_eq_true,
    decide_eq_true_eq] at h
  obtain ⟨⟨⟨⟨e, he, hd⟩, hdevice⟩, hbody⟩, hnodup⟩ := h
  obtain ⟨mode, children, rfl⟩ := Entry.isDir_iff.mp hd
  constructor
  · exact ⟨⟨mode, children, he⟩, fun hl => hbody _ (Entry.mem_numbers_of_find? hl)⟩
  · intro l d hl
    simpa [Entry.isDevice] using hdevice _ (Entry.mem_all_of_find? hl)
  · exact fun hl hm => Entry.eq_of_find? hnodup hl hm

/-! ### Deep trees -/

/-- Directories in one another under these names, with an entry in the innermost. -/
def nested : List String → Entry → Entry
  | [], e => e
  | n :: ns, e => directory [(n, nested ns e)]

/-- A name as long as names may be. -/
def longName (c : Char) : String :=
  String.ofList (List.replicate nameLimit c)

end FileTree

end ShaderBuild
