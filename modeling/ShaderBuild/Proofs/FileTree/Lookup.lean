import Mathlib.Data.List.Infix
import ShaderBuild.FileTree.Access

/-! # Where things stand in a file tree

A location is looked up name by name (`lookup_concat`), so what stands below a location that holds
something is below a directory (`exists_dir_of_lookup_concat`).  A tree into which an entry is put
(`FileTree.set`) holds that entry at its location, the same directories above it, and everywhere
else what it held before (`lookup_set_cases`). -/

namespace ShaderBuild

namespace Entry

theorem isDir_iff {e : Entry} : e.isDir = true ↔ ∃ mode children, e = .dir mode children := by
  cases e with
  | dir mode children => simp [isDir]
  | file _ => simp [isDir]
  | link _ => simp [isDir]
  | device _ => simp [isDir]

theorem find?_append (l m : Location) (e : Entry) :
    e.find? (l ++ m) = (e.find? l).bind fun x => x.find? m := by
  induction l generalizing e with
  | nil => rfl
  | cons n l ih =>
      simp only [List.cons_append, find?, Option.bind_assoc]
      congr 1
      funext child
      exact ih child

theorem find?_of_not_isDir {e : Entry} (h : e.isDir = false) {l : Location} (hl : l ≠ []) :
    e.find? l = none := by
  cases l with
  | nil => exact absurd rfl hl
  | cons n l =>
      cases e with
      | dir mode children => cases h
      | file _ => rfl
      | link _ => rfl
      | device _ => rfl

/-- A location may be reached if every directory above it may be searched. -/
theorem mayReach_iff {e : Entry} {l : Location} : e.mayReach l = true ↔
    ∀ m n mode children, m ++ [n] <+: l → e.find? m = some (.dir mode children) →
      mode.mayExecute = true := by
  induction l generalizing e with
  | nil => simp [mayReach]
  | cons k l ih =>
      cases e with
      | dir mode children =>
          rw [mayReach, Bool.and_eq_true, Option.all_eq_true]
          simp only [ih]
          constructor
          · rintro ⟨hmode, hrest⟩ m n mode' children' hm hfind
            cases m with
            | nil =>
                cases hfind
                exact hmode
            | cons j m =>
                rw [List.cons_append, List.cons_prefix_cons] at hm
                obtain ⟨rfl, hm⟩ := hm
                obtain ⟨child, hchild, hfind⟩ := Option.bind_eq_some_iff.mp hfind
                exact hrest child hchild m n mode' children' hm hfind
          · intro h
            refine ⟨h [] k mode children (by simp) rfl, ?_⟩
            intro child hchild m n mode' children' hm hfind
            refine h (k :: m) n mode' children' ?_ ?_
            · rwa [List.cons_append, List.cons_prefix_cons, and_iff_right rfl]
            · exact Option.bind_eq_some_iff.mpr ⟨child, hchild, hfind⟩
      | file _ => exact iff_of_true rfl fun m n mode children _ h => by cases m <;> cases h
      | link _ => exact iff_of_true rfl fun m n mode children _ h => by cases m <;> cases h
      | device _ => exact iff_of_true rfl fun m n mode children _ h => by cases m <;> cases h

/-- What stands on the way to a changed entry holds the change. -/
theorem find?_alter_append (f : Entry → Entry) (l m : Location) (e : Entry) :
    (e.alter f (m ++ l)).find? m = (e.find? m).map (alter f l) := by
  induction m generalizing e with
  | nil => rfl
  | cons n m ih =>
      cases e with
      | dir mode children =>
          rw [List.cons_append, alter]
          cases hc : children.lookup n with
          | none => simp [find?, Entry.children, hc]
          | some child =>
              simp only [find?, Entry.children, Directory.lookup_insert, if_true, hc,
                Option.bind_some]
              exact ih child
      | file _ => rfl
      | link _ => rfl
      | device _ => rfl

/-- Putting an entry somewhere into a directory leaves the directory with its mode. -/
theorem exists_alter_insert_eq_dir (l : Location) (n : Bytes) (e : Entry) (mode : Mode)
    (children : Directory) :
    ∃ children', (Entry.dir mode children).alter (mapChildren fun d => d.insert n e) l =
      .dir mode children' := by
  cases l with
  | nil => exact ⟨_, rfl⟩
  | cons k l =>
      rw [alter]
      cases children.lookup k with
      | none => exact ⟨_, rfl⟩
      | some child => exact ⟨_, rfl⟩

end Entry

namespace FileTree

variable {t : FileTree} {l m : Location} {n : Bytes} {e : Entry} {mode : Mode}
  {children : Directory}

/-! ### Looking up -/

/-- What the regular file at a location holds, if one stands there. -/
def contentAt? (t : FileTree) (l : Location) : Option ByteArray :=
  match t.lookup l with
  | some (.file n) => (t.body? n).map FileBody.content
  | _ => none

theorem lookup_append (t : FileTree) (l m : Location) :
    t.lookup (l ++ m) = (t.lookup l).bind fun e => e.find? m :=
  Entry.find?_append l m t.root

/-- A name is looked up in the directory before it. -/
theorem lookup_concat (h : t.lookup l = some (.dir mode children)) (n : Bytes) :
    t.lookup (l ++ [n]) = children.lookup n := by
  rw [lookup_append, h, Option.bind_some]
  simp [Entry.find?, Entry.children]

/-- What stands at a name stands in a directory. -/
theorem exists_dir_of_lookup_concat (h : t.lookup (l ++ [n]) = some e) :
    ∃ mode children, t.lookup l = some (.dir mode children) := by
  rw [lookup_append] at h
  obtain ⟨d, hd, h⟩ := Option.bind_eq_some_iff.mp h
  cases d with
  | dir mode children => exact ⟨mode, children, hd⟩
  | file _ => cases h
  | link _ => cases h
  | device _ => cases h

/-- Above an entry there is a directory. -/
theorem exists_dir_of_lookup_append (h : t.lookup (l ++ m) = some e) (hm : m ≠ []) :
    ∃ mode children, t.lookup l = some (.dir mode children) := by
  cases m with
  | nil => exact absurd rfl hm
  | cons n m =>
      rw [← List.singleton_append, ← List.append_assoc, lookup_append] at h
      obtain ⟨d, hd, _⟩ := Option.bind_eq_some_iff.mp h
      exact exists_dir_of_lookup_concat hd

theorem lookup_append_of_none (h : t.lookup l = none) (m : Location) :
    t.lookup (l ++ m) = none := by
  rw [lookup_append, h, Option.bind_none]

/-! ### Putting an entry somewhere -/

theorem set_concat (t : FileTree) (l : Location) (n : Bytes) (e : Entry) :
    t.set (l ++ [n]) e =
      { t with root := t.root.alter (Entry.mapChildren fun d => d.insert n e) l } := by
  simp [set]

@[simp] theorem set_bodies (t : FileTree) (l : Location) (e : Entry) :
    (t.set l e).bodies = t.bodies := by
  unfold set
  cases l.getLast? <;> rfl

@[simp] theorem set_workingDir (t : FileTree) (l : Location) (e : Entry) :
    (t.set l e).workingDir = t.workingDir := by
  unfold set
  cases l.getLast? <;> rfl

/-- The entry stands where it was put. -/
theorem lookup_set_self (h : t.lookup l = some (.dir mode children)) (n : Bytes) (e : Entry) :
    (t.set (l ++ [n]) e).lookup (l ++ [n]) = some e := by
  have hd := Entry.find?_alter (Entry.mapChildren fun d => d.insert n e) l t.root _ h
  rw [set_concat, lookup, Entry.find?_append, hd, Option.bind_some]
  simp [Entry.mapChildren, Entry.find?, Entry.children, Directory.lookup_insert]

/-- Where a location stands to the one at which an entry was put. -/
inductive SetView (t : FileTree) (l : Location) (n : Bytes) (e : Entry) (m : Location) : Prop
  /-- It is that location or below it. -/
  | below {k : Location} : m = l ++ [n] ++ k →
      (t.set (l ++ [n]) e).lookup m = e.find? k → SetView t l n e m
  /-- It is a directory above it. -/
  | above {mode : Mode} {children children' : Directory} : t.lookup m = some (.dir mode children) →
      (t.set (l ++ [n]) e).lookup m = some (.dir mode children') → SetView t l n e m
  /-- It holds what it held. -/
  | beside : ¬ l ++ [n] <+: m → (t.set (l ++ [n]) e).lookup m = t.lookup m → SetView t l n e m

theorem lookup_set_cases (h : t.lookup l = some (.dir mode children)) (n : Bytes) (e : Entry)
    (m : Location) : SetView t l n e m := by
  by_cases hbelow : l ++ [n] <+: m
  · obtain ⟨k, rfl⟩ := hbelow
    refine .below rfl ?_
    rw [lookup_append, lookup_set_self h, Option.bind_some]
  · by_cases habove : m <+: l
    · obtain ⟨k, rfl⟩ := habove
      have hdir : ∃ mode' children', t.lookup m = some (.dir mode' children') := by
        by_cases hk : k = []
        · subst hk
          rw [List.append_nil] at h
          exact ⟨mode, children, h⟩
        · exact exists_dir_of_lookup_append h hk
      obtain ⟨mode', children', hm⟩ := hdir
      obtain ⟨children'', halter⟩ := Entry.exists_alter_insert_eq_dir k n e mode' children'
      have hset : (t.set (m ++ k ++ [n]) e).lookup m = some (.dir mode' children'') := by
        unfold lookup at hm
        rw [set_concat, lookup, Entry.find?_alter_append, hm, Option.map_some, halter]
      exact .above hm hset
    · refine .beside hbelow ?_
      by_cases hl : l <+: m
      · obtain ⟨r, rfl⟩ := hl
        cases r with
        | nil => simp at habove
        | cons k r =>
            -- another name in the same directory
            have hk : k ≠ n := by
              rintro rfl
              exact hbelow ⟨r, by simp⟩
            have hd := Entry.find?_alter (Entry.mapChildren fun d => d.insert n e) l t.root _ h
            rw [lookup_append t, h, Option.bind_some, set_concat, lookup, Entry.find?_append, hd,
              Option.bind_some]
            simp [Entry.mapChildren, Entry.find?, Entry.children, Directory.lookup_insert, hk]
      · rw [set_concat]
        exact Entry.find?_alter_of_not_isPrefix _ _ _ _ hl habove

end FileTree

end ShaderBuild
