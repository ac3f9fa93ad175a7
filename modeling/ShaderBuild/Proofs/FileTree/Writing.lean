import ShaderBuild.Proofs.FileTree.Growth
import ShaderBuild.Proofs.FileTree.Plain

/-! # Making directories and writing files

Making directories adds directories and changes nothing else (`makeDirs_dirsAdded`).  Writing a file
gives one body its content and every other body keeps its own (`exists_written`); in a plain tree no
other file changes (`Written.contentAt?_eq`). -/

namespace ShaderBuild

namespace FileTree

section
variable {t t' : FileTree} {l m : Location} {n : Bytes} {e e' : Entry} {mode : Mode}
  {children : Directory}

/-! ### Putting an entry where none is -/

theorem extends_set (hd : t.lookup l = some (.dir mode children))
    (hn : t.lookup (l ++ [n]) = none) (e : Entry) : t.Extends (t.set (l ++ [n]) e) := by
  have hbelow : ∀ {m k}, m = l ++ [n] ++ k → t.lookup m = none := by
    rintro _ k rfl
    exact lookup_append_of_none hn k
  refine ⟨set_workingDir _ _ _, ?_, ?_⟩
  · intro m mode' children' hm
    cases lookup_set_cases hd n e m with
    | below hk _ => simp [hbelow hk] at hm
    | above hm' hset =>
        rw [hm'] at hm
        cases hm
        exact ⟨_, hset⟩
    | beside _ hset => exact ⟨_, hset.trans hm⟩
  · intro m e' hm he'
    cases lookup_set_cases hd n e m with
    | below hk _ => simp [hbelow hk] at hm
    | above hm' _ =>
        rw [hm'] at hm
        cases hm
        cases he'
    | beside _ hset => exact hset.trans hm

/-- What stands somewhere after an entry without entries was put is that entry, or stood there, or
is a directory above. -/
theorem lookup_set_eq_some (hd : t.lookup l = some (.dir mode children)) (he : e.children = [])
    (h : (t.set (l ++ [n]) e).lookup m = some e') :
    (m = l ++ [n] ∧ e' = e) ∨ t.lookup m = some e' ∨ (e'.isDir = true ∧ t.lookup m ≠ none) := by
  cases lookup_set_cases hd n e m with
  | @below k hk hset =>
      left
      rw [hset] at h
      cases k with
      | nil =>
          cases h
          exact ⟨by simpa using hk, rfl⟩
      | cons k ks => simp [Entry.find?, he] at h
  | above hm hset =>
      rw [hset] at h
      cases h
      exact .inr (.inr ⟨rfl, by simp [hm]⟩)
  | beside _ hset => exact .inr (.inl (hset.symm.trans h))

end

/-! ### Making directories -/

/-- `t'` is `t` with directories added. -/
structure DirsAdded (t t' : FileTree) : Prop extends t.Extends t' where
  bodies_eq : t'.bodies = t.bodies
  isDir_of_none : ∀ {l e}, t.lookup l = none → t'.lookup l = some e → e.isDir = true

section
variable {t t' t'' : FileTree} {l m : Location} {n : ℕ} {p : Path} {ps : List Path}

theorem DirsAdded.refl (t : FileTree) : t.DirsAdded t :=
  ⟨.refl t, rfl, fun hnone h => by simp [hnone] at h⟩

theorem DirsAdded.trans (h : t.DirsAdded t') (h' : t'.DirsAdded t'') : t.DirsAdded t'' := by
  refine ⟨h.toExtends.trans h'.toExtends, h'.bodies_eq.trans h.bodies_eq, ?_⟩
  intro l e hnone he
  cases hl : t'.lookup l with
  | none => exact h'.isDir_of_none hl he
  | some d =>
      obtain ⟨mode, children, rfl⟩ := Entry.isDir_iff.mp (h.isDir_of_none hnone hl)
      obtain ⟨children', hd⟩ := h'.dir hl
      rw [hd] at he
      cases he
      rfl

/-- No entry but a directory is new. -/
theorem DirsAdded.lookup_eq_some (h : t.DirsAdded t') {e : Entry} (hl : t'.lookup l = some e)
    (he : e.isDir = false) : t.lookup l = some e := by
  cases hl' : t.lookup l with
  | none =>
      rw [h.isDir_of_none hl' hl] at he
      cases he
  | some d =>
      by_cases hd : d.isDir = true
      · obtain ⟨mode, children, rfl⟩ := Entry.isDir_iff.mp hd
        obtain ⟨children', hl''⟩ := h.dir hl'
        rw [hl] at hl''
        cases hl''
        cases he
      · rw [h.other hl' (Bool.eq_false_iff.mpr hd)] at hl
        exact hl

theorem DirsAdded.body?_eq (h : t.DirsAdded t') (n : ℕ) : t'.body? n = t.body? n := by
  unfold body?
  rw [h.bodies_eq]

theorem DirsAdded.sound (h : t.DirsAdded t') (ht : t.Sound) : t'.Sound := by
  refine ⟨h.hasWorkingDir ht.hasWorkingDir, ?_⟩
  intro l n hl
  rw [h.bodies_eq]
  exact ht.body_lt (h.lookup_eq_some hl rfl)

theorem DirsAdded.plain (h : t.DirsAdded t') (ht : t.Plain) : t'.Plain where
  toSound := h.sound ht.toSound
  not_device l d hl := ht.not_device l d (h.lookup_eq_some hl rfl)
  eq_of_body hl hm := ht.eq_of_body (h.lookup_eq_some hl rfl) (h.lookup_eq_some hm rfl)

/-- Added directories change no file. -/
theorem DirsAdded.contentAt?_eq (h : t.DirsAdded t') (l : Location) :
    t'.contentAt? l = t.contentAt? l := by
  unfold contentAt?
  split
  · rename_i hl
    rw [h.lookup_eq_some hl rfl]
    simp only [h.body?_eq]
  · rename_i hl
    split
    · rename_i n hl'
      exact absurd (h.other hl' rfl) (hl n)
    · rfl

theorem makeDir_dirsAdded (hw : t.HasWorkingDir) (h : t.makeDir p = .ok t') :
    t.DirsAdded t' ∧ t'.isDir p = true := by
  unfold makeDir makeDirAs at h
  cases hpl : t.place false p with
  | error fault => simp [hpl] at h
  | ok pl =>
      obtain ⟨l, entry, slashed⟩ := pl
      cases entry with
      | some _ => simp [hpl] at h
      | none =>
          simp only [hpl] at h
          split at h
          · cases h
            obtain ⟨hlen, hnone, l, n, mode, children, rfl, hd⟩ := exists_dir_of_place_none hw hpl
            have hx := extends_set (e := .dir .program []) hd hnone
            have hself := lookup_set_self hd n (.dir .program [])
            refine ⟨⟨hx, set_bodies _ _ _, ?_⟩, ?_⟩
            · intro m e hm hl
              obtain ⟨_, rfl⟩ | hm' | ⟨hdir, _⟩ := lookup_set_eq_some hd rfl hl
              · rfl
              · simp [hm] at hm'
              · exact hdir
            · obtain ⟨_, hplace, _⟩ := hx.place hw (place_through hpl fun _ h => by cases h)
                fun target _ h => by simp [hself] at h
              rw [hself] at hplace
              obtain ⟨_, hfollow'⟩ := place_eq_ok_iff.mp hplace
              exact isDir_iff.mpr ⟨_, _, _, find_eq_ok_iff.mpr
                ⟨hlen, _, hfollow', existing_eq_ok_iff.mpr ⟨rfl, rfl, fun _ => rfl⟩⟩⟩
          · cases h

theorem settleDir_dirsAdded (hw : t.HasWorkingDir) (p : Path) :
    t.DirsAdded (t.settleDir p (t.makeDir p)).2 ∧
      ((t.settleDir p (t.makeDir p)).1 = .ok () →
        (t.settleDir p (t.makeDir p)).2.isDir p = true) := by
  cases hmade : t.makeDir p with
  | ok t' =>
      obtain ⟨hadded, hdir⟩ := makeDir_dirsAdded hw hmade
      exact ⟨hadded, fun _ => hdir⟩
  | error fault =>
      unfold settleDir
      by_cases hdir : t.isDir p = true
      · simp [hdir, DirsAdded.refl]
      · simp [hdir, DirsAdded.refl]

/-- Making directories adds directories only; if nothing fails, the first path names one then. -/
theorem makeFirst_dirsAdded (hw : t.HasWorkingDir) (ps : List Path) :
    t.DirsAdded (t.makeFirst ps).2 ∧
      ((t.makeFirst ps).1 = .ok () → ∀ p ∈ ps.head?, (t.makeFirst ps).2.isDir p = true) := by
  induction ps with
  | nil => exact ⟨.refl t, fun _ p hp => by cases hp⟩
  | cons p outer ih =>
      have hsettle := settleDir_dirsAdded hw p
      unfold makeFirst
      split
      · split
        · rename_i t' houter
          rw [houter] at ih
          have hsettle' := settleDir_dirsAdded (ih.1.hasWorkingDir hw) p
          exact ⟨ih.1.trans hsettle'.1, fun hok q hq => by cases hq; exact hsettle'.2 hok⟩
        · rename_i hfailed
          refine ⟨ih.1, ?_⟩
          intro hok
          exact (hfailed _ (Prod.ext hok rfl)).elim
      · exact ⟨hsettle.1, fun hok q hq => by cases hq; exact hsettle.2 hok⟩

theorem makeDirs_dirsAdded (hw : t.HasWorkingDir) (p : Path) :
    t.DirsAdded (t.makeDirs p).2 ∧
      ((t.makeDirs p).1 = .ok () → p.bytes = [] ∨ (t.makeDirs p).2.isDir p = true) := by
  obtain ⟨hadded, hdir⟩ := makeFirst_dirsAdded hw (ancestors (p.components.length + 1) p)
  refine ⟨hadded, ?_⟩
  intro hok
  by_cases hp : p.bytes = []
  · exact .inl hp
  · refine .inr (hdir hok p ?_)
    simp [ancestors, hp]

end

/-! ### Writing a file -/

/-- `content` is written to the file with the body `n` at `l`, to which `p` leads. -/
structure Written (t : FileTree) (p : Path) (content : ByteArray) (l : Location) (n : ℕ)
    (t' : FileTree) : Prop extends t.Extends t' where
  before : t.find p = .ok (l, .file n) ∨ t.lookup l = none ∧ n = t.bodies.size
  find_eq : t'.find p = .ok (l, .file n)
  content_eq : (t'.body? n).map FileBody.content = some content
  body_eq : ∀ k, k ≠ n → t'.body? k = t.body? k
  lookup_file : ∀ {m k}, t'.lookup m = some (.file k) → t.lookup m = some (.file k) ∨ m = l ∧ k = n

section
variable {t t' : FileTree} {p : Path} {content : ByteArray} {l : Location} {n : ℕ}

theorem lookup_alterBody (t : FileTree) (n : ℕ) (f : FileBody → FileBody) (l : Location) :
    (t.alterBody n f).lookup l = t.lookup l := by
  unfold alterBody
  cases t.body? n <;> rfl

theorem alterBody_workingDir (t : FileTree) (n : ℕ) (f : FileBody → FileBody) :
    (t.alterBody n f).workingDir = t.workingDir := by
  unfold alterBody
  cases t.body? n <;> rfl

theorem body?_alterBody (t : FileTree) (n : ℕ) (f : FileBody → FileBody) (k : ℕ) :
    (t.alterBody n f).body? k = if k = n then (t.body? n).map f else t.body? k := by
  unfold alterBody
  cases hb : t.body? n with
  | none =>
      by_cases hk : k = n
      · simp [hk, hb]
      · simp [hk]
  | some b =>
      obtain ⟨hn, _⟩ := Array.getElem?_eq_some_iff.mp hb
      by_cases hk : k = n
      · subst hk
        simp [body?, hn]
      · simp [body?, hk, Array.getElem?_setIfInBounds_ne (Ne.symm hk)]

theorem extends_alterBody (t : FileTree) (n : ℕ) (f : FileBody → FileBody) :
    t.Extends (t.alterBody n f) := by
  refine ⟨alterBody_workingDir t n f, ?_, ?_⟩
  · intro l mode children h
    rw [lookup_alterBody]
    exact ⟨children, h⟩
  · intro l e h _
    rw [lookup_alterBody]
    exact h

theorem written_setContent (ht : t.Sound) (h : t.find p = .ok (l, .file n))
    (content : ByteArray) : t.Written p content l n (t.setContent n content) := by
  have hw := ht.hasWorkingDir
  have hx : t.Extends (t.setContent n content) := extends_alterBody t n _
  have hn := ht.body_lt (lookup_of_find hw h)
  have hbody : t.body? n = some t.bodies[n] := Array.getElem?_eq_getElem hn
  refine ⟨hx, .inl h, hx.find hw h rfl, ?_, ?_, ?_⟩
  · simp [setContent, body?_alterBody, hbody]
  · intro k hk
    simp [setContent, body?_alterBody, hk]
  · intro m k hm
    rw [setContent, lookup_alterBody] at hm
    exact .inl hm

theorem setFile_eq (t : FileTree) (l : Location) (content : ByteArray) (mode : Mode) :
    t.setFile l content mode = (t.addBody content mode).2.set l (.file t.bodies.size) := rfl

theorem extends_setFile {k : Bytes} {mode' : Mode} {children : Directory}
    (hd : t.lookup l = some (.dir mode' children)) (hk : t.lookup (l ++ [k]) = none)
    (content : ByteArray) (mode : Mode) : t.Extends (t.setFile (l ++ [k]) content mode) := by
  have hadd : t.Extends (t.addBody content mode).2 := ⟨rfl, fun h => ⟨_, h⟩, fun h _ => h⟩
  exact hadd.trans (extends_set (t := (t.addBody content mode).2) hd hk _)

theorem written_setFile (ht : t.Sound) (h : t.place true p = .ok ⟨l, none, false⟩)
    (content : ByteArray) (mode : Mode) :
    t.Written p content l t.bodies.size (t.setFile l content mode) := by
  have hw := ht.hasWorkingDir
  obtain ⟨_, hnone, l, k, mode', children, rfl, hd⟩ := exists_dir_of_place_none hw h
  have hx := extends_setFile hd hnone content mode
  -- the names are those of the tree to which only the body was added
  have hd' : (t.addBody content mode).2.lookup l = some (.dir mode' children) := hd
  have hself : (t.setFile (l ++ [k]) content mode).lookup (l ++ [k]) =
      some (.file t.bodies.size) := lookup_set_self hd' k _
  have hbody : ∀ m, (t.setFile (l ++ [k]) content mode).body? m =
      (t.bodies.push ⟨content, mode, t.clock⟩)[m]? := by
    intro m
    rw [setFile_eq, body?, set_bodies]
    rfl
  refine ⟨hx, .inr ⟨hnone, rfl⟩, ?_, ?_, ?_, ?_⟩
  · obtain ⟨slashed, hplace, hslashed⟩ := hx.place hw h fun _ _ h => by simp [hself] at h
    obtain rfl : slashed = false := Bool.eq_false_iff.mpr fun hs => Bool.noConfusion (hslashed hs)
    rw [hself] at hplace
    exact find_of_place hplace
  · simp [hbody]
  · intro m hm
    rw [hbody, Array.getElem?_push, if_neg hm]
    rfl
  · intro m j hm
    obtain ⟨hml, hj⟩ | hm' | ⟨hdir, _⟩ := lookup_set_eq_some hd' rfl hm
    · cases hj
      exact .inr ⟨hml, rfl⟩
    · exact .inl hm'
    · cases hdir

/-- What a write that did not fail did. -/
theorem write_cases (h : t.write p content = .ok t') :
    (∃ l, t.place true p = .ok ⟨l, none, false⟩ ∧ t' = t.setFile l content .plain) ∨
    (∃ l n, t.find p = .ok (l, .file n) ∧ t' = t.setContent n content) ∨
    (∃ l d, t.find p = .ok (l, .device d) ∧ t' = t) := by
  unfold write writeAs at h
  cases hpl : t.place true p with
  | error fault => simp [hpl] at h
  | ok pl =>
      obtain ⟨l, entry, slashed⟩ := pl
      rw [hpl] at h
      cases slashed with
      | true => cases h
      | false =>
          cases entry with
          | none =>
              simp only at h
              split at h
              · cases h
                exact .inl ⟨l, rfl, rfl⟩
              · cases h
          | some e =>
              have hfind := find_of_place hpl
              cases e with
              | dir _ _ => cases h
              | link _ => cases h
              | file n =>
                  simp only at h
                  split at h
                  · cases h
                    exact .inr (.inl ⟨l, n, hfind, rfl⟩)
                  · cases h
              | device d =>
                  cases h
                  exact .inr (.inr ⟨l, d, hfind, rfl⟩)

theorem write_eq_of_find (h : t.find p = .ok (l, .file n)) (content : ByteArray) :
    t.write p content = if (t.modeOf (.file n)).mayWrite then .ok (t.setContent n content)
      else .error .accessDenied := by
  unfold write writeAs
  rw [place_of_find h rfl]

/-- Writing keeps every entry. -/
theorem extends_of_write (hw : t.HasWorkingDir) (h : t.write p content = .ok t') :
    t.Extends t' := by
  obtain ⟨l, hpl, rfl⟩ | ⟨l, n, _, rfl⟩ | ⟨l, d, _, rfl⟩ := write_cases h
  · obtain ⟨_, hnone, l, k, mode', children, rfl, hd⟩ := exists_dir_of_place_none hw hpl
    exact extends_setFile hd hnone content .plain
  · exact extends_alterBody t n _
  · exact .refl t'

/-- A file that could be written holds what was written, unless it is a device. -/
theorem exists_written (ht : t.Sound) (h : t.write p content = .ok t') :
    (∃ l n, t.Written p content l n t') ∨ (t' = t ∧ ∃ l d, t.find p = .ok (l, .device d)) := by
  obtain ⟨l, hpl, rfl⟩ | ⟨l, n, hf, rfl⟩ | ⟨l, d, hf, rfl⟩ := write_cases h
  · exact .inl ⟨_, _, written_setFile ht hpl content .plain⟩
  · exact .inl ⟨_, _, written_setContent ht hf content⟩
  · exact .inr ⟨rfl, l, d, hf⟩

/-- The other files keep what they hold, as long as none of them is a second name of the file that
was written. -/
theorem Written.contentAt?_eq (h : t.Written p content l n t') {m : Location}
    (hm : t.lookup m ≠ some (.file n)) (hml : m ≠ l) : t'.contentAt? m = t.contentAt? m := by
  unfold contentAt?
  split
  · rename_i k hk
    obtain hk | ⟨hml', _⟩ := h.lookup_file hk
    · have hkn : k ≠ n := by
        rintro rfl
        exact hm hk
      simp only [hk, h.body_eq k hkn]
    · exact absurd hml' hml
  · rename_i hk
    split
    · rename_i k hk'
      exact absurd (h.other hk' rfl) (hk k)
    · rfl

/-- In a plain tree a write changes no other file. -/
theorem Written.contentAt?_eq_of_plain (h : t.Written p content l n t') (ht : t.Plain)
    {m : Location} (hml : m ≠ l) : t'.contentAt? m = t.contentAt? m := by
  refine h.contentAt?_eq ?_ hml
  intro hm
  obtain hf | ⟨_, rfl⟩ := h.before
  · exact hml (ht.eq_of_body hm (lookup_of_find ht.hasWorkingDir hf))
  · exact absurd (ht.body_lt hm) (lt_irrefl _)

theorem Written.contentAt?_self (h : t.Written p content l n t') (ht : t.HasWorkingDir) :
    t'.contentAt? l = some content := by
  rw [contentAt?_of_find (h.hasWorkingDir ht) h.find_eq]
  exact h.content_eq

end

end FileTree

end ShaderBuild
