import ShaderBuild.Proofs.Include.Machine
import ShaderBuild.Proofs.Include.Walk

/-! # The files being expanded

While the includes of a file are resolved, the active paths are those of an include walk from the
file to the one being expanded, and no two of them are the same (`Tracks`).  Every step keeps this
(`Tracks.step`), so it holds in every stage of the resolution.  A cycle is reported from the stage
in which the walk would come back to one of its files, so the report names a cycle of the include
graph (`CycleReport`). -/

namespace ShaderBuild

open Resolver StateTransition

/-- Line `i` of `f` is a well-formed include whose target, joined onto the base directory, has the
canonical path `p`. -/
def Names (disk : Disk) (baseDir : Path) (f : SourceFile) (i : ℕ) (p : Path) : Prop :=
  ∃ text target, f.text? i = some text ∧ includePath? text = some target ∧
    disk.canonical (baseDir.join (.ofString target)) = .ok p

/-- What a report of a cycle through `target` says of the include graph: the chain is a simple walk
through `u` to `v`, whose line at the site names `target` again, and `u` is known by that path. -/
structure CycleReport (disk : Disk) (baseDir : Path) (maxDepth : ℕ) (top : Visit) (target : Path)
    (chain : List Path) (site : Site) (before : List Visit) (u : Visit) (after : List Visit)
    (v : Visit) : Prop where
  chain_eq : chain = (before ++ u :: after).map Visit.known
  walk : Walk disk baseDir top (before ++ u :: after) v
  simple : Simple chain
  length_pos : 1 ≤ chain.length
  length_le : chain.length ≤ maxDepth
  site_file : site.file = v.file.path
  closing : Names disk baseDir v.file site.line target
  target_same : target.same u.known = true
  loop : Walk disk baseDir u (u :: after) v

section
variable {disk : Disk} {baseDir : Path} {maxDepth : ℕ} {top v : Visit} {ws : List Visit}

/-! ### Ends and parts of a walk -/

theorem Walk.exists_eq_append (h : Walk disk baseDir top ws v) : ∃ ws', ws = ws' ++ [v] := by
  cases h with
  | start => exact ⟨[], rfl⟩
  | step h _ => exact ⟨_, rfl⟩

theorem Walk.exists_eq_cons (h : Walk disk baseDir top ws v) : ∃ ws', ws = top :: ws' := by
  induction h with
  | start => exact ⟨[], rfl⟩
  | step _ _ ih =>
      obtain ⟨ws', rfl⟩ := ih
      exact ⟨_, rfl⟩

/-- What is left of a walk from one of its files on is a walk from that file. -/
theorem Walk.suffix {before after : List Visit} {u : Visit}
    (h : Walk disk baseDir top (before ++ u :: after) v) : Walk disk baseDir u (u :: after) v := by
  generalize hws : before ++ u :: after = ws at h
  induction h generalizing after with
  | start =>
      obtain ⟨rfl, h⟩ | ⟨_, _, h⟩ := List.append_eq_cons_iff.mp hws
      · cases h
        exact .start
      · simp at h
  | @step ws v w i hw hl ih =>
      obtain rfl | ⟨after', x, rfl⟩ := List.eq_nil_or_concat after
      · obtain ⟨_, h⟩ := List.append_inj' hws rfl
        cases h
        exact .start
      · rw [List.concat_eq_append, ← List.cons_append, ← List.append_assoc] at hws
        obtain ⟨h, hx⟩ := List.append_inj' hws rfl
        cases hx
        rw [List.concat_eq_append, ← List.cons_append]
        exact .step (ih h) hl

end

/-! ### Faults that are no cycles -/

/-- Whether a fault reports a cycle. -/
def SourceFault.isCycle : SourceFault → Bool
  | .includeCycle _ _ _ => true
  | _ => false

theorem SourceFile.isCycle_of_load {disk : Disk} {path : Path} {e : SourceFault}
    (h : SourceFile.load disk path = .error e) : e.isCycle = false := by
  unfold SourceFile.load at h
  split at h <;> cases h <;> rfl

theorem Resolver.isCycle_of_locate {disk : Disk} {site : Site} {path : Path} {e : SourceFault}
    (h : locate disk site path = .error e) : e.isCycle = false := by
  unfold locate at h
  split at h <;> cases h <;> rfl

theorem SourceFile.isCycle_of_outline {f : SourceFile} {e : SourceFault}
    (h : f.outline = .error e) : e.isCycle = false := by
  obtain ⟨_, _, _, _, rfl⟩ := SourceFile.outline_eq_error_iff.mp h
  rfl

theorem SourceFile.isCycle_of_assemble {f : SourceFile} {ds : List Directive} {e : SourceFault}
    (h : f.assemble ds = .error e) : e.isCycle = false := by
  obtain ⟨_, _, _, _, _, _, rfl⟩ := SourceFile.assemble_eq_error_iff.mp h
  rfl

/-! ### The invariant -/

namespace Stage

variable {disk : Disk} {baseDir : Path} {maxDepth : ℕ} {top : Visit}

/-- A report of a cycle is genuine. -/
def Genuine (disk : Disk) (baseDir : Path) (maxDepth : ℕ) (top : Visit) (e : SourceFault) : Prop :=
  ∀ target chain site, e = .includeCycle target chain site →
    ∃ before u after v,
      CycleReport disk baseDir maxDepth top target chain site before u after v

theorem genuine_of_isCycle {e : SourceFault} (h : e.isCycle = false) :
    Genuine disk baseDir maxDepth top e := by
  rintro target chain site rfl
  cases h

/-- A stage is at the end of the walk `ws`: its active paths are those of the walk and differ from
one another, and its files are those of the walk. -/
structure Tracks (disk : Disk) (baseDir : Path) (maxDepth : ℕ) (top : Visit) (ws : List Visit)
    (v : Visit) (s : Stage) : Prop where
  walk : Walk disk baseDir top ws v
  resolver_eq : s.resolver = along baseDir maxDepth ws
  simple : Simple (ws.map Visit.known)
  files_eq : s.frames.map Frame.file = (ws.map Visit.file).reverse
  genuine : ∀ e, s.fault = some e → Genuine disk baseDir maxDepth top e

variable {ws : List Visit} {v : Visit} {r : Resolver} {frame : Frame} {frames : List Frame}
  {fault : Option SourceFault}

theorem tracks_start (disk : Disk) (baseDir : Path) (maxDepth : ℕ) (file : SourceFile)
    (ds : List Directive) :
    Tracks disk baseDir maxDepth (.start disk file) [.start disk file] (.start disk file)
      (start disk ⟨baseDir, maxDepth, []⟩ file ds) where
  walk := .start
  resolver_eq := rfl
  simple := List.pairwise_singleton _ _
  files_eq := rfl
  genuine := fun _ h => by cases h

/-- The innermost file is the one at the end of the walk. -/
theorem Tracks.file_eq (h : Tracks disk baseDir maxDepth top ws v ⟨r, frame :: frames, fault⟩) :
    frame.file = v.file := by
  obtain ⟨ws', rfl⟩ := h.walk.exists_eq_append
  have hfiles := h.files_eq
  rw [List.map_append, List.reverse_append] at hfiles
  exact (List.cons.inj hfiles).1

/-- Files of the same paths that have progressed otherwise are tracked as well. -/
theorem Tracks.progress {frame' : Frame} (hfile : frame'.file = frame.file)
    (h : Tracks disk baseDir maxDepth top ws v ⟨r, frame :: frames, fault⟩)
    {fault' : Option SourceFault}
    (hg : ∀ e, fault' = some e → Genuine disk baseDir maxDepth top e) :
    Tracks disk baseDir maxDepth top ws v ⟨r, frame' :: frames, fault'⟩ where
  walk := h.walk
  resolver_eq := h.resolver_eq
  simple := h.simple
  files_eq := by rw [← h.files_eq, List.map_cons, List.map_cons, hfile]
  genuine := hg

/-- Leaving the innermost file goes one step back on the walk. -/
theorem Tracks.leave {inner : Frame}
    (h : Tracks disk baseDir maxDepth top ws v ⟨r, inner :: frame :: frames, fault⟩) :
    ∃ ws' v', Tracks disk baseDir maxDepth top ws' v' ⟨r.leave, frame :: frames, fault⟩ := by
  obtain ⟨hw, hr, hs, hf, hg⟩ := h
  cases hw with
  | start => simp at hf
  | @step ws v w i hw hl =>
      refine ⟨ws, v, hw, ?_, ?_, ?_, hg⟩
      · dsimp only at hr ⊢
        rw [hr, ← enter_along, leave_enter]
      · unfold Simple at hs
        rw [List.map_append, List.pairwise_append] at hs
        exact hs.1
      · rw [List.map_append, List.reverse_append] at hf
        exact (List.cons.inj hf).2

/-- Opening a target goes one step further on the walk. -/
theorem Tracks.descend {done done' todo todo' ds : List Directive} {file inner : SourceFile}
    {d : Directive} {target : String} {known : Path}
    (h : Tracks disk baseDir maxDepth top ws v ⟨r, ⟨file, done, d :: todo⟩ :: frames, none⟩)
    (ht : file.target? d.line = some target)
    (ho : openTarget disk r ⟨file.path, d.line⟩ target = .ok (known, inner, ds)) :
    Tracks disk baseDir maxDepth top (ws ++ [⟨known, inner⟩]) ⟨known, inner⟩
      ⟨r.enter known, ⟨inner, [], ds⟩ :: ⟨file, done', todo'⟩ :: frames, none⟩ := by
  obtain ⟨_, hc, hs, hl, _⟩ := openTarget_eq_ok_iff.mp ho
  have hfile : file = v.file := h.file_eq
  have hr : r = along baseDir maxDepth ws := h.resolver_eq
  subst hr
  refine ⟨.step h.walk (leads_iff_target?.mpr ⟨target, by rwa [← hfile], hc, hl⟩),
    enter_along ws ⟨known, inner⟩, ?_, ?_, fun _ h => by cases h⟩
  · unfold Simple
    rw [List.map_append, List.pairwise_append]
    refine ⟨h.simple, List.pairwise_singleton _ _, ?_⟩
    intro p hp q hq
    obtain rfl := List.mem_singleton.mp hq
    rw [Path.same_comm]
    exact hs p hp
  · rw [List.map_append, List.reverse_append, ← h.files_eq]
    rfl

/-- A target that cannot be opened because it is being expanded closes a cycle. -/
theorem Tracks.genuine_refusal {done todo : List Directive} {file : SourceFile} {d : Directive}
    {target : String} {e : SourceFault}
    (h : Tracks disk baseDir maxDepth top ws v ⟨r, ⟨file, done, d :: todo⟩ :: frames, none⟩)
    (ht : file.target? d.line = some target)
    (ho : openTarget disk r ⟨file.path, d.line⟩ target = .error e) :
    Genuine disk baseDir maxDepth top e := by
  have hfile : file = v.file := h.file_eq
  have hr : r = along baseDir maxDepth ws := h.resolver_eq
  subst hr hfile
  cases refusal_of_openTarget_eq_error ho with
  | tooDeep => exact genuine_of_isCycle rfl
  | nested => exact genuine_of_isCycle rfl
  | lost _ hl => exact genuine_of_isCycle (isCycle_of_locate hl)
  | unread _ _ _ hl => exact genuine_of_isCycle (SourceFile.isCycle_of_load hl)
  | duplicate _ _ _ _ hl => exact genuine_of_isCycle (SourceFile.isCycle_of_outline hl)
  | @cycle known hd hc hs =>
      obtain ⟨p, hp, hsame⟩ := hs
      obtain ⟨u, hu, rfl⟩ := List.mem_map.mp hp
      obtain ⟨before, after, rfl⟩ := List.append_of_mem hu
      obtain ⟨text, hi, ht'⟩ := SourceFile.target?_eq_some_iff.mp ht
      rintro target' chain site ⟨⟩
      refine ⟨before, u, after, v, rfl, h.walk, h.simple, ?_, hd, rfl, ⟨text, target, hi, ht', hc⟩,
        hsame, h.walk.suffix⟩
      exact List.length_pos_of_mem hp

/-- Every step keeps a stage at the end of a walk. -/
theorem Tracks.step {s s' : Stage} (h : Tracks disk baseDir maxDepth top ws v s)
    (hstep : Step disk s s') : ∃ ws' v', Tracks disk baseDir maxDepth top ws' v' s' := by
  cases hstep with
  | abandon => exact h.leave
  | malformed _ =>
      refine ⟨ws, v, h.progress (by rfl) ?_⟩
      rintro e ⟨⟩
      exact genuine_of_isCycle rfl
  | refuse ht ho =>
      refine ⟨ws, v, h.progress (by rfl) ?_⟩
      rintro e ⟨⟩
      exact h.genuine_refusal ht ho
  | descend ht ho => exact ⟨_, _, h.descend ht ho⟩
  | spoil ha =>
      obtain ⟨ws', v', h'⟩ := h.leave
      refine ⟨ws', v', h'.progress (by rfl) ?_⟩
      rintro e ⟨⟩
      exact genuine_of_isCycle (SourceFile.isCycle_of_assemble ha)
  | splice _ =>
      obtain ⟨ws', v', h'⟩ := h.leave
      refine ⟨ws', v', h'.progress (by rfl) ?_⟩
      rintro e ⟨⟩

/-- Every stage of a resolution is at the end of a walk. -/
theorem exists_tracks {s : Stage} {file : SourceFile} {ds : List Directive}
    (h : Reaches (next disk) (start disk ⟨baseDir, maxDepth, []⟩ file ds) s) :
    ∃ ws v, Tracks disk baseDir maxDepth (.start disk file) ws v s := by
  induction h with
  | refl => exact ⟨_, _, tracks_start disk baseDir maxDepth file ds⟩
  | tail _ hstep ih =>
      obtain ⟨ws, v, hs⟩ := ih
      exact hs.step (step_of_next hstep)

end Stage

/-! ### Reports of cycles -/

/-- In every stage of a resolution that starts with no file being expanded, the active paths are
those of an include walk from the first file, and no two of them are the same; and a reported cycle
is a cycle of the include graph.  The stages are those that lead to what `resolveAll` returns. -/
theorem resolveAll_active_simple_walk (disk : Disk) (baseDir : Path) (maxDepth : ℕ)
    (file : SourceFile) (ds : List Directive) :
    (∃ s ∈ eval (Stage.next disk) (Stage.start disk ⟨baseDir, maxDepth, []⟩ file ds),
      s.result = some (resolveAll disk ⟨baseDir, maxDepth, []⟩ file ds)) ∧
    (∀ s, Reaches (Stage.next disk) (Stage.start disk ⟨baseDir, maxDepth, []⟩ file ds) s →
      Simple s.resolver.active ∧
      s.resolver.active.head? = some (identity disk file.path) ∧
      ∃ ws v, Walk disk baseDir (.start disk file) ws v ∧
        s.resolver.active = ws.map Visit.known) ∧
    ∀ target chain site,
      (resolveAll disk ⟨baseDir, maxDepth, []⟩ file ds).outcome =
        .error (.includeCycle target chain site) →
      ∃ before u after v, CycleReport disk baseDir maxDepth (.start disk file) target chain site
        before u after v := by
  have heval := Stage.exists_eval_start disk ⟨baseDir, maxDepth, []⟩ file ds
  refine ⟨heval, ?_, ?_⟩
  · intro s hs
    obtain ⟨ws, v, ht⟩ := Stage.exists_tracks hs
    have hactive : s.resolver.active = ws.map Visit.known := by
      rw [ht.resolver_eq]
      rfl
    obtain ⟨ws', rfl⟩ := ht.walk.exists_eq_cons
    refine ⟨?_, ?_, _, v, ht.walk, hactive⟩
    · rw [hactive]
      exact ht.simple
    · rw [hactive]
      rfl
  · intro target chain site ho
    obtain ⟨s, hs, hres⟩ := heval
    obtain ⟨ws, v, ht⟩ := Stage.exists_tracks (mem_eval.mp hs).1
    exact ht.genuine _ (Stage.fault_of_result hres ho) target chain site rfl

/-- Two files that include one another, next to a file that both include. -/
theorem resolveAll_active_simple_walk_mutual :
    ∃ before u after v, CycleReport
      (.ofTexts [("a", ""), ("b", "//#INCLUDE \"c\"\nY\n//#INCLUDE \"a\""), ("c", "Z")]) ⟨[]⟩ 2
      (.start (.ofTexts [("a", ""), ("b", "//#INCLUDE \"c\"\nY\n//#INCLUDE \"a\""), ("c", "Z")])
        (.ofTexts (.ofString "a") ["X", "//#INCLUDE \"c\"", "//#INCLUDE \"b\""]))
      (.ofString "a") [.ofString "a", .ofString "b"] ⟨.ofString "b", 2⟩ before u after v :=
  (resolveAll_active_simple_walk _ ⟨[]⟩ 2 _ [{ line := 1 }, { line := 2 }]).2.2 _ _ _
    (by decide +kernel)

end ShaderBuild
