import ShaderBuild.Proofs.Include.Walk

/-! # When a pass succeeds

`Flattenable` collects what must hold of a file and the files that include walks lead to: one block
at most, and only in the first file; include lines that all lead somewhere; walks that visit no file
twice and go no deeper than the limit.  `preprocessFile_isOk_iff` says that a pass succeeds exactly
then.

Both directions follow the walks.  A success at the start is handed on along every walk
(`Walk.resolved`), and what it says at the end of each is one of the conditions.  Conversely the
depth limit bounds the walks, so `enter_induction` goes from the deepest ones back to the start. -/

namespace ShaderBuild

open Resolver

/-- What a file and the files below it must satisfy to be flattened. -/
structure Flattenable (disk : Disk) (baseDir : Path) (maxDepth : ℕ) (file : SourceFile) : Prop where
  /-- The file opens one block at most. -/
  marker_unique : (file.linesWhere isMarkerLine).length ≤ 1
  /-- That block can be read. -/
  block_parses : ∀ m ∈ file.linesWhere isMarkerLine, ∃ b, UniformBlock.parse file m = .ok b
  /-- Every include line of a reached file is well-formed, and its target is found and readable. -/
  includes_lead : ∀ ws v, Walk disk baseDir (.start disk file) ws v →
    ∀ i ∈ v.file.linesWhere isIncludeLine, ∃ w, Leads disk baseDir v.file i w
  /-- No included file opens a block. -/
  no_nested_block : ∀ ws v i w, Walk disk baseDir (.start disk file) ws v →
    Leads disk baseDir v.file i w → w.file.linesWhere isMarkerLine = []
  /-- No include walk visits a file twice. -/
  walks_simple : ∀ ws v, Walk disk baseDir (.start disk file) ws v →
    Simple (ws.map Visit.known)
  /-- No include walk has more steps than the depth limit allows. -/
  walks_short : ∀ ws v, Walk disk baseDir (.start disk file) ws v → ws.length ≤ maxDepth + 1

section
variable {disk : Disk} {baseDir : Path} {maxDepth : ℕ} {file : SourceFile}

/-- At the end of a walk from a file whose directives resolve, directives resolve. -/
theorem Walk.resolved {ds : List Directive} {marker : Option ℕ} {ws : List Visit} {v : Visit}
    (ho : file.outline = .ok ⟨ds, marker⟩)
    (h : (resolveEach (expandAt disk) file (along baseDir maxDepth [.start disk file]) ds).outcome =
      .ok ())
    (hw : Walk disk baseDir (.start disk file) ws v) :
    ∃ ds' marker', v.file.outline = .ok ⟨ds', marker'⟩ ∧
      (resolveEach (expandAt disk) v.file (along baseDir maxDepth ws) ds').outcome = .ok () := by
  induction hw with
  | start => exact ⟨ds, marker, ho, h⟩
  | @step ws v w i _ hl ih =>
      obtain ⟨ds', marker', ho', h'⟩ := ih
      obtain ⟨ds'', _, _, ho'', h''⟩ := exists_openTarget ho' h' hl
      rw [enter_along] at h''
      exact ⟨ds'', none, ho'', h''⟩

theorem exists_eq_toList {α : Type} {l : List α} (h : l.length ≤ 1) :
    ∃ o : Option α, l = o.toList := by
  match l, h with
  | [], _ => exact ⟨none, rfl⟩
  | [a], _ => exact ⟨some a, rfl⟩

/-- What a success says of the walks below the file. -/
theorem flattenable_of_resolved {ds : List Directive} {marker : Option ℕ}
    (ho : file.outline = .ok ⟨ds, marker⟩)
    (hb : ∀ m ∈ file.linesWhere isMarkerLine, ∃ b, UniformBlock.parse file m = .ok b)
    (h : (resolveEach (expandAt disk) file (along baseDir maxDepth [.start disk file]) ds).outcome =
      .ok ()) : Flattenable disk baseDir maxDepth file where
  marker_unique := by
    rw [(SourceFile.outline_eq_ok_iff.mp ho).1]
    exact Option.length_toList_le
  block_parses := hb
  includes_lead := by
    intro ws v hw i hi
    obtain ⟨ds', marker', ho', h'⟩ := hw.resolved ho h
    have hmem : ({ line := i } : Directive) ∈ ds' := by
      rw [(SourceFile.outline_eq_ok_iff.mp ho').2]
      exact List.mem_map.mpr ⟨i, hi, rfl⟩
    obtain ⟨d', hd'⟩ := (resolveEach_outcome_eq_ok_iff (restores_expandAt disk)).mp h' _ hmem
    cases hd' with
    | @mk target text ht hx =>
        obtain ⟨known, inner, _, hopen, _⟩ := expandAt_eq_ok_iff.mp hx
        obtain ⟨_, hc, _, hf, _⟩ := openTarget_eq_ok_iff.mp hopen
        exact ⟨⟨known, inner⟩, leads_iff_target?.mpr ⟨target, ht, hc, hf⟩⟩
  no_nested_block := by
    intro ws v i w hw hl
    obtain ⟨ds', marker', ho', h'⟩ := hw.resolved ho h
    obtain ⟨ds'', _, _, ho'', _⟩ := exists_openTarget ho' h' hl
    exact (SourceFile.outline_eq_ok_iff.mp ho'').1
  walks_simple := by
    intro ws v hw
    unfold Simple
    induction hw with
    | start => simp
    | @step ws v w i hw hl ih =>
        obtain ⟨ds', marker', ho', h'⟩ := hw.resolved ho h
        obtain ⟨_, _, hs, _⟩ := exists_openTarget ho' h' hl
        rw [List.map_append, List.pairwise_append]
        refine ⟨ih, by simp, ?_⟩
        intro p hp q hq
        rw [List.map_singleton, List.mem_singleton] at hq
        rw [hq, Path.same_comm]
        exact hs p hp
  walks_short := by
    intro ws v hw
    cases hw with
    | start => simp
    | step hw hl =>
        obtain ⟨ds', marker', ho', h'⟩ := hw.resolved ho h
        obtain ⟨_, hd, _⟩ := exists_openTarget ho' h' hl
        simpa [along] using hd

/-- Under the conditions, directives resolve at the end of every walk. -/
theorem Flattenable.resolved (hF : Flattenable disk baseDir maxDepth file) (r : Resolver) :
    ∀ ws v ds marker, r = along baseDir maxDepth ws → Walk disk baseDir (.start disk file) ws v →
      v.file.outline = .ok ⟨ds, marker⟩ →
      (resolveEach (expandAt disk) v.file r ds).outcome = .ok () := by
  induction r using enter_induction with
  | step r ih =>
      rintro ws v ds marker rfl hw ho
      rw [resolveEach_outcome_eq_ok_iff (restores_expandAt disk)]
      intro d hd
      rw [(SourceFile.outline_eq_ok_iff.mp ho).2] at hd
      obtain ⟨i, hi, rfl⟩ := List.mem_map.mp hd
      obtain ⟨w, hl⟩ := hF.includes_lead ws v hw i hi
      have hw' := hw.step hl
      have hdepth : (along baseDir maxDepth ws).active.length ≤ maxDepth := by
        simpa [along] using hF.walks_short _ _ hw'
      have hsame : ∀ p ∈ (along baseDir maxDepth ws).active, w.known.same p = false := by
        have hp := hF.walks_simple _ _ hw'
        unfold Simple at hp
        rw [List.map_append, List.pairwise_append] at hp
        intro p hp'
        rw [Path.same_comm]
        exact hp.2.2 p hp' w.known (by simp)
      have ho' : w.file.outline =
          .ok ⟨(w.file.linesWhere isIncludeLine).map fun i => { line := i }, none⟩ := by
        exact SourceFile.outline_eq_ok_iff.mpr ⟨hF.no_nested_block ws v i w hw hl, rfl⟩
      have hinner := ih hdepth w.known (ws ++ [w]) w _ _ (enter_along ws w) hw' ho'
      exact exists_fills hl hdepth hsame ho' hinner

theorem flattenable_of_preprocessFile {out : Flattened}
    (h : preprocessFile disk baseDir maxDepth file = .ok out) :
    Flattenable disk baseDir maxDepth file := by
  obtain ⟨ds, marker, ho, hb, hr, _⟩ := preprocessFile_eq_ok_iff.mp h
  refine flattenable_of_resolved ho ?_ hr
  intro m hm
  rw [(SourceFile.outline_eq_ok_iff.mp ho).1, Option.mem_toList] at hm
  rcases mapM_eq_ok_iff.mp hb with ⟨hn, _⟩ | ⟨m', b, hs, hparse, _⟩
  · rw [hn] at hm
    cases hm
  · rw [hs] at hm
    cases hm
    exact ⟨b, hparse⟩

/-- A pass succeeds exactly if its file is flattenable. -/
theorem preprocessFile_isOk_iff (disk : Disk) (baseDir : Path) (maxDepth : ℕ) (file : SourceFile) :
    (∃ out, preprocessFile disk baseDir maxDepth file = .ok out) ↔
      Flattenable disk baseDir maxDepth file := by
  constructor
  · rintro ⟨out, hout⟩
    exact flattenable_of_preprocessFile hout
  · intro hF
    obtain ⟨marker, hm⟩ := exists_eq_toList hF.marker_unique
    have ho := SourceFile.outline_eq_ok_iff.mpr ⟨hm, rfl⟩
    have hr := hF.resolved _ _ _ _ _ rfl .start ho
    have hs := assemble_of_fills (forall₂_fills (restores_expandAt disk) hr)
    have hb : ∃ b, marker.mapM (UniformBlock.parse file) = .ok b := by
      cases marker with
      | none => exact ⟨none, mapM_eq_ok_iff.mpr (Or.inl ⟨rfl, rfl⟩)⟩
      | some m =>
          obtain ⟨b, hparse⟩ := hF.block_parses m (by simp [hm])
          exact ⟨some b, mapM_eq_ok_iff.mpr (Or.inr ⟨m, b, rfl, hparse, rfl⟩)⟩
    obtain ⟨b, hb⟩ := hb
    exact ⟨⟨_, b⟩, preprocessFile_eq_ok_iff.mpr ⟨_, _, ho, hb, hr, hs⟩⟩

end

end ShaderBuild
