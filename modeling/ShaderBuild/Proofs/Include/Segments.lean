import Mathlib.Data.List.Induction
import Mathlib.Data.List.Nodup
import ShaderBuild.Proofs.Include.Assembly

/-! # Assembling from any directives

Directives that a file is assembled from may stand in any order, stand for the same line more than
once, or for lines that the file does not have.  Each puts its text over that of the ones before it
(`segment_concat`), so a line is replaced by the text of the last directive for it (`IsSegment`),
and the assembled text is the join of what the lines are replaced by
(`SourceFile.assemble_lastWins`). -/

namespace ShaderBuild

/-- `IsSegment ds i text s`: after the directives `ds` the text `s` stands for line `i`, which reads
`text`.  It is that of the last directive for the line, or the line itself if there is none. -/
inductive IsSegment (ds : List Directive) (i : ℕ) (text : String) : String → Prop
  | last {d s} (before after) : ds = before ++ d :: after → d.line = i → d.resolved = some s →
      (∀ c ∈ after, c.line ≠ i) → IsSegment ds i text s
  | kept : (∀ d ∈ ds, d.line ≠ i) → IsSegment ds i text text

/-- The texts stand for the lines of a file, one for each line, after the directives. -/
def SourceFile.AreSegments (f : SourceFile) (ds : List Directive) (segs : List String) : Prop :=
  List.Forall₂ (fun line s => IsSegment ds line.index line.text s) f.lines segs

/-! ### One line -/

section
variable {ds ds' before after : List Directive} {d : Directive} {i : ℕ} {text s : String}

/-- Directives for other lines put nothing over a line, wherever they stand. -/
theorem segment_append_cons_of_ne (h : d.line ≠ i) (before after : List Directive) (text : String) :
    segment (before ++ d :: after) i text = segment (before ++ after) i text := by
  unfold segment
  rw [List.filter_append, List.filter_append, List.filter_cons_of_neg (by simpa using h)]

theorem segment_append_of_forall_ne (h : ∀ c ∈ after, c.line ≠ i) (ds : List Directive)
    (text : String) : segment (ds ++ after) i text = segment ds i text := by
  induction after with
  | nil => rw [List.append_nil]
  | cons c after ih =>
      obtain ⟨hc, hafter⟩ := List.forall_mem_cons.mp h
      rw [segment_append_cons_of_ne hc, ih hafter]

theorem isSegment_concat_of_ne (hd : d.line ≠ i) (h : IsSegment ds i text s) :
    IsSegment (ds ++ [d]) i text s := by
  cases h with
  | @last c _ before after hds hc hs hafter =>
      refine .last before (after ++ [d]) ?_ hc hs ?_
      · rw [hds, List.append_assoc, List.cons_append]
      · intro e he
        rw [List.mem_append, List.mem_singleton] at he
        obtain he | rfl := he
        · exact hafter e he
        · exact hd
  | kept hno =>
      refine .kept ?_
      intro c hc
      rw [List.mem_append, List.mem_singleton] at hc
      obtain hc | rfl := hc
      · exact hno c hc
      · exact hd

/-- Resolved directives leave one text for a line, the one that the line is assembled with. -/
theorem isSegment_iff (hall : ∀ d ∈ ds, d.resolved ≠ none) :
    IsSegment ds i text s ↔ segment ds i text = s := by
  constructor
  · intro h
    cases h with
    | @last d _ before after hds hd hs hafter =>
        rw [hds, List.append_cons, segment_append_of_forall_ne hafter, segment_concat, if_pos hd,
          hs, Option.getD_some]
    | kept hno => rw [segment_of_forall_ne hno]
  · rintro rfl
    -- The directives are gone through in the order in which they put their texts.
    induction ds using List.reverseRecOn with
    | nil => exact .kept (by simp)
    | append_singleton ds d ih =>
        have hds := ih fun c hc => hall c (List.mem_append_left _ hc)
        obtain ⟨t, ht⟩ := Option.ne_none_iff_exists'.mp (hall d (by simp))
        rw [segment_concat]
        split
        · next hd =>
            rw [ht, Option.getD_some]
            exact .last ds [] rfl hd ht (by simp)
        · next hd => exact isSegment_concat_of_ne hd hds

/-- Resolved directives for different lines put the same text over a line in any order. -/
theorem segment_perm (h : ds.Perm ds') (hlines : (ds.map Directive.line).Nodup)
    (hall : ∀ d ∈ ds, d.resolved ≠ none) (i : ℕ) (text : String) :
    segment ds i text = segment ds' i text := by
  by_cases hi : ∃ d ∈ ds, d.line = i
  · obtain ⟨d, hd, hdi⟩ := hi
    obtain ⟨s, hs⟩ := Option.ne_none_iff_exists'.mp (hall d hd)
    have honly : ∀ c ∈ ds, c.line = i → c.resolved = some s := by
      intro c hc hci
      rw [List.inj_on_of_nodup_map hlines hc hd (hci.trans hdi.symm), hs]
    rw [segment_of_forall_resolved ⟨d, hd, hdi⟩ honly,
      segment_of_forall_resolved ⟨d, h.mem_iff.mp hd, hdi⟩
        fun c hc => honly c (h.mem_iff.mpr hc)]
  · have hne : ∀ d ∈ ds, d.line ≠ i := fun d hd hdi => hi ⟨d, hd, hdi⟩
    rw [segment_of_forall_ne hne, segment_of_forall_ne fun d hd => hne d (h.mem_iff.mpr hd)]

end

/-! ### Whole files -/

/-- Joined texts are cut at line feeds as each of them is. -/
theorem splitOn_intercalate_newline {ls : List String} (hne : ls ≠ []) :
    ("\n".intercalate ls).toList.splitOn '\n' = ls.flatMap fun l => l.toList.splitOn '\n' := by
  induction ls with
  | nil => exact absurd rfl hne
  | cons l ls ih =>
      by_cases hls : ls = []
      · subst hls
        simp
      · have hfeed : (l ++ "\n" ++ "\n".intercalate ls).toList =
            l.toList ++ '\n' :: ("\n".intercalate ls).toList := by
          simp
        rw [String.intercalate_cons_of_ne_nil hls, hfeed, List.splitOn_append_cons_self, ih hls,
          List.flatMap_cons]

namespace SourceFile

variable {f : SourceFile} {ds ds' before after : List Directive} {d : Directive} {s : String}
  {segs : List String}

theorem segments_congr_of_lt (h : ∀ i, i < f.lines.length → ∀ text,
    segment ds i text = segment ds' i text) : f.segments ds = f.segments ds' := by
  apply List.map_congr_left
  intro line hline
  apply h
  rw [← List.mem_range, ← f.numbered]
  exact List.mem_map_of_mem hline

/-- Resolved directives leave one list of texts for the lines of a file. -/
theorem areSegments_iff (hall : ∀ d ∈ ds, d.resolved ≠ none) :
    f.AreSegments ds segs ↔ f.segments ds = segs := by
  have hrel : (fun (line : Line) s => IsSegment ds line.index line.text s) =
      fun line s => segment ds line.index line.text = s := by
    funext line s
    exact propext (isSegment_iff hall)
  rw [AreSegments, hrel, ← List.forall₂_map_left_iff, List.forall₂_eq_eq_eq]
  rfl

/-- A resolved directive for a line that the file does not have makes no difference. -/
theorem assemble_append_cons_of_le (hd : d.resolved ≠ none) (hline : f.lines.length ≤ d.line)
    (before after : List Directive) :
    f.assemble (before ++ d :: after) = f.assemble (before ++ after) := by
  have hsegments : f.segments (before ++ d :: after) = f.segments (before ++ after) := by
    apply segments_congr_of_lt
    intro i hi text
    exact segment_append_cons_of_ne (by omega) before after text
  have hfind : (before ++ d :: after).find? (fun d => d.resolved.isNone) =
      (before ++ after).find? fun d => d.resolved.isNone := by
    rw [List.find?_append, List.find?_append, List.find?_cons_of_neg (by simpa using hd)]
  rw [assemble_eq, assemble_eq, hfind, hsegments]

theorem assemble_perm (h : ds.Perm ds') (hlines : (ds.map Directive.line).Nodup)
    (hs : f.assemble ds = .ok s) : f.assemble ds' = .ok s := by
  obtain ⟨hall, rfl⟩ := assemble_eq_ok_iff.mp hs
  have hsegments : f.segments ds' = f.segments ds :=
    segments_congr_of_lt fun i _ text => (segment_perm h hlines hall i text).symm
  exact assemble_eq_ok_iff.mpr ⟨fun d hd => hall d (h.mem_iff.mpr hd), by rw [hsegments]⟩

theorem segments_ne_nil (h : f.lines ≠ []) : f.segments ds ≠ [] := by
  intro he
  have hlength := congrArg List.length he
  rw [segments, List.length_map] at hlength
  exact h (List.eq_nil_of_length_eq_zero hlength)

/-- Assembling a file from any directives.  It fails if one is not resolved, and is about the first
of these.  Otherwise the lines are joined, each replaced by the text of the last directive for it if
there is one.  So resolved directives for lines that the file does not have can be left out, those
for different lines can change places, and what stands between the line feeds of the result is what
stands between those of the texts for the lines. -/
theorem assemble_lastWins (f : SourceFile) (ds : List Directive) :
    (∀ e, f.assemble ds = .error e ↔ ∃ before d after, ds = before ++ d :: after ∧
      (∀ c ∈ before, c.resolved ≠ none) ∧ d.resolved = none ∧
        e = .unresolvedInclude ⟨f.path, d.line⟩) ∧
    (∀ s, f.assemble ds = .ok s ↔ (∀ d ∈ ds, d.resolved ≠ none) ∧
      ∃ segs, f.AreSegments ds segs ∧ s = "\n".intercalate segs) ∧
    (∀ before d after, ds = before ++ d :: after → d.resolved ≠ none → f.lines.length ≤ d.line →
      f.assemble ds = f.assemble (before ++ after)) ∧
    (∀ ds' s, ds.Perm ds' → (ds.map Directive.line).Nodup → f.assemble ds = .ok s →
      f.assemble ds' = .ok s) ∧
    ∀ segs s, f.lines ≠ [] → f.AreSegments ds segs → f.assemble ds = .ok s →
      s.toList.splitOn '\n' = segs.flatMap fun seg => seg.toList.splitOn '\n' := by
  refine ⟨fun e => assemble_eq_error_iff, fun s => ?_, ?_, fun ds' s => assemble_perm, ?_⟩
  · rw [assemble_eq_ok_iff]
    refine and_congr_right fun hall => ?_
    constructor
    · rintro rfl
      exact ⟨f.segments ds, (areSegments_iff hall).mpr rfl, rfl⟩
    · rintro ⟨segs, hsegs, rfl⟩
      rw [(areSegments_iff hall).mp hsegs]
  · rintro before d after rfl hd hline
    exact assemble_append_cons_of_le hd hline before after
  · intro segs s hlines hsegs hs
    obtain ⟨hall, rfl⟩ := assemble_eq_ok_iff.mp hs
    obtain rfl := (areSegments_iff hall).mp hsegs
    exact splitOn_intercalate_newline (segments_ne_nil hlines)

/-- A file of two lines. -/
def twoLines : SourceFile :=
  .ofText (.ofString "f") "A\nB"

theorem lines_twoLines : twoLines.lines = [⟨0, "A"⟩, ⟨1, "B"⟩] := by
  decide +kernel

/-- Two directives for the second line of `twoLines`, with one for a line that is not there between
them, and one for its first line. -/
def overwriting : List Directive :=
  [⟨1, none, some "x"⟩, ⟨7, none, some "y"⟩, ⟨1, none, some "p\nq"⟩, ⟨0, none, some ""⟩]

theorem areSegments_overwriting : twoLines.AreSegments overwriting ["", "p\nq"] :=
  .cons (.last [⟨1, none, some "x"⟩, ⟨7, none, some "y"⟩, ⟨1, none, some "p\nq"⟩] []
      rfl rfl rfl (by simp))
    (.cons (.last [⟨1, none, some "x"⟩, ⟨7, none, some "y"⟩] [⟨0, none, some ""⟩]
      rfl rfl rfl (by simp)) .nil)

theorem assemble_lastWins_twoLines :
    twoLines.assemble overwriting = .ok "\np\nq" ∧
    twoLines.assemble [⟨1, none, some "x"⟩, ⟨1, none, some "p\nq"⟩, ⟨0, none, some ""⟩] =
      .ok "\np\nq" ∧
    "\np\nq".toList.splitOn '\n' = ["", "p\nq"].flatMap (fun seg => seg.toList.splitOn '\n') ∧
    twoLines.assemble [⟨1, none, some "p\nq"⟩, ⟨0, none, some ""⟩] = .ok "\np\nq" ∧
    twoLines.assemble [⟨0, none, some ""⟩, ⟨1, none, some "p\nq"⟩] = .ok "\np\nq" := by
  obtain ⟨_, hok, hleft, _, hsplit⟩ := assemble_lastWins twoLines overwriting
  obtain ⟨_, hok₂, _, hperm, _⟩ := assemble_lastWins twoLines
    [⟨1, none, some "p\nq"⟩, ⟨0, none, some ""⟩]
  have hsegs₂ : twoLines.AreSegments [⟨1, none, some "p\nq"⟩, ⟨0, none, some ""⟩] ["", "p\nq"] :=
    .cons (.last [⟨1, none, some "p\nq"⟩] [] rfl rfl rfl (by simp))
      (.cons (.last [] [⟨0, none, some ""⟩] rfl rfl rfl (by simp)) .nil)
  have hs := (hok "\np\nq").mpr
    ⟨by simp [overwriting], _, areSegments_overwriting, by decide +kernel⟩
  have hs₂ := (hok₂ "\np\nq").mpr ⟨by simp, _, hsegs₂, by decide +kernel⟩
  refine ⟨hs, ?_, hsplit _ _ (by simp [lines_twoLines]) areSegments_overwriting hs, hs₂,
    hperm _ _ (.swap _ _ []) (by simp) hs₂⟩
  rw [← hs]
  exact (hleft [⟨1, none, some "x"⟩] ⟨7, none, some "y"⟩ _ rfl (by simp)
    (by simp [lines_twoLines])).symm

end SourceFile

end ShaderBuild
