import Mathlib.Data.Set.Card
import ShaderBuild.Proofs.Include.Walk

/-! # The depth limit

The depth limit only cuts a resolution off: whatever comes out under one limit without its being
exceeded comes out under every higher one as well (`expandAt_withMaxDepth`).  When the limit is
exceeded, the files being expanded make up an include walk that visits no file twice and is longer
than the limit (`exists_walk_of_tooDeep`).  There is no such walk once the limit is the number of
files that include walks lead to, so from there on the limit does not matter at all
(`preprocessFile_maxDepth`). -/

namespace ShaderBuild

/-- The depth limit was exceeded. -/
def TooDeep {α : Type} (outcome : Except SourceFault α) : Prop :=
  ∃ site limit, outcome = .error (.includeTooDeep site limit)

/-- The paths that the files on include walks are known by, told apart by their components. -/
def reachedPaths (disk : Disk) (baseDir : Path) (file : SourceFile) : Set (List Component) :=
  {cs | ∃ ws v, Walk disk baseDir (.start disk file) ws v ∧ v.known.components = cs}

theorem not_tooDeep_ok {α : Type} (a : α) : ¬ TooDeep (.ok a) := by
  rintro ⟨_, _, h⟩
  cases h

/-- A fault is an exceeded limit whatever the result would have been. -/
theorem TooDeep.of_error {α β : Type} {e : SourceFault}
    (h : TooDeep (.error e : Except SourceFault α)) :
    TooDeep (.error e : Except SourceFault β) := by
  obtain ⟨site, limit, h⟩ := h
  cases h
  exact ⟨site, limit, rfl⟩

theorem tooDeep_bind_iff {α β : Type} {o : Except SourceFault α} {f : α → Except SourceFault β} :
    TooDeep (o.bind f) ↔ TooDeep o ∨ ∃ a, o = .ok a ∧ TooDeep (f a) := by
  cases o with
  | error e =>
      constructor
      · exact fun h => Or.inl h.of_error
      · rintro (h | ⟨_, h, _⟩)
        · exact h.of_error
        · cases h
  | ok a =>
      constructor
      · exact fun h => Or.inr ⟨a, rfl, h⟩
      · rintro (h | ⟨_, h, hf⟩)
        · exact absurd h (not_tooDeep_ok a)
        · cases h
          exact hf

theorem tooDeep_map_iff {α β : Type} {o : Except SourceFault α} {f : α → β} :
    TooDeep (o.map f) ↔ TooDeep o := by
  cases o with
  | error e => exact ⟨TooDeep.of_error, TooDeep.of_error⟩
  | ok a => simp only [Except.map, not_tooDeep_ok]

/-! ### Faults other than an exceeded limit -/

theorem SourceFile.not_tooDeep_load (disk : Disk) (path : Path) :
    ¬ TooDeep (SourceFile.load disk path) := by
  rintro ⟨_, _, h⟩
  unfold SourceFile.load at h
  split at h <;> cases h

theorem SourceFile.not_tooDeep_outline (f : SourceFile) : ¬ TooDeep f.outline := by
  rintro ⟨_, _, h⟩
  obtain ⟨_, _, _, _, he⟩ := SourceFile.outline_eq_error_iff.mp h
  cases he

theorem UniformBlock.not_tooDeep_fieldsFrom (file : Path) (start : ℕ) (ls : List Line) :
    ¬ TooDeep (UniformBlock.fieldsFrom file start ls) := by
  induction ls with
  | nil =>
      rintro ⟨_, _, h⟩
      cases h
  | cons l ls ih =>
      unfold UniformBlock.fieldsFrom
      cases BlockLine.ofText l.text with
      | terminator => exact not_tooDeep_ok _
      | skipped => exact ih
      | field f => exact fun h => ih (tooDeep_map_iff.mp h)
      | bad =>
          rintro ⟨_, _, h⟩
          cases h

theorem UniformBlock.not_tooDeep_parse (file : SourceFile) (start : ℕ) :
    ¬ TooDeep (UniformBlock.parse file start) :=
  fun h => UniformBlock.not_tooDeep_fieldsFrom _ _ _ (tooDeep_map_iff.mp h)

theorem SourceFile.not_tooDeep_assemble (f : SourceFile) (ds : List Directive) :
    ¬ TooDeep (f.assemble ds) := by
  rintro ⟨_, _, h⟩
  obtain ⟨_, _, _, _, _, _, he⟩ := SourceFile.assemble_eq_error_iff.mp h
  cases he

namespace Resolver

variable {disk : Disk} {r r' : Resolver} {file : SourceFile} {x y : Expander}

theorem not_tooDeep_locate (disk : Disk) (site : Site) (path : Path) :
    ¬ TooDeep (locate disk site path) := by
  rintro ⟨_, _, h⟩
  unfold locate at h
  split at h <;> cases h

/-- Opening a target exceeds the limit only if as many files are being expanded. -/
theorem lt_length_of_tooDeep_openTarget {site : Site} {target : String}
    (h : TooDeep (openTarget disk r site target)) : r.maxDepth < r.active.length := by
  obtain ⟨site', limit, h⟩ := h
  cases refusal_of_openTarget_eq_error h with
  | tooDeep hd => exact hd
  | lost _ hl => exact absurd ⟨_, _, hl⟩ (not_tooDeep_locate _ _ _)
  | unread _ _ _ hl => exact absurd ⟨_, _, hl⟩ (SourceFile.not_tooDeep_load _ _)
  | duplicate _ _ _ _ ho => exact absurd ⟨_, _, ho⟩ (SourceFile.not_tooDeep_outline _)

/-! ### A higher limit -/

/-- The resolver with another depth limit. -/
def withMaxDepth (r : Resolver) (m : ℕ) : Resolver :=
  { r with maxDepth := m }

/-- Where the limit is not exceeded, a higher one changes nothing. -/
theorem openTarget_withMaxDepth {m : ℕ} (hm : r.maxDepth ≤ m) {site : Site} {target : String}
    (h : ¬ TooDeep (openTarget disk r site target)) :
    openTarget disk (r.withMaxDepth m) site target = openTarget disk r site target := by
  have hd : ¬ r.maxDepth < r.active.length := by
    intro hd
    rw [openTarget_eq, if_pos hd] at h
    exact h ⟨_, _, rfl⟩
  have hd' : ¬ (r.withMaxDepth m).maxDepth < (r.withMaxDepth m).active.length := by
    simp only [withMaxDepth]
    omega
  rw [openTarget_eq, openTarget_eq, if_neg hd, if_neg hd']
  rfl

/-- What expands alike where the limit is not exceeded resolves alike there. -/
theorem resolveEach_eq_of_not_tooDeep (hx : Restores x) (hy : Restores y)
    (h : ∀ site target, ¬ TooDeep (x r site target).1 →
      (y r' site target).1 = (x r site target).1)
    {ds : List Directive} (hne : ¬ TooDeep (resolveEach x file r ds).outcome) :
    (resolveEach y file r' ds).outcome = (resolveEach x file r ds).outcome ∧
      (resolveEach y file r' ds).directives = (resolveEach x file r ds).directives := by
  induction ds with
  | nil => exact ⟨rfl, rfl⟩
  | cons d ds ih =>
      cases ht : file.target? d.line with
      | none =>
          rw [resolveEach_of_error (resolveWith_of_none ht),
            resolveEach_of_error (resolveWith_of_none ht)]
          exact ⟨rfl, rfl⟩
      | some target =>
          have heq := h ⟨file.path, d.line⟩ target
          have hrx := hx r ⟨file.path, d.line⟩ target
          have hry := hy r' ⟨file.path, d.line⟩ target
          cases hxt : x r ⟨file.path, d.line⟩ target with
          | mk outcome s =>
              rw [hxt] at heq hrx
              dsimp only at heq hrx
              subst hrx
              cases outcome with
              | error e =>
                  rw [resolveEach_of_error (resolveWith_of_error ht hxt)] at hne ⊢
                  have hyt : y r' ⟨file.path, d.line⟩ target = (.error e, r') :=
                    Prod.ext (heq fun h => hne h.of_error) hry
                  rw [resolveEach_of_error (resolveWith_of_error ht hyt)]
                  exact ⟨rfl, rfl⟩
              | ok text =>
                  rw [resolveEach_of_ok (resolveWith_of_ok ht hxt)] at hne ⊢
                  have hyt : y r' ⟨file.path, d.line⟩ target = (.ok text, r') :=
                    Prod.ext (heq (not_tooDeep_ok text)) hry
                  rw [resolveEach_of_ok (resolveWith_of_ok ht hyt)]
                  obtain ⟨ho, hd⟩ := ih hne
                  exact ⟨ho, by rw [hd]⟩

/-- An expansion that does not exceed the limit is the same under a higher one. -/
theorem expandAt_withMaxDepth (disk : Disk) (r : Resolver) :
    ∀ m, r.maxDepth ≤ m → ∀ site target, ¬ TooDeep (expandAt disk r site target).1 →
      (expandAt disk (r.withMaxDepth m) site target).1 = (expandAt disk r site target).1 := by
  induction r using enter_induction with
  | step r ih =>
      intro m hm site target hne
      cases ho : openTarget disk r site target with
      | error e =>
          rw [expandAt_of_error ho] at hne ⊢
          have hopen : ¬ TooDeep (openTarget disk r site target) := by
            rw [ho]
            exact fun h => hne h.of_error
          have ho' := openTarget_withMaxDepth hm hopen
          rw [expandAt_of_error (ho'.trans ho)]
      | ok o =>
          obtain ⟨known, inner, ds⟩ := o
          have hopen : ¬ TooDeep (openTarget disk r site target) := by
            rw [ho]
            exact not_tooDeep_ok _
          have ho' := openTarget_withMaxDepth hm hopen
          rw [expandAt_of_ok ho] at hne ⊢
          rw [expandAt_of_ok (ho'.trans ho)]
          have hin := ih (openTarget_eq_ok_iff.mp ho).1 known m hm
          obtain ⟨heq, hdirs⟩ := resolveEach_eq_of_not_tooDeep (restores_expandAt disk)
            (restores_expandAt disk) hin fun h => hne (tooDeep_bind_iff.mpr (Or.inl h))
          change (resolveEach (expandAt disk) inner
              ((r.enter known).withMaxDepth m) ds).outcome.bind
            (fun _ => inner.assemble (resolveEach (expandAt disk) inner
              ((r.enter known).withMaxDepth m) ds).directives) = _
          rw [heq, hdirs]

/-! ### Walks longer than the limit -/

/-- If the limit is exceeded beyond a walk that visits no file twice, such a walk is longer than the
limit. -/
theorem exists_walk_of_tooDeep {baseDir : Path} {maxDepth : ℕ} {top : Visit} (r : Resolver) :
    ∀ ws v ds, r = along baseDir maxDepth ws → Walk disk baseDir top ws v →
      Simple (ws.map Visit.known) → TooDeep (resolveEach (expandAt disk) v.file r ds).outcome →
      ∃ ws' v', Walk disk baseDir top ws' v' ∧ Simple (ws'.map Visit.known) ∧
        maxDepth < ws'.length := by
  induction r using enter_induction with
  | step r ih =>
      rintro ws v ds rfl hw hs ⟨site, limit, h⟩
      obtain ⟨_, d, _, _, _, hfails⟩ := exists_fails_of_resolveEach (restores_expandAt disk) h
      cases hfails with
      | @expansion target _ ht hx =>
        cases ho : openTarget disk (along baseDir maxDepth ws) ⟨v.file.path, d.line⟩ target with
        | error e =>
            rw [expandAt_of_error ho] at hx
            have hopen : TooDeep (openTarget disk (along baseDir maxDepth ws) ⟨v.file.path, d.line⟩
                target) := by
              rw [ho]
              exact TooDeep.of_error ⟨site, limit, hx⟩
            have hd := lt_length_of_tooDeep_openTarget hopen
            exact ⟨ws, v, hw, hs, by simpa [along] using hd⟩
        | ok o =>
            obtain ⟨known, inner, ds'⟩ := o
            obtain ⟨hd, hc, hsame, hf, _⟩ := openTarget_eq_ok_iff.mp ho
            have hl : Leads disk baseDir v.file d.line ⟨known, inner⟩ :=
              leads_iff_target?.mpr ⟨target, ht, hc, hf⟩
            have hs' : Simple ((ws ++ [(⟨known, inner⟩ : Visit)]).map Visit.known) := by
              rw [List.map_append]
              exact Simple.concat hs hsame
            refine ih hd known (ws ++ [⟨known, inner⟩]) ⟨known, inner⟩ ds'
              (enter_along ws ⟨known, inner⟩) (hw.step hl) hs' ?_
            rw [expandAt_of_ok ho] at hx
            cases hin : (resolveEach (expandAt disk) inner
                ((along baseDir maxDepth ws).enter known) ds').outcome with
            | error e =>
                rw [hin] at hx
                have he : TooDeep (.error e : Except SourceFault String) := ⟨site, limit, hx⟩
                exact he.of_error
            | ok _ =>
                rw [hin] at hx
                have hasm : TooDeep (inner.assemble (resolveEach (expandAt disk) inner
                    ((along baseDir maxDepth ws).enter known) ds').directives) :=
                  ⟨site, limit, hx⟩
                exact absurd hasm (SourceFile.not_tooDeep_assemble _ _)

end Resolver

/-! ### The files that walks lead to -/

section
variable {disk : Disk} {baseDir : Path} {file : SourceFile}

/-- Every file on a walk is where a walk ends. -/
theorem Walk.exists_of_mem {top v u : Visit} {ws : List Visit} (h : Walk disk baseDir top ws v)
    (hu : u ∈ ws) : ∃ ws', Walk disk baseDir top ws' u := by
  induction h with
  | start =>
      rw [List.mem_singleton.mp hu]
      exact ⟨_, .start⟩
  | step hw hl ih =>
      rcases List.mem_append.mp hu with hu | hu
      · exact ih hu
      · rw [List.mem_singleton.mp hu]
        exact ⟨_, hw.step hl⟩

/-- A walk that visits no file twice is no longer than there are files that walks lead to. -/
theorem Walk.length_le_encard {ws : List Visit} {v : Visit}
    (h : Walk disk baseDir (.start disk file) ws v) (hs : Simple (ws.map Visit.known)) :
    (ws.length : ℕ∞) ≤ (reachedPaths disk baseDir file).encard := by
  have hnodup : (ws.map fun u => u.known.components).Nodup := by
    unfold Simple at hs
    rw [List.pairwise_map] at hs
    rw [List.Nodup, List.pairwise_map]
    exact hs.imp fun hne heq => by simp [Path.same, heq] at hne
  have hsub : ((ws.map fun u => u.known.components).toFinset : Set (List Component)) ⊆
      reachedPaths disk baseDir file := by
    intro cs hcs
    rw [Finset.mem_coe, List.mem_toFinset] at hcs
    obtain ⟨u, hu, rfl⟩ := List.mem_map.mp hcs
    obtain ⟨ws', hw'⟩ := h.exists_of_mem hu
    exact ⟨ws', u, hw', rfl⟩
  calc (ws.length : ℕ∞)
      = ((ws.map fun u => u.known.components).toFinset.card : ℕ∞) := by
        rw [List.toFinset_card_of_nodup hnodup, List.length_map]
    _ = ((ws.map fun u => u.known.components).toFinset : Set (List Component)).encard :=
        (Set.encard_coe_eq_coe_finsetCard _).symm
    _ ≤ _ := Set.encard_le_encard hsub

/-- On a disk that holds some texts, walks lead to nothing but these and the first file. -/
theorem reachedPaths_ofTexts_subset (texts : List (String × String)) (baseDir : Path)
    (file : SourceFile) :
    reachedPaths (.ofTexts texts) baseDir file ⊆
      insert (Resolver.identity (.ofTexts texts) file.path).components
        {cs | ∃ t ∈ texts, (Path.ofString t.1).components = cs} := by
  rintro cs ⟨ws, v, hw, rfl⟩
  cases hw with
  | start => exact Set.mem_insert _ _
  | step _ hl =>
      right
      obtain ⟨target, _, hc, _⟩ := leads_iff_target?.mp hl
      simp only [Disk.ofTexts] at hc
      split at hc
      · rename_i hany
        obtain ⟨t, ht, hsame⟩ := List.any_eq_true.mp hany
        rw [← Except.ok.inj hc]
        exact ⟨t, ht, (beq_iff_eq.mp hsame).symm⟩
      · cases hc

end

/-! ### Whole passes -/

open Resolver

section
variable {disk : Disk} {baseDir : Path} {file : SourceFile}

/-- Only the includes of a file can be nested too deep. -/
theorem tooDeep_preprocessFile_iff {m : ℕ} :
    TooDeep (preprocessFile disk baseDir m file) ↔
      ∃ o block, file.outline = .ok o ∧ o.marker.mapM (UniformBlock.parse file) = .ok block ∧
        TooDeep (resolveEach (expandAt disk) file (along baseDir m [.start disk file])
          o.includes).outcome := by
  rw [preprocessFile_eq]
  simp only [tooDeep_bind_iff, SourceFile.not_tooDeep_outline, SourceFile.not_tooDeep_assemble,
    not_tooDeep_ok, false_or, and_false, exists_false, or_false]
  constructor
  · rintro ⟨o, ho, hb | ⟨block, hb, h⟩⟩
    · cases hm : o.marker with
      | none =>
          rw [hm] at hb
          exact absurd hb (not_tooDeep_ok _)
      | some i =>
          rw [hm, Option.mapM_some] at hb
          exact absurd (tooDeep_map_iff.mp hb) (UniformBlock.not_tooDeep_parse file i)
    · exact ⟨o, block, ho, hb, h⟩
  · rintro ⟨o, block, ho, hb, h⟩
    exact ⟨o, ho, Or.inr ⟨block, hb, h⟩⟩

/-- A pass that exceeds its limit has walked further than the limit without visiting a file
twice. -/
theorem exists_walk_of_tooDeep_preprocessFile {m : ℕ}
    (h : TooDeep (preprocessFile disk baseDir m file)) :
    ∃ ws v, Walk disk baseDir (.start disk file) ws v ∧ Simple (ws.map Visit.known) ∧
      m < ws.length := by
  obtain ⟨o, _, _, _, h⟩ := tooDeep_preprocessFile_iff.mp h
  exact exists_walk_of_tooDeep _ _ _ _ rfl .start (List.pairwise_singleton _ _) h

theorem preprocessFile_eq_of_not_tooDeep {m m' : ℕ} (hm : m ≤ m')
    (h : ¬ TooDeep (preprocessFile disk baseDir m file)) :
    preprocessFile disk baseDir m' file = preprocessFile disk baseDir m file := by
  rw [preprocessFile_eq, preprocessFile_eq]
  cases ho : file.outline with
  | error e => rfl
  | ok o =>
      cases hb : o.marker.mapM (UniformBlock.parse file) with
      | error e => simp only [Except.bind, hb]
      | ok block =>
          have hne : ¬ TooDeep (resolveEach (expandAt disk) file
              (along baseDir m [.start disk file]) o.includes).outcome :=
            fun h' => h (tooDeep_preprocessFile_iff.mpr ⟨o, block, ho, hb, h'⟩)
          obtain ⟨heq, hdirs⟩ := resolveEach_eq_of_not_tooDeep (restores_expandAt disk)
            (restores_expandAt disk) (expandAt_withMaxDepth disk _ m' hm) hne
          change (resolveEach (expandAt disk) file (along baseDir m' [.start disk file])
            o.includes).outcome = _ at heq
          change (resolveEach (expandAt disk) file (along baseDir m' [.start disk file])
            o.includes).directives = _ at hdirs
          simp only [Except.bind, hb, heq, hdirs]

/-- What a pass gives without exceeding the depth limit it gives under every higher limit as well;
and a limit that is at least the number of files that include walks lead to is never exceeded. -/
theorem preprocessFile_maxDepth (disk : Disk) (baseDir : Path) (file : SourceFile) :
    (∀ m m', m ≤ m' → ¬ TooDeep (preprocessFile disk baseDir m file) →
      preprocessFile disk baseDir m' file = preprocessFile disk baseDir m file) ∧
    ∀ m : ℕ, (reachedPaths disk baseDir file).encard ≤ m →
      ¬ TooDeep (preprocessFile disk baseDir m file) := by
  refine ⟨fun m m' hm h => preprocessFile_eq_of_not_tooDeep hm h, ?_⟩
  intro m hcard h
  obtain ⟨ws, v, hw, hs, hlt⟩ := exists_walk_of_tooDeep_preprocessFile h
  have hle := (hw.length_le_encard hs).trans hcard
  exact absurd (Nat.cast_le.mp hle) (Nat.not_le.mpr hlt)

end

/-- Two files that include one another, and nothing else. -/
def mutualPair : Disk :=
  .ofTexts [("a", "//#INCLUDE \"b\""), ("b", "//#INCLUDE \"a\"")]

/-- Two files that include one another come out alike under every limit from two on. -/
theorem preprocessFile_maxDepth_mutual :
    (reachedPaths mutualPair ⟨[]⟩
      (.ofTexts (.ofString "a") ["//#INCLUDE \"b\""])).encard ≤ (2 : ℕ) ∧
    ¬ TooDeep (preprocessFile mutualPair ⟨[]⟩ 2 (.ofTexts (.ofString "a") ["//#INCLUDE \"b\""])) ∧
    preprocessFile mutualPair ⟨[]⟩ 5 (.ofTexts (.ofString "a") ["//#INCLUDE \"b\""]) =
      preprocessFile mutualPair ⟨[]⟩ 2 (.ofTexts (.ofString "a") ["//#INCLUDE \"b\""]) := by
  have hpair : reachedPaths mutualPair ⟨[]⟩ (.ofTexts (.ofString "a") ["//#INCLUDE \"b\""]) ⊆
      {(Path.ofString "a").components, (Path.ofString "b").components} := by
    intro cs hcs
    rcases reachedPaths_ofTexts_subset _ _ _ hcs with rfl | ⟨t, ht, rfl⟩
    · left
      decide +kernel
    · rw [List.mem_cons, List.mem_singleton] at ht
      rcases ht with rfl | rfl
      · exact Set.mem_insert _ _
      · exact Set.mem_insert_of_mem _ rfl
  have hne : (Path.ofString "a").components ≠ (Path.ofString "b").components := by
    decide +kernel
  have hcard := (Set.encard_le_encard hpair).trans (Set.encard_pair hne).le
  have h := preprocessFile_maxDepth mutualPair ⟨[]⟩ (.ofTexts (.ofString "a") ["//#INCLUDE \"b\""])
  exact ⟨hcard, h.2 2 hcard, h.1 2 5 (by decide) (h.2 2 hcard)⟩

end ShaderBuild
