import ShaderBuild.Proofs.Include.Resolver
import ShaderBuild.Proofs.Source.Assembling
import ShaderBuild.Proofs.Source.Outline

/-! # Filled directives and assembled texts

When the directives of a file resolve, each is filled with the expansion of the target on its line
(`Fills`); when they do not, the fault is that of the first one which cannot be filled
(`exists_fails_of_resolveEach`).

The segment that a file with filled directives is assembled with is, for each line, the line itself
or the expansion of what it names (`forall₂_stands`).  `preprocessFile_eq_ok_iff` puts the parts of
a pass together. -/

namespace ShaderBuild

namespace Resolver

variable {x : Expander} {r : Resolver} {file : SourceFile}

/-! ### Directives after a success -/

/-- `Fills x r file d d'`: the directive `d'` is `d` with its target read and expanded. -/
inductive Fills (x : Expander) (r : Resolver) (file : SourceFile) (d : Directive) : Directive → Prop
  | mk {target text : String} : file.target? d.line = some target →
      (x r ⟨file.path, d.line⟩ target).1 = .ok text →
      Fills x r file d { d with target := some target, resolved := some text }

theorem resolveWith_of_outcome_ok (hx : Restores x) {d : Directive}
    (h : (resolveWith x r file d).outcome = .ok ()) :
    ∃ d', Fills x r file d d' ∧ resolveWith x r file d = ⟨.ok (), d', r⟩ := by
  cases ht : file.target? d.line with
  | none =>
      rw [resolveWith_of_none ht] at h
      cases h
  | some target =>
      have hr := hx r ⟨file.path, d.line⟩ target
      cases hxt : x r ⟨file.path, d.line⟩ target with
      | mk outcome r' =>
          rw [hxt] at hr
          dsimp only at hr
          subst hr
          cases outcome with
          | error e =>
              rw [resolveWith_of_error ht hxt] at h
              cases h
          | ok text => exact ⟨_, .mk ht (by rw [hxt]), resolveWith_of_ok ht hxt⟩

theorem resolveWith_of_fills (hx : Restores x) {d d' : Directive} (h : Fills x r file d d') :
    resolveWith x r file d = ⟨.ok (), d', r⟩ := by
  cases h with
  | mk ht htext => exact resolveWith_of_ok ht (Prod.ext htext (hx r ⟨file.path, d.line⟩ _))

/-- Resolving directives succeeds exactly when every directive can be filled, and fills each. -/
theorem resolveEach_outcome_eq_ok_iff (hx : Restores x) {ds : List Directive} :
    (resolveEach x file r ds).outcome = .ok () ↔ ∀ d ∈ ds, ∃ d', Fills x r file d d' := by
  induction ds with
  | nil => simp [resolveEach]
  | cons d ds ih =>
      rw [List.forall_mem_cons, ← ih]
      constructor
      · intro h
        cases hd : resolveWith x r file d with
        | mk outcome d' r' =>
            cases outcome with
            | error e =>
                rw [resolveEach_of_error hd] at h
                cases h
            | ok _ =>
                obtain ⟨d'', hf, hd''⟩ := resolveWith_of_outcome_ok hx (by rw [hd])
                rw [resolveEach_of_ok hd''] at h
                exact ⟨⟨d'', hf⟩, h⟩
      · rintro ⟨⟨d', hf⟩, h⟩
        rw [resolveEach_of_ok (resolveWith_of_fills hx hf)]
        exact h

theorem forall₂_fills (hx : Restores x) {ds : List Directive}
    (h : (resolveEach x file r ds).outcome = .ok ()) :
    List.Forall₂ (Fills x r file) ds (resolveEach x file r ds).directives := by
  induction ds with
  | nil => exact .nil
  | cons d ds ih =>
      obtain ⟨⟨d', hf⟩, hrest⟩ :=
        List.forall_mem_cons.mp ((resolveEach_outcome_eq_ok_iff hx).mp h)
      rw [resolveEach_of_ok (resolveWith_of_fills hx hf)]
      exact .cons hf (ih ((resolveEach_outcome_eq_ok_iff hx).mpr hrest))

theorem resolveEach_of_fills (hx : Restores x) {ds ds' : List Directive}
    (h : List.Forall₂ (Fills x r file) ds ds') : resolveEach x file r ds = ⟨.ok (), ds', r⟩ := by
  induction h with
  | nil => rfl
  | cons hf _ ih => rw [resolveEach_of_ok (resolveWith_of_fills hx hf), ih]

/-! ### The first fault -/

/-- `Fails x r file d e`: the directive `d` cannot be filled, because of `e`. -/
inductive Fails (x : Expander) (r : Resolver) (file : SourceFile) (d : Directive) :
    SourceFault → Prop
  | malformed : file.target? d.line = none →
      Fails x r file d (.malformedInclude ⟨file.path, d.line⟩ ((file.text? d.line).getD ""))
  | expansion {target : String} {e : SourceFault} : file.target? d.line = some target →
      (x r ⟨file.path, d.line⟩ target).1 = .error e → Fails x r file d e

theorem fails_of_resolveWith {d d' : Directive} {e : SourceFault} {r' : Resolver}
    (h : resolveWith x r file d = ⟨.error e, d', r'⟩) : Fails x r file d e := by
  cases ht : file.target? d.line with
  | none =>
      rw [resolveWith_of_none ht] at h
      cases h
      exact .malformed ht
  | some target =>
      cases hxt : x r ⟨file.path, d.line⟩ target with
      | mk outcome s =>
          cases outcome with
          | ok text =>
              rw [resolveWith_of_ok ht hxt] at h
              cases h
          | error e' =>
              rw [resolveWith_of_error ht hxt] at h
              cases h
              exact .expansion ht (by rw [hxt])

/-- A fault in resolving directives is that of the first one which cannot be filled. -/
theorem exists_fails_of_resolveEach (hx : Restores x) {ds : List Directive} {e : SourceFault}
    (h : (resolveEach x file r ds).outcome = .error e) :
    ∃ pre d post, ds = pre ++ d :: post ∧ (∀ c ∈ pre, ∃ c', Fills x r file c c') ∧
      Fails x r file d e := by
  induction ds with
  | nil => cases h
  | cons d ds ih =>
      cases hd : resolveWith x r file d with
      | mk outcome d' r' =>
          cases outcome with
          | error e' =>
              rw [resolveEach_of_error hd] at h
              cases h
              exact ⟨[], d, ds, rfl, by simp, fails_of_resolveWith hd⟩
          | ok _ =>
              obtain ⟨d'', hf, hd''⟩ := resolveWith_of_outcome_ok hx (by rw [hd])
              rw [resolveEach_of_ok hd''] at h
              obtain ⟨pre, c, post, rfl, hpre, hfails⟩ := ih h
              exact ⟨d :: pre, c, post, rfl, List.forall_mem_cons.mpr ⟨⟨d'', hf⟩, hpre⟩, hfails⟩

/-! ### Assembling after a success -/

theorem exists_mem_left_of_forall₂ {α β : Type} {R : α → β → Prop} {l₁ : List α} {l₂ : List β}
    (h : List.Forall₂ R l₁ l₂) : ∀ b ∈ l₂, ∃ a ∈ l₁, R a b := by
  induction h with
  | nil => simp
  | cons hab _ ih =>
      intro b hb
      rcases List.mem_cons.mp hb with rfl | hb
      · exact ⟨_, List.mem_cons_self, hab⟩
      · obtain ⟨a, ha, hr⟩ := ih b hb
        exact ⟨a, List.mem_cons_of_mem _ ha, hr⟩

theorem Fills.line_eq {d d' : Directive} (h : Fills x r file d d') : d'.line = d.line := by
  cases h
  rfl

theorem Fills.resolved_isSome {d d' : Directive} (h : Fills x r file d d') :
    d'.resolved.isSome = true := by
  cases h
  rfl

/-- Filled directives for one line carry one text, since the line alone names the target. -/
theorem Fills.resolved_eq {d₁ d₁' d₂ d₂' : Directive} (h₁ : Fills x r file d₁ d₁')
    (h₂ : Fills x r file d₂ d₂') (hl : d₁.line = d₂.line) : d₁'.resolved = d₂'.resolved := by
  obtain ⟨ht₁, hx₁⟩ := h₁
  obtain ⟨ht₂, hx₂⟩ := h₂
  rw [hl, ht₂] at ht₁
  cases ht₁
  rw [hl, hx₂] at hx₁
  cases hx₁
  rfl

theorem assemble_of_fills {ds ds' : List Directive} (h : List.Forall₂ (Fills x r file) ds ds') :
    file.assemble ds' = .ok ("\n".intercalate (file.segments ds')) := by
  have hf : ds'.find? (fun d => d.resolved.isNone) = none := by
    rw [List.find?_eq_none]
    intro d' hd'
    obtain ⟨d, _, hf⟩ := exists_mem_left_of_forall₂ h d' hd'
    simp [Option.isNone_eq_false_iff.mpr hf.resolved_isSome]
  rw [SourceFile.assemble_eq, hf]

/-- What stands for a line once the directives of its file are filled: the line itself, or the
expansion of the target it names. -/
inductive Stands (x : Expander) (r : Resolver) (text : String) : String → Prop
  | kept : isIncludeLine text = false → Stands x r text text
  | expanded {site : Site} {target segment : String} : isIncludeLine text = true →
      includePath? text = some target → (x r site target).1 = .ok segment → Stands x r text segment

theorem forall₂_stands {ds ds' : List Directive} {marker : Option ℕ}
    (ho : file.outline = .ok ⟨ds, marker⟩) (h : List.Forall₂ (Fills x r file) ds ds') :
    List.Forall₂ (Stands x r) file.texts (file.segments ds') := by
  apply SourceFile.forall₂_segments
  intro i text hi
  obtain ⟨_, rfl⟩ := SourceFile.outline_eq_ok_iff.mp ho
  cases hinc : isIncludeLine text with
  | false =>
      rw [segment_of_forall_ne]
      · exact .kept hinc
      · rintro d' hd' rfl
        obtain ⟨d, hd, hf⟩ := exists_mem_left_of_forall₂ h d' hd'
        obtain ⟨j, hj, rfl⟩ := List.mem_map.mp hd
        obtain ⟨text', hj', hinc'⟩ := SourceFile.mem_linesWhere.mp hj
        rw [hf.line_eq, hj'] at hi
        cases hi
        rw [hinc] at hinc'
        cases hinc'
  | true =>
      have hmem : ({ line := i } : Directive) ∈
          (file.linesWhere isIncludeLine).map (fun i => ({ line := i } : Directive)) :=
        List.mem_map.mpr ⟨i, SourceFile.mem_linesWhere.mpr ⟨text, hi, hinc⟩, rfl⟩
      obtain ⟨d', hd', hf⟩ := exists_mem_left_of_forall₂ h.flip _ hmem
      have hagree : ∀ d₂' ∈ ds', d₂'.line = i → d₂'.resolved = d'.resolved := by
        intro d₂' hd₂' hl
        obtain ⟨d₂, _, hf₂⟩ := exists_mem_left_of_forall₂ h d₂' hd₂'
        exact hf₂.resolved_eq hf (hf₂.line_eq.symm.trans hl)
      cases hf with
      | @mk target expansion ht hx =>
          have htarget : includePath? text = some target := by
            simpa only [SourceFile.target?, hi, Option.getD_some] using ht
          rw [segment_of_forall_resolved ⟨_, hd', rfl⟩ hagree]
          exact .expanded hinc htarget hx

end Resolver

/-! ### A whole pass -/

theorem mapM_eq_ok_iff {ε α β : Type} {o : Option α} {f : α → Except ε β} {o' : Option β} :
    o.mapM f = .ok o' ↔
      (o = none ∧ o' = none) ∨ ∃ a b, o = some a ∧ f a = .ok b ∧ o' = some b := by
  cases o with
  | none => simp [pure, Except.pure, eq_comm]
  | some a =>
      rw [Option.mapM_some]
      cases hf : f a with
      | error e => simp [Functor.map, Except.map, hf]
      | ok b => simp [Functor.map, Except.map, hf, eq_comm]

theorem mapM_eq_error_iff {ε α β : Type} {o : Option α} {f : α → Except ε β} {e : ε} :
    o.mapM f = .error e ↔ ∃ a, o = some a ∧ f a = .error e := by
  cases o with
  | none => simp [pure, Except.pure]
  | some a =>
      rw [Option.mapM_some]
      cases hf : f a with
      | error e' => simp [Functor.map, Except.map, hf]
      | ok b => simp [Functor.map, Except.map, hf]

/-- What a successful pass has done: the outline is found, the block at its marker is read, every
directive is filled, and the segments are joined. -/
theorem preprocessFile_eq_ok_iff {disk : Disk} {baseDir : Path} {maxDepth : ℕ} {file : SourceFile}
    {out : Flattened} :
    preprocessFile disk baseDir maxDepth file = .ok out ↔
      ∃ ds marker, file.outline = .ok ⟨ds, marker⟩ ∧
        marker.mapM (UniformBlock.parse file) = .ok out.block ∧
        (Resolver.resolveEach (Resolver.expandAt disk) file
          ⟨baseDir, maxDepth, [Resolver.identity disk file.path]⟩ ds).outcome = .ok () ∧
        file.assemble (Resolver.resolveEach (Resolver.expandAt disk) file
          ⟨baseDir, maxDepth, [Resolver.identity disk file.path]⟩ ds).directives =
            .ok out.source := by
  unfold preprocessFile
  simp only [Resolver.resolveAll_eq, Resolver.resolveWithin, bind, bind_eq_ok_iff]
  constructor
  · rintro ⟨⟨ds, marker⟩, ho, block, hb, _, hr, source, hs, hout⟩
    cases hout
    exact ⟨ds, marker, ho, hb, hr, hs⟩
  · rintro ⟨ds, marker, ho, hb, hr, hs⟩
    exact ⟨⟨ds, marker⟩, ho, out.block, hb, (), hr, out.source, hs, rfl⟩

end ShaderBuild
