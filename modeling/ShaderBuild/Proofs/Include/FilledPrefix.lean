import ShaderBuild.Proofs.Include.Walk

/-! # What a failed resolution leaves

Directives are filled in place, one after the other, up to the first that cannot be filled.  That
one may have had its target read before its expansion failed, deep inside other files perhaps, but
its text is given to it last.  So a resolution that fails leaves a filled prefix, then one directive
with the text that it had, and behind it every directive as it was (`resolveEach_error_iff`).  This
holds of directives in any state, those of an earlier resolution among them. -/

namespace ShaderBuild

namespace Resolver

/-- A directive that cannot be filled, afterwards: its target is that of its line, if the line names
one, and its text is what it was. -/
def givenUp (file : SourceFile) (d : Directive) : Directive :=
  { d with target := (file.target? d.line).or d.target }

section
variable {x : Expander} {r : Resolver} {file : SourceFile} {d : Directive} {e : SourceFault}
  {ds ds' before before' : List Directive}

/-! ### One directive -/

/-- A directive that cannot be filled is given up, whether its line or its expansion is at fault. -/
theorem resolveWith_of_fails (hx : Restores x) (h : Fails x r file d e) :
    resolveWith x r file d = ⟨.error e, givenUp file d, r⟩ := by
  cases h with
  | malformed ht =>
      rw [resolveWith_of_none ht, givenUp, ht]
      rfl
  | @expansion target _ ht he =>
      have hxt : x r ⟨file.path, d.line⟩ target = (.error e, r) := Prod.ext he (hx r _ target)
      rw [resolveWith_of_error ht hxt, givenUp, ht]
      rfl

/-! ### All directives of a file -/

/-- Directives that can be filled do not keep the next one from failing, and what stands behind it
is not looked at. -/
theorem resolveEach_of_fails (hx : Restores x)
    (hbefore : List.Forall₂ (Fills x r file) before before') (hd : Fails x r file d e)
    (after : List Directive) :
    resolveEach x file r (before ++ d :: after) =
      ⟨.error e, before' ++ givenUp file d :: after, r⟩ := by
  induction hbefore with
  | nil => exact resolveEach_of_error (resolveWith_of_fails hx hd)
  | cons hf _ ih =>
      rw [List.cons_append, resolveEach_of_ok (resolveWith_of_fills hx hf), ih]
      rfl

/-- Resolving directives succeeds and leaves `ds'` exactly if these are the directives filled. -/
theorem resolveEach_ok_iff (hx : Restores x) :
    (resolveEach x file r ds).outcome = .ok () ∧ (resolveEach x file r ds).directives = ds' ↔
      List.Forall₂ (Fills x r file) ds ds' := by
  constructor
  · rintro ⟨ho, rfl⟩
    exact forall₂_fills hx ho
  · intro h
    rw [resolveEach_of_fills hx h]
    exact ⟨rfl, rfl⟩

/-- Resolving directives fails and leaves `ds'` exactly if these are the directives with those
before the first failing one filled, and that one given up. -/
theorem resolveEach_error_iff (hx : Restores x) :
    (resolveEach x file r ds).outcome = .error e ∧ (resolveEach x file r ds).directives = ds' ↔
      ∃ before before' d after, ds = before ++ d :: after ∧
        ds' = before' ++ givenUp file d :: after ∧
        List.Forall₂ (Fills x r file) before before' ∧ Fails x r file d e := by
  constructor
  · rintro ⟨ho, rfl⟩
    obtain ⟨before, d, after, rfl, hpre, hd⟩ := exists_fails_of_resolveEach hx ho
    have hbefore := forall₂_fills hx ((resolveEach_outcome_eq_ok_iff hx).mpr hpre)
    refine ⟨before, _, d, after, rfl, ?_, hbefore, hd⟩
    rw [resolveEach_of_fails hx hbefore hd]
  · rintro ⟨before, before', d, after, rfl, rfl, hbefore, hd⟩
    rw [resolveEach_of_fails hx hbefore hd]
    exact ⟨rfl, rfl⟩

end

/-- Resolving the directives of a file either fills all of them, or fills those before the first
that fails, gives this one up, and leaves the others as they are.  The directive that is given up
stands for the same line and has the same text as before, none if it had none; its target is that of
its line, or as before if the line is malformed. -/
theorem resolveAll_fills_prefix (disk : Disk) (r : Resolver) (file : SourceFile)
    (ds ds' : List Directive) :
    ((resolveAll disk r file ds).outcome = .ok () ∧ (resolveAll disk r file ds).directives = ds' ↔
      List.Forall₂ (Fills (expandAt disk) (r.enter (identity disk file.path)) file) ds ds') ∧
    ∀ e, (resolveAll disk r file ds).outcome = .error e ∧
        (resolveAll disk r file ds).directives = ds' ↔
      ∃ before before' d d' after, ds = before ++ d :: after ∧ ds' = before' ++ d' :: after ∧
        List.Forall₂ (Fills (expandAt disk) (r.enter (identity disk file.path)) file)
          before before' ∧
        Fails (expandAt disk) (r.enter (identity disk file.path)) file d e ∧
        d'.line = d.line ∧ d'.resolved = d.resolved ∧
        d'.target = (file.target? d.line).or d.target := by
  rw [resolveAll_eq]
  refine ⟨resolveEach_ok_iff (restores_expandAt disk), fun e => ?_⟩
  refine (resolveEach_error_iff (restores_expandAt disk)).trans ?_
  constructor
  · rintro ⟨before, before', d, after, hds, hds', hbefore, hd⟩
    exact ⟨before, before', d, givenUp file d, after, hds, hds', hbefore, hd, rfl, rfl, rfl⟩
  · rintro ⟨before, before', d, ⟨line, target, resolved⟩, after, hds, hds', hbefore, hd, rfl, rfl,
      rfl⟩
    exact ⟨before, before', d, after, hds, hds', hbefore, hd⟩

/-- A second resolution comes to a cycle one file down.  The directive at fault keeps the text of
the first one, and the malformed one behind it is not looked at. -/
example :
    (resolveAll (.ofTexts [("b", "Y"), ("c", "//#INCLUDE \"c\"")]) { baseDir := ⟨[]⟩ }
      (.ofTexts (.ofString "a") ["//#INCLUDE \"b\"", "//#INCLUDE \"c\"", "//#INCLUDE"])
      [⟨0, none, none⟩, ⟨1, some "b", some "X"⟩, ⟨2, none, some "Z"⟩]).directives =
    [⟨0, some "b", some "Y"⟩, ⟨1, some "c", some "X"⟩, ⟨2, none, some "Z"⟩] := by
  decide +kernel

end Resolver

end ShaderBuild
