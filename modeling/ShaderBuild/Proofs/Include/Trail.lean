import ShaderBuild.Proofs.Include.Walk

/-! # Directives and what stands before them

A directive that a pass may come to is addressed by the include lines that lead to its file, one in
each file, followed by its own line.  In the lexicographic order of addresses a directive stands
before those of the file that it includes, and these before the next one of its own file.

`Precedes` leaves out of this order the directives that lead to the other one.  A directive that
expands has resolved every directive below it (`Trail.resolves`), so what precedes an address is
known to expand once the directives before it in each file on the way are
(`expandsBefore_cons`). -/

namespace ShaderBuild

open Resolver

/-- `Trail disk baseDir ws v is us u`: from the file `v`, at the end of the walk `ws`, the include
lines `is`, one file after the other, lead to `u`, at the end of the walk `us`. -/
inductive Trail (disk : Disk) (baseDir : Path) :
    List Visit → Visit → List ℕ → List Visit → Visit → Prop
  | here {ws : List Visit} {v : Visit} : Trail disk baseDir ws v [] ws v
  | into {ws us : List Visit} {v w u : Visit} {i : ℕ} {is : List ℕ} :
      Leads disk baseDir v.file i w → Trail disk baseDir (ws ++ [w]) w is us u →
      Trail disk baseDir ws v (i :: is) us u

/-- The address `a` stands before `b` and is not on the way to it. -/
def Precedes (a b : List ℕ) : Prop :=
  List.Lex (· < ·) a b ∧ ¬ a <+: b

/-- The directive on line `i` of `v` expands while the files of the walk `ws` are being expanded. -/
def Expands (disk : Disk) (baseDir : Path) (maxDepth : ℕ) (ws : List Visit) (v : Visit) (i : ℕ) :
    Prop :=
  (resolve disk (along baseDir maxDepth ws) v.file { line := i }).outcome = .ok ()

/-- Every directive of `v` expands while the files of the walk `ws` are being expanded. -/
def Resolves (disk : Disk) (baseDir : Path) (maxDepth : ℕ) (ws : List Visit) (v : Visit) : Prop :=
  ∀ i ∈ v.file.linesWhere isIncludeLine, Expands disk baseDir maxDepth ws v i

/-- Every directive that precedes the address `a`, seen from `v` at the end of the walk `ws`,
expands. -/
def ExpandsBefore (disk : Disk) (baseDir : Path) (maxDepth : ℕ) (ws : List Visit) (v : Visit)
    (a : List ℕ) : Prop :=
  ∀ is us u i, Trail disk baseDir ws v is us u → i ∈ u.file.linesWhere isIncludeLine →
    Precedes (is ++ [i]) a → Expands disk baseDir maxDepth us u i

/-! ### The order of addresses -/

theorem precedes_cons_cons_iff {i j : ℕ} {a b : List ℕ} :
    Precedes (i :: a) (j :: b) ↔ i < j ∨ (i = j ∧ Precedes a b) := by
  unfold Precedes
  rw [List.cons_lex_cons_iff, List.cons_prefix_cons]
  constructor
  · rintro ⟨hlt | ⟨rfl, hlex⟩, hpre⟩
    · exact .inl hlt
    · exact .inr ⟨rfl, hlex, fun h => hpre ⟨rfl, h⟩⟩
  · rintro (hlt | ⟨rfl, hlex, hpre⟩)
    · exact ⟨.inl hlt, fun h => absurd h.1 (Nat.ne_of_lt hlt)⟩
    · exact ⟨.inr ⟨rfl, hlex⟩, fun h => hpre h.2⟩

theorem not_precedes_of_nil (b : List ℕ) : ¬ Precedes [] b :=
  fun h => h.2 List.nil_prefix

theorem not_precedes_nil (a : List ℕ) : ¬ Precedes a [] := by
  rintro ⟨hlex, _⟩
  cases hlex

/-! ### Along a trail -/

section
variable {disk : Disk} {baseDir : Path} {maxDepth : ℕ} {ws us : List Visit} {v u w : Visit} {i : ℕ}
  {is a : List ℕ}

/-- A walk goes on along a trail. -/
theorem Trail.walk {top : Visit} (h : Trail disk baseDir ws v is us u)
    (hw : Walk disk baseDir top ws v) : Walk disk baseDir top us u := by
  induction h with
  | here => exact hw
  | into hl _ ih => exact ih (hw.step hl)

theorem expands_iff_exists_fills :
    Expands disk baseDir maxDepth ws v i ↔
      ∃ d', Fills (expandAt disk) (along baseDir maxDepth ws) v.file { line := i } d' := by
  rw [Expands, resolve_eq]
  constructor
  · intro h
    obtain ⟨d', hf, _⟩ := resolveWith_of_outcome_ok (restores_expandAt disk) h
    exact ⟨d', hf⟩
  · rintro ⟨d', hf⟩
    rw [resolveWith_of_fills (restores_expandAt disk) hf]

/-- A directive that expands has resolved those of the file it leads to. -/
theorem Expands.resolves (h : Expands disk baseDir maxDepth ws v i)
    (hl : Leads disk baseDir v.file i w) : Resolves disk baseDir maxDepth (ws ++ [w]) w := by
  obtain ⟨d', hf⟩ := expands_iff_exists_fills.mp h
  obtain ⟨ds', _, _, ho, hr⟩ := hf.exists_openTarget hl
  rw [enter_along] at hr
  intro j hj
  rw [expands_iff_exists_fills]
  apply (resolveEach_outcome_eq_ok_iff (restores_expandAt disk)).mp hr
  rw [(SourceFile.outline_eq_ok_iff.mp ho).2]
  exact List.mem_map.mpr ⟨j, hj, rfl⟩

theorem Trail.resolves (h : Trail disk baseDir ws v is us u)
    (hr : Resolves disk baseDir maxDepth ws v) : Resolves disk baseDir maxDepth us u := by
  induction h with
  | here => exact hr
  | into hl _ ih => exact ih ((hr _ hl.mem_linesWhere).resolves hl)

/-! ### What stands before an address -/

theorem expandsBefore_nil : ExpandsBefore disk baseDir maxDepth ws v [] := by
  intro js us u j _ _ hp
  exact absurd hp (not_precedes_nil _)

/-- What precedes an address is what stands before its first line in the first file, and what
precedes the rest of it in the file that this line leads to. -/
theorem expandsBefore_cons
    (hpre : ∀ j ∈ v.file.linesWhere isIncludeLine, j < i → Expands disk baseDir maxDepth ws v j)
    (hin : ∀ w, Leads disk baseDir v.file i w →
      ExpandsBefore disk baseDir maxDepth (ws ++ [w]) w a) :
    ExpandsBefore disk baseDir maxDepth ws v (i :: a) := by
  intro js us u j ht hj hp
  cases ht with
  | here =>
      rcases precedes_cons_cons_iff.mp hp with hlt | ⟨_, hn⟩
      · exact hpre j hj hlt
      · exact absurd hn (not_precedes_of_nil a)
  | @into _ _ _ w _ k ks hl ht =>
      rcases precedes_cons_cons_iff.mp hp with hlt | ⟨rfl, hp'⟩
      · exact ht.resolves ((hpre k hl.mem_linesWhere hlt).resolves hl) j hj
      · exact hin w hl ks us u j ht hj hp'

end

end ShaderBuild
