import ShaderBuild.Proofs.Include.Walk

/-! # Unfolding includes

`Unfolds` replaces every include line by the lines of the file it names, unfolded in turn.  A pass
assembles each file from texts that are joined already; joined once, the lines that the file unfolds
to are the same text (`exists_unfolds_of_preprocessFile`).

A line that lines unfold to is one of them, or one of a file that a `Route` of include lines leads
to (`Unfolds.origin`). -/

namespace ShaderBuild

open Resolver

/-! ### Unfolding lines -/

/-- `Unfolds disk baseDir ts ls`: the lines `ts` unfold to `ls`.  An include of a file without lines
leaves a blank line. -/
inductive Unfolds (disk : Disk) (baseDir : Path) : List String → List String → Prop
  | nil : Unfolds disk baseDir [] []
  | text {t : String} {ts ls : List String} : isIncludeLine t = false →
      Unfolds disk baseDir ts ls → Unfolds disk baseDir (t :: ts) (t :: ls)
  | blank {t : String} {w : Visit} {ts ls : List String} : Includes disk baseDir t w →
      w.file.texts = [] → Unfolds disk baseDir ts ls → Unfolds disk baseDir (t :: ts) ("" :: ls)
  | splice {t : String} {w : Visit} {ts gs ls : List String} : Includes disk baseDir t w →
      w.file.texts ≠ [] → Unfolds disk baseDir w.file.texts gs →
      Unfolds disk baseDir ts ls → Unfolds disk baseDir (t :: ts) (gs ++ ls)

section
variable {disk : Disk} {baseDir : Path} {ts ls ls' : List String}

theorem Unfolds.eq_nil_iff (h : Unfolds disk baseDir ts ls) : ls = [] ↔ ts = [] := by
  induction h with
  | nil => simp
  | text => simp
  | blank => simp
  | splice _ hne _ _ ihg _ =>
      constructor
      · intro h
        exact absurd (ihg.mp (List.append_eq_nil_iff.mp h).1) hne
      · intro h
        cases h

/-- Lines unfold in one way at most. -/
theorem Unfolds.unique (h : Unfolds disk baseDir ts ls) (h' : Unfolds disk baseDir ts ls') :
    ls = ls' := by
  induction h generalizing ls' with
  | nil =>
      cases h'
      rfl
  | text hinc _ ih =>
      cases h' with
      | text _ h' => rw [ih h']
      | blank hi _ _ => simp [hi.isIncludeLine] at hinc
      | splice hi _ _ _ => simp [hi.isIncludeLine] at hinc
  | blank hi he _ ih =>
      cases h' with
      | text hinc _ => simp [hi.isIncludeLine] at hinc
      | blank _ _ h' => rw [ih h']
      | splice hi' hne _ _ =>
          rw [hi.unique hi'] at he
          exact absurd he hne
  | splice hi hne _ _ ihg ih =>
      cases h' with
      | text hinc _ => simp [hi.isIncludeLine] at hinc
      | blank hi' he _ =>
          rw [hi.unique hi'] at hne
          exact absurd he hne
      | splice hi' _ hg' h' =>
          cases hi.unique hi'
          rw [ihg hg', ih h']

/-- Lines that stand in front of others unfold in front of them. -/
theorem Unfolds.exists_of_append {ts' : List String} (h : Unfolds disk baseDir (ts ++ ts') ls) :
    ∃ ls₁ ls₂, ls = ls₁ ++ ls₂ ∧ Unfolds disk baseDir ts ls₁ ∧ Unfolds disk baseDir ts' ls₂ := by
  induction ts generalizing ls with
  | nil => exact ⟨[], ls, rfl, .nil, h⟩
  | cons t ts ih =>
      cases h with
      | text hinc h =>
          obtain ⟨ls₁, ls₂, rfl, h₁, h₂⟩ := ih h
          exact ⟨_, ls₂, rfl, .text hinc h₁, h₂⟩
      | blank hi he h =>
          obtain ⟨ls₁, ls₂, rfl, h₁, h₂⟩ := ih h
          exact ⟨_, ls₂, rfl, .blank hi he h₁, h₂⟩
      | splice hi hne hg h =>
          obtain ⟨ls₁, ls₂, rfl, h₁, h₂⟩ := ih h
          exact ⟨_, ls₂, (List.append_assoc _ _ _).symm, .splice hi hne hg h₁, h₂⟩

theorem Unfolds.exists_of_cons_text {t : String} (hinc : isIncludeLine t = false)
    (h : Unfolds disk baseDir (t :: ts) ls) :
    ∃ ls', ls = t :: ls' ∧ Unfolds disk baseDir ts ls' := by
  cases h with
  | text _ h => exact ⟨_, rfl, h⟩
  | blank hi _ _ => rw [hi.isIncludeLine] at hinc; cases hinc
  | splice hi _ _ _ => rw [hi.isIncludeLine] at hinc; cases hinc

end

/-! ### Joins of joins -/

/-- `Puts disk baseDir t seg`: the segment `seg` is a join of lines that may stand for the line
`t`. -/
def Puts (disk : Disk) (baseDir : Path) (t seg : String) : Prop :=
  ∃ part : List String, part ≠ [] ∧ seg = "\n".intercalate part ∧
    ∀ ts ls, Unfolds disk baseDir ts ls → Unfolds disk baseDir (t :: ts) (part ++ ls)

/-- Joining segments that are joins themselves is joining all their lines. -/
theorem exists_unfolds_of_puts {disk : Disk} {baseDir : Path} {ts segs : List String}
    (h : List.Forall₂ (Puts disk baseDir) ts segs) :
    ∃ ls, Unfolds disk baseDir ts ls ∧ "\n".intercalate segs = "\n".intercalate ls := by
  induction h with
  | nil => exact ⟨[], .nil, rfl⟩
  | @cons t seg ts segs hput hrest ih =>
      obtain ⟨part, hne, rfl, hunf⟩ := hput
      obtain ⟨ls, hls, hjoin⟩ := ih
      refine ⟨part ++ ls, hunf ts ls hls, ?_⟩
      by_cases hts : ts = []
      · subst hts
        cases hrest
        cases hls
        simp
      · have hsegs : segs ≠ [] := by
          rintro rfl
          exact hts (List.forall₂_nil_right_iff.mp hrest)
        have hls' : ls ≠ [] := fun he => hts (hls.eq_nil_iff.mp he)
        rw [String.intercalate_cons_of_ne_nil hsegs, hjoin,
          String.intercalate_append_of_ne_nil hne hls']

/-- The segments of a file whose directives are resolved join to its unfolding. -/
theorem exists_unfolds_of_resolved (disk : Disk) (r : Resolver) :
    ∀ (file : SourceFile) (ds : List Directive) (marker : Option ℕ),
      file.outline = .ok ⟨ds, marker⟩ →
      (resolveEach (expandAt disk) file r ds).outcome = .ok () →
      ∃ ls, Unfolds disk r.baseDir file.texts ls ∧
        "\n".intercalate (file.segments (resolveEach (expandAt disk) file r ds).directives) =
          "\n".intercalate ls := by
  induction r using enter_induction with
  | step r ih =>
      intro file ds marker ho h
      apply exists_unfolds_of_puts
      refine (forall₂_stands ho (forall₂_fills (restores_expandAt disk) h)).imp ?_
      rintro t seg (hinc | ⟨_, ht, hx⟩)
      · exact ⟨[t], by simp, by simp, fun ts ls hls => .text hinc hls⟩
      · obtain ⟨known, inner, ds', hopen, hr, hs⟩ := expandAt_eq_ok_iff.mp hx
        obtain ⟨hd, hc, _, hf, ho'⟩ := openTarget_eq_ok_iff.mp hopen
        obtain ⟨gs, hgs, hjoin⟩ := ih hd known inner ds' none ho' hr
        rw [assemble_of_fills (forall₂_fills (restores_expandAt disk) hr)] at hs
        cases hs
        have hi : Includes disk r.baseDir t ⟨known, inner⟩ := ⟨_, ht, hc, hf⟩
        by_cases he : inner.texts = []
        · have hgs' : gs = [] := hgs.eq_nil_iff.mpr he
          refine ⟨[""], by simp, ?_, fun ts ls hls => .blank hi he hls⟩
          rw [hjoin, hgs']
          rfl
        · exact ⟨gs, fun h => he (hgs.eq_nil_iff.mp h), hjoin,
            fun ts ls hls => .splice hi he hgs hls⟩

/-! ### The source of a pass -/

/-- The source of a pass is a join of lines that the file unfolds to. -/
theorem exists_unfolds_of_preprocessFile {disk : Disk} {baseDir : Path} {maxDepth : ℕ}
    {file : SourceFile} {out : Flattened}
    (h : preprocessFile disk baseDir maxDepth file = .ok out) :
    ∃ ls, Unfolds disk baseDir file.texts ls ∧ out.source = "\n".intercalate ls := by
  obtain ⟨ds, marker, ho, _, hr, hs⟩ := preprocessFile_eq_ok_iff.mp h
  obtain ⟨ls, hls, hjoin⟩ := exists_unfolds_of_resolved disk _ file ds marker ho hr
  rw [assemble_of_fills (forall₂_fills (restores_expandAt disk) hr), hjoin] at hs
  exact ⟨ls, hls, (Except.ok.inj hs).symm⟩

/-! ### Routes -/

/-- `Route disk baseDir f is g`: the include lines `is`, one file after the other, lead from `f` to
`g`. -/
inductive Route (disk : Disk) (baseDir : Path) : SourceFile → List ℕ → SourceFile → Prop
  | here {f : SourceFile} : Route disk baseDir f [] f
  | into {f g : SourceFile} {i : ℕ} {w : Visit} {is : List ℕ} : Leads disk baseDir f i w →
      Route disk baseDir w.file is g → Route disk baseDir f (i :: is) g

/-- A walk goes on along a route. -/
theorem Walk.exists_of_route {disk : Disk} {baseDir : Path} {top v w : Visit} {ws : List Visit}
    {i : ℕ} {is : List ℕ} {g : SourceFile} (hw : Walk disk baseDir top ws v)
    (hl : Leads disk baseDir v.file i w) (hr : Route disk baseDir w.file is g) :
    ∃ ws' v' i' w', Walk disk baseDir top ws' v' ∧ Leads disk baseDir v'.file i' w' ∧
      w'.file = g := by
  generalize hf : w.file = f at hr
  induction hr generalizing ws v i w with
  | here => exact ⟨ws, v, i, w, hw, hl, hf⟩
  | into hl' _ ih =>
      subst hf
      exact ih (hw.step hl) hl' rfl

/-- Where a line comes from that the lines `ts` unfold to. -/
inductive Origin (disk : Disk) (baseDir : Path) (ts : List String) (l : String) : Prop
  | blank : l = "" → Origin disk baseDir ts l
  | own : l ∈ ts → isIncludeLine l = false → Origin disk baseDir ts l
  | included {t : String} {w : Visit} {is : List ℕ} {g : SourceFile} : t ∈ ts →
      Includes disk baseDir t w → Route disk baseDir w.file is g → l ∈ g.texts →
      isIncludeLine l = false → Origin disk baseDir ts l

theorem Origin.cons {disk : Disk} {baseDir : Path} {ts : List String} {l : String}
    (h : Origin disk baseDir ts l) (t : String) : Origin disk baseDir (t :: ts) l := by
  cases h with
  | blank hb => exact .blank hb
  | own hm hi => exact .own (List.mem_cons_of_mem t hm) hi
  | included ht hw hr hm hi => exact .included (List.mem_cons_of_mem t ht) hw hr hm hi

theorem Unfolds.origin {disk : Disk} {baseDir : Path} {ts ls : List String} {l : String}
    (h : Unfolds disk baseDir ts ls) (hl : l ∈ ls) : Origin disk baseDir ts l := by
  induction h with
  | nil => cases hl
  | @text t ts ls hinc _ ih =>
      rcases List.mem_cons.mp hl with rfl | hl
      · exact .own List.mem_cons_self hinc
      · exact (ih hl).cons t
  | @blank t w ts ls _ _ _ ih =>
      rcases List.mem_cons.mp hl with rfl | hl
      · exact .blank rfl
      · exact (ih hl).cons t
  | @splice t w ts gs ls hinc _ _ _ ihg ih =>
      rcases List.mem_append.mp hl with hl | hl
      · cases ihg hl with
        | blank hb => exact .blank hb
        | own hm hi => exact .included List.mem_cons_self hinc .here hm hi
        | @included u w' is g hu hinc' hr hm hi =>
            obtain ⟨j, hj⟩ := SourceFile.mem_texts_iff.mp hu
            exact .included List.mem_cons_self hinc (.into ⟨u, hj, hinc'⟩ hr) hm hi
      · exact (ih hl).cons t

end ShaderBuild
