import Mathlib.Data.List.TakeWhile
import ShaderBuild.Proofs.Source.Outline
import ShaderBuild.Uniform.Block

/-! # Reading a uniform block

A block is read from the lines after its marker up to the first terminator (`blockBody`).  It is
read if there is a terminator and no line before it is bad, and then its fields are those that these
lines declare, in order (`fieldsFrom_eq_ok_iff`).  Otherwise the first bad line is reported, or that
there is no terminator (`exists_of_fieldsFrom_eq_error`). -/

namespace ShaderBuild

/-- Whether a line ends a block. -/
def endsBlock (t : String) : Bool :=
  BlockLine.ofText t = .terminator

/-- The lines of a block whose marker stands in front of `ls`: those before the first terminator. -/
def blockBody (ls : List String) : List String :=
  ls.takeWhile fun t => !endsBlock t

/-- The field that a line of a block declares. -/
def fieldOf (t : String) : Option UniformField :=
  match BlockLine.ofText t with
  | .field f => some f
  | _ => none

/-- The lines `ls` of a block declare `fields`: none of them is bad up to the first terminator, and
the fields declared up to there are `fields`. -/
def Declares (ls : List String) (fields : List UniformField) : Prop :=
  (∀ t ∈ blockBody ls, BlockLine.ofText t ≠ .bad) ∧ (blockBody ls).filterMap fieldOf = fields

/-- The line neither ends a block nor is bad in it. -/
def ContinuesBlock (t : String) : Prop :=
  BlockLine.ofText t ≠ .terminator ∧ BlockLine.ofText t ≠ .bad

theorem endsBlock_iff {t : String} : endsBlock t = true ↔ BlockLine.ofText t = .terminator := by
  unfold endsBlock
  exact decide_eq_true_iff

theorem endsBlock_eq_false_iff {t : String} :
    endsBlock t = false ↔ BlockLine.ofText t ≠ .terminator := by
  unfold endsBlock
  exact decide_eq_false_iff_not

/-! ### The lines of a block -/

theorem blockBody_cons_of_ends {t : String} (h : endsBlock t = true) (ts : List String) :
    blockBody (t :: ts) = [] := by
  simp [blockBody, h]

theorem blockBody_cons {t : String} (h : endsBlock t = false) (ts : List String) :
    blockBody (t :: ts) = t :: blockBody ts := by
  simp [blockBody, h]

/-- Nothing after a terminator counts. -/
theorem blockBody_append_cons {t : String} (h : endsBlock t = true) (ls ts : List String) :
    blockBody (ls ++ t :: ts) = blockBody ls := by
  induction ls with
  | nil => exact blockBody_cons_of_ends h ts
  | cons u ls ih =>
      rw [List.cons_append]
      cases hu : endsBlock u with
      | true => rw [blockBody_cons_of_ends hu, blockBody_cons_of_ends hu]
      | false => rw [blockBody_cons hu, blockBody_cons hu, ih]

theorem blockBody_blockBody (ls : List String) : blockBody (blockBody ls) = blockBody ls :=
  List.takeWhile_idem

theorem declares_blockBody {ls : List String} {fields : List UniformField} :
    Declares (blockBody ls) fields ↔ Declares ls fields := by
  unfold Declares
  rw [blockBody_blockBody]

/-- Lines with a terminator are those of the block, the terminator, and further ones. -/
theorem exists_eq_blockBody_append {ls : List String} (h : (blockBody ls).length < ls.length) :
    ∃ t rest, ls = blockBody ls ++ t :: rest ∧ endsBlock t = true := by
  induction ls with
  | nil => simp [blockBody] at h
  | cons t ls ih =>
      cases ht : endsBlock t with
      | true => exact ⟨t, ls, by rw [blockBody_cons_of_ends ht]; rfl, ht⟩
      | false =>
          rw [blockBody_cons ht, List.length_cons, List.length_cons] at h
          obtain ⟨u, rest, hls, hu⟩ := ih (by omega)
          refine ⟨u, rest, ?_, hu⟩
          rw [blockBody_cons ht, List.cons_append, ← hls]

/-! ### The form of a terminator -/

/-- The first word of a line that begins with no blank begins as the line does. -/
theorem head?_head?_words {t : String} {c : Char} (hc : isBlank c = false)
    (ht : t.toList.head? = some c) :
    ((words t).head?.bind fun w => w.toList.head?) = some c := by
  obtain ⟨cs, hcs⟩ := List.head?_eq_some_iff.mp ht
  obtain ⟨p, ps, hps⟩ : ∃ p ps, pieces isBlank (c :: cs) = (c :: p) :: ps := by
    rw [pieces, if_neg (by simp [hc])]
    cases pieces isBlank cs with
    | nil => exact ⟨[], [], rfl⟩
    | cons p ps => exact ⟨p, ps, rfl⟩
  simp [words, wordsOf, hcs, hps]

theorem head?_words_of_endsBlock {t : String} (h : endsBlock t = true) :
    (words t).head? = some blockTerminator := by
  have ht := endsBlock_iff.mp h
  unfold BlockLine.ofText at ht
  split at ht
  · assumption
  · split at ht
    · cases ht
    · split at ht
      · split at ht <;> cases ht
      · cases ht

theorem isIncludeLine_of_endsBlock {t : String} (h : endsBlock t = true) :
    isIncludeLine t = false := by
  by_contra hi
  rw [Bool.not_eq_false] at hi
  have hi' : t.toList.head? = some '/' := head?_of_beginsWith (s := includeToken) (by decide) hi
  have hw := head?_head?_words (by decide) hi'
  rw [head?_words_of_endsBlock h] at hw
  revert hw
  decide

/-- Inside a block an include line passes for a comment. -/
theorem ofText_of_isIncludeLine {t : String} (h : isIncludeLine t = true) :
    BlockLine.ofText t = .skipped := by
  have hcomment : beginsWith t "//" = true := by
    have htoken : "//".toList <+: includeToken.toList := List.isPrefixOf_iff_prefix.mp (by decide)
    exact List.isPrefixOf_iff_prefix.mpr (htoken.trans (List.isPrefixOf_iff_prefix.mp h))
  have hword : (words t).head? ≠ some blockTerminator := by
    intro hw
    have hends : endsBlock t = true := endsBlock_iff.mpr (by rw [BlockLine.ofText, if_pos hw])
    rw [isIncludeLine_of_endsBlock hends] at h
    cases h
  rw [BlockLine.ofText, if_neg hword, hcomment, Bool.or_true, if_pos rfl]

theorem ne_empty_of_endsBlock {t : String} (h : endsBlock t = true) : t ≠ "" := by
  rintro rfl
  revert h
  decide

/-! ### Reading -/

theorem declares_cons_of_ends {t : String} (h : BlockLine.ofText t = .terminator) (ts : List String)
    (fields : List UniformField) : Declares (t :: ts) fields ↔ fields = [] := by
  unfold Declares
  rw [blockBody_cons_of_ends (endsBlock_iff.mpr h)]
  simp [eq_comm]

theorem not_declares_cons_of_bad {t : String} (h : BlockLine.ofText t = .bad) (ts : List String)
    (fields : List UniformField) : ¬ Declares (t :: ts) fields := by
  rintro ⟨hbad, _⟩
  rw [blockBody_cons (endsBlock_eq_false_iff.mpr (by simp [h]))] at hbad
  exact hbad t List.mem_cons_self h

theorem declares_cons_of_skipped {t : String} (h : BlockLine.ofText t = .skipped) (ts : List String)
    (fields : List UniformField) : Declares (t :: ts) fields ↔ Declares ts fields := by
  have hfield : fieldOf t = none := by simp [fieldOf, h]
  unfold Declares
  rw [blockBody_cons (endsBlock_eq_false_iff.mpr (by simp [h])), List.filterMap_cons_none hfield]
  simp [h]

theorem declares_cons_of_field {t : String} {f : UniformField} (h : BlockLine.ofText t = .field f)
    (ts : List String) (fields : List UniformField) :
    Declares (t :: ts) fields ↔ ∃ fs, fields = f :: fs ∧ Declares ts fs := by
  have hfield : fieldOf t = some f := by simp [fieldOf, h]
  unfold Declares
  rw [blockBody_cons (endsBlock_eq_false_iff.mpr (by simp [h])), List.filterMap_cons_some hfield]
  constructor
  · rintro ⟨hbad, rfl⟩
    exact ⟨_, rfl, fun u hu => hbad u (List.mem_cons_of_mem t hu), rfl⟩
  · rintro ⟨fs, rfl, hbad, rfl⟩
    exact ⟨by simpa [h] using hbad, rfl⟩

/-- Comments and blank lines in front declare nothing. -/
theorem declares_append_of_skipped {ls : List String} (h : ∀ l ∈ ls, BlockLine.ofText l = .skipped)
    (ts : List String) (fields : List UniformField) :
    Declares (ls ++ ts) fields ↔ Declares ts fields := by
  induction ls with
  | nil => rfl
  | cons l ls ih =>
      rw [List.cons_append, declares_cons_of_skipped (h l List.mem_cons_self),
        ih fun u hu => h u (List.mem_cons_of_mem l hu)]

namespace UniformBlock

theorem map_eq_ok_iff {ε α β : Type} {m : Except ε α} {f : α → β} {b : β} :
    m.map f = .ok b ↔ ∃ a, m = .ok a ∧ f a = b := by
  cases m <;> simp [Except.map]

theorem map_eq_error_iff {ε α β : Type} {m : Except ε α} {f : α → β} {e : ε} :
    m.map f = .error e ↔ m = .error e := by
  cases m <;> simp [Except.map]

/-- The lines of a block are read if a terminator follows and none of them is bad. -/
theorem fieldsFrom_eq_ok_iff {file : Path} {start k stop : ℕ} {ls : List String}
    {fields : List UniformField} :
    fieldsFrom file start (numberedFrom k ls) = .ok (fields, stop) ↔
      Declares ls fields ∧ (blockBody ls).length < ls.length ∧
        stop = k + (blockBody ls).length := by
  induction ls generalizing k fields with
  | nil => simp [numberedFrom, fieldsFrom, blockBody]
  | cons t ls ih =>
      cases ht : BlockLine.ofText t with
      | terminator =>
          rw [declares_cons_of_ends ht, blockBody_cons_of_ends (endsBlock_iff.mpr ht)]
          simp [numberedFrom, fieldsFrom, ht, eq_comm]
      | bad => simp [numberedFrom, fieldsFrom, ht, not_declares_cons_of_bad ht]
      | skipped =>
          rw [declares_cons_of_skipped ht,
            blockBody_cons (endsBlock_eq_false_iff.mpr (by simp [ht]))]
          simp only [numberedFrom, fieldsFrom, ht, ih, List.length_cons]
          refine and_congr_right fun _ => ?_
          omega
      | field f =>
          rw [declares_cons_of_field ht,
            blockBody_cons (endsBlock_eq_false_iff.mpr (by simp [ht]))]
          simp only [numberedFrom, fieldsFrom, ht, List.length_cons]
          rw [map_eq_ok_iff]
          constructor
          · rintro ⟨⟨fs, stop'⟩, h, hmap⟩
            cases hmap
            obtain ⟨hd, hlen, hstop⟩ := ih.mp h
            exact ⟨⟨fs, rfl, hd⟩, by omega, by omega⟩
          · rintro ⟨⟨fs, rfl, hd⟩, hlen, hstop⟩
            exact ⟨(fs, stop), ih.mpr ⟨hd, by omega, by omega⟩, rfl⟩

/-- A fault of a block that is not that of its first line is one of the further lines. -/
theorem continues_of_fieldsFrom_cons {file : Path} {start k : ℕ} {t : String} {ls : List String}
    {e : SourceFault} (h : fieldsFrom file start (numberedFrom k (t :: ls)) = .error e)
    (hbad : BlockLine.ofText t ≠ .bad) :
    ContinuesBlock t ∧ fieldsFrom file start (numberedFrom (k + 1) ls) = .error e := by
  unfold ContinuesBlock
  cases ht : BlockLine.ofText t with
  | terminator =>
      simp only [numberedFrom, fieldsFrom, ht] at h
      cases h
  | bad => exact absurd ht hbad
  | skipped =>
      simp only [numberedFrom, fieldsFrom, ht] at h
      exact ⟨by simp, h⟩
  | field f =>
      simp only [numberedFrom, fieldsFrom, ht] at h
      exact ⟨by simp, map_eq_error_iff.mp h⟩

/-- Lines that are no block have no terminator, or a bad line stands before it. -/
theorem exists_of_fieldsFrom_eq_error {file : Path} {start k : ℕ} {ls : List String}
    {e : SourceFault} (h : fieldsFrom file start (numberedFrom k ls) = .error e) :
    (e = .unterminatedBlock ⟨file, start⟩ ∧ ∀ t ∈ ls, ContinuesBlock t) ∨
      ∃ pre t post, ls = pre ++ t :: post ∧ (∀ u ∈ pre, ContinuesBlock u) ∧
        BlockLine.ofText t = .bad ∧ e = .malformedField ⟨file, k + pre.length⟩ t := by
  induction ls generalizing k with
  | nil =>
      cases h
      exact .inl ⟨rfl, by simp⟩
  | cons t ls ih =>
      by_cases hbad : BlockLine.ofText t = .bad
      · simp only [numberedFrom, fieldsFrom, hbad] at h
        cases h
        exact .inr ⟨[], t, ls, rfl, by simp, hbad, rfl⟩
      · obtain ⟨ht, hrest⟩ := continues_of_fieldsFrom_cons h hbad
        rcases ih hrest with ⟨he, hls⟩ | ⟨pre, u, post, rfl, hpre, hu, he⟩
        · exact .inl ⟨he, List.forall_mem_cons.mpr ⟨ht, hls⟩⟩
        · refine .inr ⟨t :: pre, u, post, rfl, List.forall_mem_cons.mpr ⟨ht, hpre⟩, hu, ?_⟩
          rw [he, List.length_cons, Nat.add_right_comm, Nat.add_assoc]

/-- The block at a marker is read from the lines after it. -/
theorem parse_eq_ok_iff {file : SourceFile} {pre rest : List String} {m : String} {b : UniformBlock}
    (hl : file.texts = pre ++ m :: rest) :
    parse file pre.length = .ok b ↔
      Declares rest b.fields ∧ (blockBody rest).length < rest.length ∧ b.name = (words m)[1]? ∧
        b.startLine = pre.length ∧ b.endLine = pre.length + 1 + (blockBody rest).length := by
  have hline : file.text? pre.length = some m := by
    simp [SourceFile.text?_eq, hl]
  have hdrop : file.lines.drop (pre.length + 1) = numberedFrom (pre.length + 1) rest := by
    rw [file.drop_lines, hl]
    simp
  unfold parse
  rw [map_eq_ok_iff, hline, hdrop, Option.bind_some]
  constructor
  · rintro ⟨⟨fields, stop⟩, h, rfl⟩
    obtain ⟨hd, hlen, hstop⟩ := fieldsFrom_eq_ok_iff.mp h
    exact ⟨hd, hlen, rfl, rfl, hstop⟩
  · rintro ⟨hd, hlen, hname, hstart, hend⟩
    refine ⟨(b.fields, b.endLine), fieldsFrom_eq_ok_iff.mpr ⟨hd, hlen, hend⟩, ?_⟩
    rw [← hname, ← hstart]

/-- The lines between the marker of a block and its terminator. -/
def inside (b : UniformBlock) (file : SourceFile) : List String :=
  (file.texts.take b.endLine).drop (b.startLine + 1)

/-- Around the lines inside a block there are its marker and its terminator. -/
theorem exists_lines_eq {file : SourceFile} {i : ℕ} {b : UniformBlock}
    (hm : file.linesWhere isMarkerLine = [i]) (hp : parse file i = .ok b) :
    ∃ pre m t post, file.texts = pre ++ m :: (b.inside file ++ t :: post) ∧
      isMarkerLine m = true ∧ (∀ u ∈ pre, isMarkerLine u = false) ∧
      (∀ u ∈ b.inside file ++ t :: post, isMarkerLine u = false) ∧ endsBlock t = true ∧
      b.name = (words m)[1]? ∧ Declares (b.inside file) b.fields := by
  obtain ⟨pre, m, rest, hl, rfl, hmark, hpre, hrest⟩ := SourceFile.linesWhere_eq_singleton_iff.mp hm
  obtain ⟨hd, hlen, hname, hstart, hend⟩ := (parse_eq_ok_iff hl).mp hp
  obtain ⟨t, post, hsplit, ht⟩ := exists_eq_blockBody_append hlen
  have hinside : b.inside file = blockBody rest := by
    have hdrop : (pre ++ m :: rest).drop (pre.length + 1) = rest := by
      simp
    unfold inside
    rw [hl, hstart, hend, List.drop_take, hdrop, Nat.add_sub_cancel_left]
    exact (List.prefix_iff_eq_take.mp (List.takeWhile_prefix _)).symm
  rw [hinside]
  refine ⟨pre, m, t, post, by rw [← hsplit, hl], hmark, hpre, ?_, ht, hname,
    declares_blockBody.mpr hd⟩
  rwa [← hsplit]

end UniformBlock

end ShaderBuild
