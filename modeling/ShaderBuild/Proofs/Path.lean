import Mathlib.Data.List.Infix
import ShaderBuild.Path

/-! # Names in paths

Paths are put together by appending bytes, and a joint falls inside one piece between slashes
(`exists_pieces_append`).  A path that ends in an extension has a file name
(`Path.exists_fileName?`). -/

namespace ShaderBuild

/-- The pieces of two lists put together: the last of the first and the first of the second grow
into one. -/
theorem exists_pieces_append {α : Type} (sep : α → Bool) (xs ys : List α) :
    ∃ ps p q qs, pieces sep xs = ps ++ [p] ∧ pieces sep ys = q :: qs ∧
      pieces sep (xs ++ ys) = ps ++ (p ++ q) :: qs := by
  obtain ⟨q, qs, hq⟩ := List.exists_cons_of_ne_nil (pieces_ne_nil sep ys)
  induction xs with
  | nil => exact ⟨[], [], q, qs, rfl, hq, hq⟩
  | cons x xs ih =>
      obtain ⟨ps, p, q', qs', hxs, hys, happ⟩ := ih
      rw [hq] at hys
      cases hys
      rw [List.cons_append, pieces, pieces, hxs, happ]
      split
      · exact ⟨[] :: ps, p, q, qs, rfl, hq, rfl⟩
      · cases ps with
        | nil => exact ⟨[], x :: p, q, qs, rfl, hq, rfl⟩
        | cons r ps => exact ⟨(x :: r) :: ps, p, q, qs, rfl, hq, rfl⟩

/-- A separator ends a piece. -/
theorem pieces_append_cons {α : Type} {sep : α → Bool} {x : α} (hx : sep x = true)
    (xs ys : List α) : pieces sep (xs ++ x :: ys) = pieces sep xs ++ pieces sep ys := by
  obtain ⟨ps, p, q, qs, hxs, hys, happ⟩ := exists_pieces_append sep xs (x :: ys)
  rw [pieces, if_pos hx] at hys
  cases hys
  rw [happ, hxs, List.append_nil, List.append_cons]

theorem encode_append (s t : String) : encode (s ++ t) = encode s ++ encode t := by
  simp [encode]

namespace Path

variable {p : Path} {ps : List Bytes} {n : Bytes}

theorem inner_eq_name (h₁ : n ≠ []) (h₂ : n ≠ [dot]) (h₃ : n ≠ [dot, dot]) :
    inner n = some (.name n) := by
  simp [inner, h₁, h₂, h₃]

/-- The last piece of a path is its file name, if it is a name. -/
theorem fileName?_eq_some (hp : pieces (· == slash) p.bytes = ps ++ [n]) (h₁ : n ≠ [])
    (h₂ : n ≠ [dot]) (h₃ : n ≠ [dot, dot]) : p.fileName? = some n := by
  have hn := inner_eq_name h₁ h₂ h₃
  have hlast : p.components.getLast? = some (.name n) := by
    unfold components
    rw [hp]
    split
    · simp only [List.filterMap_append, List.filterMap_cons_some hn, List.filterMap_nil]
      rw [← List.cons_append, List.getLast?_concat]
    · cases ps with
      | nil => simp [relative, hn, h₂]
      | cons q ps => simp [relative, hn]
  unfold fileName?
  rw [hlast]

/-- A path that ends in a dot and an extension without slashes has a file name. -/
theorem exists_fileName? {bs ext : Bytes} (hp : p.bytes = bs ++ dot :: ext)
    (hext : ext.length ≠ 0 ∧ ext.length ≠ 1) (hslash : ∀ b ∈ ext, (b == slash) = false) :
    ∃ n, p.fileName? = some n := by
  obtain ⟨ps, q, r, rs, _, hr, happ⟩ := exists_pieces_append (· == slash) bs (dot :: ext)
  have hone : pieces (· == slash) (dot :: ext) = [dot :: ext] := by
    apply pieces_eq_singleton
    intro b hb
    obtain rfl | hb := List.mem_cons.mp hb
    · rfl
    · exact hslash b hb
  rw [hone] at hr
  cases hr
  have hlen : (q ++ dot :: ext).length = q.length + ext.length + 1 := by simp [Nat.add_assoc]
  refine ⟨q ++ dot :: ext, fileName?_eq_some (hp ▸ happ) ?_ ?_ ?_⟩
  · simp
  · intro h
    rw [h] at hlen
    simp only [List.length_cons, List.length_nil] at hlen
    omega
  · intro h
    rw [h] at hlen
    simp only [List.length_cons, List.length_nil] at hlen
    omega

/-! ### Longer paths -/

/-- A longer path ends as the path that was put behind it. -/
theorem exists_join_bytes (p q : Path) : ∃ bs, (p.join q).bytes = bs ++ q.bytes := by
  unfold join
  split
  · exact ⟨[], rfl⟩
  · split
    · exact ⟨p.bytes, rfl⟩
    · exact ⟨p.bytes ++ [slash], by simp⟩

/-- A longer path starts at the root, or as the path that it was put behind. -/
theorem head?_join (hp : p.bytes ≠ []) (q : Path) :
    (p.join q).bytes.head? = some slash ∨ (p.join q).bytes.head? = p.bytes.head? := by
  unfold join
  split
  · next hq => exact .inl (beq_iff_eq.mp hq)
  · right
    split
    · exact List.head?_append_of_ne_nil _ hp
    · exact List.head?_append_of_ne_nil _ hp

/-- A name that can stand in a directory: neither empty nor `.` nor `..`, and without slashes. -/
def IsPlainName (n : Bytes) : Prop :=
  n ≠ [] ∧ n ≠ [dot] ∧ n ≠ [dot, dot] ∧ ∀ b ∈ n, (b == slash) = false

instance : DecidablePred IsPlainName :=
  fun n => inferInstanceAs
    (Decidable (n ≠ [] ∧ n ≠ [dot] ∧ n ≠ [dot, dot] ∧ ∀ b ∈ n, (b == slash) = false))

theorem IsPlainName.isAbsolute (hn : IsPlainName n) : (Path.mk n).isAbsolute = false := by
  obtain ⟨hne, _, _, hslash⟩ := hn
  cases n with
  | nil => exact absurd rfl hne
  | cons b n => simpa [Path.isAbsolute] using hslash b List.mem_cons_self

/-- A path with a name behind it starts where the path starts. -/
theorem isAbsolute_join (hp : p.bytes ≠ []) (hn : IsPlainName n) :
    (p.join ⟨n⟩).isAbsolute = p.isAbsolute := by
  obtain ⟨bs⟩ := p
  cases bs with
  | nil => exact absurd rfl hp
  | cons b bs =>
      unfold join
      rw [hn.isAbsolute, if_neg Bool.false_ne_true]
      split <;> rfl

/-- The pieces of a path with a name behind it, and those of the path itself. -/
theorem exists_pieces_join (hp : p.bytes ≠ []) (hn : IsPlainName n) :
    ∃ ps blanks, blanks.all (· == []) = true ∧ pieces (· == slash) p.bytes = ps ++ blanks ∧
      pieces (· == slash) (p.join ⟨n⟩).bytes = ps ++ [n] := by
  have hone : pieces (· == slash) n = [n] := pieces_eq_singleton _ hn.2.2.2
  have hslash : ∀ xs ys : Bytes, pieces (· == slash) (xs ++ slash :: ys) =
      pieces (· == slash) xs ++ pieces (· == slash) ys :=
    pieces_append_cons (by decide)
  unfold join
  rw [hn.isAbsolute, if_neg Bool.false_ne_true]
  obtain ⟨bs⟩ := p
  obtain hnil | ⟨bs, b, hbs⟩ := bs.eq_nil_or_concat
  · exact absurd hnil hp
  · rw [List.concat_eq_append] at hbs
    subst hbs
    by_cases hb : b = slash
    · subst hb
      refine ⟨pieces (· == slash) bs, [[]], rfl, hslash bs [], ?_⟩
      simp [hslash, hone]
    · refine ⟨pieces (· == slash) (bs ++ [b]), [], rfl, (List.append_nil _).symm, ?_⟩
      rw [if_neg (by simp [hb]), hslash, hone]

end Path

end ShaderBuild
