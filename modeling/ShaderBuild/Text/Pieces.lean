/-! # Pieces between separators

`pieces sep xs` cuts a list at every element that `sep` accepts and keeps the empty pieces, so a
list with `n` separators has `n + 1` pieces (`length_pieces`), no piece holds a separator
(`not_sep_of_mem_pieces`), and a list without separators is its own only piece
(`pieces_eq_singleton`).  Words, directive tokens and path components are all read through it. -/

namespace ShaderBuild

/-! ### Executable definitions -/

/-- Put `x` in front of the first piece. -/
def consFirst {α : Type} (x : α) : List (List α) → List (List α)
  | [] => [[x]]
  | p :: ps => (x :: p) :: ps

/-- The pieces of a list between the elements that `sep` accepts, empty pieces included. -/
def pieces {α : Type} (sep : α → Bool) : List α → List (List α)
  | [] => [[]]
  | x :: xs => if sep x then [] :: pieces sep xs else consFirst x (pieces sep xs)

/-! ### Shape of the pieces -/

section
variable {α : Type} (sep : α → Bool)

theorem length_consFirst (x : α) {ps : List (List α)} (h : ps ≠ []) :
    (consFirst x ps).length = ps.length := by
  cases ps with
  | nil => exact absurd rfl h
  | cons p ps => rfl

theorem pieces_ne_nil (xs : List α) : pieces sep xs ≠ [] := by
  cases xs with
  | nil => simp [pieces]
  | cons x xs =>
    unfold pieces
    split
    · simp
    · cases pieces sep xs <;> simp [consFirst]

/-- There is one piece more than there are separators. -/
theorem length_pieces (xs : List α) : (pieces sep xs).length = xs.countP sep + 1 := by
  induction xs with
  | nil => rfl
  | cons x xs ih =>
    unfold pieces
    split
    · next h => simp [ih, h]
    · next h => rw [length_consFirst x (pieces_ne_nil sep xs), ih]; simp [h]

/-- No piece holds a separator. -/
theorem not_sep_of_mem_pieces {xs p : List α} (hp : p ∈ pieces sep xs) {x : α} (hx : x ∈ p) :
    sep x = false := by
  induction xs generalizing p with
  | nil =>
    have : p = [] := by simpa [pieces] using hp
    subst this
    cases hx
  | cons y ys ih =>
    unfold pieces at hp
    split at hp
    · rcases List.mem_cons.1 hp with rfl | hp
      · cases hx
      · exact ih hp hx
    · next hy =>
      cases hq : pieces sep ys with
      | nil => exact absurd hq (pieces_ne_nil sep ys)
      | cons q qs =>
        rw [hq] at hp ih
        rcases List.mem_cons.1 hp with rfl | hp
        · rcases List.mem_cons.1 hx with rfl | hx
          · simpa using hy
          · exact ih List.mem_cons_self hx
        · exact ih (List.mem_cons_of_mem q hp) hx

/-- A list without separators is its own only piece. -/
theorem pieces_eq_singleton {xs : List α} (h : ∀ x ∈ xs, sep x = false) : pieces sep xs = [xs] := by
  induction xs with
  | nil => rfl
  | cons x xs ih =>
    have hx : sep x = false := h x List.mem_cons_self
    rw [pieces, if_neg (by simp [hx]), ih fun y hy => h y (List.mem_cons_of_mem x hy)]
    rfl

end

end ShaderBuild
