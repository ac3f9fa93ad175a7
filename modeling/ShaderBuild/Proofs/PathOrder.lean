import ShaderBuild.Path

/-! # The order of paths

Components are ordered by their rank and then by their bytes, and no two have both in common
(`Component.order_eq_eq_iff`).  Paths are ordered as the lists of their components are, so the order
is total (`Path.order_isLE_total`), and only paths of the same components are on one level in it
(`Path.components_eq_of_isLE`). -/

namespace ShaderBuild

namespace Component

open Std

variable {a b : Component}

theorem order_isLE_iff : (order a b).isLE = true ↔
    a.rank < b.rank ∨ a.rank = b.rank ∧ (List.compareLex compare a.bytes b.bytes).isLE = true := by
  rw [order, Ordering.isLE_then_iff_or, Nat.compare_eq_lt, Nat.compare_eq_eq]

theorem order_eq_eq_iff : order a b = .eq ↔ a = b := by
  rw [order, Ordering.then_eq_eq, Nat.compare_eq_eq, LawfulEqCmp.compare_eq_iff_eq]
  constructor
  · rintro ⟨hrank, hbytes⟩
    cases a <;> cases b <;> first | rfl | exact congrArg Component.name hbytes | cases hrank
  · rintro rfl
    exact ⟨rfl, rfl⟩

instance : TransCmp order where
  eq_swap := by
    intro a b
    have hbytes : ∀ xs ys : Bytes,
        List.compareLex compare xs ys = (List.compareLex compare ys xs).swap :=
      fun _ _ => OrientedCmp.eq_swap
    rw [order, order, Ordering.swap_then, ← hbytes, Nat.compare_swap]
  isLE_trans := by
    intro a b c hab hbc
    rw [order_isLE_iff] at hab hbc ⊢
    obtain hab | ⟨hab, hbytes⟩ := hab
    · left
      omega
    · obtain hbc | ⟨hbc, hbytes'⟩ := hbc
      · left
        omega
      · exact .inr ⟨hab.trans hbc, TransCmp.isLE_trans hbytes hbytes'⟩

instance : LawfulEqCmp order where
  eq_of_compare := order_eq_eq_iff.mp
  compare_self := order_eq_eq_iff.mpr rfl

end Component

namespace Path

variable {p q r : Path}

theorem order_isLE_trans (hpq : (p.order q).isLE = true) (hqr : (q.order r).isLE = true) :
    (p.order r).isLE = true := by
  unfold order at hpq hqr ⊢
  exact Std.TransCmp.isLE_trans hpq hqr

theorem order_isLE_total (p q : Path) : ((p.order q).isLE || (q.order p).isLE) = true := by
  have hswap : p.order q = (q.order p).swap := by
    unfold order
    exact Std.OrientedCmp.eq_swap
  rw [hswap]
  cases q.order p <;> rfl

/-- Paths of which none is behind the other have the same components. -/
theorem components_eq_of_isLE (hpq : (p.order q).isLE = true) (hqp : (q.order p).isLE = true) :
    p.components = q.components := by
  unfold order at hpq hqp
  exact Std.LawfulEqCmp.eq_of_compare (Std.OrientedCmp.isLE_antisymm hpq hqp)

theorem order_eq_lt (hpq : (p.order q).isLE = true) (hne : p.components ≠ q.components) :
    p.order q = .lt := by
  unfold order at hpq ⊢
  exact Ordering.isLE_iff_eq_lt_or_eq_eq.mp hpq |>.resolve_right fun h =>
    hne (Std.LawfulEqCmp.eq_of_compare h)

end Path

end ShaderBuild
