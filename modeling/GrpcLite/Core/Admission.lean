import Mathlib.Algebra.BigOperators.Group.List.Basic
import Mathlib.Algebra.Order.Ring.Int
import Mathlib.Data.List.Infix

/-!
# Admission within a budget

Elements are admitted one by one while there is room and budget for them. The
first one without either closes the admission, so what is admitted is the longest
prefix within the limits.
-/

namespace Admission

variable {α : Type*} (weight : α → Nat)

/-- There is room and budget for all elements. -/
structure Within (room budget : Nat) (xs : List α) : Prop where
  /-- There are not too many. -/
  length : xs.length ≤ room
  /-- They are not too heavy together. -/
  weight : (xs.map weight).sum ≤ budget

instance (room budget : Nat) (xs : List α) : Decidable (Within weight room budget xs) :=
  decidable_of_iff (xs.length ≤ room ∧ (xs.map weight).sum ≤ budget)
    ⟨fun h => ⟨h.1, h.2⟩, fun h => ⟨h.1, h.2⟩⟩

/-- The elements that are admitted. -/
def admitted : Nat → Nat → List α → List α
  | _, _, [] => []
  | 0, _, _ :: _ => []
  | room + 1, budget, x :: xs =>
    if weight x ≤ budget then x :: admitted room (budget - weight x) xs else []

variable {weight}

theorem Within.nil (room budget : Nat) : Within weight room budget ([] : List α) :=
  ⟨Nat.zero_le _, Nat.zero_le _⟩

theorem within_cons {room budget : Nat} {x : α} {xs : List α} :
    Within weight (room + 1) budget (x :: xs) ↔
      weight x ≤ budget ∧ Within weight room (budget - weight x) xs := by
  constructor
  · rintro ⟨hlength, hweight⟩
    rw [List.length_cons] at hlength
    rw [List.map_cons, List.sum_cons] at hweight
    exact ⟨by omega, by omega, by omega⟩
  · rintro ⟨hx, hlength, hweight⟩
    refine ⟨by rw [List.length_cons]; omega, ?_⟩
    rw [List.map_cons, List.sum_cons]
    omega

theorem not_within_cons_zero {budget : Nat} {x : α} {xs : List α} :
    ¬Within weight 0 budget (x :: xs) :=
  fun h => absurd h.length (Nat.not_succ_le_zero _)

/-- Fewer elements are within the limits as well. -/
theorem Within.of_append {room budget : Nat} {xs ys : List α}
    (h : Within weight room budget (xs ++ ys)) : Within weight room budget xs := by
  obtain ⟨hlength, hweight⟩ := h
  rw [List.length_append] at hlength
  rw [List.map_append, List.sum_append] at hweight
  exact ⟨by omega, by omega⟩

/-- The order of the elements does not matter for the limits. -/
theorem Within.perm {room budget : Nat} {xs ys : List α} (hperm : xs.Perm ys)
    (h : Within weight room budget xs) : Within weight room budget ys :=
  ⟨hperm.length_eq ▸ h.length, (hperm.map weight).sum_eq ▸ h.weight⟩

theorem admitted_isPrefix (room budget : Nat) (xs : List α) :
    admitted weight room budget xs <+: xs := by
  fun_induction admitted weight room budget xs with
  | case1 => exact List.prefix_rfl
  | case2 => exact List.nil_prefix
  | case3 room budget x xs hx ih => exact List.prefix_cons_inj x |>.mpr ih
  | case4 => exact List.nil_prefix

/-- What is admitted is within the limits. -/
theorem within_admitted (room budget : Nat) (xs : List α) :
    Within weight room budget (admitted weight room budget xs) := by
  fun_induction admitted weight room budget xs with
  | case1 => exact .nil _ _
  | case2 => exact .nil _ _
  | case3 room budget x xs hx ih => exact within_cons.mpr ⟨hx, ih⟩
  | case4 => exact .nil _ _

/-- Everything is admitted exactly when it is within the limits. -/
theorem admitted_eq_self_iff {room budget : Nat} {xs : List α} :
    admitted weight room budget xs = xs ↔ Within weight room budget xs := by
  constructor
  · intro h
    exact h ▸ within_admitted room budget xs
  · fun_induction admitted weight room budget xs with
    | case1 => exact fun _ => rfl
    | case2 => exact fun h => absurd h not_within_cons_zero
    | case3 room budget x xs hx ih =>
      intro h
      rw [ih (within_cons.mp h).2]
    | case4 room budget x xs hx => exact fun h => absurd (within_cons.mp h).1 hx

/-- Behind an element that was not admitted, nothing is. -/
theorem admitted_append_of_not_within {room budget : Nat} {xs : List α} (ys : List α)
    (h : ¬Within weight room budget xs) :
    admitted weight room budget (xs ++ ys) = admitted weight room budget xs := by
  fun_induction admitted weight room budget xs with
  | case1 => exact absurd (.nil _ _) h
  | case2 => rfl
  | case3 room budget x xs hx ih =>
    rw [List.cons_append, admitted, if_pos hx, ih fun hxs => h (within_cons.mpr ⟨hx, hxs⟩)]
  | case4 room budget x xs hx => rw [List.cons_append, admitted, if_neg hx]

/-- One more element behind an admitted list. -/
theorem admitted_concat {room budget : Nat} {xs : List α} (x : α)
    (h : Within weight room budget xs) :
    admitted weight room budget (xs ++ [x]) =
      if Within weight room budget (xs ++ [x]) then xs ++ [x] else xs := by
  split
  · next hall => exact admitted_eq_self_iff.mpr hall
  · next hnot =>
    -- the admitted prefix is at least `xs` and not all of `xs ++ [x]`
    have hself : admitted weight room budget xs = xs := admitted_eq_self_iff.mpr h
    fun_induction admitted weight room budget xs with
    | case1 room budget =>
      cases room with
      | zero => rfl
      | succ room =>
        rw [List.nil_append, admitted, if_neg]
        exact fun hx => hnot (within_cons.mpr ⟨hx, .nil _ _⟩)
    | case2 => exact absurd h not_within_cons_zero
    | case3 room budget y ys hy ih =>
      obtain ⟨-, hys⟩ := within_cons.mp h
      rw [List.cons_append, admitted, if_pos hy, ih hys ?_ (admitted_eq_self_iff.mpr hys)]
      exact fun hall => hnot (within_cons.mpr ⟨hy, hall⟩)
    | case4 room budget y ys hy => exact absurd (within_cons.mp h).1 hy

end Admission
