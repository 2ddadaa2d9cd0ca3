import Mathlib.Data.Nat.Count

/-!
# Counting identities

Objects are numbered, and `Nat.count` counts those below a bound that satisfy a
predicate. The count follows a change of the predicate at one number.
-/

namespace GrpcLite

variable {p q : Nat → Prop} [DecidablePred p] [DecidablePred q] {n i : Nat}

theorem count_congr (h : ∀ j < n, p j ↔ q j) : Nat.count p n = Nat.count q n :=
  le_antisymm (Nat.count_mono_left fun j hj => (h j hj).mp)
    (Nat.count_mono_left fun j hj => (h j hj).mpr)

/-- A number that starts to satisfy the predicate adds one. -/
theorem count_insert (hi : i < n) (hp : ¬p i) (hq : q i) (h : ∀ j, j ≠ i → (q j ↔ p j)) :
    Nat.count q n = Nat.count p n + 1 := by
  induction n with
  | zero => exact absurd hi (Nat.not_lt_zero i)
  | succ n ih =>
    rw [Nat.count_succ, Nat.count_succ]
    by_cases hin : i = n
    · subst hin
      rw [count_congr fun j hj => h j (Nat.ne_of_lt hj), if_pos hq, if_neg hp, Nat.add_zero]
    · rw [ih (by omega)]
      simp only [h n fun hn => hin hn.symm]
      omega

end GrpcLite
