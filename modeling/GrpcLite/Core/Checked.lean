import Mathlib.Order.Lattice
import Mathlib.Tactic.Ring

/-!
# Checked signed arithmetic

Signed integers of a fixed width with operations that fail where the exact result
leaves the range, and the clamping of an exact result into it.
-/

namespace GrpcLite.Checked

/-- The least value of `w` bits. -/
def minValue (w : Nat) : Int := -2 ^ (w - 1)

/-- The greatest value of `w` bits. -/
def maxValue (w : Nat) : Int := 2 ^ (w - 1) - 1

/-- The value is one of `w` bits. -/
def Fits (w : Nat) (n : Int) : Prop := minValue w ≤ n ∧ n ≤ maxValue w

instance (w : Nat) (n : Int) : Decidable (Fits w n) := inferInstanceAs (Decidable (_ ∧ _))

/-- A signed integer of `w` bits. -/
abbrev Word (w : Nat) := { n : Int // Fits w n }

variable {w : Nat}

/-- The exact result of an operation, none where it overflows. -/
def check (n : Int) : Option (Word w) := if h : Fits w n then some ⟨n, h⟩ else none

/-- Addition. -/
def add (a b : Word w) : Option (Word w) := check (a.val + b.val)

/-- Subtraction. -/
def sub (a b : Word w) : Option (Word w) := check (a.val - b.val)

/-- Negation. -/
def neg (a : Word w) : Option (Word w) := check (-a.val)

/-- The nearest value in the range. -/
def clamp (w : Nat) (n : Int) : Int := max (minValue w) (min n (maxValue w))

theorem minValue_eq (w : Nat) : minValue w = -maxValue w - 1 := by
  unfold minValue maxValue
  ring

theorem minValue_neg (w : Nat) : minValue w < 0 := by
  have h : (0 : Int) < 2 ^ (w - 1) := Int.pow_pos (by decide)
  unfold minValue
  omega

theorem maxValue_nonneg (w : Nat) : 0 ≤ maxValue w := by
  have h := minValue_neg w
  rw [minValue_eq] at h
  omega

theorem check_of_fits {n : Int} (h : Fits w n) : check n = some ⟨n, h⟩ := by
  unfold check
  rw [dif_pos h]

theorem clamp_of_fits {n : Int} (h : Fits w n) : clamp w n = n := by
  unfold clamp
  rw [min_eq_left h.2, max_eq_right h.1]

theorem clamp_of_gt {n : Int} (h : maxValue w ≤ n) : clamp w n = maxValue w := by
  have hmin := minValue_neg w
  have hmax := maxValue_nonneg w
  unfold clamp
  rw [min_eq_right h, max_eq_right (by omega)]

theorem clamp_of_lt {n : Int} (h : n ≤ minValue w) : clamp w n = minValue w := by
  unfold clamp
  exact max_eq_left (le_trans (min_le_left _ _) h)

end GrpcLite.Checked
