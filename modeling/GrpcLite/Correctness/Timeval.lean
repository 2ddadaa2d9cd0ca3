import GrpcLite.Surface.Timeval

/-!
# Saturation of the time arithmetic

Addition and subtraction give the exact result clamped into the range of the
type, and no signed operation on the way overflows.
-/

namespace GrpcLite

open Checked

variable (a b : ZendLong)

theorem saturatingAdd_eq :
    (saturatingAdd a b).map Subtype.val = some (clamp 64 (a.val + b.val)) := by
  obtain ⟨ha₁, ha₂⟩ := a.property
  obtain ⟨hb₁, hb₂⟩ := b.property
  have hmin : minValue 64 = -maxValue 64 - 1 := minValue_eq 64
  unfold saturatingAdd
  by_cases hpos : b.val > 0
  · have hroom : Fits 64 (zendLongMax.val - b.val) := by
      simp only [Fits, zendLongMax]
      omega
    rw [if_pos hpos, sub, check_of_fits hroom]
    by_cases hover : a.val > zendLongMax.val - b.val
    · simp only [Option.bind_eq_bind, Option.bind_some, if_pos hover, Option.map_some]
      rw [clamp_of_gt]
      · rfl
      · simp only [zendLongMax] at hover
        omega
    · have hfits : Fits 64 (a.val + b.val) := by
        simp only [Fits]
        simp only [zendLongMax] at hover
        omega
      simp only [Option.bind_eq_bind, Option.bind_some, if_neg hover, add]
      rw [check_of_fits hfits, clamp_of_fits hfits]
      rfl
  · rw [if_neg hpos]
    by_cases hneg : b.val < 0
    · have hroom : Fits 64 (zendLongMin.val - b.val) := by
        simp only [Fits, zendLongMin]
        omega
      rw [if_pos hneg, sub, check_of_fits hroom]
      by_cases hunder : a.val < zendLongMin.val - b.val
      · simp only [Option.bind_eq_bind, Option.bind_some, if_pos hunder, Option.map_some]
        rw [clamp_of_lt]
        · rfl
        · simp only [zendLongMin] at hunder
          omega
      · have hfits : Fits 64 (a.val + b.val) := by
          simp only [Fits]
          simp only [zendLongMin] at hunder
          omega
        simp only [Option.bind_eq_bind, Option.bind_some, if_neg hunder, add]
        rw [check_of_fits hfits, clamp_of_fits hfits]
        rfl
    · have hfits : Fits 64 (a.val + b.val) := by
        simp only [Fits]
        omega
      rw [if_neg hneg, add, check_of_fits hfits, clamp_of_fits hfits]
      rfl

/-- The difference is exact unless a negative value meets the least one, whose negation does
not exist: there it is one too small. -/
theorem saturatingSubtract_eq :
    (saturatingSubtract a b).map Subtype.val =
      some (if b.val = minValue 64 ∧ a.val < 0 then a.val - b.val - 1
        else clamp 64 (a.val - b.val)) := by
  obtain ⟨ha₁, ha₂⟩ := a.property
  obtain ⟨hb₁, hb₂⟩ := b.property
  have hmin : minValue 64 = -maxValue 64 - 1 := minValue_eq 64
  unfold saturatingSubtract
  by_cases hlast : b.val = zendLongMin.val
  · rw [if_pos hlast]
    simp only [zendLongMin] at hlast
    by_cases hnn : a.val ≥ 0
    · rw [if_pos hnn, if_neg (by omega), clamp_of_gt (by omega)]
      rfl
    · have hsum : Fits 64 (a.val + zendLongMax.val) := by
        simp only [Fits, zendLongMax]
        omega
      rw [if_neg hnn, saturatingAdd_eq, clamp_of_fits hsum, if_pos ⟨hlast, by omega⟩]
      simp only [zendLongMax, Option.some.injEq]
      omega
  · have hopposite : Fits 64 (-b.val) := by
      simp only [Fits]
      simp only [zendLongMin] at hlast
      omega
    rw [if_neg hlast, neg, check_of_fits hopposite, if_neg fun h => hlast h.1]
    simp only [Option.bind_eq_bind, Option.bind_some]
    rw [saturatingAdd_eq, Int.sub_eq_add_neg]

namespace Timeval

/-- The microseconds of a sum or a difference, none after an overflow. -/
def result (r : Option Timeval) : Option Int := r.map fun t => t.microseconds.val

/-- The sum is the exact one, clamped into the range. -/
def AddsExactly (this other : Timeval) : Prop :=
  result (this.add other) = some (clamp 64 (this.microseconds.val + other.microseconds.val))

/-- Both operations give the exact result, clamped into the range. -/
def SaturatesExactly (this other : Timeval) : Prop :=
  this.AddsExactly other ∧
    result (this.subtract other) =
      some (clamp 64 (this.microseconds.val - other.microseconds.val))

theorem result_map (r : Option ZendLong) : result (r.map Timeval.mk) = r.map Subtype.val := by
  cases r with
  | none => rfl
  | some _ => rfl

/-- Nothing overflows on the way to a sum, and every sum is exact. -/
theorem addsExactly (this other : Timeval) : this.AddsExactly other :=
  (result_map _).trans (saturatingAdd_eq this.microseconds other.microseconds)

/-- Nothing overflows, every sum is exact, and a difference is exact unless the least value is
subtracted from a negative one. -/
theorem saturatesExactly_iff (this other : Timeval) :
    this.AddsExactly other ∧ (this.subtract other).isSome = true ∧
      (this.SaturatesExactly other ↔
        other.microseconds.val ≠ minValue 64 ∨ 0 ≤ this.microseconds.val) := by
  have hadd := this.addsExactly other
  have hsub : result (this.subtract other) = some _ :=
    (result_map _).trans (saturatingSubtract_eq this.microseconds other.microseconds)
  refine ⟨hadd, ?_, ?_⟩
  · obtain ⟨t, ht, -⟩ := Option.map_eq_some_iff.mp hsub
    rw [ht]
    rfl
  unfold SaturatesExactly
  rw [hsub, and_iff_right hadd]
  by_cases hlast : other.microseconds.val = minValue 64 ∧ this.microseconds.val < 0
  · obtain ⟨ha₁, ha₂⟩ := this.microseconds.property
    have hmin : minValue 64 = -maxValue 64 - 1 := minValue_eq 64
    have hexact : Fits 64 (this.microseconds.val - other.microseconds.val) := by
      rw [hlast.1, Fits]
      omega
    rw [if_pos hlast, clamp_of_fits hexact]
    simp only [Option.some.injEq]
    omega
  · rw [if_neg hlast]
    simp only [true_iff]
    omega

/-- Minus one minus the least value is the greatest one, not the one before it. -/
theorem subtract_infPast_inexact :
    ¬SaturatesExactly ⟨⟨-1, by decide⟩⟩ infPast ∧
      result (subtract ⟨⟨-1, by decide⟩⟩ infPast) = some (2 ^ 63 - 2) ∧
      clamp 64 (-1 - infPast.microseconds.val) = 2 ^ 63 - 1 := by
  unfold SaturatesExactly AddsExactly
  decide

end Timeval

end GrpcLite
