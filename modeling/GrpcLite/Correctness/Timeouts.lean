import GrpcLite.Exchange.RequestHeaders

/-!
# The timeout field

The value of `grpc-timeout` reads back as the timeout rounded up to the finest
unit in which it fits into eight digits, and longer timeouts give no shorter
values.
-/

namespace GrpcLite

/-- The units of the timeout field that the library writes. -/
inductive TimeoutUnit
  /-- Microseconds. -/
  | micro
  /-- Milliseconds. -/
  | milli
  /-- Seconds. -/
  | second
  /-- Minutes. -/
  | minute
  /-- Hours. -/
  | hour
  deriving DecidableEq, Repr

namespace TimeoutUnit

/-- Length of a unit in microseconds. -/
def micros : TimeoutUnit → Nat
  | micro => 1
  | milli => 1000
  | second => 1000000
  | minute => 60000000
  | hour => 3600000000

/-- The letter of a unit: `u`, `m`, `S`, `M` or `H`. -/
def letter : TimeoutUnit → UInt8
  | micro => 117
  | milli => 109
  | second => 83
  | minute => 77
  | hour => 72

/-- The unit of a letter. -/
def ofLetter (b : UInt8) : Option TimeoutUnit :=
  [micro, milli, second, minute, hour].find? fun unit => unit.letter == b

/-- The letter of a unit is read back. -/
theorem ofLetter_letter (unit : TimeoutUnit) : ofLetter unit.letter = some unit := by
  cases unit <;> rfl

end TimeoutUnit

/-- How a server reads the field: decimal digits and a unit. -/
def readTimeout (field : Bytes) : Option (Nat × TimeoutUnit) :=
  match field.getLast? with
  | none => none
  | some b =>
    match Protocol.parseDigits 0 field.dropLast, TimeoutUnit.ofLetter b with
    | some value, some unit => some (value, unit)
    | _, _ => none

/-! ## Decimal numbers -/

/-- Digits are read one after the other. -/
theorem parseDigits_append (acc : Nat) (xs ys : Bytes) :
    Protocol.parseDigits acc (xs ++ ys) =
      (Protocol.parseDigits acc xs).bind fun n => Protocol.parseDigits n ys := by
  induction xs generalizing acc with
  | nil => rfl
  | cons b xs ih =>
    simp only [List.cons_append, Protocol.parseDigits]
    split
    · exact ih _
    · rfl

/-- A digit has its value. -/
theorem parseDigits_digitChar {d : Nat} (hd : d < 10) (acc : Nat) :
    Protocol.parseDigits acc (ascii [d.digitChar]) = some (acc * 10 + d) := by
  have hall : ∀ d < 10, Protocol.isDigit (UInt8.ofNat d.digitChar.toNat) = true ∧
      (UInt8.ofNat d.digitChar.toNat).toNat - 48 = d := by decide
  have hdigit := hall d hd
  simp only [ascii, List.map_cons, List.map_nil, Protocol.parseDigits, hdigit.1, hdigit.2, if_true]

/-- A decimal number reads back. -/
theorem parseDigits_decimal (n : Nat) : Protocol.parseDigits 0 (decimal n) = some n := by
  induction n using Nat.strongRecOn with
  | ind n ih =>
    by_cases hlt : n < 10
    · rw [decimal, Nat.toDigits_of_lt_base hlt, parseDigits_digitChar hlt]
      simp only [Nat.zero_mul, Nat.zero_add]
    · have hsplit : decimal n = decimal (n / 10) ++ ascii [(n % 10).digitChar] := by
        rw [decimal, Nat.toDigits_of_base_le (by decide) (Nat.le_of_not_lt hlt)]
        simp only [decimal, ascii, List.map_append]
      rw [hsplit, parseDigits_append, ih (n / 10) (Nat.div_lt_self (by omega) (by decide)),
        Option.bind_some, parseDigits_digitChar (Nat.mod_lt _ (by decide))]
      congr 1
      omega

/-- The digits of a number tell its size. -/
theorem length_decimal_le {n k : Nat} (hk : 0 < k) : (decimal n).length ≤ k ↔ n < 10 ^ k := by
  rw [decimal, ascii, List.length_map]
  exact Nat.length_toDigits_le_iff (by decide) hk

/-- A number has a digit. -/
theorem length_decimal_pos (n : Nat) : 0 < (decimal n).length := by
  rw [decimal, ascii, List.length_map]
  exact Nat.length_toDigits_pos

/-! ## The chosen unit -/

/-- The largest value of the field. -/
def maxTimeoutValue : Nat := 99999999

/-- The value and the unit that the library writes for a timeout. -/
def selectTimeout (timeout : Nat) : Nat × TimeoutUnit :=
  if timeout ≤ maxTimeoutValue then (timeout, .micro)
  else if ceilDivTimeout timeout 1000 ≤ maxTimeoutValue then (ceilDivTimeout timeout 1000, .milli)
  else if ceilDivTimeout timeout 1000000 ≤ maxTimeoutValue then
    (ceilDivTimeout timeout 1000000, .second)
  else if ceilDivTimeout timeout 60000000 ≤ maxTimeoutValue then
    (ceilDivTimeout timeout 60000000, .minute)
  else (min (ceilDivTimeout timeout 3600000000) maxTimeoutValue, .hour)

/-- The duration that the server reads. -/
def sentTimeout (timeout : Nat) : Nat :=
  (selectTimeout timeout).1 * (selectTimeout timeout).2.micros

/-- A timeout is written with digits and the letter of its unit. -/
theorem formatTimeoutUs_eq {timeout : Nat} (h : 0 < timeout) : formatTimeoutUs timeout =
    decimal (selectTimeout timeout).1 ++ [(selectTimeout timeout).2.letter] := by
  have hpos : ¬(timeout : Int) ≤ 0 := by omega
  have hmax : maxTimeoutValue = 99999999 := rfl
  simp only [formatTimeoutUs, if_neg hpos, Int.toNat_natCast, ← hmax]
  unfold selectTimeout
  by_cases h₁ : timeout ≤ maxTimeoutValue
  · rw [if_pos h₁, if_pos h₁, TimeoutUnit.letter]
  rw [if_neg h₁, if_neg h₁]
  by_cases h₂ : ceilDivTimeout timeout 1000 ≤ maxTimeoutValue
  · rw [if_pos h₂, if_pos h₂, TimeoutUnit.letter]
  rw [if_neg h₂, if_neg h₂]
  by_cases h₃ : ceilDivTimeout timeout 1000000 ≤ maxTimeoutValue
  · rw [if_pos h₃, if_pos h₃, TimeoutUnit.letter]
  rw [if_neg h₃, if_neg h₃]
  by_cases h₄ : ceilDivTimeout timeout 60000000 ≤ maxTimeoutValue
  · rw [if_pos h₄, if_pos h₄, TimeoutUnit.letter]
  · rw [if_neg h₄, if_neg h₄, TimeoutUnit.letter]

/-- It is read back with that unit. -/
theorem readTimeout_format {timeout : Nat} (h : 0 < timeout) :
    readTimeout (formatTimeoutUs timeout) = some (selectTimeout timeout) := by
  rw [formatTimeoutUs_eq h, readTimeout, List.getLast?_concat, List.dropLast_concat]
  simp only [parseDigits_decimal, TimeoutUnit.ofLetter_letter]

/-- The least multiple of a unit that is not below the value. -/
theorem ceilDivTimeout_spec {unit : Nat} (hunit : 0 < unit) (value : Nat) :
    value ≤ ceilDivTimeout value unit * unit ∧ ceilDivTimeout value unit * unit < value + unit := by
  have hdiv := Nat.div_add_mod value unit
  have hmod := Nat.mod_lt value hunit
  unfold ceilDivTimeout
  rw [Nat.add_mul, Nat.mul_comm (value / unit)]
  split
  · omega
  · omega

/-- A larger unit makes no larger number. -/
theorem ceilDivTimeout_le {unit : Nat} (hunit : 0 < unit) (value : Nat) :
    ceilDivTimeout value unit ≤ value := by
  have hdiv := Nat.div_add_mod value unit
  have hle : value / unit ≤ unit * (value / unit) := Nat.le_mul_of_pos_left _ hunit
  unfold ceilDivTimeout
  split
  · omega
  · omega

/-- Rounding up keeps the order. -/
theorem ceilDivTimeout_mono {unit a b : Nat} (hunit : 0 < unit) (h : a ≤ b) :
    ceilDivTimeout a unit ≤ ceilDivTimeout b unit := by
  by_contra hlt
  have ha := ceilDivTimeout_spec hunit a
  have hb := ceilDivTimeout_spec hunit b
  have hstep : (ceilDivTimeout b unit + 1) * unit ≤ ceilDivTimeout a unit * unit :=
    Nat.mul_le_mul_right _ (by omega)
  rw [Nat.add_mul] at hstep
  omega

/-- No multiple of the unit lies between the value and its rounding. -/
theorem ceilDivTimeout_least {unit value m : Nat} (hunit : 0 < unit) (hdvd : unit ∣ m)
    (h : value ≤ m) : ceilDivTimeout value unit * unit ≤ m := by
  obtain ⟨q, rfl⟩ := hdvd
  have hspec := ceilDivTimeout_spec hunit value
  have hlt : ceilDivTimeout value unit * unit < (q + 1) * unit := by
    rw [Nat.add_mul, Nat.mul_comm q]
    omega
  have hle : ceilDivTimeout value unit ≤ q := Nat.le_of_lt_succ (Nat.lt_of_mul_lt_mul_right hlt)
  rw [Nat.mul_comm unit]
  exact Nat.mul_le_mul_right _ hle

namespace TimeoutUnit

/-- A unit is some microseconds. -/
theorem micros_pos (unit : TimeoutUnit) : 0 < unit.micros := by cases unit <;> decide

/-- An hour is the largest unit. -/
theorem micros_le_hour (unit : TimeoutUnit) : unit.micros ≤ hour.micros := by
  cases unit <;> decide

/-- Every unit is a multiple of the finer ones. -/
theorem micros_dvd {unit unit' : TimeoutUnit} (h : unit.micros ≤ unit'.micros) :
    unit.micros ∣ unit'.micros := by
  revert h
  cases unit <;> cases unit' <;> decide

end TimeoutUnit

/-- A microsecond rounds nothing. -/
theorem ceilDivTimeout_one (value : Nat) : ceilDivTimeout value 1 = value := by
  simp only [ceilDivTimeout, Nat.div_one, Nat.mod_one, ne_eq, not_true_eq_false, if_false,
    Nat.add_zero]

/-- The timeout is rounded up in a unit where it fits, or does not fit in any. -/
structure Selected (timeout value : Nat) (unit : TimeoutUnit) : Prop where
  /-- The value fits. -/
  fits : value ≤ maxTimeoutValue
  /-- The value is the rounded timeout, or all that can be written in hours. -/
  value : value = ceilDivTimeout timeout unit.micros ∨
    (unit = .hour ∧ value = maxTimeoutValue ∧
      maxTimeoutValue < ceilDivTimeout timeout TimeoutUnit.hour.micros)
  /-- The timeout does not fit in finer units. -/
  finest : ∀ unit' : TimeoutUnit, unit'.micros < unit.micros →
    maxTimeoutValue < ceilDivTimeout timeout unit'.micros

/-- The unit is the first in which the digits suffice. -/
theorem selectTimeout_selected (timeout : Nat) :
    Selected timeout (selectTimeout timeout).1 (selectTimeout timeout).2 := by
  have hone : ceilDivTimeout timeout TimeoutUnit.micro.micros = timeout :=
    ceilDivTimeout_one timeout
  unfold selectTimeout
  split
  · next h =>
    refine ⟨h, .inl hone.symm, fun unit' hlt => ?_⟩
    exact absurd hlt (Nat.not_lt.mpr unit'.micros_pos)
  next h₁ =>
  have hmicro : maxTimeoutValue < ceilDivTimeout timeout TimeoutUnit.micro.micros := by omega
  split
  · next h =>
    refine ⟨h, .inl rfl, fun unit' hlt => ?_⟩
    cases unit' with
    | micro => exact hmicro
    | milli | second | minute | hour => simp [TimeoutUnit.micros] at hlt
  next h₂ =>
  have hmilli : maxTimeoutValue < ceilDivTimeout timeout TimeoutUnit.milli.micros :=
    Nat.lt_of_not_le h₂
  split
  · next h =>
    refine ⟨h, .inl rfl, fun unit' hlt => ?_⟩
    cases unit' with
    | micro => exact hmicro
    | milli => exact hmilli
    | second | minute | hour => simp [TimeoutUnit.micros] at hlt
  next h₃ =>
  have hsecond : maxTimeoutValue < ceilDivTimeout timeout TimeoutUnit.second.micros :=
    Nat.lt_of_not_le h₃
  split
  · next h =>
    refine ⟨h, .inl rfl, fun unit' hlt => ?_⟩
    cases unit' with
    | micro => exact hmicro
    | milli => exact hmilli
    | second => exact hsecond
    | minute | hour => simp [TimeoutUnit.micros] at hlt
  · next h₄ =>
    refine ⟨Nat.min_le_right _ _, ?_, fun unit' hlt => ?_⟩
    · rcases Nat.le_total (ceilDivTimeout timeout 3600000000) maxTimeoutValue with hle | hle
      · exact .inl (Nat.min_eq_left hle)
      · rcases Nat.eq_or_lt_of_le hle with heq | hgt
        · exact .inl (Nat.min_eq_left (Nat.le_of_eq heq.symm))
        · exact .inr ⟨rfl, Nat.min_eq_right hle, hgt⟩
    · cases unit' with
      | micro => exact hmicro
      | milli => exact hmilli
      | second => exact hsecond
      | minute => exact Nat.lt_of_not_le h₄
      | hour => simp [TimeoutUnit.micros] at hlt

/-- Longer timeouts are not sent as shorter ones. -/
theorem sentTimeout_mono {a b : Nat} (h : a ≤ b) : sentTimeout a ≤ sentTimeout b := by
  have ha := selectTimeout_selected a
  have hb := selectTimeout_selected b
  unfold sentTimeout
  generalize selectTimeout a = p at *
  generalize selectTimeout b = q at *
  obtain ⟨va, ua⟩ := p
  obtain ⟨vb, ub⟩ := q
  simp only at ha hb ⊢
  rcases hb.value with hvb | ⟨rfl, rfl, -⟩
  · -- What fits for the longer timeout fits for the shorter one.
    have hcoarse : ua.micros ≤ ub.micros := by
      by_contra hlt
      have hover := ha.finest ub (Nat.lt_of_not_le hlt)
      have hmono := ceilDivTimeout_mono ub.micros_pos h
      have hfits := hb.fits
      omega
    rcases ha.value with hva | ⟨rfl, rfl, hover⟩
    · rw [hva]
      refine ceilDivTimeout_least ua.micros_pos ?_ ?_
      · exact Nat.dvd_trans (TimeoutUnit.micros_dvd hcoarse) (Nat.dvd_mul_left _ _)
      · rw [hvb]
        exact Nat.le_trans h (ceilDivTimeout_spec ub.micros_pos b).1
    · have hub : ub.micros = TimeoutUnit.hour.micros :=
        Nat.le_antisymm ub.micros_le_hour hcoarse
      have hmono := ceilDivTimeout_mono ub.micros_pos h
      have hfits := hb.fits
      rw [hub] at hvb hmono
      omega
  · exact Nat.mul_le_mul ha.fits ua.micros_le_hour

/-- The field reads back as the timeout rounded up to the finest unit that has room for it,
nothing overflows on the way, and the durations grow with the timeouts. -/
theorem formatTimeout_readsBack {timeout bufferLen : Nat} (hpos : 0 < timeout)
    (hmax : timeout ≤ 2 ^ 63 - 1) (hbuffer : 10 ≤ bufferLen) :
    ∃ value unit, formatTimeoutUsInto bufferLen timeout = decimal value ++ [unit.letter] ∧
      (1 ≤ (decimal value).length ∧ (decimal value).length ≤ 8) ∧
      readTimeout (formatTimeoutUsInto bufferLen timeout) = some (value, unit) ∧
      ((timeout ≤ value * unit.micros ∧ value * unit.micros < timeout + unit.micros) ∨
        (value = maxTimeoutValue ∧ unit = .hour)) ∧
      (∀ unit' : TimeoutUnit, unit'.micros < unit.micros →
        maxTimeoutValue < ceilDivTimeout timeout unit'.micros) ∧
      (∀ unit' : TimeoutUnit, ceilDivTimeout timeout unit'.micros ≤ 2 ^ 63 - 1) ∧
      ∀ longer, timeout ≤ longer → ∃ value' unit', readTimeout (formatTimeoutUs longer) =
        some (value', unit') ∧ value * unit.micros ≤ value' * unit'.micros := by
  have hsel := selectTimeout_selected timeout
  have hdigits : (decimal (selectTimeout timeout).1).length ≤ 8 :=
    (length_decimal_le (by decide)).mpr (Nat.lt_succ_of_le hsel.fits)
  have hformat := formatTimeoutUs_eq hpos
  have hinto : formatTimeoutUsInto bufferLen timeout = formatTimeoutUs timeout := by
    have hlen : (formatTimeoutUs timeout).length ≤ 9 := by
      rw [hformat, List.length_append]
      exact Nat.add_le_add_right hdigits 1
    exact if_neg (by omega)
  rw [hinto]
  refine ⟨_, _, hformat, ⟨length_decimal_pos _, hdigits⟩, readTimeout_format hpos, ?_,
    hsel.finest, fun unit' => ?_, fun longer hle => ?_⟩
  · rcases hsel.value with hvalue | ⟨hunit, hvalue, -⟩
    · rw [hvalue]
      exact .inl (ceilDivTimeout_spec (TimeoutUnit.micros_pos _) timeout)
    · exact .inr ⟨hvalue, hunit⟩
  · have hle : ceilDivTimeout timeout unit'.micros ≤ timeout :=
      ceilDivTimeout_le unit'.micros_pos timeout
    exact Nat.le_trans hle hmax
  · exact ⟨_, _, readTimeout_format (Nat.lt_of_lt_of_le hpos hle), sentTimeout_mono hle⟩

/-- A timeout just above the microseconds is rounded up to milliseconds. -/
theorem formatTimeout_milliseconds : ∃ value unit,
    formatTimeoutUsInto 32 (100000001 : Nat) = decimal value ++ [unit.letter] ∧
      readTimeout (formatTimeoutUsInto 32 (100000001 : Nat)) = some (value, unit) := by
  obtain ⟨value, unit, hformat, -, hread, -⟩ :=
    @formatTimeout_readsBack 100000001 32 (by decide) (by decide) (by decide)
  exact ⟨value, unit, hformat, hread⟩

end GrpcLite
