import GrpcLite.Exchange.Protocol

/-!
# Percent-encoded status messages

The encodings of a byte string leave a byte as it is or write it as a percent
sign with two hexadecimal digits; the percent sign itself is always written so.
Decoding inverts all of them, and a percent sign without two digits behind it
stands for itself.
-/

namespace GrpcLite

namespace Protocol

/-- The hexadecimal digit of a number below sixteen, in upper or lower case. -/
def hexDigit (upper : Bool) (n : Nat) : UInt8 :=
  if n < 10 then UInt8.ofNat (48 + n)
  else if upper then UInt8.ofNat (65 + (n - 10))
  else UInt8.ofNat (97 + (n - 10))

/-- A hexadecimal digit of either case. -/
def isHexDigit (b : UInt8) : Prop :=
  (48 ≤ b.toNat ∧ b.toNat ≤ 57) ∨ (65 ≤ b.toNat ∧ b.toNat ≤ 70) ∨ (97 ≤ b.toNat ∧ b.toNat ≤ 102)

/-- Two hexadecimal digits come first. -/
def StartsWithHexDigits (s : Bytes) : Prop :=
  ∃ high low rest, s = high :: low :: rest ∧ isHexDigit high ∧ isHexDigit low

/-- The second string is a percent-encoding of the first. -/
inductive PercentEncodes : Bytes → Bytes → Prop
  | nil : PercentEncodes [] []
  /-- A byte other than the percent sign is left as it is. -/
  | plain {b : UInt8} {s e : Bytes} (hb : b ≠ 37) (h : PercentEncodes s e) :
    PercentEncodes (b :: s) (b :: e)
  /-- Any byte is escaped, each digit in a case of its own. -/
  | escaped {b : UInt8} {s e : Bytes} (upperHigh upperLow : Bool) (h : PercentEncodes s e) :
    PercentEncodes (b :: s)
      (37 :: hexDigit upperHigh (b.toNat / 16) :: hexDigit upperLow (b.toNat % 16) :: e)

/-! ## Digits -/

theorem hexValue_hexDigit (upper : Bool) {n : Nat} (h : n < 16) :
    hexValue (hexDigit upper n) = some n := by
  have hall : ∀ n < 16, hexValue (hexDigit true n) = some n ∧
      hexValue (hexDigit false n) = some n := by decide
  cases upper with
  | true => exact (hall n h).1
  | false => exact (hall n h).2

theorem hexByte_hexDigit (b : UInt8) (upperHigh upperLow : Bool) :
    hexByte (hexDigit upperHigh (b.toNat / 16)) (hexDigit upperLow (b.toNat % 16)) = some b := by
  have hb := b.toNat_lt
  have hhigh : b.toNat / 16 < 16 := by omega
  have hlow : b.toNat % 16 < 16 := by omega
  have hsum : b.toNat / 16 * 16 + b.toNat % 16 = b.toNat := by omega
  simp only [hexByte, hexValue_hexDigit _ hhigh, hexValue_hexDigit _ hlow, Option.bind_eq_bind,
    Option.bind_some, hsum, UInt8.ofNat_toNat, Option.pure_def]

theorem hexValue_isSome {b : UInt8} : (hexValue b).isSome ↔ isHexDigit b := by
  unfold hexValue isHexDigit
  split
  · simp [*]
  · split
    · simp [*]
    · split
      · simp [*]
      · simp [*]

/-- Two bytes give a byte exactly when both are digits. -/
theorem hexByte_isSome {high low : UInt8} :
    (hexByte high low).isSome ↔ isHexDigit high ∧ isHexDigit low := by
  rw [← hexValue_isSome, ← hexValue_isSome]
  unfold hexByte
  cases hexValue high with
  | none => simp
  | some h =>
    cases hexValue low with
    | none => simp
    | some l => simp

theorem not_isHexDigit_percent : ¬isHexDigit 37 := by
  unfold isHexDigit
  decide

/-! ## Decoding -/

theorem decodeMessage_plain {b : UInt8} (hb : b ≠ 37) (rest : Bytes) :
    decodeMessage (b :: rest) = b :: decodeMessage rest := by
  rw [decodeMessage]
  rintro high low rest' rfl
  exact absurd rfl hb

theorem decodeMessage_escaped {high low b : UInt8} (h : hexByte high low = some b) (rest : Bytes) :
    decodeMessage (37 :: high :: low :: rest) = b :: decodeMessage rest := by
  rw [decodeMessage, h]

/-- A percent sign without two digits behind it stands for itself. -/
theorem decodeMessage_literal {rest : Bytes} (h : ¬StartsWithHexDigits rest) :
    decodeMessage (37 :: rest) = 37 :: decodeMessage rest := by
  match rest, h with
  | [], _ | [_], _ => rfl
  | high :: low :: rest, h =>
    have hnone : hexByte high low = none := by
      rw [← Option.not_isSome_iff_eq_none, hexByte_isSome]
      intro hdigits
      exact h ⟨high, low, rest, rfl, hdigits⟩
    rw [decodeMessage, hnone]

theorem PercentEncodes.decodeMessage_eq {s e : Bytes} (h : PercentEncodes s e) :
    decodeMessage e = s := by
  induction h with
  | nil => rfl
  | plain hb _ ih => rw [decodeMessage_plain hb, ih]
  | escaped upperHigh upperLow _ ih => rw [decodeMessage_escaped (hexByte_hexDigit ..), ih]

/-- A string without percent signs is an encoding of itself. -/
theorem percentEncodes_self {s : Bytes} (h : 37 ∉ s) : PercentEncodes s s := by
  induction s with
  | nil => exact .nil
  | cons b s ih =>
    rw [List.mem_cons, not_or] at h
    exact .plain (Ne.symm h.1) (ih h.2)

/-- No escape reaches over a percent sign, so decoding starts anew there. -/
theorem decodeMessage_append_percent (pre rest : Bytes) :
    decodeMessage (pre ++ 37 :: rest) = decodeMessage pre ++ decodeMessage (37 :: rest) := by
  induction pre using decodeMessage.induct with
  | case1 high low pre b hb ih =>
    simp only [List.cons_append]
    rw [decodeMessage_escaped hb, decodeMessage_escaped hb, ih, List.cons_append]
  | case2 high low pre hnone ih =>
    have hdigits : ∀ tail, ¬StartsWithHexDigits (high :: low :: tail) := by
      rintro tail ⟨high', low', rest', heq, hd⟩
      obtain ⟨rfl, rfl, -⟩ : high = high' ∧ low = low' ∧ tail = rest' := by simpa using heq
      rw [← hexByte_isSome, hnone] at hd
      exact absurd hd (by decide)
    simp only [List.cons_append] at ih ⊢
    rw [decodeMessage_literal (hdigits _), decodeMessage_literal (hdigits _), ih, List.cons_append]
  | case3 b pre hshape ih =>
    by_cases hb : b = 37
    · subst hb
      have hshort : ¬StartsWithHexDigits pre := by
        rintro ⟨high, low, rest', rfl, -⟩
        exact hshape high low rest' rfl rfl
      -- The percent sign behind `pre` is not a digit, so the one in front of it stays literal.
      have hover : ¬StartsWithHexDigits (pre ++ 37 :: rest) := by
        rintro ⟨high, low, rest', heq, hhigh, hlow⟩
        match pre, heq with
        | [], heq =>
          obtain ⟨rfl, -⟩ := List.cons.inj heq
          exact not_isHexDigit_percent hhigh
        | [_], heq =>
          obtain ⟨-, heq⟩ := List.cons.inj heq
          obtain ⟨rfl, -⟩ := List.cons.inj heq
          exact not_isHexDigit_percent hlow
        | x :: y :: pre', _ => exact hshape x y pre' rfl rfl
      rw [List.cons_append, decodeMessage_literal hover, decodeMessage_literal hshort, ih,
        List.cons_append]
    · rw [List.cons_append, decodeMessage_plain hb, decodeMessage_plain hb, ih, List.cons_append]
  | case4 => rfl

/-- Decoding inverts every percent-encoding, changes no string without percent signs, and keeps
a percent sign without two digits behind it, wherever it stands. -/
theorem decodeMessage_inverts :
    (∀ s e, PercentEncodes s e → decodeMessage e = s) ∧
      (∀ s, 37 ∉ s → decodeMessage s = s) ∧
      (∀ pre rest, ¬StartsWithHexDigits rest →
        decodeMessage (pre ++ 37 :: rest) = decodeMessage pre ++ 37 :: decodeMessage rest) := by
  refine ⟨fun s e h => h.decodeMessage_eq, fun s h => (percentEncodes_self h).decodeMessage_eq, ?_⟩
  intro pre rest h
  rw [decodeMessage_append_percent, decodeMessage_literal h]

/-- The text `a%` with the percent sign escaped, a plain text, and the text `%4%41`. -/
theorem decodeMessage_inverts_texts :
    decodeMessage [97, 37, 50, 53] = [97, 37] ∧ decodeMessage [97, 98] = [97, 98] ∧
      decodeMessage ([] ++ 37 :: [52, 37, 52, 49]) = [] ++ 37 :: [52, 65] := by
  refine ⟨decodeMessage_inverts.1 _ _ ?_, decodeMessage_inverts.2.1 _ (by decide), ?_⟩
  · exact .plain (by decide) (.escaped false true .nil)
  · refine decodeMessage_inverts.2.2 [] [52, 37, 52, 49] ?_
    rintro ⟨high, low, rest, heq, -, hlow⟩
    obtain ⟨-, heq⟩ := List.cons.inj heq
    obtain ⟨rfl, -⟩ := List.cons.inj heq
    exact not_isHexDigit_percent hlow

end Protocol

end GrpcLite
