import GrpcLite.Core.Bytes
import Mathlib.Data.List.DropRight

/-!
# Base64

The standard encoding with padding, and a decoder that skips every byte outside
the alphabet and needs no padding. Removing the padding from an encoding loses
nothing: the decoder gives the bytes back.
-/

namespace GrpcLite.Base64

/-- The padding character. -/
def pad : UInt8 := 61

/-- The character of a six-bit value. -/
def digit (n : Nat) : UInt8 :=
  if n < 26 then UInt8.ofNat (65 + n)
  else if n < 52 then UInt8.ofNat (97 + (n - 26))
  else if n < 62 then UInt8.ofNat (48 + (n - 52))
  else if n = 62 then 43
  else 47

/-- The six-bit value of a character of the alphabet. -/
def value (c : UInt8) : Option Nat :=
  if 65 ≤ c ∧ c ≤ 90 then some (c.toNat - 65)
  else if 97 ≤ c ∧ c ≤ 122 then some (c.toNat - 97 + 26)
  else if 48 ≤ c ∧ c ≤ 57 then some (c.toNat - 48 + 52)
  else if c = 43 then some 62
  else if c = 47 then some 63
  else none

/-- The padded encoding, three bytes at a time. -/
def encode : Bytes → Bytes
  | [] => []
  | [a] => [digit (a.toNat / 4), digit (a.toNat % 4 * 16), pad, pad]
  | [a, b] =>
    [digit (a.toNat / 4), digit (a.toNat % 4 * 16 + b.toNat / 16), digit (b.toNat % 16 * 4), pad]
  | a :: b :: c :: rest =>
    digit (a.toNat / 4) :: digit (a.toNat % 4 * 16 + b.toNat / 16) ::
      digit (b.toNat % 16 * 4 + c.toNat / 64) :: digit (c.toNat % 64) :: encode rest

/-- Remove the padding at the end. -/
def trimPadding (text : Bytes) : Bytes := text.rdropWhile (· = pad)

/-- Where a decoder stands: the bytes so far, the number of characters of the current group and
the bits of the next byte that are known. -/
structure Decoder where
  /-- Complete bytes. -/
  out : Bytes
  /-- Characters of the current group. -/
  index : Nat
  /-- Leading bits of the next byte. -/
  bits : Nat
  deriving DecidableEq, Repr

/-- A six-bit value behind the others of its group. -/
def Decoder.push (d : Decoder) (v : Nat) : Decoder :=
  match d.index with
  | 0 => { d with index := 1, bits := v * 4 }
  | 1 => ⟨d.out ++ [UInt8.ofNat (d.bits + v / 16)], 2, v % 16 * 16⟩
  | 2 => ⟨d.out ++ [UInt8.ofNat (d.bits + v / 4)], 3, v % 4 * 64⟩
  | _ => ⟨d.out ++ [UInt8.ofNat (d.bits + v)], 0, 0⟩

/-- One character: nothing outside the alphabet. -/
def Decoder.read (d : Decoder) (c : UInt8) : Decoder :=
  match value c with
  | some v => d.push v
  | none => d

/-- The lenient decoder. -/
def decode (text : Bytes) : Bytes := (text.foldl Decoder.read ⟨[], 0, 0⟩).out

/-! ## The alphabet -/

theorem value_digit {n : Nat} (h : n < 64) : value (digit n) = some n := by
  have hall : ∀ m : Fin 64, value (digit m) = some m.val := by decide
  exact hall ⟨n, h⟩

/-- Characters of the alphabet are letters, digits, plus and slash. -/
def isDigit (c : UInt8) : Bool :=
  (decide (65 ≤ c) && decide (c ≤ 90)) || (decide (97 ≤ c) && decide (c ≤ 122)) ||
    (decide (48 ≤ c) && decide (c ≤ 57)) || decide (c = 43) || decide (c = 47)

theorem isDigit_digit (n : Nat) : isDigit (digit n) = true := by
  by_cases h : n < 64
  · have hall : ∀ m : Fin 64, isDigit (digit m) = true := by decide
    exact hall ⟨n, h⟩
  · have hslash : digit n = 47 := by
      unfold digit
      rw [if_neg (by omega), if_neg (by omega), if_neg (by omega), if_neg (by omega)]
    rw [hslash]
    decide

/-- The characters of an encoding. -/
theorem mem_encode (bs : Bytes) : ∀ c ∈ encode bs, isDigit c = true ∨ c = pad := by
  induction bs using encode.induct with
  | case1 => exact fun c h => absurd h List.not_mem_nil
  | case2 a =>
    intro c h
    simp only [encode, List.mem_cons, List.not_mem_nil, or_false] at h
    rcases h with rfl | rfl | h
    · exact .inl (isDigit_digit _)
    · exact .inl (isDigit_digit _)
    · exact .inr (by simpa using h)
  | case3 a b =>
    intro c h
    simp only [encode, List.mem_cons, List.not_mem_nil, or_false] at h
    rcases h with rfl | rfl | rfl | h
    · exact .inl (isDigit_digit _)
    · exact .inl (isDigit_digit _)
    · exact .inl (isDigit_digit _)
    · exact .inr h
  | case4 a b c rest ih =>
    intro x h
    simp only [encode, List.mem_cons] at h
    rcases h with rfl | rfl | rfl | rfl | h
    · exact .inl (isDigit_digit _)
    · exact .inl (isDigit_digit _)
    · exact .inl (isDigit_digit _)
    · exact .inl (isDigit_digit _)
    · exact ih x h

theorem mem_trimPadding {text : Bytes} {c : UInt8} (h : c ∈ trimPadding text) : c ∈ text :=
  (List.rdropWhile_prefix _ _).subset h

/-! ## Decoding -/

theorem Decoder.read_digit (d : Decoder) {n : Nat} (h : n < 64) : d.read (digit n) = d.push n := by
  rw [Decoder.read, value_digit h]

theorem Decoder.read_pad (d : Decoder) : d.read pad = d := by
  have hvalue : value pad = none := by decide
  rw [Decoder.read, hvalue]

/-- Padding at the end does not matter to the decoder. -/
theorem decode_trimPadding (text : Bytes) : decode (trimPadding text) = decode text := by
  have hskip (d : Decoder) (pads : Bytes) (h : ∀ c ∈ pads, c = pad) :
      pads.foldl Decoder.read d = d := by
    induction pads with
    | nil => rfl
    | cons c pads ih =>
      rw [List.foldl_cons, h c List.mem_cons_self, Decoder.read_pad]
      exact ih fun x hx => h x (List.mem_cons_of_mem _ hx)
  have hsplit : trimPadding text ++ text.rtakeWhile (· = pad) = text :=
    List.rdropWhile_append_rtakeWhile
  have hpads : ∀ c ∈ text.rtakeWhile (· = pad), c = pad := by
    intro c hc
    have hp := List.mem_rtakeWhile_imp hc
    exact of_decide_eq_true hp
  conv_rhs => rw [← hsplit]
  rw [decode, decode, List.foldl_append, hskip _ _ hpads]

/-- From a group boundary, the decoder reads an encoding back. -/
theorem foldl_read_encode (bs out : Bytes) :
    ((encode bs).foldl Decoder.read ⟨out, 0, 0⟩).out = out ++ bs := by
  induction bs using encode.induct generalizing out with
  | case1 => exact (List.append_nil out).symm
  | case2 a =>
    have ha := a.toNat_lt
    simp only [encode, List.foldl_cons, List.foldl_nil, Decoder.read_pad,
      Decoder.read_digit _ (show a.toNat / 4 < 64 by omega),
      Decoder.read_digit _ (show a.toNat % 4 * 16 < 64 by omega), Decoder.push]
    rw [show a.toNat / 4 * 4 + a.toNat % 4 * 16 / 16 = a.toNat by omega, UInt8.ofNat_toNat]
  | case3 a b =>
    have ha := a.toNat_lt
    have hb := b.toNat_lt
    simp only [encode, List.foldl_cons, List.foldl_nil, Decoder.read_pad,
      Decoder.read_digit _ (show a.toNat / 4 < 64 by omega),
      Decoder.read_digit _ (show a.toNat % 4 * 16 + b.toNat / 16 < 64 by omega),
      Decoder.read_digit _ (show b.toNat % 16 * 4 < 64 by omega), Decoder.push]
    rw [show a.toNat / 4 * 4 + (a.toNat % 4 * 16 + b.toNat / 16) / 16 = a.toNat by omega,
      show (a.toNat % 4 * 16 + b.toNat / 16) % 16 * 16 + b.toNat % 16 * 4 / 4 = b.toNat by omega,
      UInt8.ofNat_toNat, UInt8.ofNat_toNat, List.append_assoc]
    rfl
  | case4 a b c rest ih =>
    have ha := a.toNat_lt
    have hb := b.toNat_lt
    have hc := c.toNat_lt
    simp only [encode, List.foldl_cons,
      Decoder.read_digit _ (show a.toNat / 4 < 64 by omega),
      Decoder.read_digit _ (show a.toNat % 4 * 16 + b.toNat / 16 < 64 by omega),
      Decoder.read_digit _ (show b.toNat % 16 * 4 + c.toNat / 64 < 64 by omega),
      Decoder.read_digit _ (show c.toNat % 64 < 64 by omega), Decoder.push]
    rw [ih, show a.toNat / 4 * 4 + (a.toNat % 4 * 16 + b.toNat / 16) / 16 = a.toNat by omega,
      show (a.toNat % 4 * 16 + b.toNat / 16) % 16 * 16 +
        (b.toNat % 16 * 4 + c.toNat / 64) / 4 = b.toNat by omega,
      show (b.toNat % 16 * 4 + c.toNat / 64) % 4 * 64 + c.toNat % 64 = c.toNat by omega]
    simp only [UInt8.ofNat_toNat, List.append_assoc, List.cons_append, List.nil_append]

theorem decode_encode (bs : Bytes) : decode (encode bs) = bs := foldl_read_encode bs []

/-- The decoder reads an encoding without its padding. -/
theorem decode_trimPadding_encode (bs : Bytes) : decode (trimPadding (encode bs)) = bs := by
  rw [decode_trimPadding, decode_encode]

end GrpcLite.Base64
