import Mathlib.Algebra.Order.Ring.Int
import Mathlib.Data.List.Basic

/-!
# Byte strings and in-place buffers

Byte strings are lists. A fixed buffer is written at an offset, so the length of
the buffer is unchanged exactly while the write stays in bounds. Big-endian
numbers are the four-byte lengths of a message prefix.
-/

namespace GrpcLite

/-- A byte string. -/
abbrev Bytes := List UInt8

/-- Overwrite a buffer from an offset on, as `memcpy(buf + off, src, n)` does. -/
def writeAt (buf : Bytes) (off : Nat) (src : Bytes) : Bytes :=
  buf.take off ++ src ++ buf.drop (off + src.length)

/-- Resize a string, keeping the common prefix; fresh bytes are zero. -/
def resize (buf : Bytes) (n : Nat) : Bytes :=
  buf.take n ++ List.replicate (n - buf.length) 0

/-- The number written by four bytes, most significant first. -/
def be32 (b₁ b₂ b₃ b₄ : UInt8) : Nat :=
  b₁.toNat * 2 ^ 24 + b₂.toNat * 2 ^ 16 + b₃.toNat * 2 ^ 8 + b₄.toNat

/-- A write that stays in bounds keeps the buffer length. -/
theorem length_writeAt {buf src : Bytes} {off : Nat} (h : off + src.length ≤ buf.length) :
    (writeAt buf off src).length = buf.length := by
  simp only [writeAt, List.length_append, List.length_take, List.length_drop]
  omega

/-- The bytes up to the end of a write are the old prefix followed by the new bytes. -/
theorem take_writeAt {buf src : Bytes} {off : Nat} (h : off ≤ buf.length) :
    (writeAt buf off src).take (off + src.length) = buf.take off ++ src := by
  have hl : (buf.take off ++ src).length = off + src.length := by
    simp only [List.length_append, List.length_take]
    omega
  rw [writeAt, ← hl, List.take_left]

/-- Writing at the end of a full prefix and nothing beyond it appends. -/
theorem writeAt_length {buf src : Bytes} {off : Nat} (h : buf.length ≤ off + src.length) :
    writeAt buf off src = buf.take off ++ src := by
  rw [writeAt, List.drop_eq_nil_of_le h, List.append_nil]

@[simp] theorem length_resize (buf : Bytes) (n : Nat) : (resize buf n).length = n := by
  simp only [resize, List.length_append, List.length_take, List.length_replicate]
  omega

theorem be32_lt (b₁ b₂ b₃ b₄ : UInt8) : be32 b₁ b₂ b₃ b₄ < 2 ^ 32 := by
  have h₁ := b₁.toNat_lt
  have h₂ := b₂.toNat_lt
  have h₃ := b₃.toNat_lt
  have h₄ := b₄.toNat_lt
  simp only [be32]
  omega

end GrpcLite
