import GrpcLite.Core.Bytes
import Mathlib.Data.List.Induction
import Mathlib.Data.List.Infix

/-!
# Length-prefixed message framing

A message travels as one flag byte, its length as four big-endian bytes and its
payload. A header check decides, from the one-based index of the message, the
flag and the length, whether a header is accepted. `decode` reads a whole byte
string at once; `feed` is the resumable decoder that sees one byte at a time, so
its independence of chunk boundaries is the fold law. Both agree on every input,
and their messages are the longest accepted prefix of the string.
-/

namespace GrpcLite.Framing

/-- A header check: index from one, flag and length to the reason of a rejection. -/
abbrev Check (ε : Type) := Nat → UInt8 → Nat → Option ε

/-- Where a decoder stands between two bytes. -/
inductive Phase (ε : Type)
  /-- Inside a header, with fewer than five of its bytes. -/
  | header (buf : Bytes)
  /-- Behind an accepted header, with the payload bytes seen so far. -/
  | payload (len : Nat) (got : Bytes)
  /-- A header was rejected; nothing further is read. -/
  | failed (reason : ε)
  deriving DecidableEq, Repr

/-- The complete messages so far and the position inside the next one. -/
structure Decoder (ε : Type) where
  /-- Payloads of the complete messages, in order. -/
  messages : List Bytes
  /-- Position inside the following message. -/
  phase : Phase ε
  deriving DecidableEq, Repr

variable {ε : Type}

/-- A decoder that has seen nothing. -/
def Decoder.start : Decoder ε := ⟨[], .header []⟩

/-- The reason of the rejected header, if one was met. -/
def Decoder.failure (d : Decoder ε) : Option ε :=
  match d.phase with
  | .failed e => some e
  | _ => none

/-- No byte of an unfinished message is held. -/
def Decoder.atBoundary (d : Decoder ε) : Bool :=
  match d.phase with
  | .header buf => buf.isEmpty
  | .payload _ _ => false
  | .failed _ => true

/-- Act on a complete header. -/
def Decoder.accept (check : Check ε) (d : Decoder ε) (flag : UInt8) (len : Nat) : Decoder ε :=
  match check (d.messages.length + 1) flag len with
  | some e => { d with phase := .failed e }
  | none =>
    if len = 0 then ⟨d.messages ++ [[]], .header []⟩ else { d with phase := .payload len [] }

/-- Read one byte. -/
def Decoder.feedByte (check : Check ε) (d : Decoder ε) (b : UInt8) : Decoder ε :=
  match d.phase with
  | .failed _ => d
  | .header buf =>
    match buf with
    | [flag, l₁, l₂, l₃] => d.accept check flag (be32 l₁ l₂ l₃ b)
    | _ => { d with phase := .header (buf ++ [b]) }
  | .payload len got =>
    if got.length + 1 = len then ⟨d.messages ++ [got ++ [b]], .header []⟩
    else { d with phase := .payload len (got ++ [b]) }

/-- Read the bytes of one chunk. -/
def Decoder.feed (check : Check ε) (d : Decoder ε) (bs : Bytes) : Decoder ε :=
  bs.foldl (Decoder.feedByte check) d

/-- One-shot decoding behind the complete messages `done`. -/
def decodeFrom (check : Check ε) : Nat → List Bytes → Bytes → Decoder ε
  | fuel + 1, done, flag :: l₁ :: l₂ :: l₃ :: l₄ :: rest =>
    match check (done.length + 1) flag (be32 l₁ l₂ l₃ l₄) with
    | some e => ⟨done, .failed e⟩
    | none =>
      if be32 l₁ l₂ l₃ l₄ ≤ rest.length then
        decodeFrom check fuel (done ++ [rest.take (be32 l₁ l₂ l₃ l₄)])
          (rest.drop (be32 l₁ l₂ l₃ l₄))
      else ⟨done, .payload (be32 l₁ l₂ l₃ l₄) rest⟩
  | _, done, bs => ⟨done, .header bs⟩

/-- The one-shot reference decoder; every frame takes at least five bytes of fuel. -/
def decode (check : Check ε) (bs : Bytes) : Decoder ε := decodeFrom check bs.length [] bs

/-! ## Chunks -/

@[simp] theorem Decoder.feed_nil (check : Check ε) (d : Decoder ε) : d.feed check [] = d := rfl

@[simp] theorem Decoder.feed_cons (check : Check ε) (d : Decoder ε) (b : UInt8) (bs : Bytes) :
    d.feed check (b :: bs) = (d.feedByte check b).feed check bs := rfl

/-- Feeding two chunks is feeding their concatenation. -/
theorem Decoder.feed_append (check : Check ε) (d : Decoder ε) (bs cs : Bytes) :
    d.feed check (bs ++ cs) = (d.feed check bs).feed check cs := by
  simp only [Decoder.feed, List.foldl_append]

/-- A failed decoder ignores all further bytes. -/
theorem Decoder.feed_failed (check : Check ε) (ms : List Bytes) (e : ε) (bs : Bytes) :
    (⟨ms, .failed e⟩ : Decoder ε).feed check bs = ⟨ms, .failed e⟩ := by
  induction bs with
  | nil => rfl
  | cons b bs ih => simpa only [Decoder.feed_cons, Decoder.feedByte] using ih

/-- Fewer than five bytes of a header are kept as they are. -/
theorem Decoder.feed_header_short (check : Check ε) (ms : List Bytes) (buf bs : Bytes)
    (h : buf.length + bs.length < 5) :
    (⟨ms, .header buf⟩ : Decoder ε).feed check bs = ⟨ms, .header (buf ++ bs)⟩ := by
  induction bs generalizing buf with
  | nil => simp
  | cons b bs ih =>
    have hstep : (⟨ms, .header buf⟩ : Decoder ε).feedByte check b = ⟨ms, .header (buf ++ [b])⟩ := by
      match buf, h with
      | [], _ | [_], _ | [_, _], _ | [_, _, _], _ => rfl
      | _ :: _ :: _ :: _ :: _, h => simp only [List.length_cons] at h; omega
    have hlt : (buf ++ [b]).length + bs.length < 5 := by
      simp only [List.length_append, List.length_cons, List.length_nil] at h ⊢
      omega
    rw [Decoder.feed_cons, hstep, ih _ hlt, List.append_assoc, List.singleton_append]

/-- Five bytes make a header. -/
theorem Decoder.feed_header (check : Check ε) (ms : List Bytes) (flag l₁ l₂ l₃ l₄ : UInt8)
    (rest : Bytes) :
    (⟨ms, .header []⟩ : Decoder ε).feed check (flag :: l₁ :: l₂ :: l₃ :: l₄ :: rest) =
      ((⟨ms, .header []⟩ : Decoder ε).accept check flag (be32 l₁ l₂ l₃ l₄)).feed check rest := rfl

/-- Payload bytes that do not reach past the message either finish it or are kept. -/
theorem Decoder.feed_payload (check : Check ε) (ms : List Bytes) (len : Nat) (got bs : Bytes)
    (hlt : got.length < len) (h : got.length + bs.length ≤ len) :
    (⟨ms, .payload len got⟩ : Decoder ε).feed check bs =
      if got.length + bs.length = len then ⟨ms ++ [got ++ bs], .header []⟩
      else ⟨ms, .payload len (got ++ bs)⟩ := by
  induction bs generalizing got with
  | nil => simp only [Decoder.feed_nil, List.length_nil, Nat.add_zero, List.append_nil,
      (Nat.ne_of_lt hlt), ite_false]
  | cons b bs ih =>
    simp only [List.length_cons] at h ⊢
    rw [Decoder.feed_cons]
    by_cases he : got.length + 1 = len
    · have hnil : bs = [] := List.length_eq_zero_iff.mp (by omega)
      subst hnil
      simp only [Decoder.feedByte, he, ite_true, Decoder.feed_nil, List.length_nil, Nat.zero_add]
    · have hl : (got ++ [b]).length = got.length + 1 := by simp
      simp only [Decoder.feedByte, he, ite_false]
      rw [ih _ (by omega) (by omega), hl, List.append_assoc, List.singleton_append,
        Nat.add_assoc, Nat.add_comm 1]

/-- Input that reaches the end of the message delivers it and goes on behind it. -/
theorem Decoder.feed_payload_finish (check : Check ε) (ms : List Bytes) (len : Nat)
    (got bs : Bytes) (hlt : got.length < len) (h : len ≤ got.length + bs.length) :
    (⟨ms, .payload len got⟩ : Decoder ε).feed check bs =
      (⟨ms ++ [got ++ bs.take (len - got.length)], .header []⟩ : Decoder ε).feed check
        (bs.drop (len - got.length)) := by
  have ht : got.length + (bs.take (len - got.length)).length = len := by
    rw [List.length_take]
    omega
  conv_lhs => rw [← List.take_append_drop (len - got.length) bs, Decoder.feed_append]
  rw [Decoder.feed_payload check ms len got _ hlt ht.le, if_pos ht]

/-- Input that ends inside the message is kept. -/
theorem Decoder.feed_payload_short (check : Check ε) (ms : List Bytes) (len : Nat)
    (got bs : Bytes) (h : got.length + bs.length < len) :
    (⟨ms, .payload len got⟩ : Decoder ε).feed check bs = ⟨ms, .payload len (got ++ bs)⟩ := by
  rw [Decoder.feed_payload check ms len got bs (by omega) h.le, if_neg h.ne]

/-- The payload behind an accepted header, when the input holds all of it. -/
theorem Decoder.feed_accept_finish (check : Check ε) (n : Nat) (ms : List Bytes) (flag : UInt8)
    (rest : Bytes) (hc : check (ms.length + 1) flag n = none) (h : n ≤ rest.length) :
    ((⟨ms, .header []⟩ : Decoder ε).accept check flag n).feed check rest =
      (⟨ms ++ [rest.take n], .header []⟩ : Decoder ε).feed check (rest.drop n) := by
  simp only [Decoder.accept, hc]
  by_cases hz : n = 0
  · subst hz
    simp only [ite_true, List.take_zero, List.drop_zero]
  · rw [if_neg hz]
    exact Decoder.feed_payload_finish check ms n [] rest (Nat.pos_of_ne_zero hz)
      (by simpa only [List.length_nil, Nat.zero_add] using h)

/-- The payload behind an accepted header, when the input ends inside it. -/
theorem Decoder.feed_accept_short (check : Check ε) (n : Nat) (ms : List Bytes) (flag : UInt8)
    (rest : Bytes) (hc : check (ms.length + 1) flag n = none) (h : rest.length < n) :
    ((⟨ms, .header []⟩ : Decoder ε).accept check flag n).feed check rest =
      ⟨ms, .payload n rest⟩ := by
  simp only [Decoder.accept, hc]
  rw [if_neg (by omega), Decoder.feed_payload_short check ms n [] rest
    (by simpa only [List.length_nil, Nat.zero_add] using h), List.nil_append]

/-- Bytes that complete a started header. -/
theorem Decoder.feed_header_finish (check : Check ε) (ms : List Bytes) (buf bs : Bytes)
    (flag l₁ l₂ l₃ l₄ : UInt8) (hb : buf.length < 5)
    (h : buf ++ bs.take (5 - buf.length) = [flag, l₁, l₂, l₃, l₄]) :
    (⟨ms, .header buf⟩ : Decoder ε).feed check bs =
      ((⟨ms, .header []⟩ : Decoder ε).accept check flag (be32 l₁ l₂ l₃ l₄)).feed check
        (bs.drop (5 - buf.length)) := by
  have hshort : (⟨ms, .header buf⟩ : Decoder ε) =
      (⟨ms, .header []⟩ : Decoder ε).feed check buf := by
    rw [Decoder.feed_header_short check ms [] buf (by simpa only [List.length_nil, Nat.zero_add]),
      List.nil_append]
  rw [hshort, ← Decoder.feed_append]
  conv_lhs => rw [← List.take_append_drop (5 - buf.length) bs, ← List.append_assoc, h]
  rfl

/-! ## Room -/

/-- Whether a message of a length finds room behind the messages so far. -/
abbrev Room := List Bytes → Nat → Bool

/-- The byte completes the header or the payload of a message without room. -/
def Decoder.overrunsByte (check : Check ε) (room : Room) (d : Decoder ε) (b : UInt8) : Bool :=
  match d.phase with
  | .failed _ => false
  | .header buf =>
    match buf with
    | [flag, l₁, l₂, l₃] =>
      (check (d.messages.length + 1) flag (be32 l₁ l₂ l₃ b)).isNone &&
        !room d.messages (be32 l₁ l₂ l₃ b)
    | _ => false
  | .payload len got => decide (got.length + 1 = len) && !room d.messages len

/-- Inside a payload its last byte counts. -/
theorem Decoder.overrunsByte_payload (check : Check ε) (room : Room) (ms : List Bytes) (len : Nat)
    (got : Bytes) (b : UInt8) :
    (⟨ms, .payload len got⟩ : Decoder ε).overrunsByte check room b =
      (decide (got.length + 1 = len) && !room ms len) := rfl

/-- Reading the bytes meets a message without room. -/
def Decoder.overruns (check : Check ε) (room : Room) (d : Decoder ε) : Bytes → Bool
  | [] => false
  | b :: bs => d.overrunsByte check room b || (d.feedByte check b).overruns check room bs

/-- Two chunks overrun when one of them does. -/
theorem Decoder.overruns_append (check : Check ε) (room : Room) (d : Decoder ε) (bs cs : Bytes) :
    d.overruns check room (bs ++ cs) =
      (d.overruns check room bs || (d.feed check bs).overruns check room cs) := by
  induction bs generalizing d with
  | nil => exact (Bool.false_or _).symm
  | cons b bs ih => rw [List.cons_append, overruns, overruns, ih, Bool.or_assoc, feed_cons]

/-- Behind a rejected header nothing needs room. -/
theorem Decoder.overruns_failed (check : Check ε) (room : Room) (ms : List Bytes) (e : ε)
    (bs : Bytes) : (⟨ms, .failed e⟩ : Decoder ε).overruns check room bs = false := by
  induction bs with
  | nil => rfl
  | cons b bs ih => exact ih

/-- Nor does a part of a header. -/
theorem Decoder.overruns_header_short (check : Check ε) (room : Room) (ms : List Bytes)
    (buf bs : Bytes) (h : buf.length + bs.length < 5) :
    (⟨ms, .header buf⟩ : Decoder ε).overruns check room bs = false := by
  induction bs generalizing buf with
  | nil => rfl
  | cons b bs ih =>
    rw [List.length_cons] at h
    have hstep : (⟨ms, .header buf⟩ : Decoder ε).overrunsByte check room b = false ∧
        (⟨ms, .header buf⟩ : Decoder ε).feedByte check b = ⟨ms, .header (buf ++ [b])⟩ := by
      match buf, h with
      | [], _ | [_], _ | [_, _], _ | [_, _, _], _ => exact ⟨rfl, rfl⟩
      | _ :: _ :: _ :: _ :: _, h => simp only [List.length_cons] at h; omega
    rw [overruns, hstep.1, hstep.2, Bool.false_or]
    refine ih (buf ++ [b]) ?_
    rw [List.length_append, List.length_singleton]
    omega

/-- A complete header needs room when it is accepted. -/
theorem Decoder.overruns_header_finish (check : Check ε) (room : Room) (ms : List Bytes)
    (buf bs : Bytes) (flag l₁ l₂ l₃ l₄ : UInt8) (hb : buf.length < 5)
    (h : buf ++ bs.take (5 - buf.length) = [flag, l₁, l₂, l₃, l₄]) :
    (⟨ms, .header buf⟩ : Decoder ε).overruns check room bs =
      ((check (ms.length + 1) flag (be32 l₁ l₂ l₃ l₄)).isNone && !room ms (be32 l₁ l₂ l₃ l₄) ||
        ((⟨ms, .header []⟩ : Decoder ε).accept check flag (be32 l₁ l₂ l₃ l₄)).overruns check room
          (bs.drop (5 - buf.length))) := by
  have hshort : (⟨ms, .header buf⟩ : Decoder ε) =
      (⟨ms, .header []⟩ : Decoder ε).feed check buf := by
    rw [Decoder.feed_header_short check ms [] buf (by simpa only [List.length_nil, Nat.zero_add]),
      List.nil_append]
  have hnone : (⟨ms, .header []⟩ : Decoder ε).overruns check room buf = false :=
    overruns_header_short check room ms [] buf (by simpa only [List.length_nil, Nat.zero_add])
  have hsplit := Decoder.overruns_append check room (⟨ms, .header []⟩ : Decoder ε) buf bs
  rw [hnone, Bool.false_or, ← hshort] at hsplit
  rw [← hsplit]
  conv_lhs => rw [← List.take_append_drop (5 - buf.length) bs, ← List.append_assoc, h]
  rfl

/-- Nor does a part of a payload. -/
theorem Decoder.overruns_payload_short (check : Check ε) (room : Room) (ms : List Bytes)
    (len : Nat) (got bs : Bytes) (h : got.length + bs.length < len) :
    (⟨ms, .payload len got⟩ : Decoder ε).overruns check room bs = false := by
  induction bs generalizing got with
  | nil => rfl
  | cons b bs ih =>
    rw [List.length_cons] at h
    have hne : ¬got.length + 1 = len := by omega
    have hstep : (⟨ms, .payload len got⟩ : Decoder ε).feedByte check b =
        ⟨ms, .payload len (got ++ [b])⟩ := if_neg hne
    rw [overruns, hstep, overrunsByte_payload, decide_eq_false hne, Bool.false_and, Bool.false_or]
    refine ih (got ++ [b]) ?_
    rw [List.length_append, List.length_singleton]
    omega

/-- A complete payload needs room. -/
theorem Decoder.overruns_payload_finish (check : Check ε) (room : Room) (ms : List Bytes)
    (len : Nat) (got bs : Bytes) (hlt : got.length < len) (h : len ≤ got.length + bs.length) :
    (⟨ms, .payload len got⟩ : Decoder ε).overruns check room bs =
      (!room ms len ||
        (⟨ms ++ [got ++ bs.take (len - got.length)], .header []⟩ : Decoder ε).overruns check room
          (bs.drop (len - got.length))) := by
  induction bs generalizing got with
  | nil =>
    rw [List.length_nil] at h
    omega
  | cons b bs ih =>
    rw [List.length_cons] at h
    by_cases hend : got.length + 1 = len
    · have hone : len - got.length = 1 := by omega
      have hstep : (⟨ms, .payload len got⟩ : Decoder ε).feedByte check b =
          ⟨ms ++ [got ++ [b]], .header []⟩ := if_pos hend
      rw [overruns, hstep, overrunsByte_payload, decide_eq_true hend, Bool.true_and, hone]
      rfl
    · have hstep : (⟨ms, .payload len got⟩ : Decoder ε).feedByte check b =
          ⟨ms, .payload len (got ++ [b])⟩ := if_neg hend
      have hlen : (got ++ [b]).length = got.length + 1 := by
        rw [List.length_append, List.length_singleton]
      have hleft : len - got.length = (len - (got.length + 1)) + 1 := by omega
      rw [overruns, hstep, overrunsByte_payload, decide_eq_false hend, Bool.false_and,
        Bool.false_or, ih (got ++ [b]) (by omega) (by omega), hlen, hleft, List.take_succ_cons,
        List.drop_succ_cons, List.append_assoc, List.singleton_append]

/-- The payload behind a header that has found room, when the input holds all of it. -/
theorem Decoder.overruns_accept_finish (check : Check ε) (room : Room) (n : Nat)
    (ms : List Bytes) (flag : UInt8) (rest : Bytes) (hc : check (ms.length + 1) flag n = none)
    (hroom : room ms n = true) (h : n ≤ rest.length) :
    ((⟨ms, .header []⟩ : Decoder ε).accept check flag n).overruns check room rest =
      (⟨ms ++ [rest.take n], .header []⟩ : Decoder ε).overruns check room (rest.drop n) := by
  simp only [Decoder.accept, hc]
  by_cases hz : n = 0
  · subst hz
    simp only [ite_true, List.take_zero, List.drop_zero]
  · rw [if_neg hz, overruns_payload_finish check room ms n [] rest (Nat.pos_of_ne_zero hz)
      (by simpa only [List.length_nil, Nat.zero_add] using h), hroom]
    rfl

/-- The payload behind an accepted header, when the input ends inside it. -/
theorem Decoder.overruns_accept_short (check : Check ε) (room : Room) (n : Nat) (ms : List Bytes)
    (flag : UInt8) (rest : Bytes) (hc : check (ms.length + 1) flag n = none)
    (h : rest.length < n) :
    ((⟨ms, .header []⟩ : Decoder ε).accept check flag n).overruns check room rest = false := by
  simp only [Decoder.accept, hc]
  rw [if_neg (by omega)]
  exact overruns_payload_short check room ms n [] rest
    (by simpa only [List.length_nil, Nat.zero_add] using h)

/-! ## The one-shot decoder -/

/-- One frame of the one-shot decoder, with its length as a number. -/
private theorem decodeFrom_frame (check : Check ε) (fuel n : Nat) (ms : List Bytes)
    (flag l₁ l₂ l₃ l₄ : UInt8) (rest : Bytes) (hn : be32 l₁ l₂ l₃ l₄ = n) :
    decodeFrom check (fuel + 1) ms (flag :: l₁ :: l₂ :: l₃ :: l₄ :: rest) =
      match check (ms.length + 1) flag n with
      | some e => ⟨ms, .failed e⟩
      | none =>
        if n ≤ rest.length then decodeFrom check fuel (ms ++ [rest.take n]) (rest.drop n)
        else ⟨ms, .payload n rest⟩ := by
  subst hn
  rfl

/-- The resumable decoder computes the one-shot decoding of what it has been fed. -/
theorem feed_eq_decodeFrom (check : Check ε) (fuel : Nat) (ms : List Bytes) (bs : Bytes)
    (hfuel : bs.length ≤ fuel) :
    (⟨ms, .header []⟩ : Decoder ε).feed check bs = decodeFrom check fuel ms bs := by
  induction fuel generalizing ms bs with
  | zero =>
    obtain rfl : bs = [] := List.length_eq_zero_iff.mp (by omega)
    rfl
  | succ fuel ih =>
    match bs, hfuel with
    | [], _ | [_], _ | [_, _], _ | [_, _, _], _ | [_, _, _, _], _ => rfl
    | flag :: l₁ :: l₂ :: l₃ :: l₄ :: rest, hfuel =>
      obtain ⟨n, hn⟩ : ∃ n, be32 l₁ l₂ l₃ l₄ = n := ⟨_, rfl⟩
      simp only [List.length_cons] at hfuel
      rw [Decoder.feed_header, decodeFrom_frame check fuel n ms flag l₁ l₂ l₃ l₄ rest hn, hn]
      cases hc : check (ms.length + 1) flag n with
      | some e => simp only [Decoder.accept, hc, Decoder.feed_failed]
      | none =>
        simp only
        by_cases hle : n ≤ rest.length
        · rw [if_pos hle, Decoder.feed_accept_finish check n ms flag rest hc hle]
          exact ih _ _ (by simp only [List.length_drop]; omega)
        · rw [if_neg hle, Decoder.feed_accept_short check n ms flag rest hc (by omega)]

/-- Feeding a whole string, in any chunks, is decoding it at once. -/
theorem feed_start_eq_decode (check : Check ε) (bs : Bytes) :
    (Decoder.start : Decoder ε).feed check bs = decode check bs :=
  feed_eq_decodeFrom check bs.length [] bs le_rfl

/-- Decoding what follows continues the resumable decoder. -/
theorem decode_append (check : Check ε) (bs cs : Bytes) :
    decode check (bs ++ cs) = (decode check bs).feed check cs := by
  rw [← feed_start_eq_decode, Decoder.feed_append, feed_start_eq_decode]

/-! ## Encoding and the longest accepted prefix -/

/-- The four big-endian bytes of a length. -/
def be32Bytes (n : Nat) : Bytes :=
  [UInt8.ofNat (n / 2 ^ 24), UInt8.ofNat (n / 2 ^ 16), UInt8.ofNat (n / 2 ^ 8), UInt8.ofNat n]

/-- An uncompressed message on the wire. -/
def encodeMessage (m : Bytes) : Bytes := 0 :: be32Bytes m.length ++ m

/-- Messages on the wire, one behind the other. -/
def encode (ms : List Bytes) : Bytes := ms.flatMap encodeMessage

/-- Every message of the list passes the header check at its own index. -/
def Accepted (check : Check ε) (ms : List Bytes) : Prop :=
  ∀ pre m post, ms = pre ++ m :: post →
    m.length < 2 ^ 32 ∧ check (pre.length + 1) 0 m.length = none

theorem be32_be32Bytes {n : Nat} (h : n < 2 ^ 32) :
    be32 (UInt8.ofNat (n / 2 ^ 24)) (UInt8.ofNat (n / 2 ^ 16)) (UInt8.ofNat (n / 2 ^ 8))
      (UInt8.ofNat n) = n := by
  simp only [be32, UInt8.toNat_ofNat']
  omega

theorem be32Bytes_be32 (a b c d : UInt8) : be32Bytes (be32 a b c d) = [a, b, c, d] := by
  have ha := a.toNat_lt
  have hb := b.toNat_lt
  have hc := c.toNat_lt
  have hd := d.toNat_lt
  simp only [be32Bytes, be32, List.cons.injEq, and_true]
  refine ⟨?_, ?_, ?_, ?_⟩ <;> apply UInt8.toNat_inj.mp <;> rw [UInt8.toNat_ofNat'] <;> omega

theorem encode_append (ms ns : List Bytes) : encode (ms ++ ns) = encode ms ++ encode ns := by
  simp only [encode, List.flatMap_append]

/-- Reading one accepted encoded message delivers exactly its payload. -/
theorem Decoder.feed_encodeMessage (check : Check ε) (ms : List Bytes) (m : Bytes)
    (hm : m.length < 2 ^ 32) (hc : check (ms.length + 1) 0 m.length = none) :
    (⟨ms, .header []⟩ : Decoder ε).feed check (encodeMessage m) = ⟨ms ++ [m], .header []⟩ := by
  rw [encodeMessage, be32Bytes]
  simp only [List.cons_append, List.nil_append]
  rw [Decoder.feed_header, be32_be32Bytes hm, Decoder.accept]
  simp only [hc]
  by_cases hz : m.length = 0
  · obtain rfl := List.length_eq_zero_iff.mp hz
    simp only [List.length_nil, ite_true, Decoder.feed_nil]
  · rw [if_neg hz, Decoder.feed_payload check ms m.length [] m (by simp only [List.length_nil]; omega)
      (by simp only [List.length_nil]; omega)]
    simp only [List.length_nil, Nat.zero_add, ite_true, List.nil_append]

/-- Reading an accepted list of encoded messages delivers exactly that list. -/
theorem decode_encode (check : Check ε) (ms : List Bytes) (h : Accepted check ms) :
    decode check (encode ms) = ⟨ms, .header []⟩ := by
  induction ms using List.reverseRecOn with
  | nil => rfl
  | append_singleton ms m ih =>
    have hms : Accepted check ms := fun pre x post he =>
      h pre x (post ++ [m]) (by rw [he, List.append_assoc, List.cons_append])
    obtain ⟨hl, hc⟩ := h ms m [] rfl
    rw [encode_append, decode_append, ih hms]
    simpa only [encode, List.flatMap_cons, List.flatMap_nil, List.append_nil] using
      Decoder.feed_encodeMessage check ms m hl hc

/-- Complete messages are never taken back. -/
theorem Decoder.messages_prefix_feedByte (check : Check ε) (d : Decoder ε) (b : UInt8) :
    d.messages <+: (d.feedByte check b).messages := by
  obtain ⟨ms, ph⟩ := d
  unfold Decoder.feedByte
  cases ph with
  | failed e => exact List.prefix_refl _
  | payload len got =>
    simp only
    split
    · exact List.prefix_append ..
    · exact List.prefix_refl _
  | header buf =>
    simp only
    split
    · unfold Decoder.accept
      split
      · exact List.prefix_refl _
      · split
        · exact List.prefix_append ..
        · exact List.prefix_refl _
    · exact List.prefix_refl _

theorem Decoder.messages_prefix_feed (check : Check ε) (d : Decoder ε) (bs : Bytes) :
    d.messages <+: (d.feed check bs).messages := by
  induction bs generalizing d with
  | nil => exact List.prefix_refl _
  | cons b bs ih => exact (d.messages_prefix_feedByte check b).trans (ih _)

/-- More input can only add messages. -/
theorem decode_messages_prefix (check : Check ε) (bs cs : Bytes) :
    (decode check bs).messages <+: (decode check (bs ++ cs)).messages := by
  rw [decode_append]
  exact Decoder.messages_prefix_feed check _ cs

/-- Every accepted list whose encoding starts the input is a prefix of the decoded messages. -/
theorem prefix_decode_of_encode_prefix (check : Check ε) {ms : List Bytes} {bs : Bytes}
    (h : Accepted check ms) (hp : encode ms <+: bs) : ms <+: (decode check bs).messages := by
  obtain ⟨rest, rfl⟩ := hp
  have hd := decode_messages_prefix check (encode ms) rest
  rwa [decode_encode check ms h] at hd

section LongestPrefix

variable {check : Check ε}

theorem Accepted.append_singleton {ms : List Bytes} {m : Bytes} (h : Accepted check ms)
    (hl : m.length < 2 ^ 32) (hc : check (ms.length + 1) 0 m.length = none) :
    Accepted check (ms ++ [m]) := by
  intro pre x post he
  rcases List.eq_nil_or_concat post with rfl | ⟨post', y, rfl⟩
  · obtain ⟨rfl, hx⟩ := List.append_inj' he rfl
    obtain rfl : m = x := List.singleton_inj.mp hx
    exact ⟨hl, hc⟩
  · rw [List.concat_eq_append, ← List.cons_append, ← List.append_assoc] at he
    exact h pre x post' (List.append_inj' he rfl).1

/-- An accepted header with all of its payload is an encoded message. -/
private theorem encodeMessage_frame {flag l₁ l₂ l₃ l₄ : UInt8} {rest : Bytes} {n : Nat}
    (hf : flag = 0) (hn : be32 l₁ l₂ l₃ l₄ = n) (hle : n ≤ rest.length) :
    flag :: l₁ :: l₂ :: l₃ :: l₄ :: rest = encodeMessage (rest.take n) ++ rest.drop n := by
  have hb := be32Bytes_be32 l₁ l₂ l₃ l₄
  rw [hn] at hb
  rw [encodeMessage, List.length_take_of_le hle, hb, hf]
  simp only [List.cons_append, List.nil_append, List.take_append_drop]

/-- The input of a decoding is what its messages encode, followed by the bytes held. -/
theorem decodeFrom_split (hflag : ∀ i f l, check i f l = none → f = 0) (fuel : Nat)
    (done : List Bytes) (bs : Bytes) (hd : Accepted check done) :
    ∃ new rest, (decodeFrom check fuel done bs).messages = done ++ new ∧ bs = encode new ++ rest ∧
      Accepted check (done ++ new) ∧
      ∀ buf, (decodeFrom check fuel done bs).phase = .header buf → rest = buf := by
  induction fuel generalizing done bs with
  | zero =>
    refine ⟨[], bs, (List.append_nil done).symm, rfl, (List.append_nil done).symm ▸ hd, ?_⟩
    intro buf h
    exact Phase.header.inj h
  | succ fuel ih =>
    match bs with
    | [] | [_] | [_, _] | [_, _, _] | [_, _, _, _] =>
      refine ⟨[], _, (List.append_nil done).symm, rfl, (List.append_nil done).symm ▸ hd, ?_⟩
      intro buf h
      exact Phase.header.inj h
    | flag :: l₁ :: l₂ :: l₃ :: l₄ :: rest =>
      obtain ⟨n, hn⟩ : ∃ n, be32 l₁ l₂ l₃ l₄ = n := ⟨_, rfl⟩
      rw [decodeFrom_frame check fuel n done flag l₁ l₂ l₃ l₄ rest hn]
      cases hc : check (done.length + 1) flag n with
      | some e =>
        refine ⟨[], _, (List.append_nil done).symm, rfl, (List.append_nil done).symm ▸ hd, ?_⟩
        intro buf h
        cases h
      | none =>
        simp only
        by_cases hle : n ≤ rest.length
        · have hf := hflag _ _ _ hc
          have hlen : (rest.take n).length = n := List.length_take_of_le hle
          have hacc : Accepted check (done ++ [rest.take n]) := by
            refine hd.append_singleton ?_ ?_
            · rw [hlen, ← hn]
              exact be32_lt ..
            · rw [hlen, ← hf]
              exact hc
          obtain ⟨new, tail, hm, hr, ha, hh⟩ := ih (done ++ [rest.take n]) (rest.drop n) hacc
          rw [if_pos hle]
          refine ⟨rest.take n :: new, tail, ?_, ?_, ?_, hh⟩
          · rw [hm, List.append_assoc, List.singleton_append]
          · rw [encodeMessage_frame hf hn hle, hr]
            simp only [encode, List.flatMap_cons, List.append_assoc]
          · rwa [List.append_assoc, List.singleton_append] at ha
        · rw [if_neg hle]
          refine ⟨[], _, (List.append_nil done).symm, rfl, (List.append_nil done).symm ▸ hd, ?_⟩
          intro buf h
          cases h

/-- Where only flag zero is accepted, the decoded messages are accepted ones and their
encoding starts the input. -/
theorem decode_sound (hflag : ∀ i f l, check i f l = none → f = 0) (bs : Bytes) :
    Accepted check (decode check bs).messages ∧ encode (decode check bs).messages <+: bs ∧
      ((decode check bs).phase = .header [] → bs = encode (decode check bs).messages) := by
  have hnil : Accepted check [] := fun pre m post h => by
    rw [eq_comm, List.append_eq_nil_iff] at h
    exact absurd h.2 (List.cons_ne_nil m post)
  obtain ⟨new, rest, hm, hb, ha, hh⟩ := decodeFrom_split hflag bs.length [] bs hnil
  rw [List.nil_append] at hm ha
  refine ⟨by rw [decode, hm]; exact ha, ?_, ?_⟩
  · rw [decode, hm]
    exact ⟨rest, hb.symm⟩
  · intro hp
    have hr := hh [] hp
    rw [decode, hm]
    rw [hr, List.append_nil] at hb
    exact hb

end LongestPrefix

end GrpcLite.Framing
