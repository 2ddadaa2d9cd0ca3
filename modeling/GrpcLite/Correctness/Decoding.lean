import GrpcLite.Core.Framing
import GrpcLite.Exchange.Callbacks
import Mathlib.Logic.Relation

/-!
# The parser computes the reference decoding

The header rules of the transport are a check of the framing library. `Tracks`
relates the parser fields of a call to a position of the library's decoder; every
round of the parser loop keeps it, so a chunk moves the decoder by its bytes. A
message dropped by the read-ahead limits is the only way to leave the relation.
-/

namespace GrpcLite

open Framing

/-! ## The header rules -/

/-- Why a message header is rejected. -/
inductive RejectReason
  /-- More messages than allowed. -/
  | tooManyMessages
  /-- The length is above the receive limit. -/
  | tooLarge
  /-- The flag byte is neither zero nor one. -/
  | badFlag
  /-- The message is compressed. -/
  | compressed
  deriving DecidableEq, Repr

/-- The header rules in the order of the source; zero messages means no limit. -/
def responseCheck (maxMessages maxBytes : Nat) : Check RejectReason := fun index flag len =>
  if maxMessages > 0 ∧ index > maxMessages then some .tooManyMessages
  else if len > maxBytes then some .tooLarge
  else if flag > 1 then some .badFlag
  else if flag = 1 then some .compressed
  else none

/-- A header passes without a flag, within the byte limit and within the message limit. -/
theorem responseCheck_none {maxMessages maxBytes index len : Nat} {flag : UInt8} :
    responseCheck maxMessages maxBytes index flag len = none ↔
      flag = 0 ∧ len ≤ maxBytes ∧ (maxMessages > 0 → index ≤ maxMessages) := by
  have hflag : flag = 0 ↔ ¬flag > 1 ∧ ¬flag = 1 := by
    rw [gt_iff_lt, UInt8.lt_iff_toNat_lt, ← UInt8.toNat_inj, ← UInt8.toNat_inj]
    simp only [UInt8.reduceToNat]
    omega
  unfold responseCheck
  constructor
  · intro h
    split at h
    · cases h
    · split at h
      · cases h
      · split at h
        · cases h
        · split at h
          · cases h
          · exact ⟨hflag.mpr ⟨‹_›, ‹_›⟩, by omega, by omega⟩
  · rintro ⟨hf, hl, hi⟩
    obtain ⟨h₃, h₄⟩ := hflag.mp hf
    rw [if_neg (by omega), if_neg (by omega), if_neg h₃, if_neg h₄]

/-- The header rules accept flag zero only. -/
theorem responseCheck_flag (maxMessages maxBytes : Nat) :
    ∀ i f l, responseCheck maxMessages maxBytes i f l = none → f = 0 :=
  fun _ _ _ h => (responseCheck_none.mp h).1

/-- The four failure flags that the parser can set. -/
structure FailureFlags where
  /-- `malformed_response_frame`. -/
  malformed : Bool := false
  /-- `response_message_too_large`. -/
  tooLarge : Bool := false
  /-- `compressed_response_seen`. -/
  compressed : Bool := false
  /-- `unsupported_response_encoding`. -/
  unsupportedEncoding : Bool := false
  deriving DecidableEq, Repr

/-- The failure flags of a call. -/
def GrpcCall.failureFlags (call : GrpcCall) : FailureFlags where
  malformed := call.malformedResponseFrame
  tooLarge := call.responseMessageTooLarge
  compressed := call.compressedResponseSeen
  unsupportedEncoding := call.unsupportedResponseEncoding

/-- The one flag that a rejection sets under a declared grpc-encoding. -/
def RejectReason.flags (encoding : Option Bytes) : RejectReason → FailureFlags
  | .tooManyMessages | .badFlag => { malformed := true }
  | .tooLarge => { tooLarge := true }
  | .compressed =>
    match encoding with
    | some value =>
      if Protocol.isIdentityEncoding value then { compressed := true }
      else { unsupportedEncoding := true }
    | none => { compressed := true }

/-- The flags that a decoding leads to. -/
def decoderFlags (encoding : Option Bytes) (d : Decoder RejectReason) : FailureFlags :=
  match d.failure with
  | some e => e.flags encoding
  | none => {}

/-- Decoding stops exactly with a failure flag. -/
theorem decodingStopped_eq (call : GrpcCall) :
    CallbackState.decodingStopped call = decide (call.failureFlags ≠ {}) := by
  simp only [CallbackState.decodingStopped, GrpcCall.failureFlags, ne_eq, FailureFlags.mk.injEq]
  cases call.malformedResponseFrame <;> cases call.responseMessageTooLarge <;>
    cases call.compressedResponseSeen <;> cases call.unsupportedResponseEncoding <;> rfl

/-- Every reason sets a flag. -/
theorem RejectReason.flags_ne (encoding : Option Bytes) (e : RejectReason) :
    e.flags encoding ≠ {} := by
  cases e with
  | compressed =>
    unfold RejectReason.flags
    cases encoding with
    | none => decide
    | some value =>
      simp only
      split <;> decide
  | tooManyMessages | tooLarge | badFlag => simp [RejectReason.flags]

/-! ## The relation -/

/-- The parser fields of a call at a position inside the message behind `n` complete ones. -/
def AtPhase (encoding : Option Bytes) (call : GrpcCall) (n : Nat) : Phase RejectReason → Prop
  | .header buf =>
    call.failureFlags = {} ∧ call.discardResponseBody = false ∧ buf.length < 5 ∧ call.responseHeaderLen = buf.length ∧
      call.responseHeaderBuf.take buf.length = buf ∧ call.responsePayloadLen = 0 ∧
      call.responsePayloadOffset = 0 ∧ call.responsePayload = none ∧
      (0 < call.maxResponseMessages → call.responseMessageCount = n)
  | .payload len got =>
    call.failureFlags = {} ∧ call.discardResponseBody = false ∧ got.length < len ∧ call.responseHeaderLen = 5 ∧
      call.responsePayloadLen = len ∧ call.responsePayloadOffset = got.length ∧
      call.responsePayload = some got ∧
      (0 < call.maxResponseMessages → call.responseMessageCount = n + 1)
  | .failed e =>
    call.failureFlags = e.flags encoding ∧ call.discardResponseBody = true ∧
      call.responseHeaderLen = 0 ∧ call.responsePayloadLen = 0 ∧ call.responsePayloadOffset = 0 ∧
      call.responsePayload = none

/-- The parser of a call stands where a decoder stands; `taken` are the messages that
already left the queue. -/
structure Tracks (maxMessages maxBytes : Nat) (encoding : Option Bytes) (call : GrpcCall)
    (taken : List Bytes) (d : Decoder RejectReason) : Prop where
  /-- Limit on the number of messages. -/
  maxMessages : call.maxResponseMessages = maxMessages
  /-- Limit on the length of a message. -/
  maxBytes : call.maxReceiveMessageBytes = maxBytes
  /-- Payloads are queued. -/
  queueing : call.queueResponsePayloads = true
  /-- The header buffer has its fixed size. -/
  buffer : call.responseHeaderBuf.length = 5
  /-- No message was dropped. -/
  noDrop : call.responseQueueLimitExceeded = false
  /-- The queue holds what was decoded and not taken. -/
  messages : d.messages = taken ++ call.responseQueue
  /-- The position inside the current message. -/
  phase : AtPhase encoding call d.messages.length d.phase

/-! ## What a chunk leaves alone -/

/-- The call without the fields that body bytes can change. -/
def GrpcCall.eraseBody (call : GrpcCall) : GrpcCall :=
  { call with
    responseQueue := [], responseQueueCount := 0, responseQueueBytes := 0
    responseHeaderBuf := [], responseHeaderLen := 0, responsePayloadLen := 0
    responsePayloadOffset := 0, responsePayload := none, responseMessageCount := 0
    compressedResponseSeen := false, responseMessageTooLarge := false
    malformedResponseFrame := false, unsupportedResponseEncoding := false
    responseQueueLimitExceeded := false, discardResponseBody := false, body := [] }

/-- What body bytes can do to a call whatever they are: flags are only raised, the queue
only grows, and nothing else changes. -/
structure BodyStep (call call' : GrpcCall) : Prop where
  /-- The other fields are unchanged. -/
  frame : call'.eraseBody = call.eraseBody
  /-- The read-ahead flag stays. -/
  limit : call.responseQueueLimitExceeded = true → call'.responseQueueLimitExceeded = true
  /-- A discarded body stays discarded. -/
  discard : call.discardResponseBody = true → call'.discardResponseBody = true
  /-- A raised validation flag stays raised. -/
  failed : call.validationFailed = true → call'.validationFailed = true
  /-- Queued messages stay in front. -/
  queue : call.responseQueue <+: call'.responseQueue

namespace BodyStep

/-- Nothing happens. -/
theorem refl (call : GrpcCall) : BodyStep call call :=
  ⟨rfl, id, id, id, List.prefix_refl _⟩

/-- Steps one after the other. -/
theorem trans {a b c : GrpcCall} (h : BodyStep a b) (h' : BodyStep b c) : BodyStep a c :=
  ⟨h'.frame.trans h.frame, h'.limit ∘ h.limit, h'.discard ∘ h.discard, h'.failed ∘ h.failed,
    h.queue.trans h'.queue⟩

/-- A field outside the body is unchanged. -/
theorem field {α : Type} {call call' : GrpcCall} (h : call'.eraseBody = call.eraseBody)
    (f : GrpcCall → α) (hf : ∀ c, f c.eraseBody = f c) : f call' = f call := by
  rw [← hf call', h, hf call]

/-- A step that leaves the queue and all flags alone. -/
theorem of_position {call call' : GrpcCall} (hframe : call'.eraseBody = call.eraseBody)
    (hq : call'.responseQueue = call.responseQueue) (hf : call'.failureFlags = call.failureFlags)
    (hl : call'.responseQueueLimitExceeded = call.responseQueueLimitExceeded)
    (hd : call'.discardResponseBody = call.discardResponseBody) : BodyStep call call' := by
  refine ⟨hframe, hl.trans, hd.trans, ?_, hq ▸ List.prefix_refl _⟩
  have hc := field hframe GrpcCall.invalidContentType fun _ => rfl
  have hm := field hframe GrpcCall.metadataTooLarge fun _ => rfl
  simp only [GrpcCall.failureFlags, FailureFlags.mk.injEq] at hf
  simp only [GrpcCall.validationFailed, hf, hl, hc, hm, imp_self]

end BodyStep

/-- What chunks do to the queue: new payloads behind the others, counted; with another reader on
the connection, the limits hold behind the last of them. -/
structure Enqueues (ra : ReadAhead) (call call' : GrpcCall) (new : List Bytes) : Prop where
  /-- The new payloads are behind the others. -/
  queue : call'.responseQueue = call.responseQueue ++ new
  /-- They are counted. -/
  count : call'.responseQueueCount = call.responseQueueCount + new.length
  /-- Their bytes are counted. -/
  bytes : call'.responseQueueBytes = call.responseQueueBytes + (new.map List.length).sum
  /-- The connection of the call stays. -/
  connection : call'.connection = call.connection
  /-- The switch for the queue stays. -/
  queueing : call'.queueResponsePayloads = call.queueResponsePayloads
  /-- The read-ahead limits hold behind the last new payload. -/
  limit : new ≠ [] → call.queueResponsePayloads = true → call.connection.isSome = true →
    ra.foreignReader = true →
    call'.responseQueueCount ≤ ra.maxMessages ∧ call'.responseQueueBytes ≤ ra.maxBytes

namespace Enqueues

variable {ra : ReadAhead} {a b c : GrpcCall} {xs ys : List Bytes}

/-- Nothing is queued. -/
theorem none (hqueue : b.responseQueue = a.responseQueue)
    (hcount : b.responseQueueCount = a.responseQueueCount)
    (hbytes : b.responseQueueBytes = a.responseQueueBytes) (hconn : b.connection = a.connection)
    (hqueueing : b.queueResponsePayloads = a.queueResponsePayloads) : Enqueues ra a b [] :=
  ⟨by rw [hqueue, List.append_nil], hcount, hbytes, hconn, hqueueing, fun h => absurd rfl h⟩

/-- What is enqueued one after the other. -/
theorem trans (h : Enqueues ra a b xs) (h' : Enqueues ra b c ys) : Enqueues ra a c (xs ++ ys) := by
  refine ⟨?_, ?_, ?_, h'.connection.trans h.connection, h'.queueing.trans h.queueing, ?_⟩
  · rw [h'.queue, h.queue, List.append_assoc]
  · rw [h'.count, h.count, List.length_append, Nat.add_assoc]
  · rw [h'.bytes, h.bytes, List.map_append, List.sum_append, Nat.add_assoc]
  · intro hne hq hc hf
    by_cases hys : ys = []
    · subst hys
      rw [List.append_nil] at hne
      rw [h'.count, h'.bytes]
      exact h.limit hne hq hc hf
    · exact h'.limit hys (h.queueing.trans hq) (by rw [h.connection, hc]) hf

end Enqueues

/-! ## Rounds -/

namespace CallbackState

/-- A submitted reset leaves the call alone. -/
@[simp] theorem submitRstStream_call (s : CallbackState) (code : Nat) :
    (submitRstStream s code).1.call = s.call := by
  unfold submitRstStream
  split <;> rfl

/-- Growing a payload whose valid bytes end at the offset appends the new bytes. -/
theorem growPayload_eq {p got src : Bytes} (hg : p.take got.length = got)
    (hp : p.length ≤ got.length + src.length) : growPayload p got.length src = got ++ src := by
  have hle : got.length ≤ p.length := by
    have h := congrArg List.length hg
    rw [List.length_take] at h
    omega
  unfold growPayload
  by_cases hs : src.length > 0
  · rw [if_pos hs]
    by_cases hlt : got.length + src.length > p.length
    · rw [if_pos hlt, writeAt_length (by rw [length_resize])]
      have ht : (resize p (got.length + src.length)).take got.length = got := by
        rw [resize, List.take_of_length_le hp, List.take_append_of_le_length hle, hg]
      rw [ht]
    · rw [if_neg hlt, writeAt_length hp, hg]
  · have hnil : src = [] := List.length_eq_zero_iff.mp (by omega)
    subst hnil
    rw [if_neg hs, List.append_nil]
    rw [List.take_of_length_le (by simpa only [List.length_nil, Nat.add_zero] using hp)] at hg
    exact hg

/-- What `payloadRound` needs of a call: `got` are the received bytes of a message of
length `len`, held in `p`, which has no room beyond the bytes of this chunk. -/
structure InPayload (call : GrpcCall) (len : Nat) (got p : Bytes) (avail : Nat) : Prop where
  /-- The payload string is allocated. -/
  payload : call.responsePayload = some p
  /-- The declared length. -/
  payloadLen : call.responsePayloadLen = len
  /-- The number of received bytes. -/
  payloadOffset : call.responsePayloadOffset = got.length
  /-- The received bytes start the string. -/
  received : p.take got.length = got
  /-- At most the message has been received. -/
  le : got.length ≤ len
  /-- The string ends with the bytes of this chunk. -/
  room : p.length ≤ got.length + min (len - got.length) avail

section PayloadRound

variable {ra : ReadAhead} {data : Bytes} {s : CallbackState} {offset len : Nat} {got p : Bytes}

/-- The payload string grows by what the chunk has of the message. -/
private theorem payloadRound_grow (h : InPayload s.call len got p (data.length - offset)) :
    growPayload p got.length ((data.drop offset).take (min (len - got.length)
      (data.length - offset))) =
        got ++ (data.drop offset).take (min (len - got.length) (data.length - offset)) := by
  refine growPayload_eq h.received ?_
  have hl : ((data.drop offset).take (min (len - got.length) (data.length - offset))).length =
      min (len - got.length) (data.length - offset) := by
    rw [List.length_take, List.length_drop]
    omega
  rw [hl]
  exact h.room

/-- A chunk that reaches the end of the message finishes it. -/
theorem payloadRound_finish (h : InPayload s.call len got p (data.length - offset))
    (hle : len ≤ got.length + (data.length - offset)) :
    payloadRound ra data s offset =
      finishMessage ra { s with call := { s.call with
          responsePayload := some (got ++ (data.drop offset).take (len - got.length))
          responsePayloadOffset := len } }
        (got ++ (data.drop offset).take (len - got.length)) (offset + (len - got.length)) := by
  have hmin : min (len - got.length) (data.length - offset) = len - got.length := by omega
  have hgrow := payloadRound_grow h
  have hadd : got.length + (len - got.length) = len := by
    have := h.le
    omega
  rw [hmin] at hgrow
  unfold payloadRound
  simp only [h.payload, h.payloadLen, h.payloadOffset, hmin, hgrow, hadd, ite_true]

/-- A chunk that ends inside the message is kept. -/
theorem payloadRound_short (h : InPayload s.call len got p (data.length - offset))
    (hoff : offset ≤ data.length) (hlt : got.length + (data.length - offset) < len) :
    payloadRound ra data s offset =
      .next { s with call := { s.call with
          responsePayload := some (got ++ data.drop offset)
          responsePayloadOffset := (got ++ data.drop offset).length } } data.length := by
  have hmin : min (len - got.length) (data.length - offset) = data.length - offset := by omega
  have hgrow := payloadRound_grow h
  have htake : (data.drop offset).take (data.length - offset) = data.drop offset :=
    List.take_of_length_le (by rw [List.length_drop])
  have hne : ¬got.length + (data.length - offset) = len := by omega
  rw [hmin, htake] at hgrow
  unfold payloadRound
  simp only [h.payload, h.payloadLen, h.payloadOffset, hmin, hgrow, htake, hne, ite_false, List.length_append,
    List.length_drop]
  congr 1
  omega

end PayloadRound

/-- A message was dropped while another call was reading. -/
def Dropped (ra : ReadAhead) (call : GrpcCall) : Prop :=
  ra.foreignReader = true ∧ call.responseQueueLimitExceeded = true

/-- A reader that is too far ahead loses the rest of the body. -/
theorem markReadAheadLimitExceeded_dropped {ra : ReadAhead} {s : CallbackState} {len : Nat}
    (h : readAheadLimitWouldExceed ra s.call len = true) :
    Dropped ra (markReadAheadLimitExceeded s).1.call := by
  simp only [readAheadLimitWouldExceed, Bool.and_eq_true] at h
  refine ⟨h.1.2, ?_⟩
  rw [markReadAheadLimitExceeded, submitRstStream_call]
  rfl

/-- A dropped message, or the payload at the end of the queue. -/
theorem enqueueResponsePayload_cases (ra : ReadAhead) (s : CallbackState) (payload : Bytes) :
    (Dropped ra (enqueueResponsePayload ra s payload).1.call ∧
        readAheadLimitWouldExceed ra s.call payload.length = true) ∨
      (enqueueResponsePayload ra s payload = ({ s with call := pushPayload s.call payload }, 0) ∧
        readAheadLimitWouldExceed ra s.call payload.length = false) := by
  unfold enqueueResponsePayload
  split
  · rename_i h
    exact .inl ⟨markReadAheadLimitExceeded_dropped h, h⟩
  · rename_i h
    exact .inr ⟨rfl, Bool.not_eq_true _ ▸ h⟩

/-- The flag that the source sets for a rejection. -/
def mark : RejectReason → GrpcCall → GrpcCall
  | .tooManyMessages | .badFlag => fun call => { call with malformedResponseFrame := true }
  | .tooLarge => fun call => { call with responseMessageTooLarge := true }
  | .compressed => flagCompressedMessage

/-- A compressed message is rejected or, with an encoding, not supported. -/
theorem flagCompressedMessage_cases (call : GrpcCall) :
    (flagCompressedMessage call =
        discardBody { call with compressedResponseSeen := true } ∧
      RejectReason.compressed.flags call.grpcEncoding = { compressed := true }) ∨
    (flagCompressedMessage call =
        discardBody { call with unsupportedResponseEncoding := true } ∧
      RejectReason.compressed.flags call.grpcEncoding = { unsupportedEncoding := true }) := by
  unfold flagCompressedMessage RejectReason.flags
  cases call.grpcEncoding with
  | none => exact .inl ⟨rfl, rfl⟩
  | some encoding =>
    by_cases h : Protocol.isIdentityEncoding encoding
    · simp only [h, ite_true, and_self, true_or]
    · simp only [h, Bool.false_eq_true, ite_false, and_self, or_true]

/-- Marking a call leaves the limits, the queue and the header buffer alone. -/
theorem mark_frame (e : RejectReason) (call : GrpcCall) :
    (mark e call).maxResponseMessages = call.maxResponseMessages ∧
      (mark e call).maxReceiveMessageBytes = call.maxReceiveMessageBytes ∧
      (mark e call).queueResponsePayloads = call.queueResponsePayloads ∧
      (mark e call).responseHeaderBuf = call.responseHeaderBuf ∧
      (mark e call).responseQueue = call.responseQueue ∧
      (mark e call).responsePayload = call.responsePayload ∧
      (mark e call).responseQueueLimitExceeded = call.responseQueueLimitExceeded := by
  cases e with
  | tooManyMessages | tooLarge | badFlag => exact ⟨rfl, rfl, rfl, rfl, rfl, rfl, rfl⟩
  | compressed =>
    rcases flagCompressedMessage_cases call with ⟨h, -⟩ | ⟨h, -⟩ <;> rw [mark, h] <;>
      exact ⟨rfl, rfl, rfl, rfl, rfl, rfl, rfl⟩

/-- The reason of a rejection is its flag. -/
theorem mark_failureFlags (e : RejectReason) {call : GrpcCall} (h : call.failureFlags = {}) :
    (mark e call).failureFlags = e.flags call.grpcEncoding := by
  simp only [GrpcCall.failureFlags, FailureFlags.mk.injEq] at h
  obtain ⟨h₁, h₂, h₃, h₄⟩ := h
  cases e with
  | tooManyMessages | tooLarge | badFlag =>
    simp only [mark, GrpcCall.failureFlags, RejectReason.flags, h₁, h₂, h₃, h₄]
  | compressed =>
    rcases flagCompressedMessage_cases call with ⟨h, hf⟩ | ⟨h, hf⟩ <;>
      simp only [mark, h, hf, GrpcCall.failureFlags, discardBody, h₁, h₂, h₃, h₄]

section BodyMoves

variable (ra : ReadAhead) (data : Bytes) (s : CallbackState)

/-- One move of the parser on a call. -/
inductive BodyMove (call : GrpcCall) : GrpcCall → Prop
  /-- The position inside the current message changes. -/
  | position {call' : GrpcCall} (hframe : call'.eraseBody = call.eraseBody)
      (hqueue : call'.responseQueue = call.responseQueue)
      (hcount : call'.responseQueueCount = call.responseQueueCount)
      (hbytes : call'.responseQueueBytes = call.responseQueueBytes)
      (hflags : call'.failureFlags = call.failureFlags)
      (hlimit : call'.responseQueueLimitExceeded = call.responseQueueLimitExceeded)
      (hdiscard : call'.discardResponseBody = call.discardResponseBody) : BodyMove call call'
  /-- A message is rejected. -/
  | mark (e : RejectReason) : BodyMove call (mark e call)
  /-- The rest of the body is discarded. -/
  | discard : BodyMove call (discardBody call)
  /-- A message is dropped above the read-ahead limits. -/
  | drop : BodyMove call
      (discardBody (resetMessage { call with responseQueueLimitExceeded := true }))
  /-- A complete message is queued. -/
  | push (payload : Bytes) (h : readAheadLimitWouldExceed ra call payload.length = false) :
    BodyMove call (pushPayload call payload)

/-- A sequence of moves. -/
abbrev BodyMoves : GrpcCall → GrpcCall → Prop := Relation.ReflTransGen (BodyMove ra)

variable {ra} in
/-- A move is a step that keeps what the body does not touch. -/
theorem BodyMove.bodyStep {call call' : GrpcCall} (h : BodyMove ra call call') :
    BodyStep call call' := by
  cases h with
  | position hframe hqueue hcount hbytes hflags hlimit hdiscard =>
    exact .of_position hframe hqueue hflags hlimit hdiscard
  | mark e =>
    cases e with
    | tooManyMessages | tooLarge | badFlag =>
      refine ⟨rfl, id, id, fun _ => ?_, List.prefix_refl _⟩
      simp only [CallbackState.mark, GrpcCall.validationFailed, Bool.true_or, Bool.or_true]
    | compressed =>
      rcases flagCompressedMessage_cases call with ⟨h, -⟩ | ⟨h, -⟩ <;> rw [CallbackState.mark, h]
      · refine ⟨rfl, id, fun _ => rfl, fun _ => ?_, List.prefix_refl _⟩
        simp only [GrpcCall.validationFailed, discardBody, Bool.true_or, Bool.or_true]
      · refine ⟨rfl, id, fun _ => rfl, fun _ => ?_, List.prefix_refl _⟩
        simp only [GrpcCall.validationFailed, discardBody, Bool.true_or, Bool.or_true]
  | discard => exact ⟨rfl, id, fun _ => rfl, id, List.prefix_refl _⟩
  | drop =>
    refine ⟨rfl, fun _ => rfl, fun _ => rfl, fun _ => ?_, List.prefix_refl _⟩
    simp only [GrpcCall.validationFailed, discardBody, resetMessage, Bool.or_true]
  | push payload hroom => exact ⟨rfl, id, id, id, List.prefix_append ..⟩

variable {ra} in
/-- So is any number of moves. -/
theorem BodyMoves.bodyStep {call call' : GrpcCall} (h : BodyMoves ra call call') :
    BodyStep call call' := by
  induction h with
  | refl => exact .refl _
  | tail _ hmove ih => exact ih.trans hmove.bodyStep

/-- The parser starts over. -/
theorem resetMessage_moves (call : GrpcCall) : BodyMoves ra call (resetMessage call) :=
  .single (.position rfl rfl rfl rfl rfl rfl rfl)

/-- The limit on the read-ahead is noted. -/
theorem markReadAheadLimitExceeded_moves :
    BodyMoves ra s.call (markReadAheadLimitExceeded s).1.call := by
  rw [markReadAheadLimitExceeded, submitRstStream_call]
  exact .single .drop

/-- A payload is queued or its stream reset. -/
theorem enqueueResponsePayload_moves (payload : Bytes) :
    BodyMoves ra s.call (enqueueResponsePayload ra s payload).1.call := by
  unfold enqueueResponsePayload
  split
  · exact markReadAheadLimitExceeded_moves ra s
  · next hroom => exact .single (.push payload (Bool.not_eq_true _ ▸ hroom))

/-- The state a round ends in. -/
def Round.state : Round → CallbackState
  | .next s _ => s
  | .done s _ => s

/-- A finished message. -/
theorem finishMessage_moves (payload : Bytes) (offset : Nat) :
    BodyMoves ra s.call (Round.state (finishMessage ra s payload offset)).call := by
  have hreset : BodyMoves ra s.call (endMessage s).call :=
    .single (.position rfl rfl rfl rfl rfl rfl rfl)
  have hpush := hreset.trans (enqueueResponsePayload_moves ra (endMessage s) payload)
  unfold finishMessage
  simp only
  split
  · split
    · exact hpush
    · exact hpush
  · exact hreset

/-- A round that reads payload. -/
theorem payloadRound_moves (offset : Nat) :
    BodyMoves ra s.call (Round.state (payloadRound ra data s offset)).call := by
  unfold payloadRound
  split
  · exact .refl
  · simp only
    split
    · refine .trans ?_ (finishMessage_moves ra _ _ _)
      exact .single (.position rfl rfl rfl rfl rfl rfl rfl)
    · exact .single (.position rfl rfl rfl rfl rfl rfl rfl)

/-- A rejected frame. -/
theorem rejectFrame_moves (e : RejectReason) (offset : Nat) :
    BodyMoves ra s.call (Round.state (rejectFrame s (mark e) offset)).call := by
  have h : BodyMoves ra s.call (resetMessage (discardBody (mark e s.call))) :=
    .trans (.head (.mark e) (.single .discard)) (resetMessage_moves ra _)
  unfold rejectFrame
  simp only
  split <;> rw [Round.state, submitRstStream_call] <;> exact h

/-- A header is counted. -/
theorem countHeader_moves (len : Nat) : BodyMoves ra s.call (countHeader s len).call := by
  unfold countHeader
  exact .single (.position rfl rfl rfl rfl rfl rfl rfl)

/-- A round that reads a header. -/
theorem headerRound_moves (offset : Nat) :
    BodyMoves ra s.call (Round.state (headerRound ra data s offset)).call := by
  unfold headerRound
  simp only
  generalize be32 _ _ _ _ = len
  refine .trans (countHeader_moves ra s len) ?_
  generalize countHeader s len = c
  split
  · exact rejectFrame_moves ra c .tooManyMessages offset
  · split
    · exact rejectFrame_moves ra c .tooLarge offset
    · split
      · exact rejectFrame_moves ra c .tooLarge offset
      · split
        · exact rejectFrame_moves ra c .badFlag offset
        · split
          · exact rejectFrame_moves ra c .compressed offset
          · split
            · exact markReadAheadLimitExceeded_moves ra c
            · refine .trans ?_ (payloadRound_moves ra data _ offset)
              exact .single (.position rfl rfl rfl rfl rfl rfl rfl)

/-- A round, whichever part it reads. -/
theorem directRound_moves (offset : Nat) :
    BodyMoves ra s.call (Round.state (directRound ra data s offset)).call := by
  unfold directRound
  simp only
  split
  · split
    · exact .single (.position rfl rfl rfl rfl rfl rfl rfl)
    · refine .trans ?_ (headerRound_moves ra data _ _)
      exact .single (.position rfl rfl rfl rfl rfl rfl rfl)
  · exact payloadRound_moves ra data s offset

/-- The loop over a chunk. -/
theorem directLoop_moves (fuel : Nat) (s : CallbackState) (offset : Nat) :
    BodyMoves ra s.call (directLoop ra data fuel s offset).1.call := by
  induction fuel generalizing s offset with
  | zero => exact .refl
  | succ fuel ih =>
    have hround := directRound_moves ra data s offset
    unfold directLoop
    split
    · cases hr : directRound ra data s offset with
      | next s' offset' =>
        rw [hr] at hround
        exact hround.trans (ih s' offset')
      | done s' rv =>
        rw [hr] at hround
        exact hround
    · exact .refl

/-- Whatever a chunk holds, the parser makes moves of these kinds only. -/
theorem processResponseDataDirect_moves (h : s.call.grpcStatusSeen = false) :
    BodyMoves ra s.call (processResponseDataDirect ra s data).1.call := by
  unfold processResponseDataDirect
  rw [h, if_neg Bool.false_ne_true]
  split
  · exact .refl
  · exact directLoop_moves ra data _ s 0

end BodyMoves

/-! ## The queue of a chunk -/

/-- The test of the limits leaves room for the payload. -/
theorem room_of_readAheadLimit {ra : ReadAhead} {call : GrpcCall} {len : Nat}
    (h : readAheadLimitWouldExceed ra call len = false) (hqueue : call.queueResponsePayloads = true)
    (hconn : call.connection.isSome = true) (hforeign : ra.foreignReader = true) :
    call.responseQueueCount + 1 ≤ ra.maxMessages ∧
      call.responseQueueBytes + len ≤ ra.maxBytes := by
  simp only [readAheadLimitWouldExceed, hqueue, hconn, hforeign, Bool.true_and,
    Bool.or_eq_false_iff, decide_eq_false_iff_not] at h
  omega

/-- A move enqueues one payload at most. -/
theorem BodyMove.enqueues {ra : ReadAhead} {call call' : GrpcCall} (h : BodyMove ra call call') :
    ∃ new, Enqueues ra call call' new := by
  cases h with
  | position hframe hqueue hcount hbytes =>
    exact ⟨[], .none hqueue hcount hbytes (BodyStep.field hframe GrpcCall.connection fun _ => rfl)
      (BodyStep.field hframe GrpcCall.queueResponsePayloads fun _ => rfl)⟩
  | mark e =>
    cases e with
    | tooManyMessages | tooLarge | badFlag => exact ⟨[], .none rfl rfl rfl rfl rfl⟩
    | compressed =>
      rcases flagCompressedMessage_cases call with ⟨hmark, -⟩ | ⟨hmark, -⟩
      · rw [CallbackState.mark, hmark]
        exact ⟨[], .none rfl rfl rfl rfl rfl⟩
      · rw [CallbackState.mark, hmark]
        exact ⟨[], .none rfl rfl rfl rfl rfl⟩
  | discard => exact ⟨[], .none rfl rfl rfl rfl rfl⟩
  | drop => exact ⟨[], .none rfl rfl rfl rfl rfl⟩
  | push payload hroom =>
    exact ⟨[payload], rfl, rfl, rfl, rfl, rfl, fun _ hq hc hf => room_of_readAheadLimit hroom hq hc hf⟩

/-- Moves enqueue payloads one after the other. -/
theorem BodyMoves.enqueues {ra : ReadAhead} {call call' : GrpcCall} (h : BodyMoves ra call call') :
    ∃ new, Enqueues ra call call' new := by
  induction h with
  | refl => exact ⟨[], .none rfl rfl rfl rfl rfl⟩
  | tail _ hmove ih =>
    obtain ⟨xs, hxs⟩ := ih
    obtain ⟨ys, hys⟩ := hmove.enqueues
    exact ⟨xs ++ ys, hxs.trans hys⟩

/-- The room that the read-ahead limits leave behind the first `n` messages of a body, for a call
whose queue ends with the last of these. -/
def readAheadRoom (ra : ReadAhead) (call : GrpcCall) (n : Nat) : Room := fun messages len =>
  !(call.queueResponsePayloads && call.connection.isSome && ra.foreignReader &&
    (decide (call.responseQueueCount + (messages.drop n).length ≥ ra.maxMessages) ||
      decide (len > ra.maxBytes) ||
      decide (call.responseQueueBytes + ((messages.drop n).map List.length).sum >
        ra.maxBytes - len)))

/-- The check of a later call sees the messages that have been queued since. -/
theorem exceeds_of_enqueues {ra : ReadAhead} {call call' : GrpcCall} {new : List Bytes}
    (h : Enqueues ra call call' new) (old : List Bytes) (len : Nat) :
    readAheadLimitWouldExceed ra call' len =
      !readAheadRoom ra call old.length (old ++ new) len := by
  rw [readAheadLimitWouldExceed, readAheadRoom, h.queueing, h.connection, h.count, h.bytes,
    List.drop_left, Bool.not_not]

section Tracking

variable {maxMessages maxBytes : Nat} {encoding : Option Bytes} {taken : List Bytes} {room : Room}

/-- What a round of the parser loop leads to: a message that is dropped for want of room, or the
position of the decoder behind the consumed bytes. -/
def RoundTracks (maxMessages maxBytes : Nat) (encoding : Option Bytes) (taken : List Bytes)
    (room : Room) (ra : ReadAhead) (data : Bytes) (d : Decoder RejectReason) (offset : Nat) :
    Round → Prop
  | .next s' offset' =>
    offset < offset' ∧ offset' ≤ data.length ∧
      (Dropped ra s'.call ∧
          d.overruns (responseCheck maxMessages maxBytes) room (data.drop offset) = true ∨
        ∃ d', Tracks maxMessages maxBytes encoding s'.call taken d' ∧
          d.feed (responseCheck maxMessages maxBytes) (data.drop offset) =
            d'.feed (responseCheck maxMessages maxBytes) (data.drop offset') ∧
          d.overruns (responseCheck maxMessages maxBytes) room (data.drop offset) =
            d'.overruns (responseCheck maxMessages maxBytes) room (data.drop offset'))
  | .done s' _ =>
    Dropped ra s'.call ∧
        d.overruns (responseCheck maxMessages maxBytes) room (data.drop offset) = true ∨
      Tracks maxMessages maxBytes encoding s'.call taken
          (d.feed (responseCheck maxMessages maxBytes) (data.drop offset)) ∧
        d.overruns (responseCheck maxMessages maxBytes) room (data.drop offset) = false

/-- Finishing a message moves the decoder behind it. -/
theorem finishMessage_tracks {ra : ReadAhead} {data : Bytes} {d : Decoder RejectReason}
    {ms : List Bytes} {s : CallbackState} {payload : Bytes} {offset offset' : Nat}
    (hlt : offset < offset') (hle : offset' ≤ data.length)
    (hmax : s.call.maxResponseMessages = maxMessages)
    (hbytes : s.call.maxReceiveMessageBytes = maxBytes)
    (hq : s.call.queueResponsePayloads = true) (hbuf : s.call.responseHeaderBuf.length = 5)
    (hnd : s.call.responseQueueLimitExceeded = false)
    (hms : ms = taken ++ s.call.responseQueue) (hflags : s.call.failureFlags = {})
    (hdis : s.call.discardResponseBody = false)
    (hcount : 0 < s.call.maxResponseMessages → s.call.responseMessageCount = ms.length + 1)
    (hmeter : readAheadLimitWouldExceed ra s.call payload.length = !room ms payload.length)
    (hfeed : d.feed (responseCheck maxMessages maxBytes) (data.drop offset) =
      (⟨ms ++ [payload], .header []⟩ : Decoder RejectReason).feed
        (responseCheck maxMessages maxBytes) (data.drop offset'))
    (hover : d.overruns (responseCheck maxMessages maxBytes) room (data.drop offset) =
      (!room ms payload.length ||
        (⟨ms ++ [payload], .header []⟩ : Decoder RejectReason).overruns
          (responseCheck maxMessages maxBytes) room (data.drop offset'))) :
    RoundTracks maxMessages maxBytes encoding taken room ra data d offset
      (finishMessage ra s payload offset') := by
  unfold finishMessage
  simp only [hq, ite_true]
  rcases enqueueResponsePayload_cases ra (endMessage s) payload with ⟨hdrop, hfull⟩ | ⟨hpush, hfits⟩
  · have hlost : d.overruns (responseCheck maxMessages maxBytes) room (data.drop offset) = true := by
      rw [hover, ← hmeter, show readAheadLimitWouldExceed ra s.call payload.length = true from hfull,
        Bool.true_or]
    split
    · exact .inl ⟨hdrop, hlost⟩
    · exact ⟨hlt, hle, .inl ⟨hdrop, hlost⟩⟩
  · rw [← hmeter, show readAheadLimitWouldExceed ra s.call payload.length = false from hfits,
      Bool.false_or] at hover
    rw [hpush, if_neg (not_not.mpr rfl)]
    refine ⟨hlt, hle, .inr ⟨⟨ms ++ [payload], .header []⟩, ?_, hfeed, hover⟩⟩
    simp only [pushPayload, endMessage, resetMessage]
    refine ⟨hmax, hbytes, hq, hbuf, hnd, ?_, hflags, hdis, by decide, rfl, rfl, rfl, rfl, rfl, ?_⟩
    · rw [hms, List.append_assoc]
    · intro hpos
      rw [List.length_append, List.length_singleton]
      exact hcount hpos

/-- A rejected header leaves the failed decoder. -/
theorem rejectFrame_tracks {ra : ReadAhead} {data : Bytes} {d : Decoder RejectReason} {ms : List Bytes}
    {s : CallbackState} {e : RejectReason} {offset offset' : Nat}
    (hlt : offset < offset') (hle : offset' ≤ data.length)
    (hmax : s.call.maxResponseMessages = maxMessages)
    (hbytes : s.call.maxReceiveMessageBytes = maxBytes)
    (hq : s.call.queueResponsePayloads = true) (hbuf : s.call.responseHeaderBuf.length = 5)
    (henc : s.call.grpcEncoding = encoding)
    (hnd : s.call.responseQueueLimitExceeded = false) (hms : ms = taken ++ s.call.responseQueue)
    (hpay : s.call.responsePayload = none) (hflags : s.call.failureFlags = {})
    (hfeed : d.feed (responseCheck maxMessages maxBytes) (data.drop offset) = ⟨ms, .failed e⟩)
    (hover : d.overruns (responseCheck maxMessages maxBytes) room (data.drop offset) = false) :
    RoundTracks maxMessages maxBytes encoding taken room ra data d offset
      (rejectFrame s (mark e) offset') := by
  have hmark : (mark e s.call).failureFlags = e.flags encoding := by
    rw [← henc]
    exact mark_failureFlags e hflags
  have htracks : Tracks maxMessages maxBytes encoding
      (resetMessage (discardBody (mark e s.call))) taken ⟨ms, .failed e⟩ := by
    obtain ⟨f₁, f₂, f₃, f₄, f₅, f₆, f₇⟩ := mark_frame e s.call
    exact ⟨f₁.trans hmax, f₂.trans hbytes, f₃.trans hq, (congrArg List.length f₄).trans hbuf,
      f₇.trans hnd, hms.trans (congrArg (taken ++ ·) f₅.symm), hmark, rfl, rfl, rfl, rfl, f₆.trans hpay⟩
  unfold rejectFrame
  simp only
  split
  · refine .inr ⟨?_, hover⟩
    rw [submitRstStream_call, hfeed]
    exact htracks
  · refine ⟨hlt, hle, .inr ⟨⟨ms, .failed e⟩, ?_, ?_, ?_⟩⟩
    · rw [submitRstStream_call]
      exact htracks
    · rw [hfeed, Decoder.feed_failed]
    · rw [hover, Decoder.overruns_failed]

/-- The branches of a complete header are the cases of the header check. -/
theorem headerRound_eq (ra : ReadAhead) (data : Bytes) {s : CallbackState}
    {flag l₁ l₂ l₃ l₄ : UInt8} (offset n : Nat)
    (hbuf : s.call.responseHeaderBuf = [flag, l₁, l₂, l₃, l₄])
    (hn : 0 < s.call.maxResponseMessages → s.call.responseMessageCount = n) :
    headerRound ra data s offset =
      match responseCheck s.call.maxResponseMessages s.call.maxReceiveMessageBytes (n + 1) flag
        (be32 l₁ l₂ l₃ l₄) with
      | some e => rejectFrame (countHeader s (be32 l₁ l₂ l₃ l₄)) (mark e) offset
      | none =>
        if readAheadLimitWouldExceed ra (countHeader s (be32 l₁ l₂ l₃ l₄)).call
            (be32 l₁ l₂ l₃ l₄) then
          .done (markReadAheadLimitExceeded (countHeader s (be32 l₁ l₂ l₃ l₄))).1
            (markReadAheadLimitExceeded (countHeader s (be32 l₁ l₂ l₃ l₄))).2
        else
          payloadRound ra data
            { countHeader s (be32 l₁ l₂ l₃ l₄) with
              call := { (countHeader s (be32 l₁ l₂ l₃ l₄)).call with
                responsePayloadOffset := 0
                responsePayload :=
                  some (List.replicate (min (data.length - offset) (be32 l₁ l₂ l₃ l₄)) 0) } }
            offset := by
  obtain ⟨len, hlen⟩ : ∃ len, be32 l₁ l₂ l₃ l₄ = len := ⟨_, rfl⟩
  obtain ⟨c, hc⟩ : ∃ c, countHeader s len = c := ⟨_, rfl⟩
  have hz : ¬len > zstrMaxLen := by
    have := be32_lt l₁ l₂ l₃ l₄
    simp only [zstrMaxLen]
    omega
  have hmax : c.call.maxResponseMessages = s.call.maxResponseMessages := by rw [← hc]; rfl
  have hbytes : c.call.maxReceiveMessageBytes = s.call.maxReceiveMessageBytes := by rw [← hc]; rfl
  have hidx : (s.call.maxResponseMessages > 0 ∧
      c.call.responseMessageCount > s.call.maxResponseMessages) ↔
        (s.call.maxResponseMessages > 0 ∧ n + 1 > s.call.maxResponseMessages) := by
    refine and_congr_right fun hpos => ?_
    rw [← hc, countHeader]
    simp only [hpos, ite_true, hn hpos]
  unfold headerRound responseCheck
  simp only [hbuf, List.getD_cons_zero, List.getD_cons_succ, hlen, hc, hmax, hbytes, hidx]
  by_cases h₁ : s.call.maxResponseMessages > 0 ∧ n + 1 > s.call.maxResponseMessages
  · rw [if_pos h₁, if_pos h₁]
    rfl
  · rw [if_neg h₁, if_neg h₁]
    by_cases h₂ : len > s.call.maxReceiveMessageBytes
    · rw [if_pos h₂, if_pos h₂]
      rfl
    · rw [if_neg h₂, if_neg h₂, if_neg hz]
      by_cases h₃ : flag > 1
      · rw [if_pos h₃, if_pos h₃]
        rfl
      · rw [if_neg h₃, if_neg h₃]
        by_cases h₄ : flag = 1
        · rw [if_pos h₄, if_pos h₄]
          rfl
        · rw [if_neg h₄, if_neg h₄]

/-- A complete header acts as the decoder's `accept`. -/
theorem headerRound_tracks {ra : ReadAhead} {data : Bytes} {d : Decoder RejectReason}
    {ms : List Bytes} {s : CallbackState} {flag l₁ l₂ l₃ l₄ : UInt8} {offset offset' : Nat}
    (hlt : offset < offset') (hle : offset' ≤ data.length)
    (hmax : s.call.maxResponseMessages = maxMessages)
    (hbytes : s.call.maxReceiveMessageBytes = maxBytes)
    (hq : s.call.queueResponsePayloads = true)
    (hbuf : s.call.responseHeaderBuf = [flag, l₁, l₂, l₃, l₄])
    (hlen : s.call.responseHeaderLen = 5) (hpay : s.call.responsePayload = none)
    (henc : s.call.grpcEncoding = encoding)
    (hnd : s.call.responseQueueLimitExceeded = false)
    (hms : ms = taken ++ s.call.responseQueue) (hflags : s.call.failureFlags = {})
    (hdis : s.call.discardResponseBody = false)
    (hcount : 0 < s.call.maxResponseMessages → s.call.responseMessageCount = ms.length)
    (hmeter : ∀ len, readAheadLimitWouldExceed ra s.call len = !room ms len)
    (hfeed : d.feed (responseCheck maxMessages maxBytes) (data.drop offset) =
      ((⟨ms, .header []⟩ : Decoder RejectReason).accept (responseCheck maxMessages maxBytes) flag
        (be32 l₁ l₂ l₃ l₄)).feed (responseCheck maxMessages maxBytes) (data.drop offset'))
    (hover : d.overruns (responseCheck maxMessages maxBytes) room (data.drop offset) =
      ((responseCheck maxMessages maxBytes (ms.length + 1) flag (be32 l₁ l₂ l₃ l₄)).isNone &&
          !room ms (be32 l₁ l₂ l₃ l₄) ||
        ((⟨ms, .header []⟩ : Decoder RejectReason).accept (responseCheck maxMessages maxBytes) flag
          (be32 l₁ l₂ l₃ l₄)).overruns (responseCheck maxMessages maxBytes) room
            (data.drop offset'))) :
    RoundTracks maxMessages maxBytes encoding taken room ra data d offset
      (headerRound ra data s offset') := by
  have hlen5 : s.call.responseHeaderBuf.length = 5 := by rw [hbuf]; rfl
  have hcount' : 0 < s.call.maxResponseMessages →
      s.call.responseMessageCount + (if s.call.maxResponseMessages > 0 then 1 else 0) =
        ms.length + 1 := by
    intro hpos
    rw [if_pos hpos, hcount hpos]
  rw [headerRound_eq ra data offset' ms.length hbuf hcount, hmax, hbytes]
  obtain ⟨len, hlen'⟩ : ∃ len, be32 l₁ l₂ l₃ l₄ = len := ⟨_, rfl⟩
  rw [hlen'] at hfeed hover ⊢
  cases hc : responseCheck maxMessages maxBytes (ms.length + 1) flag len with
  | some e =>
    refine rejectFrame_tracks hlt hle hmax hbytes hq hlen5 henc hnd hms hpay hflags ?_ ?_
    · rw [hfeed, Decoder.accept]
      simp only [hc, Decoder.feed_failed]
    · rw [hover, hc, Decoder.accept]
      simp only [hc, Decoder.overruns_failed]
      rfl
  | none =>
    have hchecked : readAheadLimitWouldExceed ra (countHeader s len).call len = !room ms len :=
      hmeter len
    rw [hc, Option.isNone_none, Bool.true_and, ← hchecked] at hover
    simp only
    split
    · rename_i hexceed
      rw [hexceed, Bool.true_or] at hover
      exact .inl ⟨markReadAheadLimitExceeded_dropped hexceed, hover⟩
    · rename_i hfits
      rw [Bool.not_eq_true] at hfits
      rw [hfits, Bool.false_or] at hover
      have hroom : room ms len = true := by
        rw [hfits] at hchecked
        exact Bool.not_eq_false' _ ▸ hchecked.symm
      have hin : InPayload { (countHeader s len).call with
          responsePayloadOffset := 0
          responsePayload := some (List.replicate (min (data.length - offset') len) 0) }
          len [] (List.replicate (min (data.length - offset') len) 0)
          (data.length - offset') := by
        refine ⟨rfl, rfl, rfl, rfl, Nat.zero_le _, ?_⟩
        rw [List.length_replicate, List.length_nil]
        omega
      by_cases hfin : len ≤ data.length - offset'
      · rw [payloadRound_finish hin (by rw [List.length_nil]; omega)]
        refine finishMessage_tracks ?_ ?_ hmax hbytes hq hlen5 hnd hms hflags hdis
          hcount' (hmeter _) ?_ ?_
        · rw [List.length_nil]
          omega
        · rw [List.length_nil]
          omega
        · rw [hfeed, Decoder.feed_accept_finish _ len ms flag _ hc
            (by rw [List.length_drop]; omega), List.drop_drop, List.length_nil, Nat.sub_zero,
            List.nil_append]
        · have hlength : ((data.drop offset').take len).length = len := by
            rw [List.length_take, List.length_drop]
            omega
          rw [hover, Decoder.overruns_accept_finish _ room len ms flag _ hc hroom
            (by rw [List.length_drop]; omega), List.drop_drop, List.length_nil, Nat.sub_zero,
            List.nil_append, hlength, hroom]
          rfl
      · rw [payloadRound_short hin hle (by rw [List.length_nil]; omega)]
        refine ⟨by omega, le_rfl, .inr ⟨⟨ms, .payload len (data.drop offset')⟩, ?_, ?_, ?_⟩⟩
        · refine ⟨hmax, hbytes, hq, hlen5, hnd, hms, hflags, hdis, ?_, hlen, rfl, rfl, rfl, hcount'⟩
          rw [List.length_drop]
          omega
        · rw [hfeed, Decoder.feed_accept_short _ len ms flag _ hc
            (by rw [List.length_drop]; omega), List.drop_length, Decoder.feed_nil]
        · rw [hover, Decoder.overruns_accept_short _ room len ms flag _ hc
            (by rw [List.length_drop]; omega), List.drop_length]
          rfl

/-- A header has five bytes. -/
private theorem eq_five_of_length {bs : Bytes} (h : bs.length = 5) :
    ∃ a b c d e, bs = [a, b, c, d, e] := by
  match bs, h with
  | [a, b, c, d, e], _ => exact ⟨a, b, c, d, e, rfl⟩

/-- Every round of the loop moves the decoder by the bytes it consumes. -/
theorem directRound_tracks {ra : ReadAhead} {data : Bytes} {d : Decoder RejectReason}
    {s : CallbackState} {offset : Nat} (henc : s.call.grpcEncoding = encoding)
    (h : Tracks maxMessages maxBytes encoding s.call taken d)
    (hmeter : ∀ len, readAheadLimitWouldExceed ra s.call len = !room d.messages len)
    (hstop : decodingStopped s.call = false) (hlt : offset < data.length) :
    RoundTracks maxMessages maxBytes encoding taken room ra data d offset
      (directRound ra data s offset) := by
  obtain ⟨ms, ph⟩ := d
  obtain ⟨hmax, hbytes, hq, hbuf, hnd, hms, hphase⟩ := h
  cases ph with
  | failed e =>
    rw [decodingStopped_eq, hphase.1] at hstop
    simp only [ne_eq, e.flags_ne, not_false_iff, decide_true, Bool.true_eq_false] at hstop
  | payload len got =>
    obtain ⟨hflags, hdis, hgot, hlen, hpl, hpo, hp, hcount⟩ := hphase
    have hin : InPayload s.call len got got (data.length - offset) :=
      ⟨hp, hpl, hpo, List.take_length, hgot.le, by omega⟩
    unfold directRound
    rw [if_neg (by omega)]
    by_cases hfin : len ≤ got.length + (data.length - offset)
    · rw [payloadRound_finish hin hfin]
      refine finishMessage_tracks (by omega) (by omega) hmax hbytes hq hbuf hnd hms hflags
        hdis hcount (hmeter _) ?_ ?_
      · rw [Decoder.feed_payload_finish _ ms len got _ hgot (by rw [List.length_drop]; omega),
          List.drop_drop]
      · have hlength : (got ++ (data.drop offset).take (len - got.length)).length = len := by
          rw [List.length_append, List.length_take, List.length_drop]
          omega
        rw [Decoder.overruns_payload_finish _ room ms len got _ hgot
          (by rw [List.length_drop]; omega), List.drop_drop, hlength]
    · rw [payloadRound_short hin hlt.le (by omega)]
      refine ⟨hlt, le_rfl, .inr ⟨⟨ms, .payload len (got ++ data.drop offset)⟩, ?_, ?_, ?_⟩⟩
      · refine ⟨hmax, hbytes, hq, hbuf, hnd, hms, hflags, hdis, ?_, hlen, hpl, rfl, rfl,
          hcount⟩
        rw [List.length_append, List.length_drop]
        omega
      · rw [Decoder.feed_payload_short _ ms len got _ (by rw [List.length_drop]; omega),
          List.drop_length, Decoder.feed_nil]
      · rw [Decoder.overruns_payload_short _ room ms len got _ (by rw [List.length_drop]; omega),
          List.drop_length]
        rfl
  | header buf =>
    obtain ⟨hflags, hdis, hb, hlen, htake, hpl, hpo, hp, hcount⟩ := hphase
    unfold directRound
    rw [if_pos (by omega)]
    simp only [hlen]
    by_cases hshort : buf.length + (data.length - offset) < 5
    · have hmin : min (5 - buf.length) (data.length - offset) = data.length - offset := by omega
      have hsrc : (data.drop offset).take (data.length - offset) = data.drop offset :=
        List.take_of_length_le (by rw [List.length_drop])
      have hlenSrc : (data.drop offset).length = data.length - offset := List.length_drop
      rw [hmin, hsrc, if_pos hshort]
      refine ⟨by omega, by omega, .inr ⟨⟨ms, .header (buf ++ data.drop offset)⟩, ?_, ?_, ?_⟩⟩
      · refine ⟨hmax, hbytes, hq, ?_, hnd, hms, hflags, hdis, ?_, ?_, ?_, hpl, hpo, hp,
          hcount⟩
        · rw [length_writeAt (by omega)]
          exact hbuf
        · rw [List.length_append]
          omega
        · rw [List.length_append, hlenSrc]
        · rw [List.length_append, take_writeAt (by omega), htake]
      · have hend : data.drop (offset + (data.length - offset)) = [] :=
          List.drop_eq_nil_of_le (by omega)
        rw [Decoder.feed_header_short _ ms buf _ (by omega), hend, Decoder.feed_nil]
      · have hend : data.drop (offset + (data.length - offset)) = [] :=
          List.drop_eq_nil_of_le (by omega)
        rw [Decoder.overruns_header_short _ room ms buf _ (by omega), hend]
        rfl
    · have hmin : min (5 - buf.length) (data.length - offset) = 5 - buf.length := by omega
      have hlenSrc : ((data.drop offset).take (5 - buf.length)).length = 5 - buf.length := by
        rw [List.length_take, List.length_drop]
        omega
      have hwrite : writeAt s.call.responseHeaderBuf buf.length
          ((data.drop offset).take (5 - buf.length)) =
            buf ++ (data.drop offset).take (5 - buf.length) := by
        rw [writeAt_length (by omega), htake]
      have hfive : (buf ++ (data.drop offset).take (5 - buf.length)).length = 5 := by
        rw [List.length_append, hlenSrc]
        omega
      obtain ⟨flag, l₁, l₂, l₃, l₄, hlist⟩ := eq_five_of_length hfive
      rw [hmin, hwrite, hlist, if_neg (by omega)]
      refine headerRound_tracks (by omega) (by omega) hmax hbytes hq rfl ?_ hp henc hnd
        hms hflags hdis hcount hmeter ?_ ?_
      · simp only
        omega
      · rw [Decoder.feed_header_finish _ ms buf _ flag l₁ l₂ l₃ l₄ hb hlist, List.drop_drop]
      · rw [Decoder.overruns_header_finish _ room ms buf _ flag l₁ l₂ l₃ l₄ hb hlist,
          List.drop_drop]

/-- The check inside a chunk that was begun with the call `first`. -/
theorem exceeds_of_tracks {ra : ReadAhead} {first call : GrpcCall} {d : Decoder RejectReason}
    (h : Tracks maxMessages maxBytes encoding call taken d) (hsince : BodyMoves ra first call)
    (len : Nat) :
    readAheadLimitWouldExceed ra call len =
      !readAheadRoom ra first (taken ++ first.responseQueue).length d.messages len := by
  obtain ⟨new, hnew⟩ := hsince.enqueues
  have hmessages : d.messages = taken ++ first.responseQueue ++ new := by
    rw [h.messages, hnew.queue, List.append_assoc]
  rw [hmessages]
  exact exceeds_of_enqueues hnew _ len

/-- The loop moves the decoder by the rest of the chunk, unless a message is dropped for want of
room. -/
theorem directLoop_tracks {ra : ReadAhead} {data : Bytes} (fuel : Nat) {d : Decoder RejectReason}
    {s : CallbackState} {offset : Nat} {first : GrpcCall} (hsince : BodyMoves ra first s.call)
    (hroom : room = readAheadRoom ra first (taken ++ first.responseQueue).length)
    (henc : s.call.grpcEncoding = encoding)
    (h : Tracks maxMessages maxBytes encoding s.call taken d) (hle : offset ≤ data.length)
    (hfuel : data.length - offset ≤ fuel) :
    (Dropped ra (directLoop ra data fuel s offset).1.call ∧
        d.overruns (responseCheck maxMessages maxBytes) room (data.drop offset) = true) ∨
      Tracks maxMessages maxBytes encoding (directLoop ra data fuel s offset).1.call taken
          (d.feed (responseCheck maxMessages maxBytes) (data.drop offset)) ∧
        d.overruns (responseCheck maxMessages maxBytes) room (data.drop offset) = false := by
  induction fuel generalizing d s offset with
  | zero =>
    right
    rw [List.drop_eq_nil_of_le (by omega), Decoder.feed_nil]
    exact ⟨h, rfl⟩
  | succ fuel ih =>
    unfold directLoop
    split
    · rename_i hgo
      obtain ⟨hlt, hstop⟩ := hgo
      have hround : RoundTracks maxMessages maxBytes encoding taken room ra data d offset
          (directRound ra data s offset) :=
        directRound_tracks henc h (hroom ▸ exceeds_of_tracks h hsince) (by simpa using hstop) hlt
      have hmoves := directRound_moves ra data s offset
      cases hr : directRound ra data s offset with
      | done s' rv =>
        rw [hr] at hround
        exact hround
      | next s' offset' =>
        rw [hr] at hround hmoves
        obtain ⟨hlt', hle', ⟨hdrop, hover⟩ | ⟨d', htracks, hfeed, hover⟩⟩ := hround
        · have hlost := (directLoop_moves ra data fuel s' offset').bodyStep.limit hdrop.2
          exact .inl ⟨⟨hdrop.1, hlost⟩, hover⟩
        · rw [hfeed, hover]
          refine ih (hsince.trans hmoves) ?_ htracks hle' (by omega)
          exact (BodyStep.field hmoves.bodyStep.frame GrpcCall.grpcEncoding fun _ => rfl).trans henc
    · rename_i hstay
      right
      by_cases hlt : offset < data.length
      · obtain ⟨ms, ph⟩ := d
        have hs : decodingStopped s.call = true := by
          by_contra hns
          exact hstay ⟨hlt, by simpa using hns⟩
        cases ph with
        | failed e =>
          rw [Decoder.feed_failed]
          exact ⟨h, Decoder.overruns_failed ..⟩
        | header buf | payload len got =>
          rw [decodingStopped_eq, h.phase.1] at hs
          simp only [ne_eq, not_true, decide_false, Bool.false_eq_true] at hs
      · rw [List.drop_eq_nil_of_le (by omega), Decoder.feed_nil]
        exact ⟨h, rfl⟩

end Tracking

/-- A discarded body stands behind a rejected header. -/
theorem Tracks.failed_of_discard {maxMessages maxBytes : Nat} {encoding : Option Bytes}
    {taken : List Bytes} {call : GrpcCall} {d : Decoder RejectReason}
    (h : Tracks maxMessages maxBytes encoding call taken d)
    (hd : call.discardResponseBody = true) : ∃ e, d.phase = .failed e := by
  have hp := h.phase
  cases hph : d.phase with
  | failed e => exact ⟨e, rfl⟩
  | header buf | payload len got =>
    rw [hph] at hp
    rw [hp.2.1] at hd
    cases hd

/-- A chunk moves the decoder by its bytes, unless a message is dropped for want of room. -/
theorem processResponseDataDirect_tracks {maxMessages maxBytes : Nat} {encoding : Option Bytes}
    {taken : List Bytes} (ra : ReadAhead) (data : Bytes) {d : Decoder RejectReason}
    {s : CallbackState} (hstatus : s.call.grpcStatusSeen = false)
    (henc : s.call.grpcEncoding = encoding)
    (h : Tracks maxMessages maxBytes encoding s.call taken d) :
    (Dropped ra (processResponseDataDirect ra s data).1.call ∧
        d.overruns (responseCheck maxMessages maxBytes)
          (readAheadRoom ra s.call (taken ++ s.call.responseQueue).length) data = true) ∨
      Tracks maxMessages maxBytes encoding (processResponseDataDirect ra s data).1.call taken
          (d.feed (responseCheck maxMessages maxBytes) data) ∧
        d.overruns (responseCheck maxMessages maxBytes)
          (readAheadRoom ra s.call (taken ++ s.call.responseQueue).length) data = false := by
  unfold processResponseDataDirect
  rw [hstatus, if_neg Bool.false_ne_true]
  split
  · rename_i hd
    obtain ⟨e, he⟩ := Tracks.failed_of_discard h hd
    obtain ⟨ms, ph⟩ := d
    simp only at he
    subst he
    rw [Decoder.feed_failed]
    exact .inr ⟨h, Decoder.overruns_failed ..⟩
  · exact directLoop_tracks data.length .refl rfl henc h (Nat.zero_le _) le_rfl

end CallbackState

end GrpcLite
