import GrpcLite.Correctness.Decoding

/-!
# Decoding does not depend on chunk boundaries

Feeding the data callback with any split of a byte string leaves the call where
the one-shot reference decoding of the string ends: the queue holds the longest
run of acceptable frames, the failure flags are those of the first rejected
header, and the residual position is that of the unfinished message.
-/

namespace GrpcLite

open Framing

/-- A call that is free to decode and has decoded nothing. -/
structure GrpcCall.FreshBody (call : GrpcCall) : Prop where
  /-- The data callback takes the direct path. -/
  direct : call.directResponsePayload = true ∧ call.decodeResponseIncrementally = true ∧
    call.queueResponsePayloads = true
  /-- No grpc-status was received. -/
  noStatus : call.grpcStatusSeen = false
  /-- The body is not discarded. -/
  noDiscard : call.discardResponseBody = false
  /-- No failure flag is raised. -/
  noFailure : call.failureFlags = {} ∧ call.responseQueueLimitExceeded = false
  /-- The queue is empty and nothing was counted. -/
  noMessage : call.responseQueue = [] ∧ call.responseMessageCount = 0
  /-- The parser is at a message boundary. -/
  boundary : call.responseHeaderBuf.length = 5 ∧ call.responseHeaderLen = 0 ∧
    call.responsePayloadLen = 0 ∧ call.responsePayloadOffset = 0 ∧ call.responsePayload = none

/-- The messages are complete frames at the start of the bytes, with flag zero, within the
length limit and within the limit on their number (zero for none). -/
structure FramePrefix (maxMessages maxBytes : Nat) (bs : Bytes) (ms : List Bytes) : Prop where
  /-- The frames start the bytes. -/
  encodes : encode ms <+: bs
  /-- A frame has a 32-bit length within the limit. -/
  fits : ∀ m ∈ ms, m.length < 2 ^ 32 ∧ m.length ≤ maxBytes
  /-- Their number is within the limit. -/
  count : 0 < maxMessages → ms.length ≤ maxMessages

/-- What a call holds after the bytes of its body, compared with the reference decoding. -/
structure DecodesTo (start : GrpcCall) (bs : Bytes) (call : GrpcCall) : Prop where
  /-- The queue is an acceptable frame prefix. -/
  accepted : FramePrefix start.maxResponseMessages start.maxReceiveMessageBytes bs
    call.responseQueue
  /-- The queue is the longest one. -/
  longest : ∀ ms, FramePrefix start.maxResponseMessages start.maxReceiveMessageBytes bs ms →
    ms <+: call.responseQueue
  /-- The failure flags are exactly those of the first rejected header. -/
  flags : call.failureFlags = decoderFlags start.grpcEncoding
    (decode (responseCheck start.maxResponseMessages start.maxReceiveMessageBytes) bs)
  /-- The residual position is that of the reference decoding. -/
  position : AtPhase start.grpcEncoding call call.responseQueue.length
    (decode (responseCheck start.maxResponseMessages start.maxReceiveMessageBytes) bs).phase
  /-- No message was dropped. -/
  noDrop : call.responseQueueLimitExceeded = false
  /-- Nothing outside the body changed. -/
  frame : call.eraseBody = start.eraseBody

/-- Feed the data callback with chunks in order. -/
def CallbackState.feedChunks (ra : ReadAhead) (s : CallbackState) (chunks : List Bytes) :
    CallbackState :=
  chunks.foldl (fun s chunk => (s.onDataChunkRecv ra chunk).1) s

/-- The acceptable frame prefixes are the accepted encodings of the header check. -/
theorem framePrefix_iff {maxMessages maxBytes : Nat} {bs : Bytes} {ms : List Bytes} :
    FramePrefix maxMessages maxBytes bs ms ↔
      Accepted (responseCheck maxMessages maxBytes) ms ∧ encode ms <+: bs := by
  constructor
  · rintro ⟨henc, hfits, hcount⟩
    refine ⟨?_, henc⟩
    intro pre m post he
    obtain ⟨h32, hmax⟩ := hfits m (by rw [he]; simp)
    refine ⟨h32, responseCheck_none.mpr ⟨rfl, hmax, fun hpos => ?_⟩⟩
    have := hcount hpos
    rw [he, List.length_append, List.length_cons] at this
    omega
  · rintro ⟨hacc, henc⟩
    refine ⟨henc, ?_, ?_⟩
    · intro m hm
      obtain ⟨pre, post, he⟩ := List.append_of_mem hm
      obtain ⟨h32, hc⟩ := hacc pre m post he
      exact ⟨h32, (responseCheck_none.mp hc).2.1⟩
    · intro hpos
      rcases List.eq_nil_or_concat ms with rfl | ⟨pre, m, rfl⟩
      · exact Nat.zero_le _
      · rw [List.concat_eq_append] at hacc ⊢
        have hc := (responseCheck_none.mp (hacc pre m [] rfl).2).2.2 hpos
        rw [List.length_append, List.length_singleton]
        exact hc

namespace CallbackState

theorem FreshBody.tracks {call : GrpcCall} (h : call.FreshBody) :
    Tracks call.maxResponseMessages call.maxReceiveMessageBytes call.grpcEncoding call []
      Decoder.start := by
  obtain ⟨⟨-, -, hq⟩, -, hdis, ⟨hflags, hdrop⟩, ⟨hqueue, hcount⟩, hbuf, hlen, hpl, hpo, hp⟩ := h
  refine ⟨rfl, rfl, hq, hbuf, hdrop, ?_, hflags, hdis, by decide, hlen, rfl, hpl, hpo, hp, ?_⟩
  · rw [hqueue]
    rfl
  · intro _
    exact hcount

/-- On a direct path without a status, the data callback is the direct parser. -/
theorem onDataChunkRecv_direct (ra : ReadAhead) (s : CallbackState) (data : Bytes)
    (hdirect : s.call.directResponsePayload = true ∧ s.call.decodeResponseIncrementally = true ∧
      s.call.queueResponsePayloads = true) (hne : data ≠ []) :
    (s.onDataChunkRecv ra data).1 = (processResponseDataDirect ra s data).1 := by
  have hlen : ¬data.length = 0 := fun h => hne (List.length_eq_zero_iff.mp h)
  unfold onDataChunkRecv
  simp only [hlen, hdirect, Bool.and_self, ite_true, ite_false]

/-- One chunk on the direct path, read by the call itself. -/
private theorem onDataChunkRecv_tracks {maxMessages maxBytes : Nat} {encoding : Option Bytes}
    (ra : ReadAhead) (hra : ra.foreignReader = false) {s : CallbackState}
    {d : Decoder RejectReason} (data : Bytes)
    (hdirect : s.call.directResponsePayload = true ∧ s.call.decodeResponseIncrementally = true ∧
      s.call.queueResponsePayloads = true)
    (hstatus : s.call.grpcStatusSeen = false) (henc : s.call.grpcEncoding = encoding)
    (h : Tracks maxMessages maxBytes encoding s.call [] d) :
    Tracks maxMessages maxBytes encoding (s.onDataChunkRecv ra data).1.call []
        (d.feed (responseCheck maxMessages maxBytes) data) ∧
      (s.onDataChunkRecv ra data).1.call.eraseBody = s.call.eraseBody := by
  by_cases hne : data = []
  · subst hne
    exact ⟨h, rfl⟩
  · rw [onDataChunkRecv_direct ra s data hdirect hne]
    refine ⟨?_, (processResponseDataDirect_moves ra data s hstatus).bodyStep.frame⟩
    rcases processResponseDataDirect_tracks ra data hstatus henc h with ⟨hdrop, -⟩ | ⟨htracks, -⟩
    · exact absurd (hra.symm.trans hdrop.1) Bool.false_ne_true
    · exact htracks

/-- Chunks on the direct path, read by the call itself. -/
theorem feedChunks_tracks {maxMessages maxBytes : Nat} {encoding : Option Bytes} (ra : ReadAhead)
    (hra : ra.foreignReader = false) {s : CallbackState} {d : Decoder RejectReason}
    (chunks : List Bytes)
    (hdirect : s.call.directResponsePayload = true ∧ s.call.decodeResponseIncrementally = true ∧
      s.call.queueResponsePayloads = true)
    (hstatus : s.call.grpcStatusSeen = false) (henc : s.call.grpcEncoding = encoding)
    (h : Tracks maxMessages maxBytes encoding s.call [] d) :
    Tracks maxMessages maxBytes encoding (s.feedChunks ra chunks).call []
        (d.feed (responseCheck maxMessages maxBytes) chunks.flatten) ∧
      (s.feedChunks ra chunks).call.eraseBody = s.call.eraseBody := by
  induction chunks generalizing s d with
  | nil => exact ⟨h, rfl⟩
  | cons chunk chunks ih =>
    obtain ⟨htracks, hframe⟩ := onDataChunkRecv_tracks ra hra chunk hdirect hstatus henc h
    have hsame {α : Type} (f : GrpcCall → α) (hf : ∀ c, f c.eraseBody = f c) :=
      BodyStep.field hframe f hf
    obtain ⟨htracks', hframe'⟩ := ih
      ⟨(hsame GrpcCall.directResponsePayload fun _ => rfl).trans hdirect.1,
        (hsame GrpcCall.decodeResponseIncrementally fun _ => rfl).trans hdirect.2.1,
        (hsame GrpcCall.queueResponsePayloads fun _ => rfl).trans hdirect.2.2⟩
      ((hsame GrpcCall.grpcStatusSeen fun _ => rfl).trans hstatus)
      ((hsame GrpcCall.grpcEncoding fun _ => rfl).trans henc) htracks
    rw [List.flatten_cons, Decoder.feed_append]
    exact ⟨htracks', hframe'.trans hframe⟩

/-- Whatever the chunk boundaries, the limits, the declared encoding and the answers to
stream resets, the data callback leaves a fresh call where the reference decoding ends. -/
theorem feedChunks_decodesTo (ra : ReadAhead) (s : CallbackState) (chunks : List Bytes)
    (hra : ra.foreignReader = false) (h : s.call.FreshBody) :
    DecodesTo s.call chunks.flatten (s.feedChunks ra chunks).call := by
  obtain ⟨htracks, hframe⟩ := feedChunks_tracks ra hra chunks h.direct h.noStatus rfl
    (FreshBody.tracks h)
  rw [feed_start_eq_decode] at htracks
  have hqueue : (s.feedChunks ra chunks).call.responseQueue = (decode
      (responseCheck s.call.maxResponseMessages s.call.maxReceiveMessageBytes)
        chunks.flatten).messages := by
    rw [htracks.messages, List.nil_append]
  obtain ⟨hacc, henc, -⟩ := decode_sound
    (responseCheck_flag s.call.maxResponseMessages s.call.maxReceiveMessageBytes) chunks.flatten
  have hphase := htracks.phase
  refine ⟨?_, ?_, ?_, ?_, htracks.noDrop, hframe⟩
  · rw [framePrefix_iff, hqueue]
    exact ⟨hacc, henc⟩
  · intro ms hms
    obtain ⟨ha, hp⟩ := framePrefix_iff.mp hms
    rw [hqueue]
    exact prefix_decode_of_encode_prefix _ ha hp
  · unfold decoderFlags Decoder.failure
    cases hph : (decode (responseCheck s.call.maxResponseMessages
        s.call.maxReceiveMessageBytes) chunks.flatten).phase with
    | failed e | header buf | payload len got =>
      rw [hph] at hphase
      exact hphase.1
  · rw [hqueue]
    exact hphase

/-- A call as the unary driver starts it, with a receive limit of four bytes. -/
private def unaryCall : GrpcCall :=
  { directResponsePayload := true, decodeResponseIncrementally := true
    queueResponsePayloads := true, maxResponseMessages := 1, maxReceiveMessageBytes := 4
    streamId := 1 }

/-- A message cut inside its header and inside its payload, then a second header. -/
theorem feedChunks_unaryCall :
    unaryCall.FreshBody ∧
      DecodesTo unaryCall [0, 0, 0, 0, 2, 65, 66, 0, 0, 0, 0, 0]
        (feedChunks ⟨false, 32, 8388608⟩ ⟨unaryCall, [0], []⟩
          [[0, 0, 0], [0, 2, 65], [66, 0, 0, 0], [0, 0]]).call := by
  have h : unaryCall.FreshBody :=
    ⟨⟨rfl, rfl, rfl⟩, rfl, rfl, ⟨rfl, rfl⟩, ⟨rfl, rfl⟩, rfl, rfl, rfl, rfl, rfl⟩
  exact ⟨h, feedChunks_decodesTo ⟨false, 32, 8388608⟩ ⟨unaryCall, [0], []⟩
    [[0, 0, 0], [0, 2, 65], [66, 0, 0, 0], [0, 0]] rfl h⟩

end CallbackState

end GrpcLite
