import GrpcLite.Correctness.Decoding

/-!
# What a callback leaves alone

A callback of the library never touches the identity of a call, its limits, its
request and its transport failures. It may submit stream resets; only the last of
them can meet a fatal answer, and the callback then fails.
-/

namespace GrpcLite

/-- The fields of a call that no callback writes, but for the close of the stream. -/
def GrpcCall.fixed (call : GrpcCall) : GrpcCall where
  connection := call.connection
  streamId := call.streamId
  retryAttempt := call.retryAttempt
  streamRegistered := call.streamRegistered
  connectionOwned := call.connectionOwned
  streamClosed := call.streamClosed
  locallyCancelled := call.locallyCancelled
  connectionBroken := call.connectionBroken
  streamRefusedSeen := call.streamRefusedSeen
  maxResponseMessages := call.maxResponseMessages
  maxReceiveMessageBytes := call.maxReceiveMessageBytes
  timedOut := call.timedOut
  lastIoErrno := call.lastIoErrno
  lastSslError := call.lastSslError
  lastIoErrorDetail := call.lastIoErrorDetail
  deadlineAbsUs := call.deadlineAbsUs
  decodeResponseIncrementally := call.decodeResponseIncrementally
  directResponsePayload := call.directResponsePayload
  queueResponsePayloads := call.queueResponsePayloads
  maxResponseMetadataBytes := call.maxResponseMetadataBytes
  grpcHeader := call.grpcHeader
  request := call.request
  requestOffset := call.requestOffset

namespace CallbackState

/-- What a callback may do besides changing the fields of a response: submit resets, where a
fatal answer can only be the last one and makes the callback fail. -/
structure Submits (s s' : CallbackState) (rv : Int) : Prop where
  /-- The fixed fields stay. -/
  fixed : s'.call.fixed = s.call.fixed
  /-- The submissions so far stay, and new ones follow. -/
  resets : ∃ new, s'.rstSubmitted = s.rstSubmitted ++ new ∧
    (∀ x ∈ new.dropLast, Nghttp2.isFatal x.2 = false) ∧
    (rv = 0 → ∀ x ∈ new, Nghttp2.isFatal x.2 = false)

namespace Submits

variable {s s₁ s₂ : CallbackState} {rv rv' : Int}

/-- Nothing submitted. -/
theorem of_fixed (hfixed : s₁.call.fixed = s.call.fixed)
    (hsub : s₁.rstSubmitted = s.rstSubmitted) : Submits s s₁ rv :=
  ⟨hfixed, [], by rw [hsub, List.append_nil], by simp, by simp⟩

/-- Nothing happens. -/
theorem refl : Submits s s rv := of_fixed rfl rfl

/-- Resets one after the other, the first ones not fatal. -/
theorem trans (h : Submits s s₁ 0) (h' : Submits s₁ s₂ rv) : Submits s s₂ rv := by
  obtain ⟨hf, n₁, he₁, -, hn₁⟩ := h
  obtain ⟨hf', n₂, he₂, hd₂, hn₂⟩ := h'
  refine ⟨hf'.trans hf, n₁ ++ n₂, by rw [he₂, he₁, List.append_assoc], ?_, ?_⟩
  · intro x hx
    by_cases hne : n₂ = []
    · rw [hne, List.append_nil] at hx
      exact hn₁ rfl x (List.dropLast_subset _ hx)
    · rw [List.dropLast_append_of_ne_nil hne] at hx
      exact (List.mem_append.mp hx).elim (hn₁ rfl x) (hd₂ x)
  · intro hrv x hx
    exact (List.mem_append.mp hx).elim (hn₁ rfl x) (hn₂ hrv x)

/-- A failure may be reported under another value. -/
theorem fail (h : Submits s s₁ rv) (hrv : rv' ≠ 0) : Submits s s₁ rv' := by
  obtain ⟨hf, new, he, hd, -⟩ := h
  exact ⟨hf, new, he, hd, fun h => absurd h hrv⟩

/-- The usual report of a failed part. -/
theorem report (h : Submits s s₁ rv) (hrv : rv' ≠ 0) :
    Submits s s₁ (if rv ≠ 0 then rv' else 0) := by
  by_cases h0 : rv = 0
  · rw [if_neg (not_not.mpr h0)]
    exact h0 ▸ h
  · rw [if_pos h0]
    exact h.fail hrv

end Submits

/-- A failing callback does not return zero. -/
theorem errCallbackFailure_ne : Nghttp2.errCallbackFailure ≠ 0 := by decide

/-- A reset is submitted. -/
theorem submitRstStream_submits (s : CallbackState) (code : Nat) :
    Submits s (submitRstStream s code).1 (submitRstStream s code).2 := by
  unfold submitRstStream
  split
  · exact .refl
  · refine ⟨rfl, [(code, s.rstAnswers.headD 0)], rfl, by simp, ?_⟩
    intro hrv x hx
    rw [List.mem_singleton.mp hx]
    by_contra hfatal
    rw [Bool.not_eq_false] at hfatal
    simp only [hfatal, ite_true] at hrv
    exact errCallbackFailure_ne hrv

/-- A change of the response fields, then a reset. -/
theorem submitRstStream_submits_of_fixed {s t : CallbackState} (code : Nat)
    (h : t.call.fixed = s.call.fixed) (hsub : t.rstSubmitted = s.rstSubmitted) :
    Submits s (submitRstStream t code).1 (submitRstStream t code).2 :=
  Submits.trans (.of_fixed h hsub) (submitRstStream_submits t code)

/-! ## The parsers -/

/-- A round of a parser loop submits. -/
def Round.Submits (s : CallbackState) : Round → Prop
  | .next s' _ => CallbackState.Submits s s' 0
  | .done s' rv => CallbackState.Submits s s' rv

/-- A round behind a change of the response alone. -/
theorem Round.Submits.of_fixed {s t : CallbackState} {r : Round}
    (hfixed : t.call.fixed = s.call.fixed) (hsub : t.rstSubmitted = s.rstSubmitted)
    (h : r.Submits t) : r.Submits s := by
  cases r with
  | next s' offset => exact (CallbackState.Submits.of_fixed hfixed hsub).trans h
  | done s' rv => exact (CallbackState.Submits.of_fixed hfixed hsub).trans h

/-- A compressed message is flagged and nothing else. -/
theorem flagCompressedMessage_fixed (call : GrpcCall) :
    (flagCompressedMessage call).fixed = call.fixed := by
  unfold flagCompressedMessage
  split
  · split <;> rfl
  · rfl

/-- A rejected frame submits one reset. -/
theorem rejectFrame_submits (s : CallbackState) (mark : GrpcCall → GrpcCall) (offset : Nat)
    (hmark : (mark s.call).fixed = s.call.fixed) : (rejectFrame s mark offset).Submits s := by
  have h := submitRstStream_submits_of_fixed (s := s)
    (t := { s with call := resetMessage (discardBody (mark s.call)) }) Nghttp2.cancel hmark rfl
  unfold rejectFrame
  simp only
  split
  · exact h.fail errCallbackFailure_ne
  · next hrv =>
    rw [not_not.mp hrv] at h
    exact h

/-- A reader that is too far ahead is reset. -/
theorem markReadAheadLimitExceeded_submits (s : CallbackState) :
    Submits s (markReadAheadLimitExceeded s).1 (markReadAheadLimitExceeded s).2 := by
  unfold markReadAheadLimitExceeded
  exact submitRstStream_submits_of_fixed _ rfl rfl

/-- A payload is queued, or its stream is reset. -/
theorem enqueueResponsePayload_submits (ra : ReadAhead) (s : CallbackState) (payload : Bytes) :
    Submits s (enqueueResponsePayload ra s payload).1 (enqueueResponsePayload ra s payload).2 := by
  unfold enqueueResponsePayload
  split
  · exact markReadAheadLimitExceeded_submits s
  · exact .of_fixed rfl rfl

/-- A whole message is delivered or rejected. -/
theorem finishMessage_submits (ra : ReadAhead) (s : CallbackState) (payload : Bytes)
    (offset : Nat) : (finishMessage ra s payload offset).Submits s := by
  have h := enqueueResponsePayload_submits ra (endMessage s) payload
  unfold finishMessage
  simp only
  split
  · refine Round.Submits.of_fixed (t := endMessage s) rfl rfl ?_
    split
    · exact h.fail (by decide)
    · next hrv =>
      rw [not_not.mp hrv] at h
      exact h
  · exact Submits.of_fixed rfl rfl

/-- A round that reads payload. -/
theorem payloadRound_submits (ra : ReadAhead) (data : Bytes) (s : CallbackState) (offset : Nat) :
    (payloadRound ra data s offset).Submits s := by
  unfold payloadRound
  split
  · exact Submits.refl
  · simp only
    split
    · refine Round.Submits.of_fixed ?_ ?_ (finishMessage_submits ra _ _ _) <;> rfl
    · exact Submits.of_fixed rfl rfl

/-- A round that reads the header of a message. -/
theorem headerRound_submits (ra : ReadAhead) (data : Bytes) (s : CallbackState) (offset : Nat) :
    (headerRound ra data s offset).Submits s := by
  unfold headerRound
  simp only
  generalize be32 _ _ _ _ = len
  refine Round.Submits.of_fixed (t := countHeader s len) rfl rfl ?_
  split
  · exact rejectFrame_submits _ _ _ rfl
  split
  · exact rejectFrame_submits _ _ _ rfl
  split
  · exact rejectFrame_submits _ _ _ rfl
  split
  · exact rejectFrame_submits _ _ _ rfl
  split
  · exact rejectFrame_submits _ _ _ (flagCompressedMessage_fixed _)
  split
  · exact markReadAheadLimitExceeded_submits _
  · refine Round.Submits.of_fixed ?_ ?_ (payloadRound_submits ra data _ _) <;> rfl

/-- A round, whichever part it reads. -/
theorem directRound_submits (ra : ReadAhead) (data : Bytes) (s : CallbackState) (offset : Nat) :
    (directRound ra data s offset).Submits s := by
  unfold directRound
  split
  · simp only
    split
    · exact Submits.of_fixed rfl rfl
    · refine Round.Submits.of_fixed ?_ ?_ (headerRound_submits ra data _ _) <;> rfl
  · exact payloadRound_submits ra data s offset

/-- The loop over a chunk stops at the first fatal reset. -/
theorem directLoop_submits (ra : ReadAhead) (data : Bytes) (fuel : Nat) (s : CallbackState)
    (offset : Nat) :
    Submits s (directLoop ra data fuel s offset).1 (directLoop ra data fuel s offset).2 := by
  induction fuel generalizing s offset with
  | zero => exact .refl
  | succ fuel ih =>
    unfold directLoop
    split
    · have h := directRound_submits ra data s offset
      cases hr : directRound ra data s offset with
      | next s' offset' =>
        rw [hr] at h
        exact Submits.trans h (ih s' offset')
      | done s' rv =>
        rw [hr] at h
        exact h
    · exact .refl

/-- Body bytes behind a status are rejected with one reset. -/
theorem rejectDataAfterStatus_submits (s : CallbackState) :
    Submits s (rejectDataAfterStatus s).1 (rejectDataAfterStatus s).2 := by
  unfold rejectDataAfterStatus
  exact submitRstStream_submits_of_fixed _ rfl rfl

/-- A chunk of the body. -/
theorem processResponseDataDirect_submits (ra : ReadAhead) (s : CallbackState) (data : Bytes) :
    Submits s (processResponseDataDirect ra s data).1 (processResponseDataDirect ra s data).2 := by
  unfold processResponseDataDirect
  split
  · exact rejectDataAfterStatus_submits s
  split
  · exact .refl
  · exact directLoop_submits ra data _ s 0

/-- A length that is too large submits one reset. -/
theorem rejectLength_submits (s : CallbackState) (mark : GrpcCall → GrpcCall)
    (hmark : (mark s.call).fixed = s.call.fixed) : (rejectLength s mark).Submits s := by
  unfold rejectLength
  exact submitRstStream_submits_of_fixed _ hmark rfl

/-- A round of the length check that skips payload. -/
theorem lengthPayloadRound_submits (data : Bytes) (s : CallbackState) (offset : Nat) :
    (lengthPayloadRound data s offset).Submits s := by
  unfold lengthPayloadRound
  split
  · simp only
    split
    · exact Submits.of_fixed rfl rfl
    · exact Submits.of_fixed rfl rfl
  · exact Submits.refl

/-- A round of the length check that reads a header. -/
theorem lengthHeaderRound_submits (data : Bytes) (s : CallbackState) (offset : Nat) :
    (lengthHeaderRound data s offset).Submits s := by
  unfold lengthHeaderRound
  simp only
  generalize be32 _ _ _ _ = len
  refine Round.Submits.of_fixed (t := countHeader s len) rfl rfl ?_
  split
  · exact rejectLength_submits _ _ rfl
  split
  · exact rejectLength_submits _ _ rfl
  split
  · exact rejectLength_submits _ _ (flagCompressedMessage_fixed _)
  split
  · refine Round.Submits.of_fixed ?_ ?_ (rejectLength_submits _ _ ?_) <;> rfl
  split
  · exact Submits.of_fixed rfl rfl
  · refine Round.Submits.of_fixed ?_ ?_ (lengthPayloadRound_submits data _ _) <;> rfl

/-- A round of the length check, whichever part it reads. -/
theorem lengthRound_submits (data : Bytes) (s : CallbackState) (offset : Nat) :
    (lengthRound data s offset).Submits s := by
  unfold lengthRound
  split
  · simp only
    split
    · exact Submits.of_fixed rfl rfl
    · refine Round.Submits.of_fixed ?_ ?_ (lengthHeaderRound_submits data _ _) <;> rfl
  · exact lengthPayloadRound_submits data s offset

/-- The loop of the length check stops at the first fatal reset. -/
theorem lengthLoop_submits (data : Bytes) (fuel : Nat) (s : CallbackState) (offset : Nat) :
    Submits s (lengthLoop data fuel s offset).1 (lengthLoop data fuel s offset).2 := by
  induction fuel generalizing s offset with
  | zero => exact .refl
  | succ fuel ih =>
    unfold lengthLoop
    split
    · have h := lengthRound_submits data s offset
      cases hr : lengthRound data s offset with
      | next s' offset' =>
        rw [hr] at h
        exact Submits.trans h (ih s' offset')
      | done s' rv =>
        rw [hr] at h
        exact h
    · exact .refl

/-- The length check of a chunk. -/
theorem validateResponseMessageLengths_submits (s : CallbackState) (data : Bytes) :
    Submits s (validateResponseMessageLengths s data).1
      (validateResponseMessageLengths s data).2 := by
  unfold validateResponseMessageLengths
  split
  · exact rejectDataAfterStatus_submits s
  · exact lengthLoop_submits data _ s 0

/-! ## The callbacks -/

/-- The callback for body bytes. -/
theorem onDataChunkRecv_submits (ra : ReadAhead) (s : CallbackState) (data : Bytes) :
    Submits s (onDataChunkRecv ra s data).1 (onDataChunkRecv ra s data).2 := by
  unfold onDataChunkRecv
  split
  · exact .refl
  split
  · exact (processResponseDataDirect_submits ra s data).report errCallbackFailure_ne
  · have h := validateResponseMessageLengths_submits s data
    simp only
    split
    · exact h.fail errCallbackFailure_ne
    · next hrv =>
      rw [not_not] at hrv
      rw [hrv] at h
      split
      · exact h
      · exact h.trans (.of_fixed rfl rfl)

/-- A metadata field is stored, or the response rejected with one reset. -/
theorem addResponseMetadataEntry_submits (s : CallbackState) (name value : Bytes)
    (trailing : Bool) :
    Submits s (addResponseMetadataEntry s name value trailing).1
      (addResponseMetadataEntry s name value trailing).2 := by
  unfold addResponseMetadataEntry
  simp only
  split
  · exact .refl
  split
  · split
    · exact submitRstStream_submits_of_fixed _ rfl rfl
    · exact .of_fixed rfl rfl
  · exact .of_fixed rfl rfl

/-- A status changes the response alone. -/
theorem headerGrpcStatus_fixed (cat : HeaderCategory) (value : Bytes) (call : GrpcCall) :
    (headerGrpcStatus cat value call).fixed = call.fixed := by
  unfold headerGrpcStatus
  simp only
  split <;> split <;> split <;> rfl

/-- So does any field. -/
theorem headerField_fixed (cat : HeaderCategory) (name value : Bytes) (call : GrpcCall) :
    (headerField cat name value call).fixed = call.fixed := by
  unfold headerField
  split
  · split <;> rfl
  split
  · rfl
  split
  · simp only
    split <;> rfl
  split <;> rfl

/-- The callback for a field. -/
theorem onHeader_submits (s : CallbackState) (cat : HeaderCategory) (name value : Bytes) :
    Submits s (onHeader s cat name value).1 (onHeader s cat name value).2 := by
  unfold onHeader
  simp only
  split
  · exact .of_fixed (headerGrpcStatus_fixed cat value s.call) rfl
  split
  · refine .of_fixed ?_ rfl
    split <;> rfl
  · have h := addResponseMetadataEntry_submits
      { s with call := headerField cat name value s.call } name value
      (decide (cat ≠ .response) || decide (s.call.grpcStatus ≥ 0) ||
        decide (name = HeaderName.grpcStatusDetailsBin))
    have hfield : Submits s { s with call := headerField cat name value s.call } 0 :=
      .of_fixed (headerField_fixed cat name value s.call) rfl
    exact (hfield.trans h).report errCallbackFailure_ne

/-- The end of a header block changes the response alone. -/
theorem onHeadersFrame_fixed (cat : HeaderCategory) (endStream : Bool) (call : GrpcCall) :
    (onHeadersFrame cat endStream call).fixed = call.fixed := by
  unfold onHeadersFrame
  cases cat with
  | response =>
    simp only
    split <;> split <;> rfl
  | headers =>
    simp only
    split <;> rfl
  | other => rfl

/-- A callback other than the close of the stream leaves the fixed fields alone, and only its
last reset can fail fatally. -/
theorem onEvent_submits (ra : ReadAhead) (s : CallbackState) {event : StreamEvent}
    (hclose : event.isClose = false) : Submits s (onEvent ra s event).1 (onEvent ra s event).2 := by
  cases event with
  | header cat name value => exact onHeader_submits s cat name value
  | headersEnd cat endStream => exact .of_fixed (onHeadersFrame_fixed cat endStream s.call) rfl
  | data bytes => exact onDataChunkRecv_submits ra s bytes
  | rstStream code => exact .of_fixed rfl rfl
  | pushPromise => exact submitRstStream_submits_of_fixed _ rfl rfl
  | closed code => exact absurd hclose (by simp [StreamEvent.isClose])

end CallbackState

end GrpcLite
