import GrpcLite.Correctness.ChunkIndependence
import GrpcLite.Correctness.InFlightPayload
import GrpcLite.Correctness.ReadAheadQueue
import GrpcLite.Refinement.Flags
import GrpcLite.Refinement.Severed

/-!
# What a stream has handed out

The payloads that the pulls of a server stream have returned, followed by its
queue, are the messages at the front of the body bytes it has been given. That
holds as long as the response passes the validation and the user has not given
the stream up; afterwards nothing is taken from the queue any more.
-/

namespace GrpcLite

open Framing

/-- The input takes something out of the queue. -/
def CallInput.takesOut : CallInput → Bool
  | .dequeue | .take | .freeQueue => true
  | _ => false

namespace GrpcCall

open CallbackState

/-! ## Flags that stay -/

/-- A valid response has none of the failure flags. -/
theorem validationFailed_eq_false {call : GrpcCall} :
    call.validationFailed = false ↔ call.failureFlags = {} ∧
      call.responseQueueLimitExceeded = false ∧ call.invalidContentType = false ∧
      call.metadataTooLarge = false := by
  simp only [validationFailed, failureFlags, FailureFlags.mk.injEq, Bool.or_eq_false_iff]
  constructor
  · rintro ⟨⟨⟨⟨⟨⟨hlarge, hcompressed⟩, hmalformed⟩, htype⟩, hencoding⟩, hmetadata⟩, hlimit⟩
    exact ⟨⟨hmalformed, hlarge, hcompressed, hencoding⟩, hlimit, htype, hmetadata⟩
  · rintro ⟨⟨hmalformed, hlarge, hcompressed, hencoding⟩, hlimit, htype, hmetadata⟩
    exact ⟨⟨⟨⟨⟨⟨hlarge, hcompressed⟩, hmalformed⟩, htype⟩, hencoding⟩, hmetadata⟩, hlimit⟩

/-- A violated content-type rule stays violated. -/
theorem invalidContentType_of_apply {call : GrpcCall} (hdirect : call.Direct) {i : CallInput}
    (h : (call.apply i).invalidContentType = false) : call.invalidContentType = false := by
  by_cases hi : i.inHeaders = true
  · cases i with
    | event ra answers event =>
      cases event with
      | header cat name value =>
        have hflags := congrArg HeaderFlags.invalidContentType
          (call.apply_header_headerFlags ra answers cat name value)
        exact (Bool.or_eq_false_iff.mp (hflags.symm.trans h)).1
      | headersEnd cat endStream =>
        cases cat with
        | response =>
          simp only [apply, onEvent, onHeadersFrame] at h
          split at h
          · split at h <;> cases h
          · split at h <;> exact h
        | headers =>
          simp only [apply, onEvent, onHeadersFrame] at h
          split at h <;> exact h
        | other => exact h
      | _ => cases hi
    | _ => cases hi
  · have hflags := congrArg HeaderFlags.invalidContentType
      (apply_headerFlags hdirect (Bool.not_eq_true _ ▸ hi))
    exact hflags.symm.trans h

/-- A raised validation flag stays raised. -/
theorem validationFailed_of_apply {call : GrpcCall} (hdirect : call.Direct) {i : CallInput}
    (h : (call.apply i).validationFailed = false) : call.validationFailed = false := by
  obtain ⟨hflags, hlimit, htype, hmetadata⟩ := validationFailed_eq_false.mp h
  have htype₀ := invalidContentType_of_apply hdirect htype
  have hmetadata₀ := metadataTooLarge_of_apply hdirect hmetadata
  -- The flags of the body are untouched, or there is nothing left to show.
  have hsame (hf : (call.apply i).failureFlags = call.failureFlags)
      (hl : (call.apply i).responseQueueLimitExceeded = call.responseQueueLimitExceeded) :
      call.validationFailed = false :=
    validationFailed_eq_false.mpr ⟨hf.symm.trans hflags, hl.symm.trans hlimit, htype₀, hmetadata₀⟩
  cases i with
  | event ra answers event =>
    cases event with
    | header cat name value =>
      have herase := call.apply_header_eraseHeaders ra answers cat name value
      exact hsame (field_of_eraseHeaders herase failureFlags fun _ => rfl)
        (field_of_eraseHeaders herase responseQueueLimitExceeded fun _ => rfl)
    | headersEnd cat endStream =>
      have herase := call.apply_headersEnd_eraseHeaders ra answers cat endStream
      exact hsame (field_of_eraseHeaders herase failureFlags fun _ => rfl)
        (field_of_eraseHeaders herase responseQueueLimitExceeded fun _ => rfl)
    | data bytes =>
      rcases call.apply_data hdirect ra answers bytes with ⟨heq, -⟩ | ⟨-, heq⟩ | ⟨hseen, heq⟩
      · exact heq ▸ h
      · rw [heq] at h
        exact h
      · rw [heq] at h
        by_contra hne
        have hmoves := processResponseDataDirect_moves ra bytes ⟨call, answers, []⟩ hseen
        have hstays := hmoves.bodyStep.failed (Bool.not_eq_false _ ▸ hne)
        exact Bool.false_ne_true (h.symm.trans hstays)
    | pushPromise =>
      simp only [apply, onEvent, onPushPromise, submitRstStream_call] at hflags
      exact absurd (congrArg FailureFlags.malformed hflags).symm Bool.false_ne_true
    | rstStream | closed => exact h
  | connectionBroken errno detail =>
    simp only [apply] at h
    split at h <;> exact h
  | dequeue =>
    simp only [apply, dequeueResponsePayload] at h
    cases hqueue : call.responseQueue <;> simp only [hqueue] at h <;> exact h
  | take =>
    simp only [apply, unaryTakeResponsePayload] at h
    cases hqueue : call.responseQueue <;> simp only [hqueue] at h <;> exact h
  | truncated => exact absurd (congrArg FailureFlags.malformed hflags).symm Bool.false_ne_true
  | refused | submitted | registered | unregistered | ownerCleared | timedOut | ioError
  | locallyCancelled | userCancelled | freeQueue | requestSent => exact h

/-- A discarded body stays discarded. -/
theorem discardResponseBody_apply {call : GrpcCall} (hdirect : call.Direct)
    (h : call.discardResponseBody = true) (i : CallInput) :
    (call.apply i).discardResponseBody = true := by
  by_cases hdata : ∃ ra answers chunk, i = .event ra answers (.data chunk)
  · obtain ⟨ra, answers, chunk, rfl⟩ := hdata
    rcases call.apply_data hdirect ra answers chunk with ⟨heq, -⟩ | ⟨-, heq⟩ | ⟨hseen, heq⟩
    · rw [heq]
      exact h
    · rw [heq]
      rfl
    · rw [heq]
      exact (processResponseDataDirect_moves ra chunk ⟨call, answers, []⟩ hseen).bodyStep.discard h
  · have hother : ∀ ra answers chunk, i ≠ .event ra answers (.data chunk) := by
      intro ra answers chunk heq
      exact hdata ⟨ra, answers, chunk, heq⟩
    exact (call.apply_stopsWith hother).discard h

/-- Metadata does not decide on the status. -/
theorem addResponseMetadataEntry_invalidGrpcStatus (s : CallbackState) (name value : Bytes)
    (trailing : Bool) :
    (s.addResponseMetadataEntry name value trailing).1.call.invalidGrpcStatus =
      s.call.invalidGrpcStatus := by
  unfold CallbackState.addResponseMetadataEntry
  dsimp only
  split
  · rfl
  split
  · split
    · rw [submitRstStream_call]
      rfl
    · rfl
  · rfl

/-- A status is invalid when it is no number or a second one. -/
theorem headerGrpcStatus_invalidGrpcStatus (cat : HeaderCategory) (value : Bytes)
    (call : GrpcCall) :
    (headerGrpcStatus cat value call).invalidGrpcStatus =
      (call.invalidGrpcStatus ||
        (call.grpcStatusSeen || decide (Protocol.parseStatusValue value < 0))) := by
  unfold headerGrpcStatus
  dsimp only
  split <;> split <;> split <;> simp_all [markResponseMetadataAsTrailing]

/-- A grpc-status is valid in front of any other. -/
theorem apply_header_invalidGrpcStatus (call : GrpcCall) (ra : ReadAhead) (answers : List Int)
    (cat : HeaderCategory) (name value : Bytes) :
    (call.apply (.event ra answers (.header cat name value))).invalidGrpcStatus =
      (call.invalidGrpcStatus || (decide (name = HeaderName.grpcStatus) &&
        (call.grpcStatusSeen || decide (Protocol.parseStatusValue value < 0)))) := by
  simp only [apply, onEvent, onHeader]
  split
  · next hname =>
    rw [decide_eq_true hname, Bool.true_and]
    exact headerGrpcStatus_invalidGrpcStatus cat value call
  next hstatus =>
  rw [decide_eq_false hstatus, Bool.false_and, Bool.or_false]
  split
  · split <;> rfl
  · rw [addResponseMetadataEntry_invalidGrpcStatus]
    unfold headerField
    dsimp only
    split
    · split <;> rfl
    split
    · rfl
    split
    · split <;> rfl
    split <;> rfl

/-- A violated rule for grpc-status stays violated. -/
theorem invalidGrpcStatus_apply {call : GrpcCall} (hdirect : call.Direct)
    (h : call.invalidGrpcStatus = true) (i : CallInput) :
    (call.apply i).invalidGrpcStatus = true := by
  cases i with
  | event ra answers event =>
    cases event with
    | header cat name value => rw [apply_header_invalidGrpcStatus, h, Bool.true_or]
    | headersEnd cat endStream =>
      cases cat with
      | response =>
        simp only [apply, onEvent, onHeadersFrame]
        split <;> split <;> first | rfl | exact h
      | headers =>
        simp only [apply, onEvent, onHeadersFrame]
        split <;> exact h
      | other => exact h
    | data bytes =>
      rcases call.apply_data hdirect ra answers bytes with ⟨heq, -⟩ | ⟨-, heq⟩ | ⟨hseen, heq⟩
      · rw [heq]
        exact h
      · rw [heq]
        rfl
      · rw [heq]
        have hmoves := processResponseDataDirect_moves ra bytes ⟨call, answers, []⟩ hseen
        exact (BodyStep.field hmoves.bodyStep.frame invalidGrpcStatus fun _ => rfl).trans h
    | pushPromise =>
      simp only [apply, onEvent, onPushPromise, submitRstStream_call]
      exact h
    | rstStream | closed => exact h
  | connectionBroken errno detail =>
    simp only [apply]
    split <;> exact h
  | dequeue =>
    simp only [apply, dequeueResponsePayload]
    cases call.responseQueue <;> exact h
  | take =>
    simp only [apply, unaryTakeResponsePayload]
    cases call.responseQueue <;> exact h
  | refused | submitted | registered | unregistered | ownerCleared | timedOut | ioError
  | locallyCancelled | userCancelled | freeQueue | truncated | requestSent => exact h

/-- Also along a run. -/
theorem invalidGrpcStatus_applyAll {call : GrpcCall} (hdirect : call.Direct)
    (h : call.invalidGrpcStatus = true) (inputs : List CallInput) :
    (call.applyAll inputs).invalidGrpcStatus = true := by
  induction inputs generalizing call with
  | nil => exact h
  | cons i inputs ih => exact ih (hdirect.apply i) (invalidGrpcStatus_apply hdirect h i)

/-- The fields of a valid status. -/
theorem statusField_nonneg {call : GrpcCall} (hdirect : call.Direct) {inputs : List CallInput}
    (h : (call.applyAll inputs).invalidGrpcStatus = false) :
    ∀ value ∈ inputs.filterMap CallInput.statusField, 0 ≤ Protocol.parseStatusValue value := by
  intro value hvalue
  obtain ⟨i, hi, hfield⟩ := List.mem_filterMap.mp hvalue
  obtain ⟨pre, post, rfl⟩ := List.append_of_mem hi
  by_contra hnegative
  have hviolated : ((call.applyAll pre).apply i).invalidGrpcStatus = true := by
    cases i with
    | event ra answers event =>
      cases event with
      | header cat name value' =>
        simp only [CallInput.statusField] at hfield
        split at hfield
        · next hname =>
          rw [apply_header_invalidGrpcStatus, decide_eq_true hname, Option.some.inj hfield,
            decide_eq_true (Int.not_le.mp hnegative), Bool.or_true, Bool.and_true, Bool.or_true]
        · cases hfield
      | _ => cases hfield
    | _ => cases hfield
  rw [applyAll_append] at h
  have hend := invalidGrpcStatus_applyAll ((hdirect.applyAll pre).apply i) hviolated post
  exact Bool.false_ne_true (h.symm.trans hend)

/-- A stored field discards the body only with a flag. -/
theorem addResponseMetadataEntry_discards {s : CallbackState} {name value : Bytes} {trailing : Bool}
    (h : (s.addResponseMetadataEntry name value trailing).1.call.discardResponseBody = true)
    (hroom : (s.addResponseMetadataEntry name value trailing).1.call.metadataTooLarge = false) :
    s.call.discardResponseBody = true := by
  unfold addResponseMetadataEntry at h hroom
  dsimp only at h hroom
  split at h
  · exact h
  next hname =>
  rw [if_neg hname] at hroom
  split at h
  · next hfull =>
    rw [if_pos hfull] at hroom
    split at hroom
    · rw [submitRstStream_call] at hroom
      cases hroom
    · cases hroom
  · exact h

/-- A field discards the body only for its content-type. -/
theorem headerField_discards {cat : HeaderCategory} {name value : Bytes} {call : GrpcCall}
    (h : (headerField cat name value call).discardResponseBody = true)
    (htype : (headerField cat name value call).invalidContentType = false) :
    call.discardResponseBody = true := by
  unfold headerField at h htype
  dsimp only at h htype
  split at h
  · split at h <;> exact h
  next hdetails =>
  rw [if_neg hdetails] at htype
  split at h
  · exact h
  next hhttp =>
  rw [if_neg hhttp] at htype
  split at h
  · next hcontent =>
    rw [if_pos hcontent] at htype
    split at h
    · exact h
    · next hbad =>
      rw [if_neg hbad] at htype
      cases htype
  · split at h <;> exact h

/-- Behind header blocks a body is discarded for a violated rule only. -/
theorem clean_of_discard {call : GrpcCall} {i : CallInput}
    (hdata : ∀ ra answers bytes, i ≠ .event ra answers (.data bytes))
    (hbefore : call.discardResponseBody = false)
    (hafter : (call.apply i).discardResponseBody = true)
    (hvalid : (call.apply i).validationFailed = false) :
    (call.apply i).invalidGrpcStatus = true := by
  obtain ⟨hflags, -, htype, hmetadata⟩ := validationFailed_eq_false.mp hvalid
  have hno {p : Prop} (h : call.discardResponseBody = true) : p :=
    absurd (hbefore.symm.trans h) Bool.false_ne_true
  cases i with
  | event ra answers event =>
    cases event with
    | header cat name value =>
      simp only [apply, onEvent, onHeader] at hafter htype hmetadata
      split at hafter
      · unfold headerGrpcStatus at hafter
        dsimp only at hafter
        split at hafter <;> split at hafter <;> split at hafter <;> exact hno hafter
      next hstatus =>
      rw [if_neg hstatus] at htype hmetadata
      split at hafter
      · split at hafter <;> exact hno hafter
      next hmessage =>
      rw [if_neg hmessage] at htype hmetadata
      have hstored := congrArg HeaderFlags.invalidContentType
        (addResponseMetadataEntry_headerFlags ⟨headerField cat name value call, answers, []⟩ name
          value (decide (cat ≠ .response) || decide (call.grpcStatus ≥ 0) ||
            decide (name = HeaderName.grpcStatusDetailsBin)))
      exact hno (headerField_discards (addResponseMetadataEntry_discards hafter hmetadata)
        (hstored.symm.trans htype))
    | headersEnd cat endStream =>
      cases cat with
      | response =>
        simp only [apply, onEvent, onHeadersFrame] at hafter htype ⊢
        split at htype
        · split at htype <;> cases htype
        · next htyped =>
          rw [if_neg htyped] at hafter ⊢
          split
          · rfl
          · next hplaced =>
            rw [if_neg hplaced] at hafter
            exact hno hafter
      | headers =>
        simp only [apply, onEvent, onHeadersFrame] at hafter
        split at hafter <;> exact hno hafter
      | other => exact hno hafter
    | data bytes => exact absurd rfl (hdata ra answers bytes)
    | pushPromise =>
      simp only [apply, onEvent, onPushPromise, submitRstStream_call] at hflags
      exact absurd (congrArg FailureFlags.malformed hflags).symm Bool.false_ne_true
    | rstStream | closed => exact hno hafter
  | connectionBroken errno detail =>
    simp only [apply] at hafter
    split at hafter <;> exact hno hafter
  | dequeue =>
    simp only [apply, dequeueResponsePayload] at hafter
    cases hqueue : call.responseQueue <;> simp only [hqueue] at hafter <;> exact hno hafter
  | take =>
    simp only [apply, unaryTakeResponsePayload] at hafter
    cases hqueue : call.responseQueue <;> simp only [hqueue] at hafter <;> exact hno hafter
  | refused | submitted | registered | unregistered | ownerCleared | timedOut | ioError
  | locallyCancelled | userCancelled | freeQueue | truncated | requestSent => exact hno hafter

/-! ## The queue -/

/-- Without body bytes, and unless something is taken out, the queue stays. -/
theorem apply_queue_same (call : GrpcCall) {i : CallInput}
    (hdata : ∀ ra answers bytes, i ≠ .event ra answers (.data bytes))
    (hin : i.takesOut = false) : (call.apply i).responseQueue = call.responseQueue := by
  cases i with
  | event ra answers event =>
    cases event with
    | header cat name value =>
      exact field_of_eraseHeaders (call.apply_header_eraseHeaders ra answers cat name value)
        responseQueue fun _ => rfl
    | headersEnd cat endStream =>
      exact field_of_eraseHeaders (call.apply_headersEnd_eraseHeaders ra answers cat endStream)
        responseQueue fun _ => rfl
    | data bytes => exact absurd rfl (hdata ra answers bytes)
    | pushPromise => simp only [apply, onEvent, onPushPromise, submitRstStream_call, discardBody]
    | rstStream | closed => rfl
  | connectionBroken | refused | submitted | registered | unregistered | ownerCleared | timedOut
  | ioError | locallyCancelled | userCancelled | truncated | requestSent =>
    exact (call.apply_queue_of_not_edits rfl).1
  | dequeue | take | freeQueue => cases hin

/-- Nor is a header counted. -/
theorem apply_messageCount_same (call : GrpcCall) {i : CallInput}
    (hdata : ∀ ra answers bytes, i ≠ .event ra answers (.data bytes)) :
    (call.apply i).responseMessageCount = call.responseMessageCount := by
  cases i with
  | event ra answers event =>
    cases event with
    | header cat name value =>
      exact field_of_eraseHeaders (call.apply_header_eraseHeaders ra answers cat name value)
        responseMessageCount fun _ => rfl
    | headersEnd cat endStream =>
      exact field_of_eraseHeaders (call.apply_headersEnd_eraseHeaders ra answers cat endStream)
        responseMessageCount fun _ => rfl
    | data bytes => exact absurd rfl (hdata ra answers bytes)
    | pushPromise => simp only [apply, onEvent, onPushPromise, submitRstStream_call, discardBody]
    | rstStream | closed => rfl
  | connectionBroken errno detail =>
    simp only [apply]
    split <;> rfl
  | dequeue =>
    simp only [apply, dequeueResponsePayload]
    cases call.responseQueue <;> rfl
  | take =>
    simp only [apply, unaryTakeResponsePayload]
    cases call.responseQueue <;> rfl
  | refused | submitted | registered | unregistered | ownerCleared | timedOut | ioError
  | locallyCancelled | userCancelled | freeQueue | truncated | requestSent => rfl

/-- The limits are part of the configuration. -/
theorem limits_of_config {call call' : GrpcCall} (h : call'.config = call.config) :
    call'.maxResponseMessages = call.maxResponseMessages ∧
      call'.maxReceiveMessageBytes = call.maxReceiveMessageBytes ∧
      call'.queueResponsePayloads = call.queueResponsePayloads := by
  simp only [config, GrpcCall.mk.injEq] at h
  tauto

/-- The position of the parser. -/
theorem position_of_parserState {call call' : GrpcCall} (h : call'.parser = call.parser) :
    call'.responseHeaderBuf = call.responseHeaderBuf ∧
      call'.responseHeaderLen = call.responseHeaderLen ∧
      call'.responsePayloadLen = call.responsePayloadLen ∧
      call'.responsePayloadOffset = call.responsePayloadOffset ∧
      call'.responsePayload = call.responsePayload := by
  simp only [parser, GrpcCall.mk.injEq] at h
  tauto

/-- The reference decoding of body bytes under the limits of the call. -/
def decoded (call : GrpcCall) (bytes : Bytes) : Decoder RejectReason :=
  decode (responseCheck call.maxResponseMessages call.maxReceiveMessageBytes) bytes

/-- Inputs do not change what bytes decode to. -/
theorem decoded_apply (call : GrpcCall) (i : CallInput) (bytes : Bytes) :
    (call.apply i).decoded bytes = call.decoded bytes := by
  obtain ⟨hmessages, hbytes, -⟩ := limits_of_config (call.apply_config i)
  rw [decoded, decoded, hmessages, hbytes]

/-- More bytes decode to more messages. -/
theorem decoded_mono (call : GrpcCall) (bytes more : Bytes) :
    (call.decoded bytes).messages <+: (call.decoded (bytes ++ more)).messages :=
  decode_messages_prefix _ bytes more

/-- Where the parser of a call stands behind the bytes it has been given, when `taken` are the
messages that have left its queue. -/
inductive Reads (call : GrpcCall) (taken : List Bytes) (bytes : Bytes) : Prop
  /-- The response is invalid. -/
  | rejected (hfailed : call.validationFailed = true)
  /-- The body is discarded for its grpc-status, and the queue holds messages of its front. -/
  | stopped (hdiscard : call.discardResponseBody = true) (hstatus : call.invalidGrpcStatus = true)
      (hfront : taken ++ call.responseQueue <+: (call.decoded bytes).messages)
  /-- The parser stands where the reference decoding ends. -/
  | reading (hdiscard : call.discardResponseBody = false)
      (htracks : Tracks call.maxResponseMessages call.maxReceiveMessageBytes call.grpcEncoding call
        taken (call.decoded bytes))

/-- The position of the parser is the same in a call that differs elsewhere. -/
theorem tracks_same {call call' : GrpcCall} {taken : List Bytes} {d : Decoder RejectReason}
    (h : Tracks call.maxResponseMessages call.maxReceiveMessageBytes call.grpcEncoding call taken d)
    (hdiscard : call.discardResponseBody = false) (hdiscard' : call'.discardResponseBody = false)
    (hvalid' : call'.validationFailed = false) (hconfig : call'.config = call.config)
    (hparser : call'.parser = call.parser) (hqueue : call'.responseQueue = call.responseQueue)
    (hcount : call'.responseMessageCount = call.responseMessageCount) :
    Tracks call'.maxResponseMessages call'.maxReceiveMessageBytes call'.grpcEncoding call' taken
      d := by
  obtain ⟨hflags', hlimit', -, -⟩ := validationFailed_eq_false.mp hvalid'
  obtain ⟨hmax, -, hqueueing⟩ := limits_of_config hconfig
  obtain ⟨hbuf, hlen, hpl, hpo, hp⟩ := position_of_parserState hparser
  have hphase := h.phase
  refine ⟨rfl, rfl, hqueueing.trans h.queueing, hbuf ▸ h.buffer, hlimit', ?_, ?_⟩
  · rw [hqueue]
    exact h.messages
  · cases hph : d.phase with
    | failed e =>
      rw [hph] at hphase
      exact absurd (hdiscard.symm.trans hphase.2.1) Bool.false_ne_true
    | header buf =>
      rw [hph] at hphase
      obtain ⟨-, -, hphase⟩ := hphase
      refine ⟨hflags', hdiscard', ?_⟩
      rw [hlen, hbuf, hpl, hpo, hp, hmax, hcount]
      exact hphase
    | payload len got =>
      rw [hph] at hphase
      obtain ⟨-, -, hphase⟩ := hphase
      refine ⟨hflags', hdiscard', ?_⟩
      rw [hlen, hpl, hpo, hp, hmax, hcount]
      exact hphase

/-- A parser that is done leaves the queue alone. -/
theorem Reads.stay {call : GrpcCall} {taken : List Bytes} {bytes : Bytes} (i : CallInput)
    (hdiscard : (call.apply i).discardResponseBody = true)
    (hstatus : (call.apply i).invalidGrpcStatus = true)
    (hqueue : (call.apply i).responseQueue = call.responseQueue)
    (hfront : taken ++ call.responseQueue <+: (call.decoded bytes).messages) :
    (call.apply i).Reads taken (bytes ++ i.bytes) := by
  refine .stopped hdiscard hstatus ?_
  rw [hqueue, decoded_apply]
  exact hfront.trans (call.decoded_mono bytes i.bytes)

/-- What was taken and what is queued are the first messages of the body. -/
theorem Reads.front {call : GrpcCall} {taken : List Bytes} {bytes : Bytes}
    (h : call.Reads taken bytes) (hvalid : call.validationFailed = false) :
    taken ++ call.responseQueue <+: (call.decoded bytes).messages := by
  cases h with
  | rejected hfailed => exact absurd (hvalid.symm.trans hfailed) Bool.false_ne_true
  | stopped hdiscard hstatus hfront => exact hfront
  | reading hdiscard htracks => rw [htracks.messages]

/-- A chunk of body bytes. -/
theorem Reads.data {call : GrpcCall} {taken : List Bytes} {bytes : Bytes}
    (h : call.Reads taken bytes) (hdirect : call.Direct) (ra : ReadAhead) (answers : List Int)
    (chunk : Bytes) :
    (call.apply (.event ra answers (.data chunk))).Reads taken (bytes ++ chunk) := by
  by_cases hvalid : (call.apply (.event ra answers (.data chunk))).validationFailed = true
  · exact .rejected hvalid
  have hvalid := Bool.not_eq_true _ ▸ hvalid
  have hfront := h.front (validationFailed_of_apply hdirect hvalid)
  rcases call.apply_data hdirect ra answers chunk with ⟨hsame, rfl⟩ | ⟨-, hreject⟩ | ⟨hseen, hdata⟩
  · rw [hsame, List.append_nil]
    exact h
  · refine .stay (.event ra answers (.data chunk)) ?_ ?_ ?_ hfront
    · rw [hreject]
      rfl
    · rw [hreject]
      rfl
    · rw [hreject]
      rfl
  · cases h with
    | rejected hfailed =>
      exact absurd (Bool.false_ne_true ∘ (validationFailed_of_apply hdirect hvalid).symm.trans)
        (fun hno => hno hfailed)
    | stopped hdiscard hstatus =>
      have hsame : call.apply (.event ra answers (.data chunk)) = call := by
        rw [hdata, processResponseDataDirect, if_neg (by simp [hseen]), if_pos hdiscard]
      refine .stay (.event ra answers (.data chunk)) ?_ ?_ ?_ hfront
      · rw [hsame]
        exact hdiscard
      · rw [hsame]
        exact hstatus
      · rw [hsame]
    | reading hdiscard htracks =>
      have hmoves := processResponseDataDirect_moves ra chunk ⟨call, answers, []⟩ hseen
      have hencoding : (call.apply (.event ra answers (.data chunk))).grpcEncoding =
          call.grpcEncoding := by
        rw [hdata]
        exact BodyStep.field hmoves.bodyStep.frame grpcEncoding fun _ => rfl
      rcases @processResponseDataDirect_tracks _ _ _ _ ra chunk _ ⟨call, answers, []⟩ hseen rfl
        htracks with ⟨hdrop, -⟩ | ⟨hfed, -⟩
      · rw [← hdata] at hdrop
        have hlimit := (validationFailed_eq_false.mp hvalid).2.1
        exact absurd (hlimit.symm.trans hdrop.2) Bool.false_ne_true
      · rw [← hdata] at hfed
        have hnext : (call.decoded bytes).feed
            (responseCheck call.maxResponseMessages call.maxReceiveMessageBytes) chunk =
              (call.apply (.event ra answers (.data chunk))).decoded (bytes ++ chunk) := by
          rw [decoded_apply, decoded, decoded, decode_append]
        rw [hnext] at hfed
        obtain ⟨hmessages, hbytes, -⟩ :=
          limits_of_config (call.apply_config (.event ra answers (.data chunk)))
        refine .reading ?_ ?_
        · -- The parser discards the rest of a body with a flag only.
          by_contra hstop
          obtain ⟨e, he⟩ := Tracks.failed_of_discard hfed (Bool.not_eq_false _ ▸ hstop)
          have hphase := hfed.phase
          rw [he] at hphase
          have hflags := (validationFailed_eq_false.mp hvalid).1
          exact RejectReason.flags_ne _ e (hphase.1.symm.trans hflags)
        · rw [hencoding, hmessages, hbytes]
          exact hfed

/-- Every input that takes nothing out of the queue. -/
theorem Reads.apply {call : GrpcCall} {taken : List Bytes} {bytes : Bytes}
    (h : call.Reads taken bytes) (hdirect : call.Direct) {i : CallInput}
    (hin : i.takesOut = false) : (call.apply i).Reads taken (bytes ++ i.bytes) := by
  by_cases hdata : ∃ ra answers chunk, i = .event ra answers (.data chunk)
  · obtain ⟨ra, answers, chunk, rfl⟩ := hdata
    exact h.data hdirect ra answers chunk
  have hother : ∀ ra answers chunk, i ≠ .event ra answers (.data chunk) := by
    intro ra answers chunk heq
    exact hdata ⟨ra, answers, chunk, heq⟩
  by_cases hvalid : (call.apply i).validationFailed = true
  · exact .rejected hvalid
  have hvalid := Bool.not_eq_true _ ▸ hvalid
  have hqueue := call.apply_queue_same hother hin
  have hfront := h.front (validationFailed_of_apply hdirect hvalid)
  have hbytes : i.bytes = [] := by
    cases i with
    | event ra answers event =>
      cases event with
      | data chunk => exact absurd rfl (hother ra answers chunk)
      | _ => rfl
    | _ => rfl
  cases h with
  | rejected hfailed =>
    exact absurd ((validationFailed_of_apply hdirect hvalid).symm.trans hfailed) Bool.false_ne_true
  | stopped hdiscard hstatus =>
    exact .stay i (discardResponseBody_apply hdirect hdiscard i)
      (invalidGrpcStatus_apply hdirect hstatus i) hqueue hfront
  | reading hdiscard htracks =>
    by_cases hstop : (call.apply i).discardResponseBody = true
    · exact .stay i hstop (clean_of_discard hother hdiscard hstop hvalid) hqueue hfront
    refine .reading (Bool.not_eq_true _ ▸ hstop) ?_
    rw [hbytes, List.append_nil, decoded_apply]
    exact tracks_same htracks hdiscard (Bool.not_eq_true _ ▸ hstop) hvalid (call.apply_config i)
      (call.apply_parserState hother) hqueue (call.apply_messageCount_same hother)

/-- The pop of a pull. -/
theorem Reads.dequeue {call : GrpcCall} {taken rest : List Bytes} {bytes payload : Bytes}
    (h : call.Reads taken bytes) (hqueue : call.responseQueue = payload :: rest) :
    (call.apply .dequeue).Reads (taken ++ [payload]) bytes := by
  have hpop := apply_dequeue_cons hqueue
  have hmoved : taken ++ [payload] ++ rest = taken ++ call.responseQueue := by
    rw [hqueue, List.append_assoc, List.singleton_append]
  cases h with
  | rejected hfailed =>
    refine .rejected ?_
    rw [hpop]
    exact hfailed
  | stopped hdiscard hstatus hfront =>
    refine .stopped ?_ ?_ ?_
    · rw [hpop]
      exact hdiscard
    · rw [hpop]
      exact hstatus
    · rw [hpop]
      change taken ++ [payload] ++ rest <+: (call.decoded bytes).messages
      rw [hmoved]
      exact hfront
  | reading hdiscard htracks =>
    refine .reading ?_ ?_
    · rw [hpop]
      exact hdiscard
    · rw [hpop]
      refine ⟨rfl, rfl, htracks.queueing, htracks.buffer, htracks.noDrop, ?_, htracks.phase⟩
      change (call.decoded bytes).messages = taken ++ [payload] ++ rest
      rw [hmoved]
      exact htracks.messages

/-- A call of one of the drivers has decoded nothing. -/
theorem Started.freshBody {start : GrpcCall} {k : ConnId} (h : start.Started k) :
    start.FreshBody := by
  obtain ⟨req, retryAttempt, rfl | rfl⟩ := h
  · exact ⟨⟨rfl, rfl, rfl⟩, rfl, rfl, ⟨rfl, rfl⟩, ⟨rfl, rfl⟩, rfl, rfl, rfl, rfl, rfl⟩
  · exact ⟨⟨rfl, rfl, rfl⟩, rfl, rfl, ⟨rfl, rfl⟩, ⟨rfl, rfl⟩, rfl, rfl, rfl, rfl, rfl⟩

/-- A call of one of the drivers has read nothing. -/
theorem Started.reads {start : GrpcCall} {k : ConnId} (h : start.Started k) :
    start.Reads [] [] :=
  .reading h.freshBody.noDiscard (FreshBody.tracks h.freshBody)

end GrpcCall

namespace TrackedCall

/-- The state of a server stream. -/
def Streaming (tc : TrackedCall) : Prop :=
  ∃ (req : CallRequest) (k : ConnId) (retryAttempt : Nat), tc.start = req.startCall k retryAttempt

/-- What the pulls of a stream have returned are the first messages of its body. -/
structure InOrder (tc : TrackedCall) : Prop where
  /-- The returned payloads. -/
  delivered : tc.delivered <+: (tc.call.decoded tc.bytes).messages
  /-- The parser of a stream that the user has not given up. -/
  reads : tc.cancelled = false → tc.call.Reads tc.delivered tc.bytes

/-- A stream reads in order and without a limit on messages. -/
theorem Streaming.config {tc : TrackedCall} (h : tc.Streaming) (hr : tc.Replayed) :
    tc.call.Direct ∧ tc.call.maxResponseMessages = 0 := by
  obtain ⟨req, k, retryAttempt, hstart⟩ := h
  have hconfig := hr.config
  rw [hstart] at hconfig
  refine ⟨GrpcCall.Direct.of_config ?_ hconfig, (GrpcCall.limits_of_config hconfig).1⟩
  exact GrpcCall.Started.direct (k := k) ⟨req, retryAttempt, .inr rfl⟩

/-- What surrounds the call changes. -/
theorem InOrder.of_same {tc tc' : TrackedCall} (h : tc.InOrder) (hcall : tc'.call = tc.call)
    (hinputs : tc'.inputs = tc.inputs) (hdelivered : tc'.delivered = tc.delivered)
    (hcalm : tc'.cancelled = false → tc.cancelled = false) : tc'.InOrder := by
  have hbytes : tc'.bytes = tc.bytes := congrArg (List.flatMap CallInput.bytes) hinputs
  refine ⟨?_, fun hc => ?_⟩
  · rw [hcall, hbytes, hdelivered]
    exact h.delivered
  · rw [hcall, hbytes, hdelivered]
    exact h.reads (hcalm hc)

/-- Inputs that take nothing out keep the order. -/
theorem InOrder.input {tc : TrackedCall} (h : tc.InOrder) (hdirect : tc.call.Direct)
    {i : CallInput} (hin : i.takesOut = false) : (tc.input i).InOrder := by
  have hbytes := tc.bytes_input i
  refine ⟨?_, fun hc => ?_⟩
  · rw [hbytes]
    change tc.delivered <+: ((tc.call.apply i).decoded _).messages
    rw [GrpcCall.decoded_apply]
    exact h.delivered.trans (tc.call.decoded_mono tc.bytes i.bytes)
  · rw [hbytes]
    exact (h.reads hc).apply hdirect hin

/-- The queue of an invalid response is dropped. -/
theorem InOrder.free {tc : TrackedCall} (h : tc.InOrder) (hvalid : tc.call.validationFailed = true) :
    (tc.input .freeQueue).InOrder := by
  have hbytes : (tc.input .freeQueue).bytes = tc.bytes :=
    (tc.bytes_input .freeQueue).trans (List.append_nil _)
  refine ⟨?_, fun _ => .rejected hvalid⟩
  rw [hbytes]
  exact h.delivered

/-- A message of a healthy stream is handed to the user. -/
theorem InOrder.pop {tc : TrackedCall} (h : tc.InOrder) {payload : Bytes} {rest : List Bytes}
    (hqueue : tc.call.responseQueue = payload :: rest)
    (hvalid : tc.call.validationFailed = false) (hcalm : tc.cancelled = false) :
    ({ tc.input .dequeue with
        deliveredMessages := tc.deliveredMessages + 1
        delivered := tc.delivered ++ [payload] } : TrackedCall).InOrder := by
  have hbytes : (tc.input .dequeue).bytes = tc.bytes :=
    (tc.bytes_input .dequeue).trans (List.append_nil _)
  have hfront := (h.reads hcalm).front hvalid
  rw [hqueue, ← List.singleton_append, ← List.append_assoc] at hfront
  refine ⟨?_, fun _ => ?_⟩
  · change tc.delivered ++ [payload] <+:
      ((tc.call.apply .dequeue).decoded (tc.input .dequeue).bytes).messages
    rw [hbytes, GrpcCall.decoded_apply]
    exact (List.prefix_append _ rest).trans hfront
  · change (tc.call.apply .dequeue).Reads (tc.delivered ++ [payload]) (tc.input .dequeue).bytes
    rw [hbytes]
    exact (h.reads hcalm).dequeue hqueue

/-- The user gives up a stream and its queue. -/
theorem InOrder.abort {tc : TrackedCall} (h : tc.InOrder) :
    ((({ tc with cancelled := true } : TrackedCall).input .userCancelled).input
      .freeQueue).InOrder := by
  refine ⟨?_, fun hcalm => absurd hcalm.symm Bool.false_ne_true⟩
  rw [bytes_input, bytes_input]
  change tc.delivered <+: ((tc.call.apply .userCancelled).decoded ((tc.bytes ++ []) ++ [])).messages
  rw [List.append_nil, List.append_nil, GrpcCall.decoded_apply]
  exact h.delivered

end TrackedCall

namespace World

/-- The pulls of every stream have returned the first messages of its body. -/
def InOrder (w : World) : Prop := ∀ c, (w.calls c).Streaming → (w.calls c).InOrder

/-- A change of one call that keeps the order. -/
theorem InOrder.update {w w' : World} (h : w.InOrder) {c : CallId} {tc : TrackedCall}
    (hcalls : w'.calls = Function.update w.calls c tc)
    (hstart : tc.start = (w.calls c).start)
    (htc : (w.calls c).Streaming → (w.calls c).InOrder → tc.InOrder) : w'.InOrder := by
  intro c' hc'
  rw [hcalls, Function.update_apply] at hc' ⊢
  split at hc'
  · next hc =>
    rw [if_pos hc]
    have hstream : (w.calls c).Streaming := by
      unfold TrackedCall.Streaming at hc' ⊢
      rw [← hstart]
      exact hc'
    exact htc hstream (h c hstream)
  · next hc =>
    rw [if_neg hc]
    exact h c' hc'

/-- An input that takes nothing out of a stream. -/
theorem InOrder.input {w w' : World} (h : w.InOrder) (hr : w.Replayed) {c : CallId}
    {i : CallInput} (hcalls : w'.calls = (w.input c i).calls)
    (hin : (w.calls c).Streaming → i.takesOut = false) : w'.InOrder :=
  h.update hcalls rfl fun hs horder => horder.input (hs.config (hr c)).1 (hin hs)

/-- The inputs that a driver makes to a stream take nothing out of the queue. -/
theorem Notes.takesOut {w : World} {c : CallId} {i : CallInput} (h : w.Notes c i)
    (hmany : (w.calls c).call.maxResponseMessages = 0) : i.takesOut = false := by
  cases i with
  | take => exact absurd (hmany.symm.trans h) (Nat.zero_ne_one)
  | dequeue | freeQueue => exact h.elim
  | _ => rfl

/-- A step keeps the order. -/
theorem InOrder.step {w w' : World} (h : w.InOrder) (hs : Step w w') (hr : w.Replayed) :
    w'.InOrder := by
  cases hs with
  | keep hk =>
    cases hk with
    | drive k hd =>
      cases hd with
      | quiet | log | die | drain | streams | receive | source => exact h
      | deliver | unregister => exact h.input hr rfl fun _ => rfl
      | close c i hi =>
        refine h.input hr rfl fun _ => ?_
        cases i with
        | event | refused => rfl
        | _ => cases hi
      | note c i hi => exact h.input hr rfl fun hstream => hi.takesOut (hstream.config (hr c)).2
      | complete c => exact h.update rfl rfl fun _ horder => horder.of_same rfl rfl rfl id
      | pop c payload rest hqueue hvalid hcalm =>
        have hcalls : (w.pop c payload).calls = Function.update w.calls c
            { (w.calls c).input .dequeue with
              deliveredMessages := (w.calls c).deliveredMessages + 1
              delivered := (w.calls c).delivered ++ [payload] } := by
          simp only [World.pop, World.input, World.setCall, Function.update_self,
            Function.update_idem]
          rfl
        exact h.update hcalls rfl fun _ horder => horder.pop hqueue hvalid hcalm
      | free c hvalid => exact h.update rfl rfl fun _ horder => horder.free hvalid
    | abort c =>
      have hcalls : (w.abort c).calls = Function.update w.calls c
          ((({ w.calls c with cancelled := true } : TrackedCall).input .userCancelled).input
            .freeQueue) := by
        simp only [World.abort, World.input, World.setCall, Function.update_self,
          Function.update_idem]
      exact h.update hcalls rfl fun _ horder => horder.abort
    | newConn | uncache | markDetached | cache | destroy => exact h
    | clearOwner => exact h.input hr rfl fun _ => rfl
    | release c => exact h.update rfl rfl fun _ horder => horder.of_same rfl rfl rfl id
  | newCall k start hk hstart =>
    intro c hc
    by_cases hnew : c = w.nextCall
    · subst hnew
      simp only [Function.update_self] at hc ⊢
      exact ⟨List.nil_prefix, fun _ => hstart.reads⟩
    · simp only [Function.update_of_ne hnew] at hc ⊢
      exact h c hc
  | logSubmit => exact h
  | submit | submitFailed | register => exact h.input hr rfl fun _ => rfl

/-- So does a run. -/
theorem InOrder.steps {w w' : World} (h : w.InOrder) (hs : Steps w w') (hr : w.Replayed) :
    w'.InOrder := by
  induction hs with
  | refl => exact h
  | tail hsteps hstep ih => exact ih.step hstep (hr.steps hsteps)

/-! ## Streams without a queue and a connection -/

/-- A call that events of a living connection are given to points at that connection. -/
theorem Sound.connection_of_userData {w : World} (h : w.Sound) {k : ConnId} {streamId : Int}
    {c : CallId} (hdead : (w.conns k).dead = false)
    (huser : (w.conns k).userData streamId = some c) :
    (w.calls c).call.connection = some k := by
  obtain ⟨e, he, -, -, hdata⟩ := Ledger.mem_of_userData huser
  have hentry := h.inv.wired.entry k e he
  obtain ⟨rfl, hreg⟩ := hentry.user hdead c hdata
  have howned := (h.inv.counted.registered _ hreg).1
  exact (hentry.home (h.inv.counted.owned _ howned).2.2).2

/-- A stream that has given up its connection and has nothing left to return. -/
def Spent (w : World) (c : CallId) : Prop :=
  (w.calls c).call.connection = none ∧ (w.calls c).call.responseQueue = []

/-- A change of one call that leaves a spent one spent. -/
theorem Spent.update {w w' : World} {c : CallId} (h : w.Spent c) {c₀ : CallId} {tc : TrackedCall}
    (hcalls : w'.calls = Function.update w.calls c₀ tc)
    (htc : (w.calls c₀).call.connection = none → (w.calls c₀).call.responseQueue = [] →
      tc.call.connection = none ∧ tc.call.responseQueue = []) : w'.Spent c := by
  unfold Spent
  rw [hcalls, Function.update_apply]
  split
  · next hc =>
    subst hc
    exact htc h.1 h.2
  · exact h

/-- Inputs that bring neither a message nor a connection. -/
theorem Spent.input {w w' : World} {c : CallId} (h : w.Spent c) {c₀ : CallId} {i : CallInput}
    (hcalls : w'.calls = (w.input c₀ i).calls)
    (hevent : ∀ ra answers event, i = .event ra answers event → event.isClose = true)
    (hreg : ∀ k, i ≠ .registered k) : w'.Spent c := by
  refine h.update hcalls fun hconn hqueue => ⟨?_, apply_queue_nil hqueue hevent⟩
  change ((w.calls c₀).call.apply i).connection = none
  cases i with
  | event ra answers event =>
    have hclose := hevent ra answers event rfl
    cases event with
    | closed code => exact hconn
    | _ => cases hclose
  | registered k => exact absurd rfl (hreg k)
  | ownerCleared forget =>
    simp only [GrpcCall.apply, hconn]
    split <;> rfl
  | connectionBroken errno detail =>
    simp only [GrpcCall.apply]
    split <;> exact hconn
  | dequeue =>
    simp only [GrpcCall.apply, GrpcCall.dequeueResponsePayload, hqueue]
    exact hconn
  | take =>
    simp only [GrpcCall.apply, GrpcCall.unaryTakeResponsePayload, hqueue]
    exact hconn
  | refused | submitted | unregistered | timedOut | ioError | locallyCancelled | userCancelled
  | freeQueue | truncated | requestSent => exact hconn

/-- A spent call stays spent. -/
theorem Spent.step {w w' : World} {c : CallId} (h : w.Spent c) (hs : Step w w') (hsound : w.Sound)
    (hc : c < w.nextCall) : w'.Spent c := by
  have hno {i : CallInput} (hi : ∀ ra answers event, i ≠ .event ra answers event) :
      ∀ ra answers event, i = .event ra answers event → event.isClose = true :=
    fun ra answers event he => absurd he (hi ra answers event)
  cases hs with
  | keep hk =>
    cases hk with
    | drive k hd =>
      cases hd with
      | quiet | log | die | drain | streams | receive | source => exact h
      | deliver streamId c₀ ra answers event hclose hdead huser =>
        have hconn := hsound.connection_of_userData hdead huser
        exact h.update rfl fun hnone => absurd (hnone.symm.trans hconn) (Option.some_ne_none k).symm
      | close c₀ i hi =>
        refine h.input rfl (fun ra answers event he => ?_) fun k' he => ?_
        · subst he
          exact hi
        · subst he
          cases hi
      | note c₀ i hi =>
        refine h.input rfl (fun ra answers event he => ?_) fun k' he => ?_
        · subst he
          exact hi.elim
        · subst he
          exact hi.elim
      | unregister | free => exact h.input rfl (hno (by simp)) (by simp)
      | complete => exact h.update rfl fun hconn hqueue => ⟨hconn, hqueue⟩
      | pop c₀ =>
        have hin : (w.input c₀ .dequeue).Spent c := h.input rfl (hno (by simp)) (by simp)
        exact hin.update rfl fun hconn hqueue => ⟨hconn, hqueue⟩
    | abort c₀ =>
      have hcan : (w.setCall c₀ fun tc => { tc with cancelled := true }).Spent c :=
        h.update rfl fun hconn hqueue => ⟨hconn, hqueue⟩
      have hin : ((w.setCall c₀ fun tc => { tc with cancelled := true }).input c₀
          .userCancelled).Spent c :=
        hcan.input rfl (hno (by simp)) (by simp)
      exact hin.input rfl (hno (by simp)) (by simp)
    | newConn | uncache | markDetached | cache | destroy => exact h
    | clearOwner => exact h.input rfl (hno (by simp)) (by simp)
    | release => exact h.update rfl fun hconn hqueue => ⟨hconn, hqueue⟩
  | newCall k start =>
    unfold Spent
    simp only [Function.update_of_ne (Nat.ne_of_lt hc)]
    exact h
  | logSubmit => exact h
  | submit | submitFailed => exact h.input rfl (hno (by simp)) (by simp)
  | register k c₀ hc₀ hlive hcleared hconn =>
    exact h.update rfl fun hnone => absurd (hnone.symm.trans hconn) (Option.some_ne_none k).symm

/-- A spent stream stays so. -/
theorem Spent.steps {w w' : World} {c : CallId} (h : w.Spent c) (hs : Steps w w')
    (hsound : w.Sound) (hc : c < w.nextCall) : w'.Spent c := by
  induction hs with
  | refl => exact h
  | tail hsteps hstep ih =>
    exact ih.step hstep (hsound.steps hsteps) (Nat.lt_of_lt_of_le hc (Steps.nextCall_le hsteps))

end World

end GrpcLite
