import GrpcLite.Refinement.Frames

/-!
# Inputs of a call

Both drivers switch direct decoding on, and no input switches it off. For such a
call this module says what a callback can do to the response fields.
-/

namespace GrpcLite

namespace GrpcCall

/-- Messages are decoded as they arrive and queued. -/
structure Direct (call : GrpcCall) : Prop where
  /-- Bytes go straight into the payload. -/
  payload : call.directResponsePayload = true
  /-- Messages are decoded as they arrive. -/
  incrementally : call.decodeResponseIncrementally = true
  /-- Complete payloads are queued. -/
  queue : call.queueResponsePayloads = true

theorem Direct.of_config {call call' : GrpcCall} (h : call.Direct)
    (hconfig : call'.config = call.config) : call'.Direct := by
  have hp := congrArg GrpcCall.directResponsePayload hconfig
  have hi := congrArg GrpcCall.decodeResponseIncrementally hconfig
  have hq := congrArg GrpcCall.queueResponsePayloads hconfig
  exact ⟨hp.trans h.payload, hi.trans h.incrementally, hq.trans h.queue⟩

theorem Direct.apply {call : GrpcCall} (h : call.Direct) (i : CallInput) : (call.apply i).Direct :=
  h.of_config (call.apply_config i)

theorem Direct.applyAll {call : GrpcCall} (h : call.Direct) (inputs : List CallInput) :
    (call.applyAll inputs).Direct :=
  h.of_config (call.applyAll_config inputs)

theorem Started.direct {start : GrpcCall} {k : ConnId} (h : start.Started k) : start.Direct := by
  obtain ⟨req, retryAttempt, rfl | rfl⟩ := h
  · exact ⟨rfl, rfl, rfl⟩
  · exact ⟨rfl, rfl, rfl⟩

/-- What a chunk of body bytes does: nothing, a status that is no longer trusted, or a step of
the parser. -/
theorem apply_data {call : GrpcCall} (h : call.Direct) (ra : ReadAhead) (answers : List Int)
    (bytes : Bytes) :
    (call.apply (.event ra answers (.data bytes)) = call ∧ bytes = []) ∨
    (call.grpcStatusSeen = true ∧ call.apply (.event ra answers (.data bytes)) =
      CallbackState.discardBody { call with invalidGrpcStatus := true }) ∨
    (call.grpcStatusSeen = false ∧ call.apply (.event ra answers (.data bytes)) =
      (CallbackState.processResponseDataDirect ra ⟨call, answers, []⟩ bytes).1.call) := by
  have hon : (call.directResponsePayload && call.decodeResponseIncrementally &&
      call.queueResponsePayloads) = true := by
    rw [h.payload, h.incrementally, h.queue]
    rfl
  simp only [apply, CallbackState.onEvent, CallbackState.onDataChunkRecv]
  by_cases hnil : bytes.length = 0
  · exact .inl ⟨by rw [if_pos hnil], List.length_eq_zero_iff.mp hnil⟩
  rw [if_neg hnil, if_pos hon]
  refine .inr ?_
  by_cases hseen : call.grpcStatusSeen = true
  · refine .inl ⟨hseen, ?_⟩
    rw [CallbackState.processResponseDataDirect, if_pos hseen,
      CallbackState.rejectDataAfterStatus, CallbackState.submitRstStream_call]
  · exact .inr ⟨Bool.not_eq_true _ ▸ hseen, rfl⟩

/-- A field outside the body and the status flag is untouched by body bytes. -/
theorem apply_data_field {α : Type} {call : GrpcCall} (h : call.Direct) (ra : ReadAhead)
    (answers : List Int) (bytes : Bytes) (f : GrpcCall → α) (hf : ∀ c, f c.eraseBody = f c)
    (hinvalid : ∀ c : GrpcCall, f { c with invalidGrpcStatus := true } = f c) :
    f (call.apply (.event ra answers (.data bytes))) = f call := by
  rcases call.apply_data h ra answers bytes with ⟨hsame, -⟩ | ⟨-, hreject⟩ | ⟨hseen, hdata⟩
  · rw [hsame]
  · have hdiscard : ∀ c : GrpcCall, (CallbackState.discardBody c).eraseBody = c.eraseBody :=
      fun _ => rfl
    rw [hreject, ← hf, hdiscard, hf, hinvalid]
  · have hmoves := CallbackState.processResponseDataDirect_moves ra bytes ⟨call, answers, []⟩ hseen
    rw [hdata]
    exact BodyStep.field hmoves.bodyStep.frame f hf

/-- The call without the fields that header callbacks and the ends of header blocks can change. -/
def eraseHeaders (call : GrpcCall) : GrpcCall :=
  { call with
    grpcStatus := 0, grpcStatusSeen := false, invalidGrpcStatus := false
    initialGrpcStatusSeen := false, grpcMessage := none, httpStatus := 0
    contentTypeSeen := false, contentType := none, invalidContentType := false
    grpcEncoding := none, discardResponseBody := false, metadataTooLarge := false
    metadata := [], metadataEntryCount := 0, metadataBytes := 0
    initialHeadersEndStream := false, trailingHeadersSeen := false }

theorem addResponseMetadataEntry_eraseHeaders (s : CallbackState) (name value : Bytes)
    (trailing : Bool) :
    (s.addResponseMetadataEntry name value trailing).1.call.eraseHeaders = s.call.eraseHeaders := by
  unfold CallbackState.addResponseMetadataEntry
  dsimp only
  split
  · rfl
  split
  · split
    · rw [CallbackState.submitRstStream_call]
      rfl
    · rfl
  · rfl

/-- A header callback touches nothing else. -/
theorem apply_header_eraseHeaders (call : GrpcCall) (ra : ReadAhead) (answers : List Int)
    (cat : HeaderCategory) (name value : Bytes) :
    (call.apply (.event ra answers (.header cat name value))).eraseHeaders = call.eraseHeaders := by
  simp only [apply, CallbackState.onEvent, CallbackState.onHeader]
  split
  · unfold CallbackState.headerGrpcStatus
    dsimp only
    split <;> split <;> split <;> rfl
  split
  · split <;> rfl
  · rw [addResponseMetadataEntry_eraseHeaders]
    unfold CallbackState.headerField
    dsimp only
    split
    · split <;> rfl
    split
    · rfl
    split
    · split <;> rfl
    split <;> rfl

/-- Neither does the end of a header block. -/
theorem apply_headersEnd_eraseHeaders (call : GrpcCall) (ra : ReadAhead) (answers : List Int)
    (cat : HeaderCategory) (endStream : Bool) :
    (call.apply (.event ra answers (.headersEnd cat endStream))).eraseHeaders =
      call.eraseHeaders := by
  simp only [apply, CallbackState.onEvent, CallbackState.onHeadersFrame]
  cases cat with
  | response =>
    dsimp only
    split <;> split <;> rfl
  | headers =>
    dsimp only
    split <;> rfl
  | other => rfl

/-- A field that header blocks do not change. -/
theorem field_of_eraseHeaders {α : Type} {call call' : GrpcCall}
    (h : call'.eraseHeaders = call.eraseHeaders) (f : GrpcCall → α)
    (hf : ∀ c, f c.eraseHeaders = f c) : f call' = f call := by
  rw [← hf call', h, hf call]

end GrpcCall

end GrpcLite
