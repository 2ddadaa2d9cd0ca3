import GrpcLite.Refinement.Exchanges

/-!
# What a refused attempt has left behind

An attempt may be repeated when its stream was refused and the helper behind
`response_started` finds none of the traces that a response leaves. This module says
what its record cannot hold then: traces are never wiped out again, and every field
and every end of a response header block leaves one.
-/

namespace GrpcLite

/-- A field that is stored as metadata: neither nameless nor a pseudo-header field. -/
def isStoredName (name : Bytes) : Bool := decide (name.length ≠ 0) && decide (name.head? ≠ some 58)

/-- The input brings a part of a response header block. -/
def CallInput.responds : CallInput → Bool
  | .event _ _ (.header _ name _) => isStoredName name
  | .event _ _ (.headersEnd .response _) => true
  | _ => false

namespace GrpcCall

/-- The traces of header blocks among those that `grpc_lite_call_response_started` looks for. -/
def touched (call : GrpcCall) : Bool :=
  call.grpcStatusSeen || call.initialGrpcStatusSeen || call.grpcMessage.isSome ||
    call.contentTypeSeen || call.invalidContentType || call.metadataTooLarge ||
    decide (call.metadataEntryCount > 0)

theorem responseStarted_of_touched {call : GrpcCall} (h : call.touched = true) :
    callResponseStarted call = true := by
  simp only [touched, Bool.or_eq_true, decide_eq_true_eq] at h
  simp only [callResponseStarted, Bool.or_eq_true, decide_eq_true_eq]
  tauto

/-- The traces are among the fields that header blocks change. -/
theorem touched_congr {call call' : GrpcCall}
    (hseen : call'.grpcStatusSeen = call.grpcStatusSeen)
    (hinitial : call'.initialGrpcStatusSeen = call.initialGrpcStatusSeen)
    (hmessage : call'.grpcMessage = call.grpcMessage)
    (hcontent : call'.contentTypeSeen = call.contentTypeSeen)
    (hinvalid : call'.invalidContentType = call.invalidContentType)
    (hlarge : call'.metadataTooLarge = call.metadataTooLarge)
    (hcount : call'.metadataEntryCount = call.metadataEntryCount) :
    call'.touched = call.touched := by
  simp only [touched, hseen, hinitial, hmessage, hcontent, hinvalid, hlarge, hcount]

end GrpcCall

namespace CallbackState

open GrpcCall

/-- A stored field leaves a trace, and what is there stays. -/
theorem addResponseMetadataEntry_touched (s : CallbackState) (name value : Bytes)
    (trailing : Bool) (h : isStoredName name = true ∨ s.call.touched = true) :
    (s.addResponseMetadataEntry name value trailing).1.call.touched = true := by
  unfold addResponseMetadataEntry
  dsimp only
  split
  · next hpseudo =>
    refine h.resolve_left fun hname => ?_
    simp only [isStoredName, Bool.and_eq_true, decide_eq_true_eq] at hname
    exact hpseudo.elim hname.1 hname.2
  split
  · have hlarge : (discardBody { s.call with metadataTooLarge := true }).touched = true := by
      simp [touched, discardBody]
    split
    · rw [submitRstStream_call]
      exact hlarge
    · exact hlarge
  · simp [touched]

theorem headerField_touched (cat : HeaderCategory) (name value : Bytes) {call : GrpcCall}
    (h : call.touched = true) : (headerField cat name value call).touched = true := by
  simp only [touched, Bool.or_eq_true, decide_eq_true_eq] at h
  unfold headerField discardBody
  dsimp only
  split
  · split
    · simp [touched]
    · simpa [touched] using h
  split
  · simpa [touched] using h
  split
  · split <;> simp [touched]
  split
  · simpa [touched] using h
  · simpa [touched] using h

/-- A header callback leaves a trace for every stored field, and what is there stays. -/
theorem onHeader_touched (s : CallbackState) (cat : HeaderCategory) (name value : Bytes)
    (h : isStoredName name = true ∨ s.call.touched = true) :
    (s.onHeader cat name value).1.call.touched = true := by
  unfold onHeader
  dsimp only
  split
  · -- the status is noted whatever its value is
    have hseen : (headerGrpcStatus cat value s.call).grpcStatusSeen = true := by
      unfold headerGrpcStatus markResponseMetadataAsTrailing
      dsimp only
      split <;> split <;> split <;> rfl
    simp [touched, hseen]
  split
  · simp [touched]
  · exact addResponseMetadataEntry_touched _ name value _
      (h.imp_right fun h => headerField_touched cat name value h)

/-- The end of a response header block leaves a trace. -/
theorem onHeadersFrame_touched (cat : HeaderCategory) (endStream : Bool) {call : GrpcCall}
    (h : cat = .response ∨ call.touched = true) :
    (onHeadersFrame cat endStream call).touched = true := by
  cases cat with
  | response =>
    unfold onHeadersFrame
    dsimp only
    by_cases hcontent : call.contentTypeSeen = true
    · split <;> split <;> simp [touched, discardBody, hcontent]
    · by_cases hseen : call.grpcStatusSeen = true
      · split <;> split <;> simp [touched, discardBody, hseen]
      · split
        · split <;> simp [touched, discardBody]
        · next hnot => simp [hcontent, hseen] at hnot
  | headers =>
    have htouched := h.resolve_left (by decide)
    unfold onHeadersFrame
    dsimp only
    split
    · exact (touched_congr rfl rfl rfl rfl rfl rfl rfl).trans htouched
    · exact htouched
  | other => exact h.resolve_left (by decide)

end CallbackState

namespace GrpcCall

open CallbackState

theorem apply_touched {call : GrpcCall} (hdirect : call.Direct) {i : CallInput}
    (h : i.responds = true ∨ call.touched = true) : (call.apply i).touched = true := by
  have hkept (hno : i.responds = false) : call.touched = true :=
    h.resolve_left (by rw [hno]; exact Bool.false_ne_true)
  cases i with
  | event ra answers event =>
    cases event with
    | header cat name value => exact onHeader_touched ⟨call, answers, []⟩ cat name value h
    | headersEnd cat endStream =>
      refine onHeadersFrame_touched cat endStream (h.imp_left fun hr => ?_)
      cases cat with
      | response => rfl
      | headers | other => cases hr
    | data bytes =>
      have hsame := call.apply_data_field hdirect ra answers bytes touched
        (fun _ => touched_congr rfl rfl rfl rfl rfl rfl rfl)
        fun _ => touched_congr rfl rfl rfl rfl rfl rfl rfl
      rw [hsame]
      exact hkept rfl
    | pushPromise =>
      simp only [apply, onEvent, onPushPromise, submitRstStream_call]
      exact (touched_congr rfl rfl rfl rfl rfl rfl rfl).trans (hkept rfl)
    | rstStream | closed => exact (touched_congr rfl rfl rfl rfl rfl rfl rfl).trans (hkept rfl)
  | connectionBroken errno detail =>
    simp only [apply]
    split
    · exact hkept rfl
    · exact (touched_congr rfl rfl rfl rfl rfl rfl rfl).trans (hkept rfl)
  | dequeue =>
    simp only [apply, dequeueResponsePayload]
    cases call.responseQueue with
    | nil => exact hkept rfl
    | cons => exact (touched_congr rfl rfl rfl rfl rfl rfl rfl).trans (hkept rfl)
  | take =>
    simp only [apply, unaryTakeResponsePayload]
    cases call.responseQueue with
    | nil => exact hkept rfl
    | cons => exact (touched_congr rfl rfl rfl rfl rfl rfl rfl).trans (hkept rfl)
  | requestSent n =>
    simp only [apply, advanceRequest]
    exact (touched_congr rfl rfl rfl rfl rfl rfl rfl).trans (hkept rfl)
  | _ => exact (touched_congr rfl rfl rfl rfl rfl rfl rfl).trans (hkept rfl)

/-- Traces are never wiped out. -/
theorem applyAll_touched {call : GrpcCall} (hdirect : call.Direct) {inputs : List CallInput}
    (h : inputs.any CallInput.responds = true ∨ call.touched = true) :
    (call.applyAll inputs).touched = true := by
  induction inputs generalizing call with
  | nil => exact h.resolve_left Bool.false_ne_true
  | cons i inputs ih =>
    refine ih (hdirect.apply i) ?_
    rw [List.any_cons, Bool.or_eq_true, or_assoc] at h
    rcases h with hi | hrest | htouched
    · exact .inr (apply_touched hdirect (.inl hi))
    · exact .inl hrest
    · exact .inr (apply_touched hdirect (.inr htouched))

end GrpcCall

/-! ## Refused attempts -/

/-- The input is a GOAWAY below the stream. -/
def CallInput.refusesStream : CallInput → Bool
  | .refused => true
  | _ => false

/-- The input is a reset by the peer. -/
def CallInput.resetsStream : CallInput → Bool
  | .event _ _ (.rstStream _) => true
  | _ => false

/-- The record of an attempt that the peer refused before it had answered. -/
structure Unprocessed (start : GrpcCall) (inputs : List CallInput) : Prop where
  /-- A GOAWAY came below the stream, or the peer reset it with REFUSED_STREAM. -/
  refused : inputs.any CallInput.refusesStream = true ∨
    inputs.any CallInput.resetsStream = true ∧
      (start.applyAll inputs).streamErrorCode = Nghttp2.refusedStream
  /-- No response header block brought a field or ended, so no message began behind one. -/
  silent : ∀ i ∈ inputs, i.responds = false

/-- An attempt that may be repeated was refused unprocessed. What its driver checks last has the
flags and the traces of the record. -/
theorem Unprocessed.of_retryable {start call : GrpcCall} {inputs : List CallInput} {observed : Bool}
    (hdirect : start.Direct) (hrefused : start.streamRefusedSeen = false)
    (hreset : start.streamResetSeen = false)
    (hflags : call.streamFlags = (start.applyAll inputs).streamFlags)
    (htouched : call.touched = (start.applyAll inputs).touched)
    (h : (attemptOutcomeFromCall call observed).transparentRetryableUnprocessed = true) :
    Unprocessed start inputs ∧ call.retryAttempt = 0 ∧ observed = false := by
  simp only [attemptOutcomeFromCall, Bool.and_eq_true, decide_eq_true_eq, Bool.not_eq_true'] at h
  obtain ⟨⟨⟨hkind, hfirst⟩, hstarted⟩, hobserved⟩ := h
  refine ⟨⟨?_, fun i hi => ?_⟩, hfirst, hobserved⟩
  · have hgoaway : (start.applyAll inputs).streamRefusedSeen =
        (start.streamRefusedSeen || inputs.any CallInput.refusesStream) := by
      refine start.applyAll_streamFlag hdirect inputs StreamFlags.streamRefusedSeen _ fun f i => ?_
      cases i with
      | event ra answers event => cases event <;> exact (Bool.or_false _).symm
      | connectionBroken =>
        simp only [StreamFlags.onInput, CallInput.refusesStream, Bool.or_false]
        split <;> rfl
      | refused => exact (Bool.or_true _).symm
      | _ => exact (Bool.or_false _).symm
    have hrst : (start.applyAll inputs).streamResetSeen =
        (start.streamResetSeen || inputs.any CallInput.resetsStream) := by
      refine start.applyAll_streamFlag hdirect inputs StreamFlags.streamResetSeen _ fun f i => ?_
      cases i with
      | event ra answers event =>
        cases event with
        | rstStream => exact (Bool.or_true _).symm
        | _ => exact (Bool.or_false _).symm
      | connectionBroken =>
        simp only [StreamFlags.onInput, CallInput.resetsStream, Bool.or_false]
        split <;> rfl
      | _ => exact (Bool.or_false _).symm
    rw [hrefused, Bool.false_or] at hgoaway
    rw [hreset, Bool.false_or] at hrst
    have hcode := congrArg StreamFlags.streamErrorCode hflags
    have hgoaway' := (congrArg StreamFlags.streamRefusedSeen hflags).trans hgoaway
    have hrst' := (congrArg StreamFlags.streamResetSeen hflags).trans hrst
    by_cases hseen : call.streamRefusedSeen = true
    · exact .inl (hgoaway'.symm.trans hseen)
    · refine .inr ?_
      rw [refusedKindFromCall, if_neg hseen] at hkind
      by_cases hsecond : call.streamResetSeen = true ∧
          call.streamErrorCode = Nghttp2.refusedStream
      · exact ⟨hrst'.symm.trans hsecond.1, hcode.symm.trans hsecond.2⟩
      · exact absurd (if_neg hsecond) hkind
  · by_contra hresponds
    have hany : inputs.any CallInput.responds = true :=
      List.any_eq_true.mpr ⟨i, hi, Bool.not_eq_false _ ▸ hresponds⟩
    have hyes := GrpcCall.responseStarted_of_touched
      (htouched.trans (GrpcCall.applyAll_touched hdirect (.inl hany)))
    exact Bool.false_ne_true (hstarted.symm.trans hyes)

end GrpcLite
