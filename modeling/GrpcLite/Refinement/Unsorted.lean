import GrpcLite.Correctness.ResponseMetadata

/-!
# Calls up to the origin of their header fields

The category of a header block decides where a field is stored and which checks
are made at the end of the block. Nothing else depends on it: a call without these
parts follows the same inputs in the same way.
-/

namespace GrpcLite

/-- The call without its metadata, without what tells the response header block from a trailing
one, and without the HTTP status, which no callback reads. -/
def GrpcCall.unsorted (call : GrpcCall) : GrpcCall :=
  { call with
    httpStatus := 0
    metadata := [], metadataEntryCount := 0, metadataBytes := 0
    contentTypeSeen := false, contentType := none
    initialGrpcStatusSeen := false, initialHeadersEndStream := false
    trailingHeadersSeen := call.initialHeadersEndStream || call.trailingHeadersSeen }

/-- The status code does not depend on the origin of a field. -/
theorem statusCodeFromCall_eq_of_unsorted {a b : GrpcCall} (h : a.unsorted = b.unsorted)
    (hhttp : a.httpStatus = b.httpStatus) (cancelled : Bool) :
    statusCodeFromCall a cancelled = statusCodeFromCall b cancelled := by
  have hself : ∀ call : GrpcCall, statusCodeFromCall call cancelled =
      statusCodeFromCall { call.unsorted with httpStatus := call.httpStatus } cancelled := by
    intro call
    have hends : (!call.unsorted.initialHeadersEndStream ∧ !call.unsorted.trailingHeadersSeen) ↔
        (!call.initialHeadersEndStream ∧ !call.trailingHeadersSeen) := by
      change (!false ∧ !(call.initialHeadersEndStream || call.trailingHeadersSeen)) ↔ _
      cases call.initialHeadersEndStream <;> cases call.trailingHeadersSeen <;> decide
    unfold statusCodeFromCall
    simp only [hends]
    rfl
  rw [hself a, hself b, h, hhttp]

namespace CallbackState

/-- What the callback works on, with its call up to the origin of the fields. -/
def unsorted (s : CallbackState) : CallbackState := { s with call := s.call.unsorted }

/-- The same for the end of a round. -/
def Round.unsorted : Round → Round
  | .next s offset => .next s.unsorted offset
  | .done s rv => .done s.unsorted rv

/-- Branches on conditions that agree. -/
theorem Round.unsorted_ite {c c' : Prop} [Decidable c] [Decidable c'] {x y x' y' : Round}
    (hc : c' ↔ c) (hx : x' = x.unsorted) (hy : y' = y.unsorted) :
    (if c' then x' else y') = (if c then x else y).unsorted := by
  by_cases h : c
  · rw [if_pos h, if_pos (hc.mpr h), hx]
  · rw [if_neg h, if_neg (mt hc.mp h), hy]

/-- A reset does not look at the origin of fields. -/
theorem submitRstStream_unsorted {s t : CallbackState} (ht : t = s.unsorted) (code : Nat) :
    submitRstStream t code =
      ((submitRstStream s code).1.unsorted, (submitRstStream s code).2) := by
  subst ht
  unfold submitRstStream
  by_cases h : s.call.streamId ≤ 0
  · rw [if_pos h, if_pos (show s.unsorted.call.streamId ≤ 0 from h)]
  · rw [if_neg h, if_neg (show ¬s.unsorted.call.streamId ≤ 0 from h)]
    rfl

section Parser

variable (ra : ReadAhead) (data : Bytes) {s t : CallbackState} (ht : t = s.unsorted)
include ht

/-- Nor does the rejection of a frame. -/
theorem rejectFrame_unsorted (mark : GrpcCall → GrpcCall)
    (hmark : mark s.call.unsorted = (mark s.call).unsorted) (offset : Nat) :
    rejectFrame t mark offset = (rejectFrame s mark offset).unsorted := by
  subst ht
  have hsame : ({ s.unsorted with
      call := resetMessage (discardBody (mark s.unsorted.call)) } : CallbackState) =
      CallbackState.unsorted { s with call := resetMessage (discardBody (mark s.call)) } := by
    change ({ s.unsorted with
      call := resetMessage (discardBody (mark s.call.unsorted)) } : CallbackState) = _
    rw [hmark]
    rfl
  unfold rejectFrame
  rw [submitRstStream_unsorted hsame]
  exact Round.unsorted_ite Iff.rfl rfl rfl

/-- Nor does the limit on the read-ahead. -/
theorem markReadAheadLimitExceeded_unsorted :
    markReadAheadLimitExceeded t =
      ((markReadAheadLimitExceeded s).1.unsorted, (markReadAheadLimitExceeded s).2) := by
  subst ht
  unfold markReadAheadLimitExceeded
  exact submitRstStream_unsorted (by rfl) _

/-- Nor does the queue. -/
theorem enqueueResponsePayload_unsorted (payload : Bytes) :
    enqueueResponsePayload ra t payload =
      ((enqueueResponsePayload ra s payload).1.unsorted,
        (enqueueResponsePayload ra s payload).2) := by
  have hlimit : readAheadLimitWouldExceed ra t.call payload.length =
      readAheadLimitWouldExceed ra s.call payload.length := by
    rw [ht]
    rfl
  unfold enqueueResponsePayload
  rw [hlimit]
  split
  · exact markReadAheadLimitExceeded_unsorted ht
  · rw [ht]
    rfl

/-- Nor does the end of a message. -/
theorem finishMessage_unsorted (payload : Bytes) (offset : Nat) :
    finishMessage ra t payload offset = (finishMessage ra s payload offset).unsorted := by
  subst ht
  have hend : endMessage s.unsorted = (endMessage s).unsorted := rfl
  unfold finishMessage
  refine Round.unsorted_ite Iff.rfl ?_ rfl
  rw [enqueueResponsePayload_unsorted ra hend payload]
  exact Round.unsorted_ite Iff.rfl rfl rfl

/-- Nor does a round that reads payload. -/
theorem payloadRound_unsorted (offset : Nat) :
    payloadRound ra data t offset = (payloadRound ra data s offset).unsorted := by
  subst ht
  unfold payloadRound
  rw [show s.unsorted.call.responsePayload = s.call.responsePayload from rfl]
  cases s.call.responsePayload with
  | none => rfl
  | some payload =>
    exact Round.unsorted_ite Iff.rfl (finishMessage_unsorted ra (by rfl) _ _) rfl

omit ht in
/-- Nor does the mark of a compressed message. -/
theorem flagCompressedMessage_unsorted (call : GrpcCall) :
    flagCompressedMessage call.unsorted = (flagCompressedMessage call).unsorted := by
  unfold flagCompressedMessage
  rw [show call.unsorted.grpcEncoding = call.grpcEncoding from rfl]
  cases call.grpcEncoding with
  | none => rfl
  | some encoding =>
    dsimp only
    split <;> rfl

/-- Nor does a round that reads a header. -/
theorem headerRound_unsorted (offset : Nat) :
    headerRound ra data t offset = (headerRound ra data s offset).unsorted := by
  subst ht
  have hcount : ∀ len, countHeader s.unsorted len = (countHeader s len).unsorted := fun _ => rfl
  unfold headerRound
  refine Round.unsorted_ite Iff.rfl (rejectFrame_unsorted (hcount _) _ (by rfl) offset) ?_
  refine Round.unsorted_ite Iff.rfl (rejectFrame_unsorted (hcount _) _ (by rfl) offset) ?_
  refine Round.unsorted_ite Iff.rfl (rejectFrame_unsorted (hcount _) _ (by rfl) offset) ?_
  refine Round.unsorted_ite Iff.rfl (rejectFrame_unsorted (hcount _) _ (by rfl) offset) ?_
  refine Round.unsorted_ite Iff.rfl
    (rejectFrame_unsorted (hcount _) _ (flagCompressedMessage_unsorted _) offset) ?_
  refine Round.unsorted_ite Iff.rfl ?_ (payloadRound_unsorted ra data (by rfl) offset)
  have hmark := markReadAheadLimitExceeded_unsorted (hcount (be32
    (s.call.responseHeaderBuf.getD 1 0) (s.call.responseHeaderBuf.getD 2 0)
    (s.call.responseHeaderBuf.getD 3 0) (s.call.responseHeaderBuf.getD 4 0)))
  exact congrArg (fun r => Round.done r.1 r.2) hmark

/-- Nor does a round, whichever part it reads. -/
theorem directRound_unsorted (offset : Nat) :
    directRound ra data t offset = (directRound ra data s offset).unsorted := by
  subst ht
  unfold directRound
  refine Round.unsorted_ite Iff.rfl ?_ (payloadRound_unsorted ra data (by rfl) offset)
  exact Round.unsorted_ite Iff.rfl rfl (headerRound_unsorted ra data (by rfl) _)

omit ht in
/-- The parser does not look at the origin of the header fields. -/
theorem directLoop_unsorted (fuel : Nat) (s : CallbackState) (offset : Nat) :
    (directLoop ra data fuel s.unsorted offset).1 =
      (directLoop ra data fuel s offset).1.unsorted := by
  induction fuel generalizing s offset with
  | zero => rfl
  | succ fuel ih =>
    unfold directLoop
    by_cases h : offset < data.length ∧ !decodingStopped s.call
    · rw [if_pos h, if_pos (show offset < data.length ∧ !decodingStopped s.unsorted.call from h),
        directRound_unsorted ra data rfl]
      cases directRound ra data s offset with
      | next s' offset' => exact ih s' offset'
      | done s' rv => rfl
    · rw [if_neg h, if_neg (show ¬(offset < data.length ∧ !decodingStopped s.unsorted.call) from h)]

end Parser

/-- Body bytes are read alike, wherever the fields come from. -/
theorem processResponseDataDirect_unsorted (ra : ReadAhead) (s : CallbackState) (data : Bytes) :
    (processResponseDataDirect ra s.unsorted data).1.call =
      (processResponseDataDirect ra s data).1.call.unsorted := by
  unfold processResponseDataDirect
  rw [show s.unsorted.call.grpcStatusSeen = s.call.grpcStatusSeen from rfl,
    show s.unsorted.call.discardResponseBody = s.call.discardResponseBody from rfl]
  split
  · unfold rejectDataAfterStatus
    rw [submitRstStream_call, submitRstStream_call]
    rfl
  split
  · rfl
  · exact congrArg CallbackState.call (directLoop_unsorted ra data data.length s 0)

end CallbackState

/-- The input belongs to a header block. -/
def CallInput.inHeaders : CallInput → Bool
  | .event _ _ (.header _ _ _) => true
  | .event _ _ (.headersEnd _ _) => true
  | _ => false

/-- The input takes a message from the queue for the user. -/
def CallInput.pops : CallInput → Bool
  | .dequeue => true
  | .take => true
  | _ => false

/-- The messages that inputs take from the queue. -/
def GrpcCall.deliveredBy : GrpcCall → List CallInput → List Bytes
  | _, [] => []
  | call, i :: inputs =>
    (if i.pops then call.responseQueue.head?.toList else []) ++ (call.apply i).deliveredBy inputs

/-- What is delivered in two parts. -/
theorem GrpcCall.deliveredBy_append (call : GrpcCall) (xs ys : List CallInput) :
    call.deliveredBy (xs ++ ys) = call.deliveredBy xs ++ (call.applyAll xs).deliveredBy ys := by
  induction xs generalizing call with
  | nil => rfl
  | cons i xs ih =>
    rw [List.cons_append, deliveredBy, deliveredBy, ih, List.append_assoc]
    rfl

/-- Inputs that do the same up to the origin of the fields: a field may come in different blocks,
and no response header block ends. -/
inductive CallInput.Alike : CallInput → CallInput → Prop
  /-- The same input outside the header blocks. -/
  | same {i : CallInput} (h : i.inHeaders = false) : Alike i i
  /-- The same field in two blocks. -/
  | field (ra : ReadAhead) (answers : List Int) (cat cat' : HeaderCategory) (name value : Bytes) :
    Alike (.event ra answers (.header cat name value))
      (.event ra answers (.header cat' name value))
  /-- The end of a later block. -/
  | blockEnd (ra : ReadAhead) (answers : List Int) {cat : HeaderCategory} (h : cat ≠ .response)
      (endStream : Bool) :
    Alike (.event ra answers (.headersEnd cat endStream))
      (.event ra answers (.headersEnd cat endStream))

namespace GrpcCall

/-- The driver reads the body in the same way. -/
theorem Direct.unsorted {call : GrpcCall} (h : call.Direct) : call.unsorted.Direct :=
  h.of_config rfl

/-- The callback for body bytes does not look at the origin of fields. -/
theorem apply_data_unsorted {call : GrpcCall} (h : call.Direct) (ra : ReadAhead)
    (answers : List Int) (bytes : Bytes) :
    (call.apply (.event ra answers (.data bytes))).unsorted =
      call.unsorted.apply (.event ra answers (.data bytes)) := by
  rcases call.apply_data h ra answers bytes with ⟨hsame, rfl⟩ | ⟨hseen, hreject⟩ | ⟨hseen, hdata⟩
  · rw [hsame]
    rfl
  · rcases call.unsorted.apply_data h.unsorted ra answers bytes with
      ⟨-, rfl⟩ | ⟨-, hreject'⟩ | ⟨hseen', -⟩
    · have hnil : call.apply (.event ra answers (.data [])) = call := rfl
      rw [hnil]
      rfl
    · rw [hreject, hreject']
      rfl
    · exact absurd (hseen.symm.trans hseen') (by decide)
  · rcases call.unsorted.apply_data h.unsorted ra answers bytes with
      ⟨-, rfl⟩ | ⟨hseen', -⟩ | ⟨-, hdata'⟩
    · have hnil : call.apply (.event ra answers (.data [])) = call := rfl
      rw [hnil]
      rfl
    · exact absurd (hseen'.symm.trans hseen) (by decide)
    · rw [hdata, hdata']
      exact (CallbackState.processResponseDataDirect_unsorted ra ⟨call, answers, []⟩ bytes).symm

/-- An input outside the header blocks. -/
theorem apply_unsorted {call : GrpcCall} (h : call.Direct) {i : CallInput}
    (hi : i.inHeaders = false) : (call.apply i).unsorted = call.unsorted.apply i := by
  cases i with
  | event ra answers event =>
    cases event with
    | header cat name value => cases hi
    | headersEnd cat endStream => cases hi
    | data bytes => exact apply_data_unsorted h ra answers bytes
    | rstStream code => rfl
    | pushPromise =>
      simp only [apply, CallbackState.onEvent, CallbackState.onPushPromise,
        CallbackState.submitRstStream_call]
      rfl
    | closed code => rfl
  | connectionBroken errno detail =>
    simp only [apply]
    rw [show call.unsorted.timedOut = call.timedOut from rfl]
    split <;> rfl
  | dequeue =>
    simp only [apply, dequeueResponsePayload]
    rw [show call.unsorted.responseQueue = call.responseQueue from rfl]
    cases call.responseQueue <;> rfl
  | take =>
    simp only [apply, unaryTakeResponsePayload]
    rw [show call.unsorted.responseQueue = call.responseQueue from rfl]
    cases call.responseQueue <;> rfl
  | refused | submitted | registered | unregistered | ownerCleared | timedOut | ioError
  | locallyCancelled | userCancelled | freeQueue | truncated | requestSent => rfl

/-- What a field does to a call up to its origin. -/
def onField (name value : Bytes) (call : GrpcCall) : GrpcCall :=
  if name = HeaderName.grpcStatus then CallbackState.headerGrpcStatus .headers value call
  else if name = HeaderName.grpcMessage then
    { call with grpcMessage := some (Protocol.decodeMessage value) }
  else CallbackState.headerField .headers name value call

/-- A status is a trailing one when its origin is forgotten. -/
theorem headerGrpcStatus_unsorted (cat : HeaderCategory) (value : Bytes) (call : GrpcCall) :
    (CallbackState.headerGrpcStatus cat value call).unsorted =
      (CallbackState.headerGrpcStatus .headers value call.unsorted).unsorted := by
  unfold CallbackState.headerGrpcStatus
  cases cat with
  | response =>
    simp only [if_true, reduceCtorEq, if_false]
    rw [show call.unsorted.grpcStatusSeen = call.grpcStatusSeen from rfl]
    split <;> split <;> rfl
  | headers | other =>
    simp only [reduceCtorEq, if_false]
    rw [show call.unsorted.grpcStatusSeen = call.grpcStatusSeen from rfl]
    split <;> split <;> rfl

/-- So is any other field. -/
theorem headerField_unsorted (cat : HeaderCategory) (name value : Bytes) (call : GrpcCall) :
    (CallbackState.headerField cat name value call).unsorted =
      (CallbackState.headerField .headers name value call.unsorted).unsorted := by
  unfold CallbackState.headerField
  split
  · cases cat <;> rfl
  split
  · rfl
  split
  · dsimp only
    split <;> rfl
  split <;> rfl

/-- A field that finds room, in whichever block it comes. -/
theorem apply_header_unsorted {call : GrpcCall} (ra : ReadAhead) (answers : List Int)
    (cat : HeaderCategory) (name value : Bytes)
    (hroom : (call.apply (.event ra answers (.header cat name value))).metadataTooLarge = false) :
    (call.apply (.event ra answers (.header cat name value))).unsorted =
      (onField name value call.unsorted).unsorted := by
  simp only [apply, CallbackState.onEvent, CallbackState.onHeader, onField] at hroom ⊢
  split
  · exact headerGrpcStatus_unsorted cat value call
  next hstatus =>
  rw [if_neg hstatus] at hroom
  split
  · cases cat <;> rfl
  next hmessage =>
  rw [if_neg hmessage] at hroom
  have hadd : ∀ (s : CallbackState) (trailing : Bool),
      (s.addResponseMetadataEntry name value trailing).1.call.metadataTooLarge = false →
      (s.addResponseMetadataEntry name value trailing).1.call.unsorted = s.call.unsorted := by
    intro s trailing hfine
    unfold CallbackState.addResponseMetadataEntry at hfine ⊢
    dsimp only at hfine ⊢
    split
    · rfl
    next hname =>
    rw [if_neg hname] at hfine
    split
    · next hfull =>
      rw [if_pos hfull] at hfine
      split at hfine
      · rw [CallbackState.submitRstStream_call] at hfine
        cases hfine
      · cases hfine
    · rfl
  rw [hadd _ _ hroom]
  exact headerField_unsorted cat name value call

/-- So is the end of a block behind the response headers. -/
theorem apply_headersEnd_unsorted (call : GrpcCall) (ra : ReadAhead) (answers : List Int)
    {cat : HeaderCategory} (hcat : cat ≠ .response) (endStream : Bool) :
    (call.apply (.event ra answers (.headersEnd cat endStream))).unsorted =
      call.unsorted.apply (.event ra answers (.headersEnd cat endStream)) := by
  simp only [apply, CallbackState.onEvent, CallbackState.onHeadersFrame]
  cases cat with
  | response => exact absurd rfl hcat
  | headers =>
    cases endStream with
    | true =>
      change unsorted { call with trailingHeadersSeen := true } =
        { call.unsorted with trailingHeadersSeen := true }
      simp only [unsorted, Bool.or_true]
    | false => rfl
  | other => rfl

/-! ## Runs -/

/-- The store of a call only fills up. -/
theorem metadataTooLarge_of_apply {call : GrpcCall} (h : call.Direct) {i : CallInput}
    (hroom : (call.apply i).metadataTooLarge = false) : call.metadataTooLarge = false := by
  by_cases hi : i.isHeader = true
  · cases i with
    | event ra answers event =>
      cases event with
      | header cat name value =>
        have hstore := call.apply_header_store ra answers cat name value
        have hflag : (call.store.onHeader cat name value).tooLarge = false := hstore ▸ hroom
        unfold MetadataStore.onHeader MetadataStore.add at hflag
        split at hflag
        · exact hflag
        split at hflag
        · split at hflag
          · cases hflag
          · exact hflag
        · exact hflag
      | _ => cases hi
    | _ => cases hi
  · obtain ⟨status, hstore⟩ := apply_store h (Bool.not_eq_true _ ▸ hi)
    exact (congrArg MetadataStore.tooLarge hstore).symm.trans hroom

/-- Room at the end is room before. -/
theorem metadataTooLarge_of_applyAll {call : GrpcCall} (h : call.Direct) {inputs : List CallInput}
    (hroom : (call.applyAll inputs).metadataTooLarge = false) : call.metadataTooLarge = false := by
  induction inputs generalizing call with
  | nil => exact hroom
  | cons i inputs ih => exact metadataTooLarge_of_apply h (ih (h.apply i) hroom)

section Alike

variable {a b : GrpcCall} (ha : a.Direct) (hb : b.Direct) (h : a.unsorted = b.unsorted)
include ha hb h

/-- Calls that agree up to the origin of fields agree behind inputs that do. -/
theorem apply_unsorted_alike {i j : CallInput} (hij : i.Alike j)
    (hroom : (a.apply i).metadataTooLarge = false)
    (hroom' : (b.apply j).metadataTooLarge = false) :
    (a.apply i).unsorted = (b.apply j).unsorted := by
  cases hij with
  | same hi => rw [apply_unsorted ha hi, apply_unsorted hb hi, h]
  | field ra answers cat cat' name value =>
    rw [apply_header_unsorted ra answers cat name value hroom,
      apply_header_unsorted ra answers cat' name value hroom', h]
  | blockEnd ra answers hcat endStream =>
    rw [apply_headersEnd_unsorted a ra answers hcat, apply_headersEnd_unsorted b ra answers hcat, h]

/-- Two calls stay the same up to the origin of their fields under inputs that are alike, as long
as there is room for the fields. -/
theorem applyAll_unsorted_alike {is js : List CallInput}
    (halike : List.Forall₂ CallInput.Alike is js)
    (hroom : (a.applyAll is).metadataTooLarge = false)
    (hroom' : (b.applyAll js).metadataTooLarge = false) :
    (a.applyAll is).unsorted = (b.applyAll js).unsorted := by
  induction halike generalizing a b with
  | nil => exact h
  | @cons i j is js hij halike ih =>
    have hfield := metadataTooLarge_of_applyAll (ha.apply i) hroom
    have hfield' := metadataTooLarge_of_applyAll (hb.apply j) hroom'
    exact ih (ha.apply i) (hb.apply j) (apply_unsorted_alike ha hb h hij hfield hfield') hroom hroom'

/-- They deliver the same messages. -/
theorem deliveredBy_alike {is js : List CallInput} (halike : List.Forall₂ CallInput.Alike is js)
    (hroom : (a.applyAll is).metadataTooLarge = false)
    (hroom' : (b.applyAll js).metadataTooLarge = false) :
    a.deliveredBy is = b.deliveredBy js := by
  induction halike generalizing a b with
  | nil => rfl
  | @cons i j is js hij halike ih =>
    have hfield := metadataTooLarge_of_applyAll (ha.apply i) hroom
    have hfield' := metadataTooLarge_of_applyAll (hb.apply j) hroom'
    have hqueue : a.responseQueue = b.responseQueue := congrArg (fun c => c.responseQueue) h
    have hpops : i.pops = j.pops := by cases hij <;> rfl
    rw [deliveredBy, deliveredBy, hqueue, hpops, ih (ha.apply i) (hb.apply j)
      (apply_unsorted_alike ha hb h hij hfield hfield') hroom hroom']

end Alike

end GrpcCall

end GrpcLite
