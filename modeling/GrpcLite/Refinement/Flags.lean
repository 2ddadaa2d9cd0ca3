import GrpcLite.Refinement.Unsorted

/-!
# Flags behind a run

The flags of a call that header blocks set, and those that the fate of its stream
sets, follow from its inputs alone.
-/

namespace GrpcLite

/-! ## Header flags -/

/-- What header blocks leave in a call beside the status and the metadata. -/
structure HeaderFlags where
  /-- A content-type field arrived. -/
  contentTypeSeen : Bool
  /-- The content-type rule was violated. -/
  invalidContentType : Bool
  /-- A grpc-status field arrived. -/
  grpcStatusSeen : Bool
  /-- A status field arrived in the response header block. -/
  initialGrpcStatusSeen : Bool
  /-- The response header block ended the stream. -/
  initialHeadersEndStream : Bool
  /-- Last `:status`. -/
  httpStatus : Int

/-- The flags of a call. -/
def GrpcCall.headerFlags (call : GrpcCall) : HeaderFlags where
  contentTypeSeen := call.contentTypeSeen
  invalidContentType := call.invalidContentType
  grpcStatusSeen := call.grpcStatusSeen
  initialGrpcStatusSeen := call.initialGrpcStatusSeen
  initialHeadersEndStream := call.initialHeadersEndStream
  httpStatus := call.httpStatus

/-- The field carries a part of the status. -/
def isStatusName (name : Bytes) : Bool :=
  decide (name = HeaderName.grpcStatus) || decide (name = HeaderName.grpcMessage) ||
    decide (name = HeaderName.grpcStatusDetailsBin)

/-- The field is a content-type that the transport rejects. -/
def isBadContentType (name value : Bytes) : Bool :=
  decide (name = HeaderName.contentType) && !Protocol.isValidContentType value

/-- A field arrives. -/
def HeaderFlags.onHeader (f : HeaderFlags) (cat : HeaderCategory) (name value : Bytes) :
    HeaderFlags where
  contentTypeSeen := f.contentTypeSeen || decide (name = HeaderName.contentType)
  invalidContentType := f.invalidContentType || isBadContentType name value
  grpcStatusSeen := f.grpcStatusSeen || decide (name = HeaderName.grpcStatus)
  initialGrpcStatusSeen :=
    f.initialGrpcStatusSeen || (decide (cat = .response) && isStatusName name)
  initialHeadersEndStream := f.initialHeadersEndStream
  httpStatus := if name = HeaderName.status then Protocol.httpStatusValue value else f.httpStatus

namespace GrpcCall

/-- Metadata sets no flag of the headers. -/
theorem addResponseMetadataEntry_headerFlags (s : CallbackState) (name value : Bytes)
    (trailing : Bool) :
    (s.addResponseMetadataEntry name value trailing).1.call.headerFlags = s.call.headerFlags := by
  unfold CallbackState.addResponseMetadataEntry
  dsimp only
  split
  · rfl
  split
  · split
    · rw [CallbackState.submitRstStream_call]
      rfl
    · rfl
  · rfl

/-- A field that is no status sets the flags of its name. -/
theorem headerField_headerFlags (cat : HeaderCategory) {name : Bytes} (value : Bytes)
    (call : GrpcCall) (hstatus : name ≠ HeaderName.grpcStatus)
    (hmessage : name ≠ HeaderName.grpcMessage) :
    (CallbackState.headerField cat name value call).headerFlags =
      call.headerFlags.onHeader cat name value := by
  unfold CallbackState.headerField
  by_cases hdetails : name = HeaderName.grpcStatusDetailsBin
  · rw [if_pos hdetails]
    subst hdetails
    cases cat <;> simp [HeaderFlags.onHeader, headerFlags, isStatusName, isBadContentType,
      HeaderName.grpcStatusDetailsBin, HeaderName.grpcStatus, HeaderName.grpcMessage,
      HeaderName.contentType, HeaderName.status, ascii]
  rw [if_neg hdetails]
  have hnone : isStatusName name = false := by simp [isStatusName, hstatus, hmessage, hdetails]
  by_cases hhttp : name = HeaderName.status
  · rw [if_pos hhttp]
    subst hhttp
    have hother : HeaderName.status ≠ HeaderName.contentType := by decide
    simp [HeaderFlags.onHeader, headerFlags, hnone, isBadContentType, hother, hstatus]
  rw [if_neg hhttp]
  by_cases hct : name = HeaderName.contentType
  · rw [if_pos hct]
    subst hct
    dsimp only
    split
    · next hvalid =>
      simp [HeaderFlags.onHeader, headerFlags, hnone, isBadContentType, hstatus, hhttp, hvalid]
    · next hvalid =>
      simp [HeaderFlags.onHeader, headerFlags, hnone, isBadContentType, hstatus, hhttp, hvalid,
        CallbackState.discardBody]
  rw [if_neg hct]
  split <;>
    simp [HeaderFlags.onHeader, headerFlags, hnone, isBadContentType, hstatus, hhttp, hct]

/-- The callback for a field sets the flags of its name. -/
theorem apply_header_headerFlags (call : GrpcCall) (ra : ReadAhead) (answers : List Int)
    (cat : HeaderCategory) (name value : Bytes) :
    (call.apply (.event ra answers (.header cat name value))).headerFlags =
      call.headerFlags.onHeader cat name value := by
  simp only [apply, CallbackState.onEvent, CallbackState.onHeader]
  split
  · next hname =>
    subst hname
    have hother : HeaderName.grpcStatus ≠ HeaderName.contentType ∧
        HeaderName.grpcStatus ≠ HeaderName.status := by decide
    unfold CallbackState.headerGrpcStatus
    dsimp only
    split <;> split <;> split <;>
      simp [HeaderFlags.onHeader, headerFlags, isStatusName, isBadContentType,
        markResponseMetadataAsTrailing, *]
  next hstatus =>
  split
  · next hname =>
    subst hname
    have hother : HeaderName.grpcMessage ≠ HeaderName.contentType ∧
        HeaderName.grpcMessage ≠ HeaderName.status := by decide
    cases cat <;>
      simp [HeaderFlags.onHeader, headerFlags, isStatusName, isBadContentType, hother, hstatus]
  next hmessage =>
  rw [addResponseMetadataEntry_headerFlags]
  exact headerField_headerFlags cat value call hstatus hmessage

/-- Only header blocks change the flags. -/
theorem apply_headerFlags {call : GrpcCall} (h : call.Direct) {i : CallInput}
    (hi : i.inHeaders = false) : (call.apply i).headerFlags = call.headerFlags := by
  cases i with
  | event ra answers event =>
    cases event with
    | header cat name value => cases hi
    | headersEnd cat endStream => cases hi
    | data bytes =>
      exact call.apply_data_field h ra answers bytes headerFlags (fun _ => rfl) fun _ => rfl
    | rstStream code => rfl
    | pushPromise =>
      simp only [apply, CallbackState.onEvent, CallbackState.onPushPromise,
        CallbackState.submitRstStream_call]
      rfl
    | closed code => rfl
  | connectionBroken errno detail =>
    simp only [apply]
    split <;> rfl
  | dequeue =>
    simp only [apply, dequeueResponsePayload]
    cases call.responseQueue <;> rfl
  | take =>
    simp only [apply, unaryTakeResponsePayload]
    cases call.responseQueue <;> rfl
  | refused | submitted | registered | unregistered | ownerCleared | timedOut | ioError
  | locallyCancelled | userCancelled | freeQueue | truncated | requestSent => rfl

/-- The end of a block other than the response headers changes none of the flags. -/
theorem apply_headersEnd_headerFlags (call : GrpcCall) (ra : ReadAhead) (answers : List Int)
    {cat : HeaderCategory} (hcat : cat ≠ .response) (endStream : Bool) :
    (call.apply (.event ra answers (.headersEnd cat endStream))).headerFlags =
      call.headerFlags := by
  simp only [apply, CallbackState.onEvent, CallbackState.onHeadersFrame]
  cases cat with
  | response => exact absurd rfl hcat
  | headers =>
    dsimp only
    split <;> rfl
  | other => rfl

end GrpcCall

/-- The flags behind an input that does not end the response headers. -/
def HeaderFlags.onInput (f : HeaderFlags) : CallInput → HeaderFlags
  | .event _ _ (.header cat name value) => f.onHeader cat name value
  | _ => f

/-- The input ends the response headers. -/
def CallInput.endsResponse : CallInput → Bool
  | .event _ _ (.headersEnd cat _) => decide (cat = .response)
  | _ => false

/-- The flags of a header block that is still open. -/
theorem GrpcCall.applyAll_headerFlags {call : GrpcCall} (h : call.Direct) {inputs : List CallInput}
    (hopen : ∀ i ∈ inputs, i.endsResponse = false) :
    (call.applyAll inputs).headerFlags = inputs.foldl HeaderFlags.onInput call.headerFlags := by
  induction inputs generalizing call with
  | nil => rfl
  | cons i inputs ih =>
    have hstep : (call.apply i).headerFlags = call.headerFlags.onInput i := by
      have hi := hopen i List.mem_cons_self
      cases i with
      | event ra answers event =>
        cases event with
        | header cat name value => exact call.apply_header_headerFlags ra answers cat name value
        | headersEnd cat endStream =>
          exact call.apply_headersEnd_headerFlags ra answers (of_decide_eq_false hi) endStream
        | _ => exact apply_headerFlags h rfl
      | _ => exact apply_headerFlags h rfl
    rw [List.foldl_cons, ← hstep]
    exact ih (h.apply i) fun j hj => hopen j (List.mem_cons_of_mem _ hj)

/-- The input is a field with a property. -/
def CallInput.fieldIs (p : Bytes → Bytes → Bool) : CallInput → Bool
  | .event _ _ (.header _ name value) => p name value
  | _ => false

namespace HeaderFlags

variable (f : HeaderFlags) (inputs : List CallInput)

/-- A flag that collects what arrives is set when it was or when something arrives. -/
theorem foldl_onInput_flag (flag : HeaderFlags → Bool) (sets : CallInput → Bool)
    (hstep : ∀ (f : HeaderFlags), ∀ i ∈ inputs, flag (f.onInput i) = (flag f || sets i)) :
    flag (inputs.foldl onInput f) = (flag f || inputs.any sets) := by
  induction inputs generalizing f with
  | nil => rw [List.foldl_nil, List.any_nil, Bool.or_false]
  | cons i inputs ih =>
    rw [List.foldl_cons, ih (f.onInput i) fun f j hj => hstep f j (List.mem_cons_of_mem _ hj),
      hstep f i List.mem_cons_self, List.any_cons, Bool.or_assoc]

/-- An open block has not ended the stream. -/
theorem foldl_onInput_initialHeadersEndStream :
    (inputs.foldl onInput f).initialHeadersEndStream = f.initialHeadersEndStream := by
  induction inputs generalizing f with
  | nil => rfl
  | cons i inputs ih =>
    rw [List.foldl_cons, ih]
    cases i with
    | event ra answers event => cases event <;> rfl
    | _ => rfl

/-- A content-type was seen if there was one. -/
theorem foldl_onInput_contentTypeSeen :
    (inputs.foldl onInput f).contentTypeSeen = (f.contentTypeSeen ||
      inputs.any (·.fieldIs fun name _ => decide (name = HeaderName.contentType))) := by
  refine foldl_onInput_flag f inputs contentTypeSeen _ fun f i _ => ?_
  cases i with
  | event ra answers event => cases event <;> simp [onInput, CallInput.fieldIs, onHeader]
  | _ => simp [onInput, CallInput.fieldIs]

/-- A status was seen if there was one. -/
theorem foldl_onInput_grpcStatusSeen :
    (inputs.foldl onInput f).grpcStatusSeen = (f.grpcStatusSeen ||
      inputs.any (·.fieldIs fun name _ => decide (name = HeaderName.grpcStatus))) := by
  refine foldl_onInput_flag f inputs grpcStatusSeen _ fun f i _ => ?_
  cases i with
  | event ra answers event => cases event <;> simp [onInput, CallInput.fieldIs, onHeader]
  | _ => simp [onInput, CallInput.fieldIs]

theorem foldl_onInput_initialGrpcStatusSeen
    (hnone : inputs.any (·.fieldIs fun name _ => isStatusName name) = false) :
    (inputs.foldl onInput f).initialGrpcStatusSeen = f.initialGrpcStatusSeen := by
  rw [foldl_onInput_flag f inputs initialGrpcStatusSeen (fun _ => false) fun f i hi => ?_]
  · rw [List.any_eq_false.mpr fun _ _ => Bool.false_ne_true, Bool.or_false]
  have hi := List.any_eq_false.mp hnone i hi
  cases i with
  | event ra answers event =>
    cases event with
    | header cat name value => simp_all [onInput, CallInput.fieldIs, onHeader]
    | _ => simp [onInput]
  | _ => simp [onInput]

/-- A `:status` among the inputs decides on the HTTP status alone. -/
theorem foldl_onInput_httpStatus {f f' : HeaderFlags} {inputs inputs' : List CallInput}
    (halike : List.Forall₂ CallInput.Alike inputs inputs')
    (h : f.httpStatus = f'.httpStatus ∨
      inputs.any (·.fieldIs fun name _ => decide (name = HeaderName.status)) = true) :
    (inputs.foldl onInput f).httpStatus = (inputs'.foldl onInput f').httpStatus := by
  induction halike generalizing f f' with
  | nil => exact h.resolve_right Bool.false_ne_true
  | @cons i j inputs inputs' hij halike ih =>
    refine ih ?_
    rw [List.any_cons, Bool.or_eq_true] at h
    cases hij with
    | same hi =>
      have hkeep : ∀ f : HeaderFlags, (f.onInput i).httpStatus = f.httpStatus := by
        intro f
        cases i with
        | event ra answers event =>
          cases event with
          | header cat name value => cases hi
          | _ => rfl
        | _ => rfl
      have hnone : (i.fieldIs fun name _ => decide (name = HeaderName.status)) = false := by
        cases i with
        | event ra answers event =>
          cases event with
          | header cat name value => cases hi
          | _ => rfl
        | _ => rfl
      rw [hkeep, hkeep]
      rw [hnone] at h
      exact h.imp_right fun h => h.resolve_left Bool.false_ne_true
    | field ra answers cat cat' name value =>
      change (onHeader f cat name value).httpStatus = (onHeader f' cat' name value).httpStatus ∨ _
      simp only [onHeader]
      by_cases hname : name = HeaderName.status
      · exact .inl (by rw [if_pos hname, if_pos hname])
      · rw [if_neg hname, if_neg hname]
        refine h.imp_right fun h => h.resolve_left fun hfield => hname ?_
        exact of_decide_eq_true hfield
    | blockEnd ra answers hcat endStream =>
      exact h.imp_right fun h => h.resolve_left Bool.false_ne_true

end HeaderFlags

/-! ## The fate of the stream -/

/-- What a call knows of the end of its stream. -/
structure StreamFlags where
  /-- The deadline expired. -/
  timedOut : Bool
  /-- A GOAWAY refused the stream. -/
  streamRefusedSeen : Bool
  /-- The peer sent RST_STREAM. -/
  streamResetSeen : Bool
  /-- Error code of the stream's reset or closure. -/
  streamErrorCode : Nat
  /-- The stream is closed. -/
  streamClosed : Bool
  /-- The connection died under the stream. -/
  connectionBroken : Bool
  /-- This side reset the stream. -/
  locallyCancelled : Bool

/-- These flags of a call. -/
def GrpcCall.streamFlags (call : GrpcCall) : StreamFlags where
  timedOut := call.timedOut
  streamRefusedSeen := call.streamRefusedSeen
  streamResetSeen := call.streamResetSeen
  streamErrorCode := call.streamErrorCode
  streamClosed := call.streamClosed
  connectionBroken := call.connectionBroken
  locallyCancelled := call.locallyCancelled

/-- What an input does to them. -/
def StreamFlags.onInput (f : StreamFlags) : CallInput → StreamFlags
  | .event _ _ (.rstStream code) => { f with streamResetSeen := true, streamErrorCode := code }
  | .event _ _ (.closed code) => { f with streamClosed := true, streamErrorCode := code }
  | .refused =>
    { f with
      streamErrorCode := Nghttp2.refusedStream, streamRefusedSeen := true, streamClosed := true }
  | .timedOut _ => { f with timedOut := true }
  | .connectionBroken _ _ => if f.timedOut then f else { f with connectionBroken := true }
  | .locallyCancelled => { f with locallyCancelled := true }
  | _ => f

namespace GrpcCall

/-- An input sets the flags that it stands for. -/
theorem apply_streamFlags {call : GrpcCall} (h : call.Direct) (i : CallInput) :
    (call.apply i).streamFlags = call.streamFlags.onInput i := by
  cases i with
  | event ra answers event =>
    cases event with
    | header cat name value =>
      exact field_of_eraseHeaders (call.apply_header_eraseHeaders ra answers cat name value)
        streamFlags fun _ => rfl
    | headersEnd cat endStream =>
      exact field_of_eraseHeaders (call.apply_headersEnd_eraseHeaders ra answers cat endStream)
        streamFlags fun _ => rfl
    | data bytes =>
      exact call.apply_data_field h ra answers bytes streamFlags (fun _ => rfl) fun _ => rfl
    | rstStream code => rfl
    | pushPromise =>
      simp only [apply, CallbackState.onEvent, CallbackState.onPushPromise,
        CallbackState.submitRstStream_call]
      rfl
    | closed code => rfl
  | connectionBroken errno detail =>
    simp only [apply, StreamFlags.onInput]
    rw [show call.streamFlags.timedOut = call.timedOut from rfl]
    split <;> rfl
  | dequeue =>
    simp only [apply, dequeueResponsePayload]
    cases call.responseQueue <;> rfl
  | take =>
    simp only [apply, unaryTakeResponsePayload]
    cases call.responseQueue <;> rfl
  | refused | submitted | registered | unregistered | ownerCleared | timedOut | ioError
  | locallyCancelled | userCancelled | freeQueue | truncated | requestSent => rfl

/-- So do any number of inputs. -/
theorem applyAll_streamFlags {call : GrpcCall} (h : call.Direct) (inputs : List CallInput) :
    (call.applyAll inputs).streamFlags = inputs.foldl StreamFlags.onInput call.streamFlags := by
  induction inputs generalizing call with
  | nil => rfl
  | cons i inputs ih =>
    rw [List.foldl_cons, ← apply_streamFlags h i]
    exact ih (h.apply i)

end GrpcCall

namespace StreamFlags

/-- What each of some inputs keeps, they keep together. -/
theorem foldl_onInput_of_step {P : StreamFlags → Prop} {f : StreamFlags} {inputs : List CallInput}
    (hf : P f) (hstep : ∀ f, P f → ∀ i ∈ inputs, P (f.onInput i)) :
    P (inputs.foldl onInput f) := by
  induction inputs generalizing f with
  | nil => exact hf
  | cons i inputs ih =>
    exact ih (hstep f hf i List.mem_cons_self)
      fun f hf j hj => hstep f hf j (List.mem_cons_of_mem _ hj)

end StreamFlags

/-- A flag that an input sets for good. -/
theorem GrpcCall.applyAll_streamFlag {call : GrpcCall} (h : call.Direct) (inputs : List CallInput)
    (flag : StreamFlags → Bool) (sets : CallInput → Bool)
    (hstep : ∀ f i, flag (f.onInput i) = (flag f || sets i)) :
    flag (call.applyAll inputs).streamFlags = (flag call.streamFlags || inputs.any sets) := by
  rw [applyAll_streamFlags h]
  generalize call.streamFlags = f
  induction inputs generalizing f with
  | nil => exact (Bool.or_false _).symm
  | cons i inputs ih => rw [List.foldl_cons, ih, hstep, List.any_cons, Bool.or_assoc]

/-! ## The status -/

/-- The status behind an input. -/
def CallInput.statusAfter (status : Int) : CallInput → Int
  | .event _ _ (.header _ name value) =>
    if name = HeaderName.grpcStatus then Protocol.parseStatusValue value else status
  | .userCancelled => Status.cancelled
  | _ => status

/-- The status number behind an input. -/
theorem GrpcCall.apply_grpcStatus {call : GrpcCall} (h : call.Direct) (i : CallInput) :
    (call.apply i).grpcStatus = i.statusAfter call.grpcStatus := by
  by_cases hi : i.isHeader = true
  · cases i with
    | event ra answers event =>
      cases event with
      | header cat name value =>
        have hstore := call.apply_header_store ra answers cat name value
        refine (congrArg MetadataStore.status hstore).trans ?_
        simp only [MetadataStore.onHeader, MetadataStore.add, CallInput.statusAfter]
        split
        · rfl
        split
        · split <;> rfl
        · rfl
      | _ => cases hi
    | _ => cases hi
  · by_cases hcancel : i = .userCancelled
    · rw [hcancel]
      rfl
    · have hstore := apply_store_eq h (Bool.not_eq_true _ ▸ hi) hcancel
      refine (congrArg MetadataStore.status hstore).trans ?_
      cases i with
      | event ra answers event =>
        cases event with
        | header => exact absurd rfl hi
        | _ => rfl
      | userCancelled => exact absurd rfl hcancel
      | _ => rfl

/-- Without a grpc-status and a cancellation the status stays. -/
theorem GrpcCall.applyAll_grpcStatus {call : GrpcCall} (h : call.Direct) {inputs : List CallInput}
    (hnone : inputs.any (·.fieldIs fun name _ => decide (name = HeaderName.grpcStatus)) = false)
    (hcancel : .userCancelled ∉ inputs) :
    (call.applyAll inputs).grpcStatus = call.grpcStatus := by
  induction inputs generalizing call with
  | nil => rfl
  | cons i inputs ih =>
    rw [List.any_cons, Bool.or_eq_false_iff] at hnone
    rw [List.mem_cons, not_or] at hcancel
    refine (ih (h.apply i) hnone.2 hcancel.2).trans ?_
    rw [apply_grpcStatus h]
    cases i with
    | event ra answers event =>
      cases event with
      | header cat name value => exact if_neg (of_decide_eq_false hnone.1)
      | _ => rfl
    | userCancelled => exact absurd rfl hcancel.1
    | _ => rfl

/-- The grpc-status that an input brings. -/
def CallInput.statusField : CallInput → Option Bytes
  | .event _ _ (.header _ name value) => if name = HeaderName.grpcStatus then some value else none
  | _ => none

/-- Only a status changes the number. -/
theorem CallInput.statusAfter_eq {i : CallInput} (hcancel : i ≠ .userCancelled) (status : Int) :
    i.statusAfter status = (i.statusField.map Protocol.parseStatusValue).getD status := by
  cases i with
  | event ra answers event =>
    cases event with
    | header cat name value =>
      simp only [statusAfter, statusField]
      split <;> rfl
    | _ => rfl
  | userCancelled => exact absurd rfl hcancel
  | _ => rfl

/-- What each of some inputs sets to its own value, they leave at the last of these values. -/
theorem GrpcCall.applyAll_last {α : Type} (g : GrpcCall → α) (value : CallInput → Option α)
    {call : GrpcCall} (h : call.Direct) {inputs : List CallInput}
    (hstep : ∀ call : GrpcCall, call.Direct → ∀ i ∈ inputs,
      g (call.apply i) = (value i).getD (g call)) :
    g (call.applyAll inputs) = (inputs.filterMap value).getLast?.getD (g call) := by
  induction inputs generalizing call with
  | nil => rfl
  | cons i inputs ih =>
    have hrest := ih (h.apply i) fun call h j hj => hstep call h j (List.mem_cons_of_mem _ hj)
    refine hrest.trans ?_
    rw [hstep call h i List.mem_cons_self]
    cases hvalue : value i with
    | none => rw [List.filterMap_cons_none hvalue, Option.getD_none]
    | some a =>
      rw [List.filterMap_cons_some hvalue, List.getLast?_cons, Option.getD_some, Option.getD_some]

/-- The status is that of the last field. -/
theorem GrpcCall.applyAll_lastStatus {call : GrpcCall} (h : call.Direct) {inputs : List CallInput}
    (hcancel : .userCancelled ∉ inputs) :
    (call.applyAll inputs).grpcStatus =
      ((inputs.filterMap CallInput.statusField).getLast?.map Protocol.parseStatusValue).getD
        call.grpcStatus := by
  rw [← List.getLast?_map, List.map_filterMap]
  refine applyAll_last grpcStatus _ h fun call hcall i hi => ?_
  have hne : i ≠ .userCancelled := fun heq => hcancel (heq ▸ hi)
  exact (apply_grpcStatus hcall i).trans (CallInput.statusAfter_eq hne _)

/-! ## The HTTP status -/

/-- An HTTP status alone is never a success. -/
theorem GrpcCall.httpStatusCode_ne_ok (httpStatus : Int) : httpStatusCode httpStatus ≠ Status.ok := by
  unfold httpStatusCode
  split
  case h_9 => split <;> decide
  all_goals decide

/-- The HTTP status behind an input. -/
def CallInput.httpAfter (status : Int) : CallInput → Int
  | .event _ _ (.header _ name value) =>
    if name = HeaderName.status then Protocol.httpStatusValue value else status
  | _ => status

theorem GrpcCall.apply_headersEnd_httpStatus (call : GrpcCall) (ra : ReadAhead) (answers : List Int)
    (cat : HeaderCategory) (endStream : Bool) :
    (call.apply (.event ra answers (.headersEnd cat endStream))).httpStatus = call.httpStatus := by
  change (CallbackState.onHeadersFrame cat endStream call).httpStatus = _
  unfold CallbackState.onHeadersFrame
  cases cat with
  | response =>
    dsimp only
    split <;> split <;> rfl
  | headers =>
    dsimp only
    split <;> rfl
  | other => rfl

/-- The HTTP status behind an input. -/
theorem GrpcCall.apply_httpStatus {call : GrpcCall} (h : call.Direct) (i : CallInput) :
    (call.apply i).httpStatus = i.httpAfter call.httpStatus := by
  have hother : ∀ {i : CallInput}, i.inHeaders = false →
      (call.apply i).httpStatus = call.httpStatus :=
    fun hi => congrArg HeaderFlags.httpStatus (apply_headerFlags h hi)
  cases i with
  | event ra answers event =>
    cases event with
    | header cat name value =>
      exact congrArg HeaderFlags.httpStatus
        (call.apply_header_headerFlags ra answers cat name value)
    | headersEnd cat endStream =>
      exact call.apply_headersEnd_httpStatus ra answers cat endStream
    | _ => exact hother rfl
  | _ => exact hother rfl

/-- The `:status` that an input brings. -/
def CallInput.httpField : CallInput → Option Bytes
  | .event _ _ (.header _ name value) => if name = HeaderName.status then some value else none
  | _ => none

/-- Only a pseudo-header changes it. -/
theorem CallInput.httpAfter_eq (i : CallInput) (status : Int) :
    i.httpAfter status = (i.httpField.map Protocol.httpStatusValue).getD status := by
  cases i with
  | event ra answers event =>
    cases event with
    | header cat name value =>
      simp only [httpAfter, httpField]
      split <;> rfl
    | _ => rfl
  | _ => rfl

/-- The HTTP status is that of the last field. -/
theorem GrpcCall.applyAll_lastHttp {call : GrpcCall} (h : call.Direct) (inputs : List CallInput) :
    (call.applyAll inputs).httpStatus =
      ((inputs.filterMap CallInput.httpField).getLast?.map Protocol.httpStatusValue).getD
        call.httpStatus := by
  rw [← List.getLast?_map, List.map_filterMap]
  exact applyAll_last httpStatus _ h fun call hcall i _ =>
    (apply_httpStatus hcall i).trans (i.httpAfter_eq _)

/-- When every `:status` is the same, that is the HTTP status once one has arrived. -/
theorem GrpcCall.applyAll_httpStatus {call : GrpcCall} (h : call.Direct) {inputs : List CallInput}
    {status : Int} (hall : inputs.all (fun i => !i.fieldIs fun name value =>
      decide (name = HeaderName.status) && decide (Protocol.httpStatusValue value ≠ status)) = true) :
    (call.applyAll inputs).httpStatus =
      if inputs.any (·.fieldIs fun name _ => decide (name = HeaderName.status)) then status
      else call.httpStatus := by
  induction inputs generalizing call with
  | nil => rfl
  | cons i inputs ih =>
    rw [List.all_cons, Bool.and_eq_true] at hall
    refine (ih (h.apply i) hall.2).trans ?_
    rw [apply_httpStatus h, List.any_cons]
    cases i with
    | event ra answers event =>
      cases event with
      | header cat name value =>
        simp only [CallInput.httpAfter, CallInput.fieldIs] at hall ⊢
        by_cases hname : name = HeaderName.status
        · have hvalue : Protocol.httpStatusValue value = status := by simpa [hname] using hall.1
          simp [hname, hvalue]
        · simp [hname]
      | _ => rfl
    | _ => rfl

end GrpcLite
