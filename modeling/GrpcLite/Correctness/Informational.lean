import GrpcLite.Refinement.Flags
import GrpcLite.Refinement.Reports

/-!
# Informational responses

The library categorises the first header block of a stream as the response, even
when it is an informational one, and every later block as headers. The transport
keys its checks and the two metadata maps on that category alone. This module
compares an exchange with informational blocks to the same exchange without them.
-/

namespace GrpcLite

open Admission

/-! ## Exchanges with informational blocks -/

/-- The name of a field that gRPC defines. -/
def isGrpcName (name : Bytes) : Bool :=
  isStatusName name || decide (name = HeaderName.grpcEncoding)

/-- What can happen while informational blocks arrive: their fields are none of gRPC and their
`:status` is 1xx, they do not end the stream, and no body bytes arrive. A call that the user has
cancelled gets no callbacks. -/
def CallInput.Interim : CallInput → Prop
  | .event _ _ (.header _ name value) => isGrpcName name = false ∧
    (name = HeaderName.status → 100 ≤ Protocol.httpStatusValue value ∧
      Protocol.httpStatusValue value < 200)
  | .event _ _ (.headersEnd _ endStream) => endStream = false
  | .event _ _ (.data _) => False
  | .userCancelled => False
  | _ => True

/-- The input ends a header block. -/
def CallInput.endsBlock : CallInput → Bool
  | .event _ _ (.headersEnd _ _) => true
  | _ => false

/-- The input as part of a block of a category. -/
def CallInput.inBlock (cat : HeaderCategory) : CallInput → CallInput
  | .event ra answers (.header _ name value) => .event ra answers (.header cat name value)
  | .event ra answers (.headersEnd _ endStream) => .event ra answers (.headersEnd cat endStream)
  | i => i

/-- The input is part of the response headers. -/
def CallInput.inResponse : CallInput → Bool
  | .event _ _ (.header cat _ _) => decide (cat = .response)
  | .event _ _ (.headersEnd cat _) => decide (cat = .response)
  | _ => false

/-- An exchange with informational blocks, at least one. Whatever else happens to the call stands
between the callbacks for the fields. -/
structure InterimExchange where
  /-- What happens up to the end of the first block. -/
  first : List CallInput
  /-- What the callback for that end finds. -/
  firstEnd : ReadAhead × List Int
  /-- What happens during the other informational blocks. -/
  others : List CallInput
  /-- What happens up to the end of the final response headers. -/
  final : List CallInput
  /-- What the callback for that end finds. -/
  finalEnd : ReadAhead × List Int
  /-- The final response headers end the stream. -/
  endStream : Bool
  /-- What happens from then on. -/
  rest : List CallInput
  interim : ∀ i ∈ first ++ others, i.Interim
  firstOpen : ∀ i ∈ first, i.endsBlock = false
  finalOpen : ∀ i ∈ final, i.endsBlock = false
  /-- The final response headers have a `:status`. -/
  finalStatus : final.any (·.fieldIs fun name _ => decide (name = HeaderName.status)) = true
  /-- The later blocks are not categorised as the response. -/
  later : ∀ i ∈ rest, i.inResponse = false

namespace InterimExchange

variable (x : InterimExchange)

/-- The end of the first block. -/
def firstDone : CallInput := .event x.firstEnd.1 x.firstEnd.2 (.headersEnd .response false)

/-- The end of the final response headers under a category. -/
def finalDone (cat : HeaderCategory) : CallInput :=
  .event x.finalEnd.1 x.finalEnd.2 (.headersEnd cat x.endStream)

/-- The exchange with the informational blocks. -/
def withBlocks : List CallInput :=
  x.first.map (·.inBlock .response) ++ [x.firstDone] ++ x.others.map (·.inBlock .headers) ++
    x.final.map (·.inBlock .headers) ++ [x.finalDone .headers] ++ x.rest

/-- The exchange without them. -/
def withoutBlocks : List CallInput :=
  (x.first ++ x.others).filter (fun i => !i.inHeaders) ++ x.final.map (·.inBlock .response) ++
    [x.finalDone .response] ++ x.rest

end InterimExchange

/-! ## Tolerated blocks -/

namespace GrpcCall

/-- A field that the transport does not interpret, or a content-type that it accepts. -/
theorem onField_unsorted {name value : Bytes} (hname : isGrpcName name = false)
    (hvalid : isBadContentType name value = false) (call : GrpcCall) :
    (onField name value call).unsorted = call.unsorted := by
  simp only [isGrpcName, isStatusName, Bool.or_eq_false_iff, decide_eq_false_iff_not] at hname
  obtain ⟨⟨⟨hstatus, hmessage⟩, hdetails⟩, hencoding⟩ := hname
  unfold onField CallbackState.headerField
  rw [if_neg hstatus, if_neg hmessage, if_neg hdetails, if_neg hencoding]
  split
  · rfl
  split
  · next hct =>
    have hok : Protocol.isValidContentType value = true := by
      simpa [isBadContentType, hct] using hvalid
    rw [if_pos hok]
    rfl
  · rfl

/-- Informational blocks with valid content-types leave nothing but metadata behind. -/
theorem applyAll_interim_unsorted {a b : GrpcCall} (ha : a.Direct) (hb : b.Direct)
    (h : a.unsorted = b.unsorted) {inputs : List CallInput} (hin : ∀ i ∈ inputs, i.Interim)
    (hvalid : inputs.any (·.fieldIs isBadContentType) = false) {cat : HeaderCategory}
    (hcat : ∀ i ∈ inputs, i.endsBlock = true → cat ≠ .response)
    (hroom : (b.applyAll (inputs.map (·.inBlock cat))).metadataTooLarge = false) :
    (a.applyAll (inputs.filter fun i => !i.inHeaders)).unsorted =
      (b.applyAll (inputs.map (·.inBlock cat))).unsorted := by
  induction inputs generalizing a b with
  | nil => exact h
  | cons i inputs ih =>
    rw [List.any_cons, Bool.or_eq_false_iff] at hvalid
    have hroom' := metadataTooLarge_of_applyAll (hb.apply (i.inBlock cat)) hroom
    have hrest : ∀ {a' : GrpcCall}, a'.Direct → a'.unsorted = (b.apply (i.inBlock cat)).unsorted →
        (a'.applyAll (inputs.filter fun i => !i.inHeaders)).unsorted =
          ((b.apply (i.inBlock cat)).applyAll (inputs.map (·.inBlock cat))).unsorted :=
      fun ha' h' => ih ha' (hb.apply _) h' (fun j hj => hin j (List.mem_cons_of_mem _ hj)) hvalid.2
        (fun j hj => hcat j (List.mem_cons_of_mem _ hj)) hroom
    have hi := hin i List.mem_cons_self
    by_cases hheader : i.inHeaders = true
    · rw [List.filter_cons_of_neg (by rw [hheader]; decide)]
      refine hrest ha (h.trans ?_)
      cases i with
      | event ra answers event =>
        cases event with
        | header cat₀ name value =>
          refine Eq.symm ((apply_header_unsorted ra answers cat name value hroom').trans ?_)
          exact onField_unsorted hi.1 hvalid.1 b.unsorted
        | headersEnd cat₀ endStream =>
          have hend : endStream = false := hi
          have hnot := hcat _ List.mem_cons_self rfl
          refine Eq.symm ((apply_headersEnd_unsorted b ra answers hnot endStream).trans ?_)
          rw [hend]
          cases cat with
          | response => exact absurd rfl hnot
          | _ => rfl
        | _ => cases hheader
      | _ => cases hheader
    · have hplain : i.inBlock cat = i := by
        cases i with
        | event ra answers event =>
          cases event with
          | header | headersEnd => exact absurd rfl hheader
          | _ => rfl
        | _ => rfl
      rw [Bool.not_eq_true] at hheader
      rw [List.filter_cons_of_pos (by rw [hheader]; decide)]
      refine hrest (ha.apply i) ?_
      rw [hplain, apply_unsorted ha hheader, apply_unsorted hb hheader, h]

/-! ## Calls without messages -/

/-- Without body bytes no message arrives. -/
theorem apply_queue_nil {call : GrpcCall} (h : call.responseQueue = []) {i : CallInput}
    (hi : ∀ ra answers bytes, i ≠ .event ra answers (.data bytes)) :
    (call.apply i).responseQueue = [] := by
  cases i with
  | event ra answers event =>
    cases event with
    | header cat name value =>
      exact (field_of_eraseHeaders (call.apply_header_eraseHeaders ra answers cat name value)
        (fun c => c.responseQueue) fun _ => rfl).trans h
    | headersEnd cat endStream =>
      exact (field_of_eraseHeaders (call.apply_headersEnd_eraseHeaders ra answers cat endStream)
        (fun c => c.responseQueue) fun _ => rfl).trans h
    | data bytes => exact absurd rfl (hi ra answers bytes)
    | rstStream code => exact h
    | pushPromise =>
      simp only [apply, CallbackState.onEvent, CallbackState.onPushPromise,
        CallbackState.submitRstStream_call]
      exact h
    | closed code => exact h
  | connectionBroken errno detail =>
    simp only [apply]
    split <;> exact h
  | dequeue =>
    simp only [apply, dequeueResponsePayload, h]
  | take =>
    simp only [apply, unaryTakeResponsePayload, h]
  | freeQueue => rfl
  | refused | submitted | registered | unregistered | ownerCleared | timedOut | ioError
  | locallyCancelled | userCancelled | truncated | requestSent => exact h

/-- A property that inputs keep and that leaves the queue empty: nothing is delivered. -/
theorem deliveredBy_eq_nil {call : GrpcCall} {P : GrpcCall → Prop} {inputs : List CallInput}
    (hP : P call) (hempty : ∀ call, P call → call.responseQueue = [])
    (hstep : ∀ call, P call → ∀ i ∈ inputs, P (call.apply i)) :
    call.deliveredBy inputs = [] ∧ P (call.applyAll inputs) := by
  induction inputs generalizing call with
  | nil => exact ⟨rfl, hP⟩
  | cons i inputs ih =>
    obtain ⟨hnone, hend⟩ := ih (hstep call hP i List.mem_cons_self)
      fun call hP j hj => hstep call hP j (List.mem_cons_of_mem _ hj)
    refine ⟨?_, hend⟩
    rw [deliveredBy, hnone, hempty call hP]
    split <;> rfl

/-- A discarded body stays discarded when a field is stored. -/
theorem addResponseMetadataEntry_discard {s : CallbackState} (name value : Bytes) (trailing : Bool)
    (h : s.call.discardResponseBody = true) :
    (s.addResponseMetadataEntry name value trailing).1.call.discardResponseBody = true := by
  unfold CallbackState.addResponseMetadataEntry
  dsimp only
  split
  · exact h
  split
  · split
    · rw [CallbackState.submitRstStream_call]
      rfl
    · rfl
  · exact h

/-- A discarded body stays discarded, and a rejected content-type discards it. -/
theorem apply_header_discard {call : GrpcCall} (ra : ReadAhead) (answers : List Int)
    (cat : HeaderCategory) (name value : Bytes)
    (h : call.discardResponseBody = true ∨ isBadContentType name value = true) :
    (call.apply (.event ra answers (.header cat name value))).discardResponseBody = true := by
  have hbad : isBadContentType name value = true → name = HeaderName.contentType ∧
      Protocol.isValidContentType value = false := by
    intro hbad
    simpa [isBadContentType] using hbad
  simp only [apply, CallbackState.onEvent, CallbackState.onHeader]
  split
  · next hname =>
    have hdiscard := h.resolve_right fun hb => absurd (hname.symm.trans (hbad hb).1) (by decide)
    unfold CallbackState.headerGrpcStatus
    dsimp only
    split <;> split <;> split <;> exact hdiscard
  split
  · next hname =>
    have hdiscard := h.resolve_right fun hb => absurd (hname.symm.trans (hbad hb).1) (by decide)
    split <;> exact hdiscard
  refine addResponseMetadataEntry_discard _ _ _ ?_
  unfold CallbackState.headerField
  rcases h with hdiscard | hb
  · dsimp only
    split
    · split <;> exact hdiscard
    split
    · exact hdiscard
    split
    · split
      · exact hdiscard
      · rfl
    split <;> exact hdiscard
  · obtain ⟨rfl, hinvalid⟩ := hbad hb
    rw [if_neg (by decide), if_neg (by decide), if_pos rfl]
    dsimp only
    rw [if_neg (by rw [hinvalid]; decide)]
    rfl

/-- The end of a header block keeps a rejection. -/
theorem apply_headersEnd_keeps {call : GrpcCall} (ra : ReadAhead) (answers : List Int)
    (cat : HeaderCategory) (endStream : Bool) (hinvalid : call.invalidContentType = true)
    (hdiscard : call.discardResponseBody = true) :
    (call.apply (.event ra answers (.headersEnd cat endStream))).invalidContentType = true ∧
      (call.apply (.event ra answers (.headersEnd cat endStream))).discardResponseBody = true := by
  simp only [apply, CallbackState.onEvent, CallbackState.onHeadersFrame]
  cases cat with
  | response =>
    dsimp only
    split <;> split <;> exact ⟨by first | exact hinvalid | rfl, by first | exact hdiscard | rfl⟩
  | headers =>
    dsimp only
    split <;> exact ⟨hinvalid, hdiscard⟩
  | other => exact ⟨hinvalid, hdiscard⟩

/-- The response has been rejected for its content-type before a message arrived. -/
structure Silenced (call : GrpcCall) : Prop where
  direct : call.Direct
  invalid : call.invalidContentType = true
  discard : call.discardResponseBody = true
  empty : call.responseQueue = []

/-- A rejected response stays rejected. -/
theorem Silenced.apply {call : GrpcCall} (h : call.Silenced) (i : CallInput) :
    (call.apply i).Silenced := by
  cases i with
  | event ra answers event =>
    cases event with
    | header cat name value =>
      refine ⟨h.direct.apply _, ?_, call.apply_header_discard ra answers cat name value (.inl h.discard),
        apply_queue_nil h.empty fun _ _ _ => (by intro hno; cases hno)⟩
      have hflags := call.apply_header_headerFlags ra answers cat name value
      refine (congrArg HeaderFlags.invalidContentType hflags).trans ?_
      change (call.invalidContentType || _) = true
      rw [h.invalid, Bool.true_or]
    | headersEnd cat endStream =>
      obtain ⟨hinvalid, hdiscard⟩ :=
        call.apply_headersEnd_keeps ra answers cat endStream h.invalid h.discard
      exact ⟨h.direct.apply _, hinvalid, hdiscard,
        apply_queue_nil h.empty fun _ _ _ => (by intro hno; cases hno)⟩
    | data bytes =>
      rcases call.apply_data h.direct ra answers bytes with ⟨hsame, -⟩ | ⟨-, hreject⟩ | ⟨hseen, hdata⟩
      · rw [hsame]
        exact h
      · rw [hreject]
        exact ⟨h.direct.of_config rfl, h.invalid, rfl, h.empty⟩
      · rw [hdata, CallbackState.processResponseDataDirect, if_neg (by rw [hseen]; decide),
          if_pos h.discard]
        exact h
    | rstStream code => exact ⟨h.direct.of_config rfl, h.invalid, h.discard, h.empty⟩
    | pushPromise =>
      simp only [GrpcCall.apply, CallbackState.onEvent, CallbackState.onPushPromise,
        CallbackState.submitRstStream_call]
      exact ⟨h.direct.of_config rfl, h.invalid, rfl, h.empty⟩
    | closed code => exact ⟨h.direct.of_config rfl, h.invalid, h.discard, h.empty⟩
  | connectionBroken errno detail =>
    simp only [GrpcCall.apply]
    split
    · exact h
    · exact ⟨h.direct.of_config rfl, h.invalid, h.discard, h.empty⟩
  | dequeue =>
    simp only [GrpcCall.apply, dequeueResponsePayload, h.empty]
    exact h
  | take =>
    simp only [GrpcCall.apply, unaryTakeResponsePayload, h.empty]
    exact h
  | freeQueue => exact ⟨h.direct.of_config rfl, h.invalid, h.discard, rfl⟩
  | refused | submitted | registered | unregistered | ownerCleared | timedOut | ioError
  | locallyCancelled | userCancelled | truncated | requestSent =>
    exact ⟨h.direct.of_config rfl, h.invalid, h.discard, h.empty⟩

/-- A rejected response delivers nothing, whatever follows. -/
theorem Silenced.applyAll {call : GrpcCall} (h : call.Silenced) (inputs : List CallInput) :
    call.deliveredBy inputs = [] ∧ (call.applyAll inputs).Silenced :=
  deliveredBy_eq_nil h (fun _ h => h.empty) fun _ h i _ => h.apply i

/-- A rejected response is never successful. -/
theorem Silenced.statusCode_ne_ok {call : GrpcCall} (h : call.Silenced) (cancelled : Bool) :
    statusCodeFromCall call cancelled ≠ Status.ok := by
  unfold statusCodeFromCall
  by_cases htime : call.timedOut = true
  · rw [if_pos htime]
    decide
  rw [if_neg htime]
  by_cases hcancel : cancelled = true
  · rw [if_pos hcancel]
    decide
  rw [if_neg hcancel]
  by_cases hstatus : call.invalidGrpcStatus = true
  · rw [if_pos hstatus]
    decide
  rw [if_neg hstatus]
  by_cases hhttp : call.grpcStatus < 0 ∧ call.httpStatus ≠ 200
  · rw [if_pos hhttp]
    exact httpStatusCode_ne_ok call.httpStatus
  rw [if_neg hhttp, if_pos h.invalid]
  decide

/-- The checks of the drivers for a truncated message leave a rejected response rejected. -/
theorem Silenced.checked {call : GrpcCall} (h : call.Silenced) :
    call.checkUnary.Silenced ∧ call.checkStream.Silenced := by
  have hmarked : Silenced { call with malformedResponseFrame := true } :=
    ⟨h.direct.of_config rfl, h.invalid, h.discard, h.empty⟩
  unfold checkUnary checkStream
  constructor
  · split
    · exact hmarked
    · exact h
  · split
    · exact hmarked
    · exact h

/-- The checks for a truncated message do not look at the origin of the fields. -/
theorem checked_unsorted {a b : GrpcCall} (h : a.unsorted = b.unsorted) :
    a.checkUnary.unsorted = b.checkUnary.unsorted ∧
      a.checkStream.unsorted = b.checkStream.unsorted := by
  have hunary : ∀ call : GrpcCall, call.checkUnary.unsorted = call.unsorted.checkUnary :=
    fun call => apply_ite GrpcCall.unsorted _ _ _
  have hstream : ∀ call : GrpcCall, call.checkStream.unsorted = call.unsorted.checkStream :=
    fun call => apply_ite GrpcCall.unsorted _ _ _
  rw [hunary, hunary, hstream, hstream, h]
  exact ⟨rfl, rfl⟩

/-- The checks leave the HTTP status alone. -/
theorem checked_httpStatus (call : GrpcCall) :
    call.checkUnary.httpStatus = call.httpStatus ∧
      call.checkStream.httpStatus = call.httpStatus := by
  unfold checkUnary checkStream
  constructor <;> split <;> rfl

end GrpcCall

/-! ## The two maps -/

namespace GrpcCall

/-- So far all metadata is initial, and no status has arrived. -/
structure AllInitial (call : GrpcCall) : Prop where
  direct : call.Direct
  status : call.grpcStatus < 0
  initial : ∀ entry ∈ call.metadata, entry.trailing = false

/-- Within the response headers all metadata is initial. -/
theorem AllInitial.apply {call : GrpcCall} (h : call.AllInitial) {i : CallInput} (hi : i.Interim)
    (cat : HeaderCategory) (hcat : i.inHeaders = true → cat = .response) :
    (call.apply (i.inBlock cat)).AllInitial := by
  by_cases hheader : i.isHeader = true
  · cases i with
    | event ra answers event =>
      cases event with
      | header cat₀ name value =>
        obtain rfl := hcat rfl
        have hstore := call.apply_header_store ra answers .response name value
        have hstatus := congrArg MetadataStore.status hstore
        have hentries := congrArg MetadataStore.entries hstore
        have hgrpc := hi.1
        simp only [isGrpcName, isStatusName, Bool.or_eq_false_iff, decide_eq_false_iff_not] at hgrpc
        obtain ⟨⟨⟨hname, -⟩, hdetails⟩, -⟩ := hgrpc
        have htrailing : call.store.isTrailing .response name = false := by
          have hnone : ¬call.store.status ≥ 0 := not_le.mpr h.status
          simp [MetadataStore.isTrailing, hdetails, hnone]
        unfold MetadataStore.onHeader MetadataStore.add at hstatus hentries
        rw [if_neg hname, htrailing] at hstatus hentries
        refine ⟨h.direct.apply _, ?_, ?_⟩
        · refine lt_of_eq_of_lt hstatus ?_
          split
          · split <;> exact h.status
          · exact h.status
        · intro entry hentry
          change entry ∈ MetadataStore.entries (GrpcCall.store _) at hentry
          rw [show (call.apply (CallInput.inBlock .response
            (.event ra answers (.header cat₀ name value)))).store.entries = _ from hentries] at hentry
          split at hentry
          · split at hentry
            · exact h.initial entry hentry
            · rcases List.mem_append.mp hentry with hold | hnew
              · exact h.initial entry hold
              · rw [List.mem_singleton.mp hnew]
          · exact h.initial entry hentry
      | _ => cases hheader
    | _ => cases hheader
  · have hnot : (i.inBlock cat).isHeader = false := by
      cases i with
      | event ra answers event =>
        cases event with
        | header => exact absurd rfl hheader
        | _ => rfl
      | _ => rfl
    have hcancel : i.inBlock cat ≠ .userCancelled := by
      cases i with
      | event ra answers event =>
        intro hcancel
        cases event <;> cases hcancel
      | userCancelled => exact absurd hi id
      | _ =>
        intro hcancel
        cases hcancel
    have hstore := apply_store_eq h.direct hnot hcancel
    refine ⟨h.direct.apply _, lt_of_eq_of_lt (congrArg MetadataStore.status hstore) h.status, ?_⟩
    rw [show (call.apply (i.inBlock cat)).metadata = call.metadata from
      congrArg MetadataStore.entries hstore]
    exact h.initial

/-- So it is behind any number of such inputs. -/
theorem AllInitial.applyAll {call : GrpcCall} (h : call.AllInitial) {inputs : List CallInput}
    (hin : ∀ i ∈ inputs, i.Interim) :
    (call.applyAll (inputs.map (·.inBlock .response))).AllInitial := by
  induction inputs generalizing call with
  | nil => exact h
  | cons i inputs ih =>
    exact ih (h.apply (hin i List.mem_cons_self) .response fun _ => rfl)
      fun j hj => hin j (List.mem_cons_of_mem _ hj)

/-- What is stored behind the response headers is trailing. -/
theorem apply_metadata_later {call : GrpcCall} (h : call.Direct) {i : CallInput}
    (hi : i.inResponse = false) :
    ∃ new, (call.apply i).metadata = call.metadata ++ new ∧ ∀ entry ∈ new, entry.trailing = true := by
  have hnone : ∀ entry ∈ ([] : List MetadataEntry), entry.trailing = true :=
    fun _ h => absurd h List.not_mem_nil
  by_cases hheader : i.isHeader = true
  · cases i with
    | event ra answers event =>
      cases event with
      | header cat name value =>
        have hcat : cat ≠ .response := of_decide_eq_false hi
        have hentries := congrArg MetadataStore.entries
          (call.apply_header_store ra answers cat name value)
        have htrailing : call.store.isTrailing cat name = true := by
          simp [MetadataStore.isTrailing, hcat]
        unfold MetadataStore.onHeader MetadataStore.add at hentries
        rw [htrailing] at hentries
        rw [if_neg hcat] at hentries
        split at hentries
        · exact ⟨[], hentries.trans (List.append_nil _).symm, hnone⟩
        split at hentries
        · split at hentries
          · exact ⟨[], hentries.trans (List.append_nil _).symm, hnone⟩
          · refine ⟨_, hentries, fun entry hentry => ?_⟩
            rw [List.mem_singleton.mp hentry]
        · exact ⟨[], hentries.trans (List.append_nil _).symm, hnone⟩
      | _ => cases hheader
    | _ => cases hheader
  · obtain ⟨status, hstore⟩ := apply_store h (Bool.not_eq_true _ ▸ hheader)
    have hentries := congrArg MetadataStore.entries hstore
    exact ⟨[], hentries.trans (List.append_nil _).symm, hnone⟩

/-- Everything that is stored behind the response headers is trailing. -/
theorem applyAll_metadata_later {call : GrpcCall} (h : call.Direct) {inputs : List CallInput}
    (hin : ∀ i ∈ inputs, i.inResponse = false) :
    ∃ new, (call.applyAll inputs).metadata = call.metadata ++ new ∧
      ∀ entry ∈ new, entry.trailing = true := by
  induction inputs generalizing call with
  | nil => exact ⟨[], (List.append_nil _).symm, fun _ h => absurd h List.not_mem_nil⟩
  | cons i inputs ih =>
    obtain ⟨first, hfirst, htags⟩ := apply_metadata_later h (hin i List.mem_cons_self)
    obtain ⟨rest, hrest, htags'⟩ :=
      ih (h.apply i) fun j hj => hin j (List.mem_cons_of_mem _ hj)
    refine ⟨first ++ rest, ?_, fun entry hentry => ?_⟩
    · refine hrest.trans ?_
      rw [hfirst, List.append_assoc]
    · exact (List.mem_append.mp hentry).elim (htags entry) (htags' entry)

/-- The maps of a call whose metadata is divided at one place. -/
theorem metadataMap_of_split {call : GrpcCall} {old new : List MetadataEntry}
    (h : call.metadata = old ++ new) (hold : ∀ entry ∈ old, entry.trailing = false)
    (hnew : ∀ entry ∈ new, entry.trailing = true) :
    call.metadataMap false = old.map MetadataEntry.field ∧
      call.metadataMap true = new.map MetadataEntry.field := by
  have hkeep : ∀ (entries : List MetadataEntry) (t : Bool), (∀ entry ∈ entries, entry.trailing = t) →
      entries.filter (fun entry => entry.trailing == t) = entries := by
    intro entries t hall
    exact List.filter_eq_self.mpr fun entry hentry => by rw [hall entry hentry, beq_self_eq_true]
  have hdrop : ∀ (entries : List MetadataEntry) (t : Bool),
      (∀ entry ∈ entries, entry.trailing = !t) →
      entries.filter (fun entry => entry.trailing == t) = [] := by
    intro entries t hall
    refine List.filter_eq_nil_iff.mpr fun entry hentry => ?_
    rw [hall entry hentry]
    cases t <;> decide
  unfold metadataMap
  rw [h, List.filter_append, List.filter_append, hkeep old false hold, hdrop new false hnew,
    hdrop old true hold, hkeep new true hnew, List.append_nil, List.nil_append]
  exact ⟨rfl, rfl⟩

end GrpcCall

/-! ## Both exchanges -/

/-- The fields of two parts. -/
theorem receivedFields_append (xs ys : List CallInput) :
    receivedFields (xs ++ ys) = receivedFields xs ++ receivedFields ys := List.filterMap_append ..

/-- The category of a block does not change its fields. -/
theorem receivedFields_inBlock (cat : HeaderCategory) (inputs : List CallInput) :
    receivedFields (inputs.map (·.inBlock cat)) = receivedFields inputs := by
  rw [receivedFields, List.filterMap_map]
  congr 1
  funext i
  cases i with
  | event ra answers event => cases event <;> rfl
  | _ => rfl

/-- Outside header blocks there are no fields. -/
theorem receivedFields_outside (inputs : List CallInput) :
    receivedFields (inputs.filter fun i => !i.inHeaders) = [] := by
  refine List.filterMap_eq_nil_iff.mpr fun i hi => ?_
  have hnot := (List.mem_filter.mp hi).2
  cases i with
  | event ra answers event =>
    cases event with
    | header => cases hnot
    | _ => rfl
  | _ => rfl

/-- The category of a block does not change the kinds of its fields. -/
theorem any_fieldIs_inBlock (p : Bytes → Bytes → Bool) (cat : HeaderCategory)
    (inputs : List CallInput) :
    (inputs.map (·.inBlock cat)).any (·.fieldIs p) = inputs.any (·.fieldIs p) := by
  rw [List.any_map]
  congr 1
  funext i
  cases i with
  | event ra answers event => cases event <;> rfl
  | _ => rfl

/-- Outside header blocks there is no field of any kind. -/
theorem any_fieldIs_outside (p : Bytes → Bytes → Bool) (inputs : List CallInput) :
    (inputs.filter fun i => !i.inHeaders).any (·.fieldIs p) = false := by
  refine List.any_eq_false.mpr fun i hi => ?_
  have hnot := (List.mem_filter.mp hi).2
  cases i with
  | event ra answers event =>
    cases event with
    | header => cases hnot
    | _ => exact Bool.false_ne_true
  | _ => exact Bool.false_ne_true

/-- An open block does not end the response headers. -/
theorem endsResponse_inBlock {cat : HeaderCategory} {i : CallInput} (h : i.endsBlock = false) :
    (i.inBlock cat).endsResponse = false := by
  cases i with
  | event ra answers event =>
    cases event with
    | headersEnd => cases h
    | _ => rfl
  | _ => rfl

/-- Open blocks of different categories are alike. -/
theorem alike_inBlock (cat cat' : HeaderCategory) {inputs : List CallInput}
    (hopen : ∀ i ∈ inputs, i.endsBlock = false) :
    List.Forall₂ CallInput.Alike (inputs.map (·.inBlock cat)) (inputs.map (·.inBlock cat')) := by
  induction inputs with
  | nil => exact .nil
  | cons i inputs ih =>
    refine .cons ?_ (ih fun j hj => hopen j (List.mem_cons_of_mem _ hj))
    have hi := hopen i List.mem_cons_self
    cases i with
    | event ra answers event =>
      cases event with
      | header cat₀ name value => exact .field ra answers cat cat' name value
      | headersEnd => cases hi
      | _ => exact .same rfl
    | _ => exact .same rfl

/-- Inputs outside the response headers are alike to themselves. -/
theorem alike_self {inputs : List CallInput} (hin : ∀ i ∈ inputs, i.inResponse = false) :
    List.Forall₂ CallInput.Alike inputs inputs := by
  induction inputs with
  | nil => exact .nil
  | cons i inputs ih =>
    refine .cons ?_ (ih fun j hj => hin j (List.mem_cons_of_mem _ hj))
    have hi := hin i List.mem_cons_self
    cases i with
    | event ra answers event =>
      cases event with
      | header cat name value => exact .field ra answers cat cat name value
      | headersEnd cat endStream => exact .blockEnd ra answers (of_decide_eq_false hi) endStream
      | _ => exact .same rfl
    | _ => exact .same rfl

/-- A call of the drivers has seen nothing of a response. -/
theorem GrpcCall.Started.fresh {start : GrpcCall} {k : ConnId} (h : start.Started k) :
    start.headerFlags = ⟨false, false, false, false, false, -1⟩ ∧ start.responseQueue = [] ∧
      start.AllInitial := by
  have hdirect := h.direct
  have hnone : (-1 : Int) < 0 := by decide
  obtain ⟨req, retryAttempt, rfl | rfl⟩ := h
  · exact ⟨rfl, rfl, hdirect, hnone, fun _ h => absurd h List.not_mem_nil⟩
  · exact ⟨rfl, rfl, hdirect, hnone, fun _ h => absurd h List.not_mem_nil⟩

namespace InterimExchange

variable (x : InterimExchange)

/-- The field is a content-type. -/
def isContentType (name _value : Bytes) : Bool := decide (name = HeaderName.contentType)

/-- The first informational block passes for response headers, and so do the final ones by
themselves; there is room for the metadata of all blocks. -/
structure Tolerated (limit : Nat) : Prop where
  /-- The first block has a content-type. -/
  contentType : x.first.any (·.fieldIs isContentType) = true
  /-- No informational block has a content-type that is rejected. -/
  valid : (x.first ++ x.others).any (·.fieldIs isBadContentType) = false
  /-- The final response headers have a content-type, or a status and the end of the stream. -/
  accepted : x.final.any (·.fieldIs isContentType) = true ∨
    x.final.any (·.fieldIs fun name _ => decide (name = HeaderName.grpcStatus)) = true ∧
      x.endStream = true
  /-- The final response headers have a status at the end of the stream only. -/
  statusAtEnd : x.endStream = true ∨
    x.final.any (·.fieldIs fun name _ => isStatusName name) = false
  /-- The limits allow for the metadata of all blocks. -/
  room : Within fieldBytes CallbackState.maxResponseMetadataEntries limit
    (receivedFields x.withBlocks)

/-- The first informational block does not pass for response headers, or another one has a
content-type that is rejected. -/
def Misread : Prop :=
  x.first.any (·.fieldIs isContentType) = false ∨
    (x.first ++ x.others).any (·.fieldIs isBadContentType) = true

/-- The inputs of the first block are informational. -/
theorem interim_first {x : InterimExchange} : ∀ i ∈ x.first, i.Interim :=
  fun i hi => x.interim i (List.mem_append_left _ hi)

/-- So are those of the other blocks. -/
theorem interim_others {x : InterimExchange} : ∀ i ∈ x.others, i.Interim :=
  fun i hi => x.interim i (List.mem_append_right _ hi)

/-- What happens before the final response headers. -/
def before : List CallInput :=
  x.first.map (·.inBlock .response) ++ [x.firstDone] ++ x.others.map (·.inBlock .headers)

/-- The blocks before the final headers, the final headers and what follows them. -/
theorem withBlocks_eq : x.withBlocks = x.before ++
    (x.final.map (·.inBlock .headers) ++ ([x.finalDone .headers] ++ x.rest)) := by
  simp only [withBlocks, before, List.append_assoc]

section Runs

variable {x} {start : GrpcCall} {k : ConnId} (hstart : start.Started k)
include hstart

/-- The flags at the end of the first block. -/
theorem first_headerFlags :
    (start.applyAll (x.first.map (·.inBlock .response))).headerFlags =
      (x.first.map (·.inBlock .response)).foldl HeaderFlags.onInput start.headerFlags := by
  refine GrpcCall.applyAll_headerFlags hstart.direct fun i hi => ?_
  obtain ⟨j, hj, rfl⟩ := List.mem_map.mp hi
  exact endsResponse_inBlock (x.firstOpen j hj)

/-- The first block brings no status. -/
theorem first_grpcStatusSeen :
    (start.applyAll (x.first.map (·.inBlock .response))).grpcStatusSeen = false ∧
      (start.applyAll (x.first.map (·.inBlock .response))).initialGrpcStatusSeen = false := by
  have hflags := first_headerFlags (x := x) hstart
  have hnone : ∀ i ∈ x.first, (i.fieldIs fun name _ => isStatusName name) = false := by
    intro i hi
    have hinterim := interim_first i hi
    cases i with
    | event ra answers event =>
      cases event with
      | header cat name value => exact (Bool.or_eq_false_iff.mp hinterim.1).1
      | _ => rfl
    | _ => rfl
  have hany : (x.first.map (·.inBlock .response)).any
      (·.fieldIs fun name _ => isStatusName name) = false := by
    rw [any_fieldIs_inBlock]
    exact List.any_eq_false.mpr fun i hi => Bool.eq_false_iff.mp (hnone i hi)
  have hstatus : (x.first.map (·.inBlock .response)).any
      (·.fieldIs fun name _ => decide (name = HeaderName.grpcStatus)) = false := by
    refine List.any_eq_false.mpr fun i hi => ?_
    have hi := List.any_eq_false.mp hany i hi
    cases i with
    | event ra answers event =>
      cases event with
      | header cat name value =>
        intro hname
        refine hi ?_
        change (decide (name = HeaderName.grpcStatus) || _ || _) = true
        rw [show decide (name = HeaderName.grpcStatus) = true from hname]
        rfl
      | _ => exact Bool.false_ne_true
    | _ => exact Bool.false_ne_true
  refine ⟨(congrArg HeaderFlags.grpcStatusSeen hflags).trans ?_,
    (congrArg HeaderFlags.initialGrpcStatusSeen hflags).trans ?_⟩
  · rw [HeaderFlags.foldl_onInput_grpcStatusSeen, hstatus, hstart.fresh.1]
    rfl
  · rw [HeaderFlags.foldl_onInput_initialGrpcStatusSeen _ _ hany, hstart.fresh.1]

/-- It brings a content-type if it has one. -/
theorem first_contentTypeSeen :
    (start.applyAll (x.first.map (·.inBlock .response))).contentTypeSeen =
      x.first.any (·.fieldIs isContentType) := by
  have hflags := first_headerFlags (x := x) hstart
  refine (congrArg HeaderFlags.contentTypeSeen hflags).trans ?_
  rw [HeaderFlags.foldl_onInput_contentTypeSeen, any_fieldIs_inBlock, hstart.fresh.1, Bool.false_or]
  rfl

omit hstart in
/-- An informational input leaves an empty queue empty. -/
theorem apply_interim_queue_nil {call : GrpcCall} (hempty : call.responseQueue = []) {i : CallInput}
    (hi : i.Interim) (cat : HeaderCategory) : (call.apply (i.inBlock cat)).responseQueue = [] := by
  refine GrpcCall.apply_queue_nil hempty fun ra answers bytes heq => ?_
  cases i with
  | event ra answers event =>
    cases event with
    | data => exact hi
    | _ => cases heq
  | _ => cases heq

omit hstart in
/-- Informational blocks bring no message. -/
theorem interim_quiet {call : GrpcCall} (hempty : call.responseQueue = []) {inputs : List CallInput}
    (hin : ∀ i ∈ inputs, i.Interim) (cat : HeaderCategory) :
    call.deliveredBy (inputs.map (·.inBlock cat)) = [] ∧
      (call.applyAll (inputs.map (·.inBlock cat))).responseQueue = [] := by
  refine GrpcCall.deliveredBy_eq_nil (P := fun call => call.responseQueue = []) hempty
    (fun _ h => h) fun call hcall i hi => ?_
  obtain ⟨j, hj, rfl⟩ := List.mem_map.mp hi
  exact apply_interim_queue_nil hcall (hin j hj) cat

omit hstart in
/-- The first block, its end and the other blocks. -/
theorem applyAll_before (call : GrpcCall) : call.applyAll x.before =
    ((call.applyAll (x.first.map (·.inBlock .response))).apply x.firstDone).applyAll
      (x.others.map (·.inBlock .headers)) := by
  rw [before, GrpcCall.applyAll_append, GrpcCall.applyAll_append]
  rfl

/-- The call has no message at the end of the first block. -/
theorem firstDone_quiet :
    start.deliveredBy (x.first.map (·.inBlock .response)) = [] ∧
    (start.applyAll (x.first.map (·.inBlock .response))).responseQueue = [] ∧
    ((start.applyAll (x.first.map (·.inBlock .response))).apply x.firstDone).responseQueue = [] := by
  obtain ⟨hnone, hfirst⟩ := interim_quiet hstart.fresh.2.1 (interim_first (x := x)) .response
  exact ⟨hnone, hfirst, GrpcCall.apply_queue_nil hfirst fun _ _ _ => (by intro hno; cases hno)⟩

/-- Nothing is delivered before the final response headers. -/
theorem before_quiet : start.deliveredBy x.before = [] := by
  obtain ⟨hnone, -, hdone⟩ := firstDone_quiet (x := x) hstart
  have hothers := (interim_quiet hdone (interim_others (x := x)) .headers).1
  rw [before, GrpcCall.deliveredBy_append, GrpcCall.deliveredBy_append,
    GrpcCall.applyAll_append, hnone]
  exact hothers

/-! ### Misread blocks -/

omit hstart in
/-- A content-type that is rejected silences a call without messages. -/
theorem silenced_of_bad {call : GrpcCall} (hdirect : call.Direct) (hempty : call.responseQueue = [])
    {inputs : List CallInput} (hin : ∀ i ∈ inputs, i.Interim) (cat : HeaderCategory)
    (hbad : inputs.any (·.fieldIs isBadContentType) = true) :
    (call.applyAll (inputs.map (·.inBlock cat))).Silenced := by
  induction inputs generalizing call with
  | nil => exact absurd hbad Bool.false_ne_true
  | cons i inputs ih =>
    have hkeep := apply_interim_queue_nil hempty (hin i List.mem_cons_self) cat
    rw [List.any_cons, Bool.or_eq_true] at hbad
    rcases hbad with hi | hrest
    · suffices hsilenced : (call.apply (i.inBlock cat)).Silenced from (hsilenced.applyAll _).2
      cases i with
      | event ra answers event =>
        cases event with
        | header cat₀ name value =>
          refine ⟨hdirect.apply _, ?_, call.apply_header_discard ra answers cat name value (.inr hi),
            hkeep⟩
          have hflags := call.apply_header_headerFlags ra answers cat name value
          refine (congrArg HeaderFlags.invalidContentType hflags).trans ?_
          change (call.invalidContentType || isBadContentType name value) = true
          rw [show isBadContentType name value = true from hi, Bool.or_true]
        | _ => cases hi
      | _ => cases hi
    · exact ih (hdirect.apply _) hkeep (fun j hj => hin j (List.mem_cons_of_mem _ hj)) hrest

omit hstart in
/-- Response headers end without a content-type. -/
theorem firstDone_silenced {call : GrpcCall} (hdirect : call.Direct)
    (hempty : call.responseQueue = []) (hct : call.contentTypeSeen = false)
    (hinitial : call.initialGrpcStatusSeen = false) : (call.apply x.firstDone).Silenced := by
  have hstep : call.apply x.firstDone = CallbackState.discardBody
      { call with initialHeadersEndStream := false, invalidContentType := true } := by
    have hcheck : (!call.contentTypeSeen && !(call.grpcStatusSeen && false)) = true := by
      rw [hct, Bool.and_false]
      rfl
    have hstatus : ¬(call.initialGrpcStatusSeen && !false) = true := by
      rw [hinitial]
      decide
    change CallbackState.onHeadersFrame .response false call = _
    unfold CallbackState.onHeadersFrame
    dsimp only
    rw [if_pos hcheck]
    exact if_neg hstatus
  refine ⟨hdirect.apply _, ?_, ?_, ?_⟩
  · rw [hstep]
    rfl
  · rw [hstep]
    rfl
  · rw [hstep]
    exact hempty

/-- Misread blocks silence the call before the final headers. -/
theorem misread_silenced (h : x.Misread) : (start.applyAll x.before).Silenced := by
  have hdirect := hstart.direct.applyAll (x.first.map (·.inBlock .response))
  obtain ⟨-, hfirst, hdone⟩ := firstDone_quiet (x := x) hstart
  rw [applyAll_before]
  rcases h with hnone | hbad
  · refine (GrpcCall.Silenced.applyAll (firstDone_silenced hdirect hfirst ?_ ?_) _).2
    · rw [first_contentTypeSeen hstart, hnone]
    · exact (first_grpcStatusSeen hstart).2
  · rw [List.any_append, Bool.or_eq_true] at hbad
    rcases hbad with hbad | hbad
    · have hsilenced := silenced_of_bad hstart.direct hstart.fresh.2.1 interim_first .response hbad
      exact ((hsilenced.apply x.firstDone).applyAll _).2
    · exact silenced_of_bad (hdirect.apply _) hdone interim_others .headers hbad

/-! ### Tolerated blocks -/

omit hstart in
/-- The end of response headers that pass the checks. -/
theorem apply_headersEnd_response {call : GrpcCall} (ra : ReadAhead) (answers : List Int)
    {endStream : Bool}
    (hct : call.contentTypeSeen = true ∨ call.grpcStatusSeen = true ∧ endStream = true)
    (hinitial : endStream = true ∨ call.initialGrpcStatusSeen = false) :
    call.apply (.event ra answers (.headersEnd .response endStream)) =
      { call with initialHeadersEndStream := endStream } := by
  have hcheck : ¬(!call.contentTypeSeen && !(call.grpcStatusSeen && endStream)) = true := by
    rcases hct with h | ⟨h, h'⟩
    · rw [h]
      exact Bool.false_ne_true
    · rw [h, h', Bool.and_true, Bool.not_true, Bool.and_false]
      exact Bool.false_ne_true
  have hstatus : ¬(call.initialGrpcStatusSeen && !endStream) = true := by
    rcases hinitial with h | h
    · rw [h, Bool.not_true, Bool.and_false]
      exact Bool.false_ne_true
    · rw [h]
      exact Bool.false_ne_true
  change CallbackState.onHeadersFrame .response endStream call = _
  unfold CallbackState.onHeadersFrame
  dsimp only
  rw [if_neg hcheck]
  exact if_neg hstatus

/-- Before the final response headers, tolerated blocks have left nothing but metadata. -/
theorem before_unsorted (hct : x.first.any (·.fieldIs isContentType) = true)
    (hvalid : (x.first ++ x.others).any (·.fieldIs isBadContentType) = false)
    (hroom : (start.applyAll x.before).metadataTooLarge = false) :
    (start.applyAll ((x.first ++ x.others).filter fun i => !i.inHeaders)).unsorted =
      (start.applyAll x.before).unsorted := by
  rw [List.any_append, Bool.or_eq_false_iff] at hvalid
  have hdirect := hstart.direct.applyAll (x.first.map (·.inBlock .response))
  rw [applyAll_before] at hroom ⊢
  have hroom₂ := GrpcCall.metadataTooLarge_of_applyAll (hdirect.apply x.firstDone) hroom
  have hroom₁ := GrpcCall.metadataTooLarge_of_apply hdirect hroom₂
  have hopen : ∀ i ∈ x.first, i.endsBlock = true → HeaderCategory.response ≠ .response :=
    fun i hi hends => absurd hends (by rw [x.firstOpen i hi]; decide)
  have hfirst := GrpcCall.applyAll_interim_unsorted hstart.direct hstart.direct rfl interim_first
    hvalid.1 hopen hroom₁
  have hdone : ((start.applyAll (x.first.map (·.inBlock .response))).apply x.firstDone).unsorted =
      (start.applyAll (x.first.map (·.inBlock .response))).unsorted := by
    have hseen := first_contentTypeSeen (x := x) hstart
    rw [hct] at hseen
    have hends : (start.applyAll (x.first.map (·.inBlock .response))).initialHeadersEndStream =
        false := by
      have hflags := congrArg HeaderFlags.initialHeadersEndStream (first_headerFlags (x := x) hstart)
      rw [HeaderFlags.foldl_onInput_initialHeadersEndStream, hstart.fresh.1] at hflags
      exact hflags
    rw [firstDone, apply_headersEnd_response _ _ (.inl hseen) (.inr (first_grpcStatusSeen hstart).2)]
    generalize start.applyAll (x.first.map (·.inBlock .response)) = call at hends ⊢
    unfold GrpcCall.unsorted
    rw [hends]
  rw [List.filter_append, GrpcCall.applyAll_append]
  exact GrpcCall.applyAll_interim_unsorted (hstart.direct.applyAll _) (hdirect.apply _)
    (hfirst.trans hdone.symm) interim_others hvalid.2 (fun _ _ _ => (by intro hno; cases hno)) hroom

omit hstart in
/-- The fields of the blocks come in front of those of the exchange without them. -/
theorem receivedFields_withBlocks : receivedFields x.withBlocks =
    receivedFields (x.first ++ x.others) ++ receivedFields x.withoutBlocks := by
  simp only [withBlocks, withoutBlocks, receivedFields_append, receivedFields_inBlock,
    receivedFields_outside]
  simp only [receivedFields, firstDone, finalDone, CallInput.field, List.filterMap_cons,
    List.filterMap_nil, List.append_nil, List.nil_append, List.append_assoc]

/-- There is room for the fields of both exchanges. -/
theorem metadataTooLarge_eq_false {inputs : List CallInput}
    (hwithin : Within fieldBytes CallbackState.maxResponseMetadataEntries
      start.maxResponseMetadataBytes (receivedFields inputs)) :
    (start.applyAll inputs).metadataTooLarge = false := by
  have hholds := GrpcCall.holds_applyAll hstart.direct hstart.holds inputs
  have hlimit : (start.applyAll inputs).store.limit = start.maxResponseMetadataBytes :=
    congrArg (fun call => call.maxResponseMetadataBytes) (start.applyAll_config inputs)
  rw [← hlimit] at hwithin
  exact Bool.eq_false_iff.mpr fun hflag => hholds.tooLarge.mp hflag hwithin

/-- The flags of the exchange without the blocks at the end of its response headers. -/
theorem final_headerFlags :
    ((start.applyAll ((x.first ++ x.others).filter fun i => !i.inHeaders)).applyAll
      (x.final.map (·.inBlock .response))).headerFlags =
    ((x.first ++ x.others).filter (fun i => !i.inHeaders) ++
      x.final.map (·.inBlock .response)).foldl HeaderFlags.onInput start.headerFlags := by
  rw [← GrpcCall.applyAll_append]
  refine GrpcCall.applyAll_headerFlags hstart.direct fun i hi => ?_
  rcases List.mem_append.mp hi with hi | hi
  · have hnot := (List.mem_filter.mp hi).2
    cases i with
    | event ra answers event =>
      cases event with
      | headersEnd => cases hnot
      | _ => rfl
    | _ => rfl
  · obtain ⟨j, hj, rfl⟩ := List.mem_map.mp hi
    exact endsResponse_inBlock (x.finalOpen j hj)

/-- The final response headers end alike in both exchanges. -/
theorem finalDone_unsorted {limit : Nat} (h : x.Tolerated limit) {b : GrpcCall}
    (hsame : ((start.applyAll ((x.first ++ x.others).filter fun i => !i.inHeaders)).applyAll
      (x.final.map (·.inBlock .response))).unsorted = b.unsorted) :
    (((start.applyAll ((x.first ++ x.others).filter fun i => !i.inHeaders)).applyAll
      (x.final.map (·.inBlock .response))).apply (x.finalDone .response)).unsorted =
      (b.apply (x.finalDone .headers)).unsorted := by
  have hflags := final_headerFlags (x := x) hstart
  have hct := congrArg HeaderFlags.contentTypeSeen hflags
  have hstatus := congrArg HeaderFlags.grpcStatusSeen hflags
  have hends := congrArg HeaderFlags.initialHeadersEndStream hflags
  have hinitial : x.final.any (·.fieldIs fun name _ => isStatusName name) = false →
      ((start.applyAll ((x.first ++ x.others).filter fun i => !i.inHeaders)).applyAll
        (x.final.map (·.inBlock .response))).initialGrpcStatusSeen = false := by
    intro hnone
    refine (congrArg HeaderFlags.initialGrpcStatusSeen hflags).trans ?_
    rw [HeaderFlags.foldl_onInput_initialGrpcStatusSeen, hstart.fresh.1]
    rw [List.any_append, any_fieldIs_outside, any_fieldIs_inBlock, hnone]
    rfl
  rw [HeaderFlags.foldl_onInput_contentTypeSeen, hstart.fresh.1, List.any_append,
    any_fieldIs_outside, any_fieldIs_inBlock, Bool.false_or, Bool.false_or] at hct
  rw [HeaderFlags.foldl_onInput_grpcStatusSeen, hstart.fresh.1, List.any_append,
    any_fieldIs_outside, any_fieldIs_inBlock, Bool.false_or, Bool.false_or] at hstatus
  rw [HeaderFlags.foldl_onInput_initialHeadersEndStream, hstart.fresh.1] at hends
  rw [finalDone, apply_headersEnd_response _ _ (h.accepted.imp (fun h => hct.trans h)
      fun h => ⟨hstatus.trans h.1, h.2⟩) (h.statusAtEnd.imp_right hinitial),
    finalDone, GrpcCall.apply_headersEnd_unsorted b _ _ (by decide), ← hsame]
  generalize (start.applyAll ((x.first ++ x.others).filter fun i => !i.inHeaders)).applyAll
    (x.final.map (·.inBlock .response)) = a at hends ⊢
  replace hends : a.initialHeadersEndStream = false := hends
  change _ = CallbackState.onHeadersFrame .headers x.endStream a.unsorted
  cases x.endStream with
  | true =>
    change GrpcCall.unsorted { a with initialHeadersEndStream := true } =
      { a.unsorted with trailingHeadersSeen := true }
    simp only [GrpcCall.unsorted, Bool.true_or]
  | false =>
    change GrpcCall.unsorted { a with initialHeadersEndStream := false } = a.unsorted
    unfold GrpcCall.unsorted
    rw [hends]

omit hstart in
/-- The HTTP status behind inputs that are alike. -/
theorem applyAll_httpStatus {a b : GrpcCall} (ha : a.Direct) (hb : b.Direct)
    {is js : List CallInput} (halike : List.Forall₂ CallInput.Alike is js)
    (his : ∀ i ∈ is, i.endsResponse = false) (hjs : ∀ i ∈ js, i.endsResponse = false)
    (h : a.httpStatus = b.httpStatus ∨
      is.any (·.fieldIs fun name _ => decide (name = HeaderName.status)) = true) :
    (a.applyAll is).httpStatus = (b.applyAll js).httpStatus := by
  have ha' := congrArg HeaderFlags.httpStatus (GrpcCall.applyAll_headerFlags ha his)
  have hb' := congrArg HeaderFlags.httpStatus (GrpcCall.applyAll_headerFlags hb hjs)
  exact ha'.trans ((HeaderFlags.foldl_onInput_httpStatus halike h).trans hb'.symm)

omit hstart in
/-- Nothing behind the final headers ends the response headers. -/
theorem rest_endsResponse : ∀ i ∈ x.rest, i.endsResponse = false := by
  intro i hi
  have hnot := x.later i hi
  cases i with
  | event ra answers event =>
    cases event with
    | headersEnd => exact hnot
    | _ => rfl
  | _ => rfl

omit hstart in
/-- The final headers are one block. -/
theorem final_endsResponse (cat : HeaderCategory) :
    ∀ i ∈ x.final.map (·.inBlock cat), i.endsResponse = false := by
  intro i hi
  obtain ⟨j, hj, rfl⟩ := List.mem_map.mp hi
  exact endsResponse_inBlock (x.finalOpen j hj)

omit hstart in
/-- Both exchanges up to and behind the end of the final response headers. -/
theorem applyAll_withBlocks (call : GrpcCall) : call.applyAll x.withBlocks =
    (((call.applyAll x.before).applyAll (x.final.map (·.inBlock .headers))).apply
      (x.finalDone .headers)).applyAll x.rest := by
  rw [withBlocks_eq, GrpcCall.applyAll_append, GrpcCall.applyAll_append, GrpcCall.applyAll_append]
  rfl

omit hstart in
/-- What happens outside the blocks, the final headers and what follows them. -/
theorem applyAll_withoutBlocks (call : GrpcCall) : call.applyAll x.withoutBlocks =
    (((call.applyAll ((x.first ++ x.others).filter fun i => !i.inHeaders)).applyAll
      (x.final.map (·.inBlock .response))).apply (x.finalDone .response)).applyAll x.rest := by
  rw [withoutBlocks, GrpcCall.applyAll_append, GrpcCall.applyAll_append, GrpcCall.applyAll_append]
  rfl

/-- The HTTP status of both exchanges is that of the final response. -/
theorem httpStatus_eq :
    (start.applyAll x.withoutBlocks).httpStatus = (start.applyAll x.withBlocks).httpStatus := by
  have hdirect := hstart.direct
  rw [applyAll_withoutBlocks, applyAll_withBlocks]
  refine applyAll_httpStatus (((hdirect.applyAll _).applyAll _).apply _)
    (((hdirect.applyAll _).applyAll _).apply _) (alike_self x.later) rest_endsResponse
    rest_endsResponse (.inl ?_)
  rw [finalDone, finalDone, GrpcCall.apply_headersEnd_httpStatus,
    GrpcCall.apply_headersEnd_httpStatus]
  refine applyAll_httpStatus (hdirect.applyAll _) (hdirect.applyAll _)
    (alike_inBlock .response .headers x.finalOpen) (final_endsResponse _) (final_endsResponse _)
    (.inr ?_)
  rw [any_fieldIs_inBlock]
  exact x.finalStatus

/-- Nothing is delivered before the final response headers without the blocks either. -/
theorem outside_quiet :
    start.deliveredBy ((x.first ++ x.others).filter fun i => !i.inHeaders) = [] := by
  refine (GrpcCall.deliveredBy_eq_nil (P := fun call => call.responseQueue = []) hstart.fresh.2.1
    (fun _ h => h) fun call hcall i hi => ?_).1
  refine GrpcCall.apply_queue_nil hcall fun ra answers bytes heq => ?_
  have hinterim := x.interim i (List.mem_filter.mp hi).1
  rw [heq] at hinterim
  exact hinterim

/-- Tolerated blocks leave the messages and everything that the status code depends on. -/
theorem tolerated_unsorted (h : x.Tolerated start.maxResponseMetadataBytes) :
    (start.applyAll x.withoutBlocks).unsorted = (start.applyAll x.withBlocks).unsorted ∧
      start.deliveredBy x.withoutBlocks = start.deliveredBy x.withBlocks := by
  have hdirect := hstart.direct
  have hwithin : Within fieldBytes CallbackState.maxResponseMetadataEntries
      start.maxResponseMetadataBytes (receivedFields x.withoutBlocks) := by
    have hall := h.room
    rw [receivedFields_withBlocks] at hall
    exact (hall.perm List.perm_append_comm).of_append
  have hroom := metadataTooLarge_eq_false hstart hwithin
  have hroom' := metadataTooLarge_eq_false hstart h.room
  rw [applyAll_withoutBlocks] at hroom
  rw [applyAll_withBlocks] at hroom'
  -- the room at the end is room at every place before
  have ha := hdirect.applyAll ((x.first ++ x.others).filter fun i => !i.inHeaders)
  have hb := hdirect.applyAll x.before
  have ha' := (ha.applyAll (x.final.map (·.inBlock .response))).apply (x.finalDone .response)
  have hb' := (hb.applyAll (x.final.map (·.inBlock .headers))).apply (x.finalDone .headers)
  have hfinal := GrpcCall.metadataTooLarge_of_apply (ha.applyAll _)
    (GrpcCall.metadataTooLarge_of_applyAll ha' hroom)
  have hfinal' := GrpcCall.metadataTooLarge_of_apply (hb.applyAll _)
    (GrpcCall.metadataTooLarge_of_applyAll hb' hroom')
  have hbefore := before_unsorted hstart h.contentType h.valid
    (GrpcCall.metadataTooLarge_of_applyAll hb hfinal')
  have halike := alike_inBlock .response .headers x.finalOpen
  have hdone := finalDone_unsorted hstart h
    (GrpcCall.applyAll_unsorted_alike ha hb hbefore halike hfinal hfinal')
  have hrest := alike_self x.later
  refine ⟨?_, ?_⟩
  · rw [applyAll_withoutBlocks, applyAll_withBlocks]
    exact GrpcCall.applyAll_unsorted_alike ha' hb' hdone hrest hroom hroom'
  · have hblock := GrpcCall.deliveredBy_alike ha hb hbefore halike hfinal hfinal'
    have hlater := GrpcCall.deliveredBy_alike ha' hb' hdone hrest hroom hroom'
    rw [withBlocks_eq, withoutBlocks, List.append_assoc, List.append_assoc,
      GrpcCall.deliveredBy_append, GrpcCall.deliveredBy_append, GrpcCall.deliveredBy_append start,
      GrpcCall.deliveredBy_append (start.applyAll x.before), outside_quiet hstart,
      before_quiet hstart, hblock]
    exact congrArg (fun ms => [] ++ (_ ++ ([] ++ ms))) hlater

/-! ### The maps with the blocks -/

/-- The fields of the first informational block are the initial metadata, and everything behind
it is trailing. -/
theorem withBlocks_maps :
    (start.applyAll x.withBlocks).metadataMap false =
        admitted fieldBytes CallbackState.maxResponseMetadataEntries
          start.maxResponseMetadataBytes (receivedFields x.first) ∧
      (start.applyAll x.withBlocks).metadataMap false ++
          (start.applyAll x.withBlocks).metadataMap true =
        admitted fieldBytes CallbackState.maxResponseMetadataEntries
          start.maxResponseMetadataBytes (receivedFields x.withBlocks) := by
  have hlimit : ∀ inputs, (start.applyAll inputs).store.limit = start.maxResponseMetadataBytes :=
    fun inputs => congrArg (fun call => call.maxResponseMetadataBytes)
      (start.applyAll_config inputs)
  have hfirst := hstart.fresh.2.2.applyAll (interim_first (x := x))
  have hdone : ((start.applyAll (x.first.map (·.inBlock .response))).apply x.firstDone).metadata =
      (start.applyAll (x.first.map (·.inBlock .response))).metadata :=
    congrArg MetadataStore.entries
      (GrpcCall.apply_store_eq hfirst.direct rfl (by intro hno; cases hno))
  have hlater : ∀ i ∈ x.others.map (·.inBlock .headers) ++ (x.final.map (·.inBlock .headers) ++
      ([x.finalDone .headers] ++ x.rest)), i.inResponse = false := by
    have hblock : ∀ i : CallInput, (i.inBlock .headers).inResponse = false := by
      intro i
      cases i with
      | event ra answers event => cases event <;> rfl
      | _ => rfl
    intro i hi
    simp only [List.mem_append, List.mem_map, List.mem_singleton] at hi
    rcases hi with ⟨j, -, rfl⟩ | ⟨j, -, rfl⟩ | rfl | hi
    · exact hblock j
    · exact hblock j
    · rfl
    · exact x.later i hi
  obtain ⟨new, hnew, htags⟩ := GrpcCall.applyAll_metadata_later (hfirst.direct.apply x.firstDone) hlater
  have hrun : start.applyAll x.withBlocks =
      ((start.applyAll (x.first.map (·.inBlock .response))).apply x.firstDone).applyAll
        (x.others.map (·.inBlock .headers) ++ (x.final.map (·.inBlock .headers) ++
          ([x.finalDone .headers] ++ x.rest))) := by
    rw [withBlocks_eq, GrpcCall.applyAll_append, applyAll_before, GrpcCall.applyAll_append
      ((start.applyAll (x.first.map (·.inBlock .response))).apply x.firstDone)]
  rw [← hrun, hdone] at hnew
  obtain ⟨hinitial, htrailing⟩ := GrpcCall.metadataMap_of_split hnew hfirst.initial htags
  rw [hinitial, htrailing, ← List.map_append, ← hnew]
  have hheld := GrpcCall.holds_applyAll hstart.direct hstart.holds
  have hfields := (hheld (x.first.map (·.inBlock .response))).fields
  have hall := (hheld x.withBlocks).fields
  rw [hlimit, receivedFields_inBlock] at hfields
  rw [hlimit] at hall
  exact ⟨hfields, hall⟩

end Runs

/-- What becomes of an exchange with informational blocks. -/
structure Outcome (start : GrpcCall) : Prop where
  /-- The initial metadata is what is stored of the first informational block. -/
  initial : (start.applyAll x.withBlocks).metadataMap false =
    admitted fieldBytes CallbackState.maxResponseMetadataEntries start.maxResponseMetadataBytes
      (receivedFields x.first)
  /-- Every other stored field is trailing, those of the final response headers with them. -/
  trailing : (start.applyAll x.withBlocks).metadataMap false ++
      (start.applyAll x.withBlocks).metadataMap true =
    admitted fieldBytes CallbackState.maxResponseMetadataEntries start.maxResponseMetadataBytes
      (receivedFields x.withBlocks)
  /-- Tolerated blocks change neither the status code nor the messages. -/
  transparent : x.Tolerated start.maxResponseMetadataBytes →
    (∀ cancelled, statusCodeFromCall (start.applyAll x.withBlocks) cancelled =
      statusCodeFromCall (start.applyAll x.withoutBlocks) cancelled) ∧
    start.deliveredBy x.withBlocks = start.deliveredBy x.withoutBlocks ∧
    (start.applyAll x.withBlocks).responseQueue = (start.applyAll x.withoutBlocks).responseQueue
  /-- Nor the code that either driver reports behind its check for a truncated message. -/
  reported : x.Tolerated start.maxResponseMetadataBytes → ∀ cancelled,
    statusCodeFromCall (start.applyAll x.withBlocks).checkUnary cancelled =
      statusCodeFromCall (start.applyAll x.withoutBlocks).checkUnary cancelled ∧
    statusCodeFromCall (start.applyAll x.withBlocks).checkStream cancelled =
      statusCodeFromCall (start.applyAll x.withoutBlocks).checkStream cancelled
  /-- Misread blocks end the exchange without success and without a message. -/
  misread : x.Misread →
    (∀ cancelled, statusCodeFromCall (start.applyAll x.withBlocks) cancelled ≠ Status.ok) ∧
    start.deliveredBy x.withBlocks = [] ∧ (start.applyAll x.withBlocks).responseQueue = []
  /-- Neither driver reports a success then. -/
  unsuccessful : x.Misread → ∀ cancelled,
    statusCodeFromCall (start.applyAll x.withBlocks).checkUnary cancelled ≠ Status.ok ∧
    statusCodeFromCall (start.applyAll x.withBlocks).checkStream cancelled ≠ Status.ok

/-- For every call of the drivers and every exchange with informational blocks: their fields, and
not those of the final response, are its initial metadata; the status code and the messages stay
if the first block passes for response headers, and the exchange fails if it does not. -/
theorem outcome {start : GrpcCall} {k : ConnId} (hstart : start.Started k) : x.Outcome start := by
  obtain ⟨hinitial, htrailing⟩ := withBlocks_maps (x := x) hstart
  have hsilenced (h : x.Misread) : start.deliveredBy x.withBlocks = [] ∧
      (start.applyAll x.withBlocks).Silenced := by
    obtain ⟨hnone, hend⟩ := (misread_silenced hstart h).applyAll
      (x.final.map (·.inBlock .headers) ++ ([x.finalDone .headers] ++ x.rest))
    rw [withBlocks_eq, GrpcCall.applyAll_append, GrpcCall.deliveredBy_append, before_quiet hstart,
      hnone]
    exact ⟨rfl, hend⟩
  refine ⟨hinitial, htrailing, fun h => ?_, fun h cancelled => ?_, fun h => ?_,
    fun h cancelled => ?_⟩
  · obtain ⟨hsame, hdelivered⟩ := tolerated_unsorted hstart h
    exact ⟨fun cancelled =>
        (statusCodeFromCall_eq_of_unsorted hsame (httpStatus_eq hstart) cancelled).symm,
      hdelivered.symm, (congrArg (fun call => call.responseQueue) hsame).symm⟩
  · obtain ⟨hunary, hstream⟩ := GrpcCall.checked_unsorted (tolerated_unsorted hstart h).1
    obtain ⟨hu, hs⟩ := (start.applyAll x.withoutBlocks).checked_httpStatus
    obtain ⟨hu', hs'⟩ := (start.applyAll x.withBlocks).checked_httpStatus
    have hhttp := httpStatus_eq (x := x) hstart
    exact ⟨(statusCodeFromCall_eq_of_unsorted hunary (hu.trans (hhttp.trans hu'.symm)) _).symm,
      (statusCodeFromCall_eq_of_unsorted hstream (hs.trans (hhttp.trans hs'.symm)) _).symm⟩
  · obtain ⟨hnone, hend⟩ := hsilenced h
    exact ⟨hend.statusCode_ne_ok, hnone, hend.empty⟩
  · obtain ⟨hunary, hstream⟩ := (hsilenced h).2.checked
    exact ⟨hunary.statusCode_ne_ok cancelled, hstream.statusCode_ne_ok cancelled⟩

/-! ## Early hints -/

/-- A field of a block. -/
private def textHeader (name value : String) : CallInput :=
  .event ⟨false, 32, 8388608⟩ [] (.header .headers (ascii name.toList) (ascii value.toList))

/-- A callback of the stream. -/
private def streamEvent (event : StreamEvent) : CallInput := .event ⟨false, 32, 8388608⟩ [] event

/-- A 103 with given fields before a successful response with one empty message. -/
private def earlyHints (fields : List CallInput)
    (h : ∀ i ∈ textHeader ":status" "103" :: fields, i.Interim ∧ i.endsBlock = false) :
    InterimExchange where
  first := textHeader ":status" "103" :: fields
  firstEnd := (⟨false, 32, 8388608⟩, [])
  others := []
  final := [textHeader ":status" "200", textHeader "content-type" "application/grpc"]
  finalEnd := (⟨false, 32, 8388608⟩, [])
  endStream := false
  rest := [streamEvent (.data [0, 0, 0, 0, 0]), .dequeue, textHeader "grpc-status" "0",
    streamEvent (.headersEnd .headers true), streamEvent (.closed 0)]
  interim i hi := (h i (List.append_nil (textHeader ":status" "103" :: fields) ▸ hi)).1
  firstOpen i hi := (h i hi).2
  finalOpen := by decide
  finalStatus := by decide
  later := by decide

/-- Such a 103 is informational. -/
private theorem interim_103 (name value : String) (hname : isGrpcName (ascii name.toList) = false)
    (hother : ascii name.toList ≠ HeaderName.status) :
    ∀ i ∈ [textHeader ":status" "103", textHeader name value], i.Interim ∧ i.endsBlock = false := by
  intro i hi
  rcases List.mem_cons.mp hi with rfl | hi
  · exact ⟨⟨by decide, fun _ => by decide⟩, rfl⟩
  · rw [List.mem_singleton.mp hi]
    exact ⟨⟨hname, fun h => absurd h hother⟩, rfl⟩

/-- A 103 with a link. -/
private def linkHints : InterimExchange :=
  earlyHints [textHeader "link" "style"] (interim_103 "link" "style" (by decide) (by decide))

/-- A 103 with a content-type. -/
private def typedHints : InterimExchange :=
  earlyHints [textHeader "content-type" "application/grpc"]
    (interim_103 "content-type" "application/grpc" (by decide) (by decide))

/-- A request with the default limit on response metadata. -/
private def hintedRequest : CallRequest := { key := [] }

/-- A content-type in the 103 keeps the status and the message, with the final content-type as
trailing metadata. -/
theorem outcome_typedHints : typedHints.Tolerated 65536 ∧
    typedHints.Outcome (hintedRequest.startCall 0 0) :=
  ⟨⟨by decide, by decide, .inl (by decide), .inr (by decide), by decide⟩,
    typedHints.outcome ⟨hintedRequest, 0, .inr rfl⟩⟩

/-- A 103 with a link turns a success with one message into a failure without, and the headers
of the final response into trailing metadata. -/
theorem linkHints_not_transparent :
    statusCodeFromCall ((hintedRequest.startCall 0 0).applyAll linkHints.withoutBlocks) false =
        Status.ok ∧
      statusCodeFromCall ((hintedRequest.startCall 0 0).applyAll linkHints.withBlocks) false =
        Status.unknown ∧
      (hintedRequest.startCall 0 0).deliveredBy linkHints.withoutBlocks = [[]] ∧
      (hintedRequest.startCall 0 0).deliveredBy linkHints.withBlocks = [] ∧
      ((hintedRequest.startCall 0 0).applyAll linkHints.withoutBlocks).metadataMap false =
        [(HeaderName.contentType, ascii "application/grpc".toList)] ∧
      ((hintedRequest.startCall 0 0).applyAll linkHints.withBlocks).metadataMap true =
        [(HeaderName.contentType, ascii "application/grpc".toList)] := by
  decide +kernel

end InterimExchange

end GrpcLite
