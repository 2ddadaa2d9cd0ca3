import GrpcLite.Correctness.StreamEnds
import GrpcLite.Refinement.Delivery

/-!
# The rules for a response

A reader of a response that knows its limits and nothing of the record of a call. It
takes the inputs of the call one by one and stops at the first that violates a rule:
one grpc-status, a content-type in front of the body, metadata within its limits, and
DATA that are messages within theirs and find room in the queue. The record of a call
of either driver is free of violations exactly as long as the reader goes on.
-/

namespace GrpcLite

open Framing

/-- The limits of a call on its response. -/
structure ResponseLimits where
  /-- Number of messages; zero for none. -/
  messages : Nat
  /-- Bytes of a message. -/
  messageBytes : Nat
  /-- Bytes of the metadata. -/
  metadataBytes : Nat
  deriving DecidableEq, Repr

/-- The limits of a record. -/
def GrpcCall.responseLimits (call : GrpcCall) : ResponseLimits where
  messages := call.maxResponseMessages
  messageBytes := call.maxReceiveMessageBytes
  metadataBytes := call.maxResponseMetadataBytes

/-- What a reader of a response remembers. -/
structure ResponseReader where
  /-- The call is attached to a connection. -/
  attached : Bool := true
  /-- A content-type arrived. -/
  typeSeen : Bool := false
  /-- A grpc-status arrived. -/
  statusSeen : Bool := false
  /-- A part of the status arrived in the response headers. -/
  statusEarly : Bool := false
  /-- Number of the metadata fields. -/
  fields : Nat := 0
  /-- Bytes of the metadata fields. -/
  fieldBytes : Nat := 0
  /-- The messages so far and the position behind them. -/
  decoder : Decoder RejectReason := .start
  /-- The messages that have not been taken. -/
  waiting : List Bytes := []
  deriving DecidableEq

namespace ResponseReader

variable (limits : ResponseLimits) (r : ResponseReader)

/-- The header check of the limits. -/
abbrev check : Check RejectReason := responseCheck limits.messages limits.messageBytes

/-- A metadata field within the limits. -/
def keep (field : Bytes × Bytes) : Option ResponseReader :=
  if r.fields + 1 ≤ CallbackState.maxResponseMetadataEntries ∧
      r.fieldBytes + GrpcLite.fieldBytes field ≤ limits.metadataBytes then
    some { r with fields := r.fields + 1, fieldBytes := r.fieldBytes + GrpcLite.fieldBytes field }
  else none

/-- A field of a header block. -/
def onHeader (cat : HeaderCategory) (name value : Bytes) : Option ResponseReader :=
  let seen := { r with
    typeSeen := r.typeSeen || decide (name = HeaderName.contentType)
    statusSeen := r.statusSeen || decide (name = HeaderName.grpcStatus)
    statusEarly := r.statusEarly || (decide (cat = .response) && isStatusName name) }
  if name = HeaderName.grpcStatus ∧ (r.statusSeen = true ∨ Protocol.parseStatusValue value < 0) then
    none
  else if isBadContentType name value then none
  else if isMetadataName name then seen.keep limits (name, value)
  else some seen

/-- The end of the response headers: behind a content-type unless they end the stream with a
grpc-status, and with a part of the status only if they end the stream. -/
def onResponseEnd (endStream : Bool) : Option ResponseReader :=
  if (r.typeSeen || r.statusSeen && endStream) && (endStream || !r.statusEarly) then some r else none

/-- The room in the queue: unlimited for a call that reads its own connection. -/
def room (ra : ReadAhead) : Room := fun messages len =>
  !(r.attached && ra.foreignReader &&
    (decide (r.waiting.length + (messages.drop r.decoder.messages.length).length ≥
        ra.maxMessages) ||
      decide (len > ra.maxBytes) ||
      decide ((r.waiting.map List.length).sum +
        ((messages.drop r.decoder.messages.length).map List.length).sum > ra.maxBytes - len)))

/-- DATA in front of any grpc-status, with acceptable messages that find room. -/
def onData (ra : ReadAhead) (bytes : Bytes) : Option ResponseReader :=
  let decoder := r.decoder.feed (check limits) bytes
  if bytes = [] then some r
  else if r.statusSeen then none
  else if decoder.failure.isSome || r.decoder.overruns (check limits) (r.room ra) bytes then none
  else
    some { r with
      decoder := decoder
      waiting := r.waiting ++ decoder.messages.drop r.decoder.messages.length }

/-- The reader behind an input, unless that violates a rule. -/
def step (r : ResponseReader) : CallInput → Option ResponseReader
  | .event _ _ (.header cat name value) => r.onHeader limits cat name value
  | .event _ _ (.headersEnd .response endStream) => r.onResponseEnd endStream
  | .event ra _ (.data bytes) => r.onData limits ra bytes
  | .event _ _ .pushPromise | .truncated => none
  | .registered _ => some { r with attached := true }
  | .ownerCleared true => some { r with attached := false }
  | .dequeue | .take => some { r with waiting := r.waiting.tail }
  | .freeQueue => some { r with waiting := [] }
  | _ => some r

/-- The reader behind inputs none of which violates a rule. -/
def run (inputs : List CallInput) : Option ResponseReader := inputs.foldlM (step limits) r

end ResponseReader

/-- No input of the call violates a rule for its response. -/
def GrpcCall.Lawful (start : GrpcCall) (inputs : List CallInput) : Prop :=
  ((ResponseReader.run start.responseLimits {} inputs).isSome : Prop)

instance (start : GrpcCall) (inputs : List CallInput) : Decidable (start.Lawful inputs) :=
  inferInstanceAs (Decidable (_ = true))

namespace GrpcCall

open CallbackState

/-! ## Violations -/

theorem responseLimits_of_config {call call' : GrpcCall} (h : call'.config = call.config) :
    call'.responseLimits = call.responseLimits := by
  obtain ⟨hmessages, hbytes, -⟩ := limits_of_config h
  have hmetadata := congrArg maxResponseMetadataBytes h
  exact congrArg₂ (fun f n => f n) (congrArg₂ ResponseLimits.mk hmessages hbytes) hmetadata

/-- A violated rule stays violated. -/
theorem Clean.of_apply {call : GrpcCall} (hdirect : call.Direct) {i : CallInput}
    (h : (call.apply i).Clean) : call.Clean := by
  refine ⟨?_, validationFailed_of_apply hdirect h.response⟩
  by_contra hbad
  have hstays := invalidGrpcStatus_apply hdirect (Bool.not_eq_false _ ▸ hbad) i
  exact Bool.false_ne_true (h.status.symm.trans hstays)

theorem Clean.of_applyAll {call : GrpcCall} (hdirect : call.Direct) {inputs : List CallInput}
    (h : (call.applyAll inputs).Clean) : call.Clean := by
  induction inputs generalizing call with
  | nil => exact h
  | cons i inputs ih => exact (ih (hdirect.apply i) h).of_apply hdirect

/-- What the end of the response headers checks. -/
theorem apply_responseEnd (call : GrpcCall) (ra : ReadAhead) (answers : List Int)
    (endStream : Bool) :
    let call' := call.apply (.event ra answers (.headersEnd .response endStream))
    (call'.contentTypeSeen = call.contentTypeSeen ∧ call'.grpcStatusSeen = call.grpcStatusSeen ∧
      call'.initialGrpcStatusSeen = call.initialGrpcStatusSeen) ∧
    call'.invalidContentType =
      (call.invalidContentType || !(call.contentTypeSeen || call.grpcStatusSeen && endStream)) ∧
    call'.invalidGrpcStatus =
      (call.invalidGrpcStatus || !(endStream || !call.initialGrpcStatusSeen)) := by
  intro call'
  have hcall' : call' = onHeadersFrame .response endStream call := rfl
  rw [hcall']
  unfold onHeadersFrame
  dsimp only
  cases endStream <;> split <;> split <;> simp_all [discardBody]

/-! ## The reader and the record -/

/-- The record of a call stands where the reader stands. -/
structure ReadBy (call : GrpcCall) (r : ResponseReader) : Prop where
  /-- No rule was violated. -/
  clean : call.Clean
  /-- The body is being read. -/
  reading : call.discardResponseBody = false
  /-- Whether a content-type arrived. -/
  typeSeen : call.contentTypeSeen = r.typeSeen
  /-- Whether a grpc-status arrived. -/
  statusSeen : call.grpcStatusSeen = r.statusSeen
  /-- Whether a part of the status arrived in the response headers. -/
  statusEarly : call.initialGrpcStatusSeen = r.statusEarly
  /-- The number of the metadata fields. -/
  fields : call.metadataEntryCount = r.fields
  /-- The bytes of the metadata fields. -/
  fieldBytes : call.metadataBytes = r.fieldBytes
  /-- Whether the call has a connection. -/
  attached : call.connection.isSome = r.attached
  /-- The queue. -/
  waiting : call.responseQueue = r.waiting
  /-- The counters beside the queue. -/
  counted : call.QueueCounted
  /-- The position of the parser. -/
  body : ∃ taken, Tracks call.maxResponseMessages call.maxReceiveMessageBytes call.grpcEncoding
    call taken r.decoder

/-- A record behind an input, by what the reader says of the input. -/
def Proceeds (call : GrpcCall) : Option ResponseReader → Prop
  | none => ¬call.Clean
  | some r => call.ReadBy r

theorem clean_iff {call : GrpcCall} :
    call.Clean ↔ call.invalidGrpcStatus = false ∧ call.failureFlags = {} ∧
      call.responseQueueLimitExceeded = false ∧ call.invalidContentType = false ∧
      call.metadataTooLarge = false :=
  ⟨fun h => ⟨h.status, validationFailed_eq_false.mp h.response⟩,
    fun h => ⟨h.1, validationFailed_eq_false.mpr h.2⟩⟩

section Step

variable {call : GrpcCall} {r : ResponseReader} (h : call.ReadBy r) (hdirect : call.Direct)
include h hdirect

/-- An input without body bytes that takes nothing out of the queue leaves the body where it is,
unless it violates a rule. -/
theorem ReadBy.still {i : CallInput}
    (hdata : ∀ ra answers bytes, i ≠ .event ra answers (.data bytes)) (hin : i.takesOut = false)
    (hclean : (call.apply i).Clean) :
    (call.apply i).discardResponseBody = false ∧ (call.apply i).responseQueue = r.waiting ∧
      (call.apply i).QueueCounted ∧
      ∃ taken, Tracks (call.apply i).maxResponseMessages (call.apply i).maxReceiveMessageBytes
        (call.apply i).grpcEncoding (call.apply i) taken r.decoder := by
  have hreading : (call.apply i).discardResponseBody = false := by
    by_contra hstop
    have hbad := clean_of_discard hdata h.reading (Bool.not_eq_false _ ▸ hstop) hclean.response
    exact Bool.false_ne_true (hclean.status.symm.trans hbad)
  have hqueue := call.apply_queue_same hdata hin
  obtain ⟨taken, htracks⟩ := h.body
  exact ⟨hreading, hqueue.trans h.waiting, h.counted.apply hdirect i, taken,
    tracks_same htracks h.reading hreading hclean.response (call.apply_config i)
      (call.apply_parserState hdata) hqueue (call.apply_messageCount_same hdata)⟩

/-- An input outside the response headers and the body. -/
theorem ReadBy.other {i : CallInput} (hheader : i.isHeader = false)
    (hflags : (call.apply i).headerFlags = call.headerFlags)
    (hdata : ∀ ra answers bytes, i ≠ .event ra answers (.data bytes)) (hin : i.takesOut = false)
    (hclean : (call.apply i).Clean) {attached : Bool}
    (hattached : (call.apply i).connection.isSome = attached) :
    (call.apply i).ReadBy { r with attached := attached } := by
  obtain ⟨hreading, hqueue, hcounted, hbody⟩ := h.still hdirect hdata hin hclean
  obtain ⟨status, hstore⟩ := apply_store hdirect hheader
  exact ⟨hclean, hreading, (congrArg HeaderFlags.contentTypeSeen hflags).trans h.typeSeen,
    (congrArg HeaderFlags.grpcStatusSeen hflags).trans h.statusSeen,
    (congrArg HeaderFlags.initialGrpcStatusSeen hflags).trans h.statusEarly,
    (congrArg MetadataStore.count hstore).trans h.fields,
    (congrArg MetadataStore.bytes hstore).trans h.fieldBytes, hattached, hqueue, hcounted, hbody⟩

/-- Without a violation the reader and the record remember the same of a field. -/
theorem ReadBy.seen (ra : ReadAhead) (answers : List Int) (cat : HeaderCategory)
    (name value : Bytes)
    (hclean : (call.apply (.event ra answers (.header cat name value))).Clean) :
    (call.apply (.event ra answers (.header cat name value))).ReadBy { r with
      typeSeen := r.typeSeen || decide (name = HeaderName.contentType)
      statusSeen := r.statusSeen || decide (name = HeaderName.grpcStatus)
      statusEarly := r.statusEarly || (decide (cat = .response) && isStatusName name)
      fields := (call.store.onHeader cat name value).count
      fieldBytes := (call.store.onHeader cat name value).bytes } := by
  have hflags := call.apply_header_headerFlags ra answers cat name value
  have hstore := call.apply_header_store ra answers cat name value
  have herase := call.apply_header_eraseHeaders ra answers cat name value
  obtain ⟨hreading, hqueue, hcounted, hbody⟩ := h.still hdirect (by simp) rfl hclean
  refine ⟨hclean, hreading, ?_, ?_, ?_, congrArg MetadataStore.count hstore,
    congrArg MetadataStore.bytes hstore, ?_, hqueue, hcounted, hbody⟩
  · exact (congrArg HeaderFlags.contentTypeSeen hflags).trans (by rw [← h.typeSeen]; rfl)
  · exact (congrArg HeaderFlags.grpcStatusSeen hflags).trans (by rw [← h.statusSeen]; rfl)
  · exact (congrArg HeaderFlags.initialGrpcStatusSeen hflags).trans (by rw [← h.statusEarly]; rfl)
  · exact (congrArg Option.isSome
      (field_of_eraseHeaders herase connection fun _ => rfl)).trans h.attached

omit hdirect in
/-- Which fields violate a rule. -/
theorem ReadBy.header_clean_iff (ra : ReadAhead) (answers : List Int) (cat : HeaderCategory)
    (name value : Bytes) :
    (call.apply (.event ra answers (.header cat name value))).Clean ↔
      ¬(name = HeaderName.grpcStatus ∧
          (r.statusSeen = true ∨ Protocol.parseStatusValue value < 0)) ∧
        isBadContentType name value = false ∧
        (call.store.onHeader cat name value).tooLarge = false := by
  have hflags := call.apply_header_headerFlags ra answers cat name value
  have herase := call.apply_header_eraseHeaders ra answers cat name value
  obtain ⟨hvalid, hfailure, hlimit, htype, -⟩ := clean_iff.mp h.clean
  have hstatus := call.apply_header_invalidGrpcStatus ra answers cat name value
  have htype' : (call.apply (.event ra answers (.header cat name value))).invalidContentType =
      (call.invalidContentType || isBadContentType name value) :=
    congrArg HeaderFlags.invalidContentType hflags
  have hstore : (call.apply (.event ra answers (.header cat name value))).metadataTooLarge =
      (call.store.onHeader cat name value).tooLarge :=
    congrArg MetadataStore.tooLarge (call.apply_header_store ra answers cat name value)
  rw [clean_iff, hstatus, htype', hstore, field_of_eraseHeaders herase failureFlags fun _ => rfl,
    field_of_eraseHeaders herase responseQueueLimitExceeded fun _ => rfl, hvalid, hfailure, hlimit,
    htype, h.statusSeen]
  simp

omit hdirect in
/-- The store has no room for a field above the limits of the reader. -/
theorem ReadBy.refuses_iff (field : Bytes × Bytes) :
    call.store.Refuses field ↔ ¬(r.fields + 1 ≤ maxResponseMetadataEntries ∧
      r.fieldBytes + GrpcLite.fieldBytes field ≤ call.responseLimits.metadataBytes) := by
  have hcount : call.store.count = r.fields := h.fields
  have hbytes : call.store.bytes = r.fieldBytes := h.fieldBytes
  have hfine : call.store.tooLarge = false := (clean_iff.mp h.clean).2.2.2.2
  unfold MetadataStore.Refuses
  rw [hcount, hbytes, hfine, show call.store.limit = call.responseLimits.metadataBytes from rfl]
  simp only [Bool.false_eq_true, false_or]
  omega

/-- A field of a header block. -/
theorem ReadBy.header (ra : ReadAhead) (answers : List Int) (cat : HeaderCategory)
    (name value : Bytes) :
    (call.apply (.event ra answers (.header cat name value))).Proceeds
      (r.onHeader call.responseLimits cat name value) := by
  have hclean := h.header_clean_iff ra answers cat name value
  have hseen := h.seen hdirect ra answers cat name value
  have hcount : call.store.count = r.fields := h.fields
  have hbytes : call.store.bytes = r.fieldBytes := h.fieldBytes
  have hfine : call.store.tooLarge = false := (clean_iff.mp h.clean).2.2.2.2
  unfold ResponseReader.onHeader
  dsimp only
  split
  · next hbad => exact fun hgood => (hclean.mp hgood).1 hbad
  next hstatus =>
  split
  · next hbad => exact fun hgood => Bool.false_ne_true ((hclean.mp hgood).2.1.symm.trans hbad)
  next htype =>
  rw [Bool.not_eq_true] at htype
  split
  · next hname =>
    have hnot : name ≠ HeaderName.grpcStatus := by
      rintro rfl
      exact absurd hname (by decide)
    have hadd : call.store.onHeader cat name value =
        call.store.add (name, value) (call.store.isTrailing cat name) := by
      rw [MetadataStore.onHeader, if_neg hnot, if_pos hname]
    have hrefuses := h.refuses_iff (name, value)
    rw [hadd, MetadataStore.add] at hclean hseen
    unfold ResponseReader.keep
    split
    · next hfits =>
      rw [if_neg (mt hrefuses.mp (not_not.mpr hfits))] at hclean hseen
      rw [← hcount, ← hbytes]
      exact hseen (hclean.mpr ⟨hstatus, htype, hfine⟩)
    · next hfull =>
      rw [if_pos (hrefuses.mpr hfull)] at hclean
      exact fun hgood => Bool.false_ne_true (hclean.mp hgood).2.2.symm
  · next hname =>
    have hsame : (call.store.onHeader cat name value).tooLarge = call.store.tooLarge ∧
        (call.store.onHeader cat name value).count = call.store.count ∧
        (call.store.onHeader cat name value).bytes = call.store.bytes := by
      unfold MetadataStore.onHeader
      split <;> exact ⟨rfl, rfl, rfl⟩
    rw [hsame.1] at hclean
    rw [hsame.2.1, hsame.2.2, hcount, hbytes] at hseen
    exact hseen (hclean.mpr ⟨hstatus, htype, hfine⟩)

/-- The end of the response headers. -/
theorem ReadBy.responseEnd (ra : ReadAhead) (answers : List Int) (endStream : Bool) :
    (call.apply (.event ra answers (.headersEnd .response endStream))).Proceeds
      (r.onResponseEnd endStream) := by
  obtain ⟨⟨htype, hstatus, hearly⟩, hbadType, hbadStatus⟩ :=
    call.apply_responseEnd ra answers endStream
  have herase := call.apply_headersEnd_eraseHeaders ra answers .response endStream
  obtain ⟨status, hstore⟩ := apply_store (i := .event ra answers (.headersEnd .response endStream))
    hdirect rfl
  obtain ⟨hvalid, hfailure, hlimit, htyped, hroom⟩ := clean_iff.mp h.clean
  have hroom' : (call.apply (.event ra answers
      (.headersEnd .response endStream))).metadataTooLarge = false :=
    (congrArg MetadataStore.tooLarge hstore).trans hroom
  have hclean : (call.apply (.event ra answers (.headersEnd .response endStream))).Clean ↔
      ((r.typeSeen || r.statusSeen && endStream) && (endStream || !r.statusEarly)) = true := by
    rw [clean_iff, hbadType, hbadStatus, field_of_eraseHeaders herase failureFlags fun _ => rfl,
      field_of_eraseHeaders herase responseQueueLimitExceeded fun _ => rfl,
      hroom', hvalid, hfailure, hlimit, htyped, h.typeSeen, h.statusSeen, h.statusEarly,
      Bool.and_eq_true, Bool.false_or, Bool.false_or, Bool.not_eq_false', Bool.not_eq_false']
    tauto
  unfold ResponseReader.onResponseEnd
  split
  · next hgood =>
    have hkept := hclean.mpr hgood
    obtain ⟨hreading, hqueue, hcounted, hbody⟩ := h.still hdirect (by simp) rfl hkept
    exact ⟨hkept, hreading, htype.trans h.typeSeen, hstatus.trans h.statusSeen,
      hearly.trans h.statusEarly, (congrArg MetadataStore.count hstore).trans h.fields,
      (congrArg MetadataStore.bytes hstore).trans h.fieldBytes,
      (congrArg Option.isSome (field_of_eraseHeaders herase connection fun _ => rfl)).trans
        h.attached, hqueue, hcounted, hbody⟩
  · next hbad => exact fun hkept => hbad (hclean.mp hkept)

/-- A chunk in front of any status that the parser reads to its end. -/
theorem ReadBy.fed {ra : ReadAhead} {answers : List Int} {bytes : Bytes}
    (hseen : call.grpcStatusSeen = false) {d : Decoder RejectReason} {taken : List Bytes}
    (hqueue : r.decoder.messages = taken ++ call.responseQueue)
    (hd : d = r.decoder.feed (ResponseReader.check call.responseLimits) bytes)
    (hfine : d.failure = none)
    (hfed : Tracks call.maxResponseMessages call.maxReceiveMessageBytes call.grpcEncoding
      (call.apply (.event ra answers (.data bytes))) taken d) :
    (call.apply (.event ra answers (.data bytes))).ReadBy { r with
      decoder := d, waiting := r.waiting ++ d.messages.drop r.decoder.messages.length } := by
  have hdata : call.apply (.event ra answers (.data bytes)) =
      (processResponseDataDirect ra ⟨call, answers, []⟩ bytes).1.call := by
    rcases call.apply_data hdirect ra answers bytes with ⟨hsame, rfl⟩ | ⟨hyes, -⟩ | ⟨-, hdata⟩
    · rw [hsame, processResponseDataDirect, hseen, if_neg Bool.false_ne_true]
      split <;> rfl
    · exact absurd (hseen.symm.trans hyes) Bool.false_ne_true
    · exact hdata
  have hmoves := processResponseDataDirect_moves ra bytes ⟨call, answers, []⟩ hseen
  rw [← hdata] at hmoves
  have hsame {α : Type} (f : GrpcCall → α) (hf : ∀ c, f c.eraseBody = f c) :=
    BodyStep.field hmoves.bodyStep.frame f hf
  -- behind an unfinished or complete message the parser has raised no flag
  have hphase : (call.apply (.event ra answers (.data bytes))).failureFlags = {} ∧
      (call.apply (.event ra answers (.data bytes))).discardResponseBody = false := by
    have hphase := hfed.phase
    cases hp : d.phase with
    | header buf | payload len got =>
      rw [hp] at hphase
      exact ⟨hphase.1, hphase.2.1⟩
    | failed e =>
      rw [Decoder.failure, hp] at hfine
      cases hfine
  obtain ⟨hvalid, -, -, htype, hroom⟩ := clean_iff.mp h.clean
  have hclean : (call.apply (.event ra answers (.data bytes))).Clean :=
    clean_iff.mpr ⟨(hsame invalidGrpcStatus fun _ => rfl).trans hvalid, hphase.1, hfed.noDrop,
      (hsame invalidContentType fun _ => rfl).trans htype,
      (hsame metadataTooLarge fun _ => rfl).trans hroom⟩
  obtain ⟨new, hnew⟩ := r.decoder.messages_prefix_feed
    (ResponseReader.check call.responseLimits) bytes
  rw [← hd] at hnew
  have hwaiting : (call.apply (.event ra answers (.data bytes))).responseQueue =
      call.responseQueue ++ new := by
    have hmessages := hfed.messages
    rw [← hnew, hqueue, List.append_assoc] at hmessages
    exact (List.append_cancel_left hmessages).symm
  obtain ⟨hmax, hbytes, -⟩ := limits_of_config (call.apply_config (.event ra answers (.data bytes)))
  refine ⟨hclean, hphase.2, (hsame contentTypeSeen fun _ => rfl).trans h.typeSeen,
    (hsame grpcStatusSeen fun _ => rfl).trans h.statusSeen,
    (hsame initialGrpcStatusSeen fun _ => rfl).trans h.statusEarly,
    (hsame metadataEntryCount fun _ => rfl).trans h.fields,
    (hsame metadataBytes fun _ => rfl).trans h.fieldBytes,
    (congrArg Option.isSome (hsame connection fun _ => rfl)).trans h.attached, ?_,
    h.counted.apply hdirect _, taken, ?_⟩
  · rw [hwaiting, h.waiting, ← hnew, List.drop_left]
  · rw [hmax, hbytes, hsame grpcEncoding fun _ => rfl]
    exact hfed

/-- A chunk of the body. -/
theorem ReadBy.data (ra : ReadAhead) (answers : List Int) (bytes : Bytes) :
    (call.apply (.event ra answers (.data bytes))).Proceeds
      (r.onData call.responseLimits ra bytes) := by
  unfold ResponseReader.onData
  dsimp only
  by_cases hnil : bytes = []
  · subst hnil
    rw [if_pos rfl]
    exact h
  rw [if_neg hnil]
  rcases call.apply_data hdirect ra answers bytes with ⟨-, hempty⟩ | ⟨hseen, hreject⟩ | ⟨hseen, hdata⟩
  · exact absurd hempty hnil
  · rw [if_pos (h.statusSeen ▸ hseen), hreject]
    exact fun hclean => Bool.false_ne_true hclean.status.symm
  rw [if_neg (by rw [← h.statusSeen, hseen]; decide)]
  obtain ⟨taken, htracks⟩ := h.body
  have hroom : readAheadRoom ra call (taken ++ call.responseQueue).length = r.room ra := by
    funext messages len
    rw [readAheadRoom, ResponseReader.room, hdirect.queue, h.attached, h.counted.count,
      h.counted.bytes, h.waiting, htracks.messages, h.waiting, Bool.true_and]
  have hread : (Dropped ra (call.apply (.event ra answers (.data bytes))) ∧
      r.decoder.overruns (ResponseReader.check call.responseLimits) (r.room ra) bytes = true) ∨
      Tracks call.maxResponseMessages call.maxReceiveMessageBytes call.grpcEncoding
          (call.apply (.event ra answers (.data bytes))) taken
          (r.decoder.feed (ResponseReader.check call.responseLimits) bytes) ∧
        r.decoder.overruns (ResponseReader.check call.responseLimits) (r.room ra) bytes = false := by
    rw [hdata, ← hroom]
    exact @processResponseDataDirect_tracks _ _ _ _ ra bytes _ ⟨call, answers, []⟩ hseen rfl htracks
  rcases hread with ⟨hdrop, hover⟩ | ⟨hfed, hover⟩
  · rw [if_pos (Bool.or_eq_true_iff.mpr (.inr hover))]
    exact fun hclean => Bool.false_ne_true ((clean_iff.mp hclean).2.2.1.symm.trans hdrop.2)
  · rw [hover, Bool.or_false]
    split
    · next hfailed =>
      intro hclean
      obtain ⟨e, he⟩ := Option.isSome_iff_exists.mp hfailed
      have hphase := hfed.phase
      unfold Decoder.failure at he
      cases hp : (r.decoder.feed (ResponseReader.check call.responseLimits) bytes).phase with
      | failed e' =>
        rw [hp] at hphase
        exact RejectReason.flags_ne _ e' (hphase.1.symm.trans (clean_iff.mp hclean).2.1)
      | header buf | payload len got =>
        rw [hp] at he
        cases he
    · next hfine =>
      rw [Bool.not_eq_true, Option.isSome_eq_false_iff, Option.isNone_iff_eq_none] at hfine
      exact h.fed hdirect hseen htracks.messages rfl hfine hfed

omit hdirect in
/-- The front of the queue is taken out. -/
theorem ReadBy.dropFront {front rest : List Bytes} {count bytes : Nat}
    {call' : GrpcCall} (hqueue : call.responseQueue = front ++ rest)
    (hcall' : call' = { call with
      responseQueue := rest, responseQueueCount := count, responseQueueBytes := bytes })
    (hcounted : call'.QueueCounted) : call'.ReadBy { r with waiting := rest } := by
  subst hcall'
  obtain ⟨taken, htracks⟩ := h.body
  have hmessages : r.decoder.messages = taken ++ front ++ rest := by
    rw [htracks.messages, hqueue, List.append_assoc]
  exact ⟨⟨h.clean.status, h.clean.response⟩, h.reading, h.typeSeen, h.statusSeen, h.statusEarly,
    h.fields, h.fieldBytes, h.attached, rfl, hcounted, taken ++ front,
    rfl, rfl, htracks.queueing, htracks.buffer, htracks.noDrop, hmessages, htracks.phase⟩

/-- What is taken out of the queue. -/
theorem ReadBy.takeOut {i : CallInput} (hin : i.takesOut = true) :
    (call.apply i).Proceeds (r.step call.responseLimits i) := by
  have hcounted := h.counted.apply hdirect i
  have hwaiting := h.waiting
  have hempty (hnil : call.responseQueue = []) :
      call.ReadBy { r with waiting := r.waiting.tail } := by
    have hnone : r.waiting = [] := h.waiting.symm.trans hnil
    have hsame : { r with waiting := r.waiting.tail } = r := by rw [hnone, List.tail_nil, ← hnone]
    rw [hsame]
    exact h
  cases i with
  | dequeue =>
    cases hqueue : call.responseQueue with
    | nil =>
      rw [apply_dequeue_nil hqueue]
      exact hempty hqueue
    | cons payload rest =>
      rw [apply_dequeue_cons hqueue] at hcounted ⊢
      rw [hqueue] at hwaiting
      rw [ResponseReader.step, ← hwaiting]
      exact h.dropFront (List.singleton_append ▸ hqueue) rfl hcounted
  | take =>
    cases hqueue : call.responseQueue with
    | nil =>
      rw [apply_take_nil hqueue]
      exact hempty hqueue
    | cons payload rest =>
      rw [apply_take_cons h.counted hqueue] at hcounted ⊢
      rw [hqueue] at hwaiting
      rw [ResponseReader.step, ← hwaiting]
      exact h.dropFront (List.singleton_append ▸ hqueue) rfl hcounted
  | freeQueue =>
    exact h.dropFront (List.append_nil _).symm rfl hcounted
  | _ => cases hin

/-- One input: the reader goes on exactly when the record stays free of violations, and stands
where the record stands. -/
theorem ReadBy.step (i : CallInput) :
    (call.apply i).Proceeds (r.step call.responseLimits i) := by
  have hkept {i : CallInput} (hi : i.inHeaders = false)
      (hdata : ∀ ra answers bytes, i ≠ .event ra answers (.data bytes)) (hin : i.takesOut = false)
      (hclean : (call.apply i).Clean) {attached : Bool}
      (hattached : (call.apply i).connection.isSome = attached) :
      (call.apply i).ReadBy { r with attached := attached } := by
    refine h.other hdirect ?_ (apply_headerFlags hdirect hi) hdata hin hclean hattached
    cases i with
    | event ra answers event =>
      cases event with
      | header => cases hi
      | _ => rfl
    | _ => rfl
  have hstatus := h.clean.status
  have hresponse := h.clean.response
  cases i with
  | event ra answers event =>
    cases event with
    | header cat name value => exact h.header hdirect ra answers cat name value
    | headersEnd cat endStream =>
      cases cat with
      | response => exact h.responseEnd hdirect ra answers endStream
      | headers =>
        have hflags := call.apply_headersEnd_headerFlags ra answers
          (show HeaderCategory.headers ≠ .response by decide) endStream
        cases endStream with
        | false => exact h
        | true =>
          refine h.other hdirect rfl hflags (by simp) rfl ?_ h.attached
          exact ⟨hstatus, hresponse⟩
      | other => exact h
    | data bytes => exact h.data hdirect ra answers bytes
    | pushPromise =>
      refine fun hclean => ?_
      have hflags := congrArg FailureFlags.malformed (clean_iff.mp hclean).2.1
      simp only [apply, onEvent, onPushPromise, submitRstStream_call] at hflags
      exact Bool.false_ne_true hflags.symm
    | rstStream | closed =>
      refine hkept rfl (by simp) rfl ?_ h.attached
      exact ⟨hstatus, hresponse⟩
  | dequeue | take | freeQueue => exact h.takeOut hdirect rfl
  | truncated =>
    exact fun hclean => Bool.false_ne_true
      (congrArg FailureFlags.malformed (clean_iff.mp hclean).2.1).symm
  | registered k =>
    refine hkept (i := .registered k) rfl (by simp) rfl ?_ rfl
    exact ⟨hstatus, hresponse⟩
  | ownerCleared forget =>
    cases forget with
    | false =>
      refine hkept rfl (by simp) rfl ?_ h.attached
      exact ⟨hstatus, hresponse⟩
    | true =>
      refine hkept (i := .ownerCleared true) rfl (by simp) rfl ?_ rfl
      exact ⟨hstatus, hresponse⟩
  | connectionBroken errno detail =>
    have hsame : (call.apply (.connectionBroken errno detail)).Clean ∧
        (call.apply (.connectionBroken errno detail)).connection = call.connection := by
      simp only [apply]
      split
      · exact ⟨h.clean, rfl⟩
      · exact ⟨⟨hstatus, hresponse⟩, rfl⟩
    exact hkept rfl (by simp) rfl hsame.1 ((congrArg Option.isSome hsame.2).trans h.attached)
  | refused | submitted | unregistered | timedOut | ioError | locallyCancelled | userCancelled
  | requestSent =>
    refine hkept rfl (by simp) rfl ?_ h.attached
    exact ⟨hstatus, hresponse⟩

end Step

/-- Along a run the reader goes on exactly as long as the record is free of violations. -/
theorem ReadBy.run {call : GrpcCall} {r : ResponseReader} (h : call.ReadBy r)
    (hdirect : call.Direct) (inputs : List CallInput) :
    (call.applyAll inputs).Proceeds (r.run call.responseLimits inputs) := by
  induction inputs generalizing call r with
  | nil => exact h
  | cons i inputs ih =>
    have hstep := h.step hdirect i
    have hlimits : (call.apply i).responseLimits = call.responseLimits :=
      responseLimits_of_config (call.apply_config i)
    rw [ResponseReader.run, List.foldlM_cons]
    cases hr : r.step call.responseLimits i with
    | none =>
      rw [hr] at hstep
      exact fun hclean => hstep (hclean.of_applyAll (hdirect.apply i))
    | some r' =>
      rw [hr] at hstep
      have hrest := ih hstep (hdirect.apply i)
      rw [hlimits] at hrest
      exact hrest

/-- A call of one of the drivers keeps the rules exactly when its inputs do. -/
theorem Started.clean_iff_lawful {start : GrpcCall} {k : ConnId} (hstart : start.Started k)
    (inputs : List CallInput) : (start.applyAll inputs).Clean ↔ start.Lawful inputs := by
  have hread : start.ReadBy {} := by
    have htracks := FreshBody.tracks hstart.freshBody
    have hunread := hstart.queueCounted.1
    obtain ⟨req, retryAttempt, rfl | rfl⟩ := hstart
    · exact ⟨⟨rfl, rfl⟩, rfl, rfl, rfl, rfl, rfl, rfl, rfl, rfl, hunread, [], htracks⟩
    · exact ⟨⟨rfl, rfl⟩, rfl, rfl, rfl, rfl, rfl, rfl, rfl, rfl, hunread, [], htracks⟩
  have hrun := hread.run hstart.direct inputs
  unfold Lawful
  cases hr : ResponseReader.run start.responseLimits {} inputs with
  | none =>
    rw [hr] at hrun
    exact ⟨fun hclean => absurd hclean hrun, fun hsome => absurd hsome Bool.false_ne_true⟩
  | some r =>
    rw [hr] at hrun
    exact ⟨fun _ => rfl, fun _ => ReadBy.clean hrun⟩

end GrpcCall

end GrpcLite
