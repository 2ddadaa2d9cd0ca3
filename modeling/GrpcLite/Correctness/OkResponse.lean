import GrpcLite.Correctness.ResponseRules

/-!
# What an OK stands for

A response that is reported as OK has one grpc-status, which is zero, satisfies the
content-type rule, and its body is a whole number of messages, all of which are handed
out. That holds unless the response is cut off at a place where the driver does not
look, and nothing else speaks against an OK: in front of the content-type, or inside a
message on a stream that is not known to be closed, was reset, or has lost its connection.
-/

namespace GrpcLite

open Framing

namespace CallInput

/-- The input brings a content-type. -/
def isContentType (i : CallInput) : Bool :=
  i.fieldIs fun name _ => decide (name = HeaderName.contentType)

end CallInput

/-! ## The response -/

/-- The content-type rule, for a response whose headers may have been cut off. -/
structure ContentTypeRule (inputs : List CallInput) : Prop where
  /-- Every content-type is one of gRPC. -/
  valid : inputs.any (·.fieldIs isBadContentType) = false
  /-- A content-type stands in front of the end of the response headers, unless these end the
  stream with a grpc-status. -/
  placed : ∀ pre ra answers endStream post,
    inputs = pre ++ .event ra answers (.headersEnd .response endStream) :: post →
      pre.any CallInput.isContentType = true ∨
        pre.filterMap CallInput.statusField ≠ [] ∧ endStream = true
  /-- A content-type is there, or headers that end the stream with a grpc-status. -/
  present : inputs.any CallInput.isContentType = true ∨ ∃ pre ra answers post,
    inputs = pre ++ .event ra answers (.headersEnd .response true) :: post ∧
      pre.filterMap CallInput.statusField ≠ []

/-- A complete and valid response with the messages `payloads`. -/
structure WholeResponse (start : GrpcCall) (inputs : List CallInput) (payloads : List Bytes) :
    Prop where
  /-- The only grpc-status is zero. -/
  status : ∃ value, inputs.filterMap CallInput.statusField = [value] ∧
    Protocol.parseStatusValue value = 0
  /-- The content-type rule holds. -/
  contentType : ContentTypeRule inputs
  /-- The messages are within the limits of the call. -/
  accepted : FramePrefix start.maxResponseMessages start.maxReceiveMessageBytes
    (inputs.flatMap CallInput.bytes) payloads
  /-- The body consists of them. -/
  whole : inputs.flatMap CallInput.bytes = encode payloads

/-- The body bytes stop inside a message. -/
def GrpcCall.stopsInside (call : GrpcCall) (bytes : Bytes) : Bool :=
  !(call.decoded bytes).atBoundary

/-- A body that consists of messages stops behind one. -/
theorem WholeResponse.not_stopsInside {start : GrpcCall} {inputs : List CallInput}
    {payloads : List Bytes} (h : WholeResponse start inputs payloads) :
    start.stopsInside (inputs.flatMap CallInput.bytes) = false := by
  have hdecoded := decode_encode _ payloads (framePrefix_iff.mp h.accepted).1
  rw [← h.whole] at hdecoded
  rw [GrpcCall.stopsInside, GrpcCall.decoded, hdecoded]
  rfl

/-- The client does not cancel. -/
def Undisturbed (inputs : List CallInput) : Prop :=
  .locallyCancelled ∉ inputs ∧ .userCancelled ∉ inputs

namespace GrpcCall

/-- The inputs of a server stream: no payload is taken the way the unary driver takes it, and the
queue is freed behind a violated rule only. -/
def Pulled : GrpcCall → List CallInput → Prop
  | _, [] => True
  | call, i :: inputs =>
    i ≠ .take ∧ (i = .freeQueue → call.validationFailed = true) ∧ (call.apply i).Pulled inputs

/-! ## The status code -/

theorem resetStatus_ne_ok (code : Nat) : resetStatus code ≠ 0 := by
  unfold resetStatus
  split <;> decide

theorem endCode_ne_ok (call : GrpcCall) : call.endCode ≠ 0 := by
  unfold endCode
  split
  · decide
  split
  · exact resetStatus_ne_ok _
  split
  · decide
  split <;> decide

/-- OK needs a received status and an exchange without violations before its deadline. -/
theorem statusCode_ok {call : GrpcCall} (h : statusCodeFromCall call false = 0) :
    call.timedOut = false ∧ call.Clean ∧ call.grpcStatus = 0 := by
  have htime : call.timedOut = false := by
    by_contra hlate
    rw [statusCodeFromCall, if_pos (Bool.not_eq_false _ ▸ hlate)] at h
    cases h
  have hclean : call.Clean := by
    unfold statusCodeFromCall at h
    rw [if_neg (by rw [htime]; decide), if_neg Bool.false_ne_true] at h
    by_cases hstatus : call.invalidGrpcStatus = true
    · rw [if_pos hstatus] at h
      cases h
    rw [if_neg hstatus] at h
    by_cases hhttp : call.grpcStatus < 0 ∧ call.httpStatus ≠ 200
    · rw [if_pos hhttp] at h
      exact absurd h (httpStatusCode_ne_ok _)
    rw [if_neg hhttp] at h
    by_cases htype : call.invalidContentType = true
    · rw [if_pos htype] at h
      cases h
    rw [if_neg htype] at h
    by_cases hlimits : (call.responseMessageTooLarge || call.metadataTooLarge ||
        call.responseQueueLimitExceeded) = true
    · rw [if_pos hlimits] at h
      cases h
    rw [if_neg hlimits] at h
    by_cases hmalformed : call.malformedResponseFrame = true
    · rw [if_pos hmalformed] at h
      cases h
    rw [if_neg hmalformed] at h
    by_cases hcoding : (call.compressedResponseSeen || call.unsupportedResponseEncoding) = true
    · rw [if_pos hcoding] at h
      cases h
    simp only [Bool.or_eq_true, not_or, Bool.not_eq_true] at hstatus htype hlimits hmalformed hcoding
    refine ⟨hstatus, validationFailed_eq_false.mpr ⟨?_, hlimits.2, htype, hlimits.1.2⟩⟩
    simp only [failureFlags, hmalformed, hlimits.1.1, hcoding.1, hcoding.2]
  refine ⟨htime, hclean, ?_⟩
  rw [hclean.statusCode htime] at h
  split at h
  · exact absurd h (httpStatusCode_ne_ok _)
  split at h
  · exact h
  · exact absurd h (endCode_ne_ok call)

/-! ## The fields -/

/-- The end of a block brings no field. -/
theorem apply_headersEnd_seen (call : GrpcCall) (ra : ReadAhead) (answers : List Int)
    (cat : HeaderCategory) (endStream : Bool) :
    (call.apply (.event ra answers (.headersEnd cat endStream))).grpcStatusSeen =
        call.grpcStatusSeen ∧
      (call.apply (.event ra answers (.headersEnd cat endStream))).contentTypeSeen =
        call.contentTypeSeen := by
  cases cat with
  | response =>
    simp only [apply, CallbackState.onEvent, CallbackState.onHeadersFrame]
    split <;> split <;> exact ⟨rfl, rfl⟩
  | headers =>
    simp only [apply, CallbackState.onEvent, CallbackState.onHeadersFrame]
    split <;> exact ⟨rfl, rfl⟩
  | other => exact ⟨rfl, rfl⟩

/-- What has been seen of the two fields. -/
theorem apply_seen {call : GrpcCall} (h : call.Direct) (i : CallInput) :
    (call.apply i).grpcStatusSeen = (call.grpcStatusSeen || i.statusField.isSome) ∧
      (call.apply i).contentTypeSeen = (call.contentTypeSeen || i.isContentType) := by
  by_cases hi : i.inHeaders = true
  · cases i with
    | event ra answers event =>
      cases event with
      | header cat name value =>
        have hflags := call.apply_header_headerFlags ra answers cat name value
        have hstatus : (CallInput.statusField (.event ra answers (.header cat name value))).isSome =
            decide (name = HeaderName.grpcStatus) := by
          simp only [CallInput.statusField]
          split <;> simp [*]
        refine ⟨?_, congrArg HeaderFlags.contentTypeSeen hflags⟩
        rw [hstatus]
        exact congrArg HeaderFlags.grpcStatusSeen hflags
      | headersEnd cat endStream =>
        obtain ⟨hstatus, htype⟩ := call.apply_headersEnd_seen ra answers cat endStream
        exact ⟨hstatus.trans (Bool.or_false _).symm, htype.trans (Bool.or_false _).symm⟩
      | _ => cases hi
    | _ => cases hi
  · have hflags := apply_headerFlags h (Bool.not_eq_true _ ▸ hi)
    have hnone : i.statusField.isSome = false ∧ i.isContentType = false := by
      cases i with
      | event ra answers event =>
        cases event with
        | header | headersEnd => exact absurd rfl hi
        | _ => exact ⟨rfl, rfl⟩
      | _ => exact ⟨rfl, rfl⟩
    rw [hnone.1, hnone.2, Bool.or_false, Bool.or_false]
    exact ⟨congrArg HeaderFlags.grpcStatusSeen hflags, congrArg HeaderFlags.contentTypeSeen hflags⟩

theorem applyAll_contentTypeSeen {call : GrpcCall} (h : call.Direct) (inputs : List CallInput) :
    (call.applyAll inputs).contentTypeSeen =
      (call.contentTypeSeen || inputs.any CallInput.isContentType) := by
  induction inputs generalizing call with
  | nil => exact (Bool.or_false _).symm
  | cons i inputs ih =>
    refine (ih (h.apply i)).trans ?_
    rw [(apply_seen h i).2, List.any_cons, Bool.or_assoc]

theorem applyAll_grpcStatusSeen {call : GrpcCall} (h : call.Direct) (inputs : List CallInput) :
    (call.applyAll inputs).grpcStatusSeen =
      (call.grpcStatusSeen || !(inputs.filterMap CallInput.statusField).isEmpty) := by
  induction inputs generalizing call with
  | nil => exact (Bool.or_false _).symm
  | cons i inputs ih =>
    refine (ih (h.apply i)).trans ?_
    rw [(apply_seen h i).1, List.filterMap_cons]
    cases i.statusField with
    | none => simp
    | some value => simp

/-! ## The only status -/

/-- A second status is a violation. -/
theorem statusField_of_seen {call : GrpcCall} (hdirect : call.Direct) {inputs : List CallInput}
    (hseen : call.grpcStatusSeen = true)
    (hvalid : (call.applyAll inputs).invalidGrpcStatus = false) :
    inputs.filterMap CallInput.statusField = [] := by
  induction inputs generalizing call with
  | nil => rfl
  | cons i inputs ih =>
    have hnext : (call.apply i).grpcStatusSeen = true := by
      rw [(apply_seen hdirect i).1, hseen, Bool.true_or]
    rw [List.filterMap_cons]
    cases hfield : i.statusField with
    | none => exact ih (hdirect.apply i) hnext hvalid
    | some value =>
      have hviolated : (call.apply i).invalidGrpcStatus = true := by
        cases i with
        | event ra answers event =>
          cases event with
          | header cat name value' =>
            simp only [CallInput.statusField] at hfield
            split at hfield
            · next hname =>
              rw [apply_header_invalidGrpcStatus, decide_eq_true hname, hseen, Bool.true_or,
                Bool.and_true, Bool.or_true]
            · cases hfield
          | _ => cases hfield
        | _ => cases hfield
      have hend := invalidGrpcStatus_applyAll (hdirect.apply i) hviolated inputs
      exact absurd (hvalid.symm.trans hend) Bool.false_ne_true

/-- The status that is left without a violation is that of the only field. -/
theorem only_status {call : GrpcCall} (hdirect : call.Direct) {inputs : List CallInput}
    (hcalm : .userCancelled ∉ inputs) (hnone : call.grpcStatus < 0)
    (hseen : call.grpcStatusSeen = false) (hstatus : 0 ≤ (call.applyAll inputs).grpcStatus)
    (hvalid : (call.applyAll inputs).invalidGrpcStatus = false) :
    ∃ value, inputs.filterMap CallInput.statusField = [value] ∧
      Protocol.parseStatusValue value = (call.applyAll inputs).grpcStatus := by
  induction inputs generalizing call with
  | nil => exact absurd hstatus (Int.not_le.mpr hnone)
  | cons i inputs ih =>
    rw [List.mem_cons, not_or] at hcalm
    have hafter := apply_grpcStatus hdirect i
    cases hfield : i.statusField with
    | none =>
      rw [List.filterMap_cons_none hfield]
      refine ih (hdirect.apply i) hcalm.2 ?_ ?_ hstatus hvalid
      · rw [hafter]
        cases i with
        | event ra answers event =>
          cases event with
          | header cat name value =>
            simp only [CallInput.statusField] at hfield
            split at hfield
            · cases hfield
            · next hname =>
              simp only [CallInput.statusAfter, if_neg hname]
              exact hnone
          | _ => exact hnone
        | userCancelled => exact absurd rfl hcalm.1
        | _ => exact hnone
      · rw [(apply_seen hdirect i).1, hseen, hfield]
        rfl
    | some value =>
      have hlast : inputs.filterMap CallInput.statusField = [] := by
        refine statusField_of_seen (hdirect.apply i) ?_ hvalid
        rw [(apply_seen hdirect i).1, hfield, Option.isSome_some, Bool.or_true]
      have hother : inputs.any (·.fieldIs fun name _ => decide (name = HeaderName.grpcStatus)) =
          false := by
        refine List.any_eq_false.mpr fun j hj hfound => ?_
        have hnot := List.filterMap_eq_nil_iff.mp hlast j hj
        cases j with
        | event ra answers event =>
          cases event with
          | header cat name value' =>
            rw [CallInput.statusField, if_pos (of_decide_eq_true hfound)] at hnot
            cases hnot
          | _ => cases hfound
        | _ => cases hfound
      refine ⟨value, by rw [List.filterMap_cons_some hfield, hlast], ?_⟩
      have hkept := applyAll_grpcStatus (hdirect.apply i) hother hcalm.2
      refine Eq.trans ?_ hkept.symm
      rw [hafter]
      cases i with
      | event ra answers event =>
        cases event with
        | header cat name value' =>
          simp only [CallInput.statusField] at hfield
          split at hfield
          · next hname =>
            rw [CallInput.statusAfter, if_pos hname, Option.some.inj hfield]
          · cases hfield
        | _ => cases hfield
      | _ => cases hfield

/-! ## The content-type -/

theorem invalidContentType_of_applyAll {call : GrpcCall} (hdirect : call.Direct)
    {inputs : List CallInput} (h : (call.applyAll inputs).invalidContentType = false) :
    call.invalidContentType = false := by
  induction inputs generalizing call with
  | nil => exact h
  | cons i inputs ih => exact invalidContentType_of_apply hdirect (ih (hdirect.apply i) h)

/-- The rule behind an exchange that does not violate it. -/
theorem contentTypeRule {call : GrpcCall} (hdirect : call.Direct) {inputs : List CallInput}
    (hfresh : call.contentTypeSeen = false ∧ call.grpcStatusSeen = false)
    (h : (call.applyAll inputs).invalidContentType = false)
    (harrived : inputs.any CallInput.isContentType = true ∨
      inputs.any CallInput.endsResponse = true) : ContentTypeRule inputs := by
  have hat (pre : List CallInput) (i : CallInput) (post : List CallInput)
      (hsplit : inputs = pre ++ i :: post) :
      ((call.applyAll pre).apply i).invalidContentType = false := by
    rw [hsplit, applyAll_append] at h
    exact invalidContentType_of_applyAll ((hdirect.applyAll pre).apply i) h
  have hplaced : ∀ pre ra answers endStream post,
      inputs = pre ++ .event ra answers (.headersEnd .response endStream) :: post →
        pre.any CallInput.isContentType = true ∨
          pre.filterMap CallInput.statusField ≠ [] ∧ endStream = true := by
    intro pre ra answers endStream post hsplit
    have hend := hat pre _ post hsplit
    have htype := applyAll_contentTypeSeen hdirect pre
    have hstatus := applyAll_grpcStatusSeen hdirect pre
    rw [hfresh.1, Bool.false_or] at htype
    rw [hfresh.2, Bool.false_or] at hstatus
    by_contra hmissing
    rw [not_or, Bool.not_eq_true, not_and'] at hmissing
    have hrule : (!(call.applyAll pre).contentTypeSeen &&
        !((call.applyAll pre).grpcStatusSeen && endStream)) = true := by
      rw [htype, hstatus, hmissing.1]
      cases endStream with
      | false => simp
      | true => simpa using hmissing.2 rfl
    simp only [apply, CallbackState.onEvent, CallbackState.onHeadersFrame, if_pos hrule] at hend
    split at hend <;> cases hend
  refine ⟨List.any_eq_false.mpr fun i hi hbad => ?_, hplaced, ?_⟩
  · obtain ⟨pre, post, hsplit⟩ := List.append_of_mem hi
    cases i with
    | event ra answers event =>
      cases event with
      | header cat name value =>
        have hflags := congrArg HeaderFlags.invalidContentType
          ((call.applyAll pre).apply_header_headerFlags ra answers cat name value)
        have hnot := (Bool.or_eq_false_iff.mp (hflags.symm.trans (hat pre _ post hsplit))).2
        exact absurd (hnot.symm.trans hbad) Bool.false_ne_true
      | _ => cases hbad
    | _ => cases hbad
  · rcases harrived with htyped | hended
    · exact .inl htyped
    obtain ⟨i, hi, hend⟩ := List.any_eq_true.mp hended
    obtain ⟨pre, post, hsplit⟩ := List.append_of_mem hi
    cases i with
    | event ra answers event =>
      cases event with
      | headersEnd cat endStream =>
        obtain rfl : cat = .response := of_decide_eq_true hend
        rcases hplaced pre ra answers endStream post hsplit with htyped | ⟨hstatus, rfl⟩
        · refine .inl ?_
          rw [hsplit, List.any_append, htyped, Bool.true_or]
        · exact .inr ⟨pre, ra, answers, post, hsplit, hstatus⟩
      | _ => cases hend
    | _ => cases hend

/-! ## The body -/

/-- What the inputs of a server stream leave of its body. -/
theorem Reads.pulled {call : GrpcCall} {taken : List Bytes} {bytes : Bytes}
    (h : call.Reads taken bytes) (hdirect : call.Direct) {inputs : List CallInput}
    (hpulled : call.Pulled inputs) :
    (call.applyAll inputs).Reads (taken ++ call.deliveredBy inputs)
      (bytes ++ inputs.flatMap CallInput.bytes) := by
  induction inputs generalizing call taken bytes with
  | nil =>
    rw [deliveredBy, List.flatMap_nil, List.append_nil, List.append_nil]
    exact h
  | cons i inputs ih =>
    obtain ⟨htake, hfree, hrest⟩ := hpulled
    have hstep : (call.apply i).Reads
        (taken ++ if i.pops then call.responseQueue.head?.toList else []) (bytes ++ i.bytes) := by
      by_cases hin : i.takesOut = false
      · have hpops : i.pops = false := by
          cases i with
          | dequeue | take => cases hin
          | _ => rfl
        rw [hpops, if_neg Bool.false_ne_true, List.append_nil]
        exact h.apply hdirect hin
      · cases i with
        | dequeue =>
          have hbytes : bytes ++ CallInput.bytes .dequeue = bytes := List.append_nil _
          rw [if_pos (show CallInput.dequeue.pops = true from rfl), hbytes]
          cases hqueue : call.responseQueue with
          | nil =>
            rw [apply_dequeue_nil hqueue, List.head?_nil, Option.toList_none,
              List.append_nil]
            exact h
          | cons payload rest => exact h.dequeue hqueue
        | take => exact absurd rfl htake
        | freeQueue => exact .rejected (hfree rfl)
        | _ => exact absurd rfl hin
    have hnext := ih hstep (hdirect.apply i) hrest
    rw [List.append_assoc, List.append_assoc] at hnext
    exact hnext

/-- What inputs leave of a body that nothing is taken from. -/
theorem Reads.applyAll {call : GrpcCall} {taken : List Bytes} {bytes : Bytes}
    (h : call.Reads taken bytes) (hdirect : call.Direct) {inputs : List CallInput}
    (hin : ∀ i ∈ inputs, i.takesOut = false) :
    (call.applyAll inputs).Reads taken (bytes ++ inputs.flatMap CallInput.bytes) := by
  induction inputs generalizing call bytes with
  | nil =>
    rw [List.flatMap_nil, List.append_nil]
    exact h
  | cons i inputs ih =>
    have hnext := ih (h.apply hdirect (hin i List.mem_cons_self)) (hdirect.apply i)
      fun j hj => hin j (List.mem_cons_of_mem _ hj)
    rw [List.append_assoc] at hnext
    exact hnext

/-- Without a violation the parser stands where the reference decoding ends. -/
theorem Reads.clean {call : GrpcCall} {taken : List Bytes} {bytes : Bytes}
    (h : call.Reads taken bytes) (hclean : call.Clean) :
    (call.decoded bytes).messages = taken ++ call.responseQueue ∧
      call.midMessage = call.stopsInside bytes ∧
      (call.stopsInside bytes = false → (call.decoded bytes).phase = .header []) := by
  cases h with
  | rejected hfailed => exact absurd (hclean.response.symm.trans hfailed) Bool.false_ne_true
  | stopped hdiscard hstatus =>
    exact absurd (hclean.status.symm.trans hstatus) Bool.false_ne_true
  | reading hdiscard htracks =>
    refine ⟨htracks.messages, ?_⟩
    have hphase := htracks.phase
    unfold stopsInside Decoder.atBoundary midMessage
    cases hp : (call.decoded bytes).phase with
    | header buf =>
      rw [hp] at hphase
      obtain ⟨-, -, -, hlen, -, -, hoffset, hpayload, -⟩ := hphase
      rw [hlen, hoffset, hpayload]
      cases buf with
      | nil => exact ⟨rfl, fun _ => rfl⟩
      | cons b buf => exact ⟨by simp, fun hnot => absurd hnot (by simp)⟩
    | payload len got =>
      rw [hp] at hphase
      obtain ⟨-, -, -, -, -, -, hpayload, -⟩ := hphase
      rw [hpayload]
      exact ⟨by simp, fun hnot => absurd hnot (by simp)⟩
    | failed e =>
      rw [hp] at hphase
      exact absurd (hdiscard.symm.trans hphase.2.1) Bool.false_ne_true

/-- A body that does not stop inside a message consists of those that have been read. -/
theorem whole_of_not_stopsInside {call : GrpcCall} {bytes : Bytes} {payloads : List Bytes}
    (hmessages : (call.decoded bytes).messages = payloads)
    (hend : (call.decoded bytes).phase = .header []) :
    FramePrefix call.maxResponseMessages call.maxReceiveMessageBytes bytes payloads ∧
      bytes = encode payloads := by
  obtain ⟨haccepted, hencode, hwhole⟩ := decode_sound
    (responseCheck_flag call.maxResponseMessages call.maxReceiveMessageBytes) bytes
  rw [← hmessages]
  exact ⟨framePrefix_iff.mpr ⟨haccepted, hencode⟩, hwhole hend⟩

end GrpcCall

theorem GrpcCall.stopsInside_applyAll (call : GrpcCall) (inputs : List CallInput)
    (bytes : Bytes) : (call.applyAll inputs).stopsInside bytes = call.stopsInside bytes := by
  obtain ⟨hmaxMessages, hmaxBytes, -⟩ := limits_of_config (call.applyAll_config inputs)
  rw [stopsInside, stopsInside, decoded, decoded, hmaxMessages, hmaxBytes]

/-! ## The drivers -/

/-- The response headers are not cut off in front of a content-type. -/
def headersArrived (inputs : List CallInput) : Prop :=
  inputs.any CallInput.isContentType = true ∨ inputs.any CallInput.endsResponse = true

/-- What arrives in time speaks for an OK: one grpc-status, which is zero, and no input that
violates a rule. -/
structure SeemsOk (start : GrpcCall) (inputs : List CallInput) : Prop where
  status : ∃ value, inputs.filterMap CallInput.statusField = [value] ∧
    Protocol.parseStatusValue value = 0
  inTime : inputs.any CallInput.expires = false
  lawful : start.Lawful inputs

/-- The content-type rule needs headers that are not cut off. -/
theorem ContentTypeRule.headersArrived {inputs : List CallInput} (h : ContentTypeRule inputs) :
    headersArrived inputs := by
  rcases h.present with htyped | ⟨pre, ra, answers, post, rfl, -⟩
  · exact .inl htyped
  · refine .inr ?_
    rw [List.any_append, List.any_cons]
    exact Bool.or_eq_true_iff.mpr (.inr rfl)

namespace GrpcCall

/-- Neither a field nor a violated rule is there at the start. -/
theorem Started.unseen {start : GrpcCall} {k : ConnId} (h : start.Started k) :
    start.contentTypeSeen = false ∧ start.grpcStatusSeen = false := by
  obtain ⟨req, retryAttempt, rfl | rfl⟩ := h
  · exact ⟨rfl, rfl⟩
  · exact ⟨rfl, rfl⟩

/-- Behind an exchange without violations that ends with status zero, the response is whole exactly
when its headers have arrived and its body does not stop inside a message. -/
theorem wholeResponse_iff {start : GrpcCall} {k : ConnId} (hstart : start.Started k)
    {inputs : List CallInput} (hcalm : Undisturbed inputs) {taken payloads : List Bytes}
    (hclean : (start.applyAll inputs).Clean) (hstatus : (start.applyAll inputs).grpcStatus = 0)
    (hreads : (start.applyAll inputs).Reads taken (inputs.flatMap CallInput.bytes))
    (hpayloads : taken ++ (start.applyAll inputs).responseQueue = payloads) :
    WholeResponse start inputs payloads ↔ headersArrived inputs ∧
      start.stopsInside (inputs.flatMap CallInput.bytes) = false := by
  have hdirect := hstart.direct
  obtain ⟨hmaxMessages, hmaxBytes, -⟩ := limits_of_config (start.applyAll_config inputs)
  obtain ⟨hmessages, -, hstops⟩ := hreads.clean hclean
  constructor
  · exact fun h => ⟨h.contentType.headersArrived, h.not_stopsInside⟩
  · rintro ⟨harrived, hnot⟩
    obtain ⟨haccepted, hbytes⟩ := whole_of_not_stopsInside (hmessages.trans hpayloads)
      (hstops ((stopsInside_applyAll _ _ _).trans hnot))
    rw [hmaxMessages, hmaxBytes] at haccepted
    have hfresh := hstart.streamFlags.2
    refine ⟨?_, ?_, haccepted, hbytes⟩
    · obtain ⟨value, hfields, hvalue⟩ := only_status hdirect hcalm.2 (by rw [hfresh]; decide)
        hstart.unseen.2 (Int.le_of_eq hstatus.symm) hclean.status
      exact ⟨value, hfields, hvalue.trans hstatus⟩
    · have htype := (validationFailed_eq_false.mp hclean.response).2.2.1
      exact contentTypeRule hdirect hstart.unseen htype harrived

end GrpcCall

/-- The check finds nothing in what is clean behind it. -/
theorem GrpcCall.unaryTruncated_of_clean {call : GrpcCall} (h : call.checkUnary.Clean) :
    call.unaryTruncated = false := by
  by_contra htruncated
  have hflags := (validationFailed_eq_false.mp h.response).1
  rw [checkUnary, if_pos (Bool.not_eq_false _ ▸ htruncated)] at hflags
  exact absurd (congrArg FailureFlags.malformed hflags).symm Bool.false_ne_true

@[inherit_doc GrpcCall.unaryTruncated_of_clean]
theorem GrpcCall.streamTruncated_of_clean {call : GrpcCall} (h : call.checkStream.Clean) :
    call.streamTruncated = false := by
  by_contra htruncated
  have hflags := (validationFailed_eq_false.mp h.response).1
  rw [checkStream, if_pos (Bool.not_eq_false _ ▸ htruncated)] at hflags
  exact absurd (congrArg FailureFlags.malformed hflags).symm Bool.false_ne_true

/-- A received zero is reported when nothing was violated. -/
theorem GrpcCall.Clean.statusCode_zero {call : GrpcCall} (h : call.Clean)
    (htime : call.timedOut = false) (hstatus : call.grpcStatus = 0) :
    statusCodeFromCall call false = 0 := by
  rw [h.statusCode htime, hstatus]
  rfl

/-- In time every break is noted. -/
theorem brokenInTime_eq {inputs : List CallInput} (h : inputs.any CallInput.expires = false) :
    brokenInTime inputs = inputs.any CallInput.breaks := by
  have hall : inputs.takeWhile (fun i => !i.expires) = inputs := by
    refine List.takeWhile_eq_self_iff.mpr fun i hi => ?_
    rw [Bool.not_eq_true']
    exact Bool.not_eq_true _ ▸ List.any_eq_false.mp h i hi
  rw [brokenInTime, hall]

namespace GrpcCall

/-- The flags that the checks for a truncated message look at, behind an exchange that is OK. -/
structure Checked (start : GrpcCall) (inputs : List CallInput) : Prop where
  large : (start.applyAll inputs).responseMessageTooLarge = false
  compressed : (start.applyAll inputs).compressedResponseSeen = false
  calm : (start.applyAll inputs).locallyCancelled = false
  closed : (start.applyAll inputs).streamClosed = inputs.any closes
  reset : (start.applyAll inputs).streamResetSeen = inputs.any CallInput.resets
  broken : (start.applyAll inputs).connectionBroken = inputs.any CallInput.breaks

theorem Started.checked {start : GrpcCall} {k : ConnId} (hstart : start.Started k)
    {inputs : List CallInput} (hcalm : Undisturbed inputs)
    (htime : (start.applyAll inputs).timedOut = false) (hclean : (start.applyAll inputs).Clean) :
    start.Checked inputs := by
  have hdirect := hstart.direct
  have hfresh := hstart.streamFlags.1
  have hflags := (validationFailed_eq_false.mp hclean.response).1
  have hexpired := applyAll_timedOut hdirect inputs
  have hlocal := applyAll_locallyCancelled hdirect inputs
  have hclosed := applyAll_streamClosed hdirect inputs
  have hreset := applyAll_streamResetSeen hdirect inputs
  have hbroken := applyAll_connectionBroken hdirect inputs (congrArg StreamFlags.timedOut hfresh)
  rw [show start.timedOut = false from congrArg StreamFlags.timedOut hfresh, Bool.false_or,
    htime] at hexpired
  rw [show start.locallyCancelled = false from congrArg StreamFlags.locallyCancelled hfresh,
    Bool.false_or, decide_eq_false hcalm.1] at hlocal
  rw [show start.streamClosed = false from congrArg StreamFlags.streamClosed hfresh,
    Bool.false_or] at hclosed
  rw [show start.streamResetSeen = false from congrArg StreamFlags.streamResetSeen hfresh,
    Bool.false_or] at hreset
  rw [show start.connectionBroken = false from congrArg StreamFlags.connectionBroken hfresh,
    Bool.false_or, brokenInTime_eq hexpired.symm] at hbroken
  exact ⟨congrArg FailureFlags.tooLarge hflags, congrArg FailureFlags.compressed hflags, hlocal,
    hclosed, hreset, hbroken⟩

end GrpcCall

/-- What speaks for an OK, by the flags of the record. -/
theorem GrpcCall.Started.seemsOk_iff {start : GrpcCall} {k : ConnId} (hstart : start.Started k)
    {inputs : List CallInput} (hcalm : Undisturbed inputs) :
    SeemsOk start inputs ↔ (start.applyAll inputs).timedOut = false ∧
      (start.applyAll inputs).Clean ∧ (start.applyAll inputs).grpcStatus = 0 := by
  have hdirect := hstart.direct
  have hfresh := hstart.streamFlags
  have htime := GrpcCall.applyAll_timedOut hdirect inputs
  rw [show start.timedOut = false from congrArg StreamFlags.timedOut hfresh.1, Bool.false_or] at htime
  have hlawful := hstart.clean_iff_lawful inputs
  constructor
  · rintro ⟨⟨value, hfields, hvalue⟩, hinTime, hobeys⟩
    refine ⟨htime.trans hinTime, hlawful.mpr hobeys, ?_⟩
    rw [GrpcCall.applyAll_lastStatus hdirect hcalm.2, hfields]
    exact hvalue
  · rintro ⟨hinTime, hclean, hstatus⟩
    obtain ⟨value, hfields, hvalue⟩ := GrpcCall.only_status hdirect hcalm.2
      (by rw [hfresh.2]; decide) hstart.unseen.2 (Int.le_of_eq hstatus.symm) hclean.status
    exact ⟨⟨value, hfields, hvalue.trans hstatus⟩, htime.symm.trans hinTime, hlawful.mp hclean⟩

/-- A check that finds what it looks for where the body stops inside a message, and otherwise leaves
the record as it is: behind it an OK is what seems to be one, unless it looked. -/
theorem GrpcCall.Started.checkedOk_iff {start : GrpcCall} {k : ConnId} (hstart : start.Started k)
    {inputs : List CallInput} (hcalm : Undisturbed inputs) {truncated : Bool} {checked : GrpcCall}
    {looks : Prop}
    (hfinds : (start.applyAll inputs).timedOut = false → (start.applyAll inputs).Clean →
      (truncated = true ↔
        start.stopsInside (inputs.flatMap CallInput.bytes) = true ∧ looks))
    (hkeeps : truncated = false → checked = start.applyAll inputs)
    (hclean : checked.Clean → truncated = false) :
    statusCodeFromCall checked false = 0 ↔ SeemsOk start inputs ∧
      (start.stopsInside (inputs.flatMap CallInput.bytes) = true → ¬looks) := by
  constructor
  · intro hok
    obtain ⟨htime, hfine, hstatus⟩ := GrpcCall.statusCode_ok hok
    have hnot := hclean hfine
    rw [hkeeps hnot] at htime hfine hstatus
    refine ⟨(hstart.seemsOk_iff hcalm).mpr ⟨htime, hfine, hstatus⟩, fun hstops hlooks => ?_⟩
    exact Bool.false_ne_true (hnot.symm.trans ((hfinds htime hfine).mpr ⟨hstops, hlooks⟩))
  · rintro ⟨hok, hmissed⟩
    obtain ⟨htime, hfine, hstatus⟩ := (hstart.seemsOk_iff hcalm).mp hok
    have hnot : truncated = false := by
      refine Bool.eq_false_of_not_eq_true fun hfound => ?_
      obtain ⟨hstops, hlooks⟩ := (hfinds htime hfine).mp hfound
      exact hmissed hstops hlooks
    rw [hkeeps hnot]
    exact hfine.statusCode_zero htime hstatus

/-- A driver that reports OK for what seems so unless it finds that the body stops inside a message:
what it reports as OK is whole exactly when it looks for that where the body stops inside a message,
and the headers have arrived where it does not. -/
theorem whole_of_ok_iff {start : GrpcCall} {inputs : List CallInput} {code : Int}
    {payloads : List Bytes} {looks : Prop}
    (hcode : code = 0 ↔ SeemsOk start inputs ∧
      (start.stopsInside (inputs.flatMap CallInput.bytes) = true → ¬looks))
    (hwhole : code = 0 → (WholeResponse start inputs payloads ↔ headersArrived inputs ∧
      start.stopsInside (inputs.flatMap CallInput.bytes) = false)) :
    (code = 0 → WholeResponse start inputs payloads) ↔
      (SeemsOk start inputs →
        if start.stopsInside (inputs.flatMap CallInput.bytes) then looks
        else headersArrived inputs) := by
  constructor
  · intro hok hseems
    split
    · next hstops =>
      by_contra hmissed
      have hbody := (hok (hcode.mpr ⟨hseems, fun _ => hmissed⟩)).not_stopsInside
      exact Bool.false_ne_true (hbody.symm.trans hstops)
    · next hends =>
      exact (hok (hcode.mpr ⟨hseems, fun hstops => absurd hstops hends⟩)).contentType.headersArrived
  · intro hcondition hzero
    obtain ⟨hseems, hfound⟩ := hcode.mp hzero
    have hlooks := hcondition hseems
    by_cases hstops : start.stopsInside (inputs.flatMap CallInput.bytes) = true
    · rw [if_pos hstops] at hlooks
      exact absurd hlooks (hfound hstops)
    · rw [if_neg hstops] at hlooks
      exact (hwhole hzero).mpr ⟨hlooks, Bool.not_eq_true _ ▸ hstops⟩

section Ok

variable (req : CallRequest) (k : ConnId) (retryAttempt : Nat) {inputs : List CallInput}
  (hcalm : Undisturbed inputs)
include hcalm

/-- The unary driver looks for a message that was cut off only on a stream that is known to be
closed and was not reset. -/
theorem unaryOk_iff (hin : ∀ i ∈ inputs, i.takesOut = false) :
    statusCodeFromCall ((req.unaryCall k retryAttempt).applyAll inputs).checkUnary false = 0 ↔
      SeemsOk (req.unaryCall k retryAttempt) inputs ∧
        ((req.unaryCall k retryAttempt).stopsInside (inputs.flatMap CallInput.bytes) = true →
          ¬(inputs.any GrpcCall.closes = true ∧ inputs.any CallInput.resets = false)) := by
  have hstart : (req.unaryCall k retryAttempt).Started k := ⟨req, retryAttempt, .inl rfl⟩
  -- what the check finds in a record without violations
  have htruncated (htime : ((req.unaryCall k retryAttempt).applyAll inputs).timedOut = false)
      (hclean : ((req.unaryCall k retryAttempt).applyAll inputs).Clean) :
      ((req.unaryCall k retryAttempt).applyAll inputs).unaryTruncated = true ↔
        (req.unaryCall k retryAttempt).stopsInside (inputs.flatMap CallInput.bytes) = true ∧
          inputs.any GrpcCall.closes = true ∧ inputs.any CallInput.resets = false := by
    have hchecked := hstart.checked hcalm htime hclean
    obtain ⟨-, hmid, -⟩ := (hstart.reads.applyAll hstart.direct hin).clean hclean
    rw [List.nil_append] at hmid
    rw [GrpcCall.unaryTruncated, hchecked.large, hchecked.compressed, hchecked.calm,
      hchecked.closed, hchecked.reset, hmid, GrpcCall.stopsInside_applyAll]
    simp only [Bool.not_false, Bool.and_true, Bool.and_eq_true, Bool.not_eq_true']
    tauto
  exact hstart.checkedOk_iff hcalm htruncated (fun hnot => if_neg (hnot ▸ Bool.false_ne_true))
    GrpcCall.unaryTruncated_of_clean

/-- The streaming driver looks for a message that was cut off only on a stream that was not reset
and whose connection is not known to be broken. -/
theorem streamOk_iff (hpulled : (req.startCall k retryAttempt).Pulled inputs) :
    statusCodeFromCall ((req.startCall k retryAttempt).applyAll inputs).checkStream false = 0 ↔
      SeemsOk (req.startCall k retryAttempt) inputs ∧
        ((req.startCall k retryAttempt).stopsInside (inputs.flatMap CallInput.bytes) = true →
          ¬(inputs.any CallInput.breaks = false ∧ inputs.any CallInput.resets = false)) := by
  have hstart : (req.startCall k retryAttempt).Started k := ⟨req, retryAttempt, .inr rfl⟩
  -- what the check finds in a record without violations
  have htruncated (htime : ((req.startCall k retryAttempt).applyAll inputs).timedOut = false)
      (hclean : ((req.startCall k retryAttempt).applyAll inputs).Clean) :
      ((req.startCall k retryAttempt).applyAll inputs).streamTruncated = true ↔
        (req.startCall k retryAttempt).stopsInside (inputs.flatMap CallInput.bytes) = true ∧
          inputs.any CallInput.breaks = false ∧ inputs.any CallInput.resets = false := by
    have hchecked := hstart.checked hcalm htime hclean
    obtain ⟨-, hmid, -⟩ := (hstart.reads.pulled hstart.direct hpulled).clean hclean
    rw [List.nil_append] at hmid
    rw [GrpcCall.streamTruncated, hchecked.large, hchecked.compressed, hchecked.calm,
      hchecked.broken, hchecked.reset, hmid, GrpcCall.stopsInside_applyAll]
    simp only [Bool.not_false, Bool.true_and, Bool.and_true, Bool.and_eq_true, Bool.not_eq_true']
    tauto
  exact hstart.checkedOk_iff hcalm htruncated (fun hnot => if_neg (hnot ▸ Bool.false_ne_true))
    GrpcCall.streamTruncated_of_clean

/-- The payload of the unary driver is the only message of a response without violations. -/
theorem unaryOk_whole_iff (hin : ∀ i ∈ inputs, i.takesOut = false)
    (hok : statusCodeFromCall ((req.unaryCall k retryAttempt).applyAll inputs).checkUnary false =
      0) :
    WholeResponse (req.unaryCall k retryAttempt) inputs
        ((req.unaryCall k retryAttempt).applyAll
          inputs).checkUnary.unaryTakeResponsePayload.1.toList ↔
      headersArrived inputs ∧
        (req.unaryCall k retryAttempt).stopsInside (inputs.flatMap CallInput.bytes) = false := by
  have hstart : (req.unaryCall k retryAttempt).Started k := ⟨req, retryAttempt, .inl rfl⟩
  obtain ⟨htime, hclean, hstatus⟩ := GrpcCall.statusCode_ok hok
  have hsame := hclean.checkUnary_eq
  rw [hsame] at htime hclean hstatus ⊢
  have hreads := hstart.reads.applyAll hstart.direct hin
  rw [List.nil_append] at hreads
  obtain ⟨hmessages, -, -⟩ := hreads.clean hclean
  obtain ⟨hone, hbytes, -⟩ := GrpcCall.limits_of_config
    ((req.unaryCall k retryAttempt).applyAll_config inputs)
  -- at most one message is accepted
  have hbody : ((req.unaryCall k retryAttempt).applyAll inputs).responseQueue =
      ((req.unaryCall k retryAttempt).applyAll inputs).unaryTakeResponsePayload.1.toList := by
    have hlimit : ((req.unaryCall k retryAttempt).applyAll inputs).maxResponseMessages = 1 := hone
    generalize (req.unaryCall k retryAttempt).applyAll inputs = call at hmessages hlimit
    obtain ⟨haccepted, hencode, -⟩ := decode_sound
      (responseCheck_flag call.maxResponseMessages call.maxReceiveMessageBytes)
      (inputs.flatMap CallInput.bytes)
    have hcount := (framePrefix_iff.mpr ⟨haccepted, hencode⟩).count (hlimit ▸ Nat.zero_lt_one)
    change (call.decoded _).messages.length ≤ _ at hcount
    rw [hmessages, List.nil_append, hlimit] at hcount
    unfold GrpcCall.unaryTakeResponsePayload
    cases hqueue : call.responseQueue with
    | nil => rfl
    | cons payload rest =>
      rw [hqueue, List.length_cons] at hcount
      obtain rfl : rest = [] := List.length_eq_zero_iff.mp (by omega)
      rfl
  exact GrpcCall.wholeResponse_iff hstart hcalm hclean hstatus hreads hbody

/-- The pulls return the messages of a response without violations. -/
theorem streamOk_whole_iff (hpulled : (req.startCall k retryAttempt).Pulled inputs)
    (hempty : ((req.startCall k retryAttempt).applyAll inputs).responseQueue = [])
    (hok : statusCodeFromCall ((req.startCall k retryAttempt).applyAll inputs).checkStream false =
      0) :
    WholeResponse (req.startCall k retryAttempt) inputs
        ((req.startCall k retryAttempt).deliveredBy inputs) ↔
      headersArrived inputs ∧
        (req.startCall k retryAttempt).stopsInside (inputs.flatMap CallInput.bytes) = false := by
  have hstart : (req.startCall k retryAttempt).Started k := ⟨req, retryAttempt, .inr rfl⟩
  obtain ⟨htime, hclean, hstatus⟩ := GrpcCall.statusCode_ok hok
  have hsame := hclean.checkStream_eq
  rw [hsame] at htime hclean hstatus
  have hreads := hstart.reads.pulled hstart.direct hpulled
  rw [List.nil_append, List.nil_append] at hreads
  exact GrpcCall.wholeResponse_iff hstart hcalm hclean hstatus hreads
    (by rw [hempty, List.append_nil])

/-- What either driver reports as OK without a cancellation is a complete and valid response, with
its messages as the body or as what the pulls have returned, exactly when of inputs that seem OK
those with a body that stops inside a message stand on a stream on which the driver looks for that
(for the unary driver one that is closed and was not reset, for the streaming driver one that was
not reset and has not lost its connection), and the others are not cut off in front of the
content-type. -/
theorem okResponse_iff :
    ((∀ i ∈ inputs, i.takesOut = false) →
      ((statusCodeFromCall ((req.unaryCall k retryAttempt).applyAll inputs).checkUnary false = 0 →
          WholeResponse (req.unaryCall k retryAttempt) inputs
            ((req.unaryCall k retryAttempt).applyAll
              inputs).checkUnary.unaryTakeResponsePayload.1.toList) ↔
        (SeemsOk (req.unaryCall k retryAttempt) inputs →
          if (req.unaryCall k retryAttempt).stopsInside (inputs.flatMap CallInput.bytes) then
            inputs.any GrpcCall.closes = true ∧ inputs.any CallInput.resets = false
          else headersArrived inputs))) ∧
    ((req.startCall k retryAttempt).Pulled inputs →
      ((req.startCall k retryAttempt).applyAll inputs).responseQueue = [] →
      ((statusCodeFromCall ((req.startCall k retryAttempt).applyAll inputs).checkStream false = 0 →
          WholeResponse (req.startCall k retryAttempt) inputs
            ((req.startCall k retryAttempt).deliveredBy inputs)) ↔
        (SeemsOk (req.startCall k retryAttempt) inputs →
          if (req.startCall k retryAttempt).stopsInside (inputs.flatMap CallInput.bytes) then
            inputs.any CallInput.breaks = false ∧ inputs.any CallInput.resets = false
          else headersArrived inputs))) := by
  constructor
  · intro hin
    exact whole_of_ok_iff (unaryOk_iff req k retryAttempt hcalm hin)
      (unaryOk_whole_iff req k retryAttempt hcalm hin)
  · intro hpulled hempty
    exact whole_of_ok_iff (streamOk_iff req k retryAttempt hcalm hpulled)
      (streamOk_whole_iff req k retryAttempt hcalm hpulled hempty)

end Ok

/-! ## Messages that are cut off -/

/-- A request without metadata and deadline. -/
private def openRequest : CallRequest := { key := [] }

/-- What the server sends of its response: the headers, a body, and a field of its trailers. -/
private def responseEvents (body : Bytes) : List StreamEvent := [
  .header .response HeaderName.status (ascii ['2', '0', '0']),
  .header .response HeaderName.contentType (ascii "application/grpc".toList),
  .headersEnd .response false, .data body,
  .header .headers HeaderName.grpcStatus (ascii ['0'])]

private def responseInputs (body : Bytes) : List CallInput :=
  (responseEvents body).map (.event ⟨false, 32, 8388608⟩ [])

/-- A complete response with one message. -/
theorem okResponse_complete :
    WholeResponse (openRequest.unaryCall 0 0) (responseInputs [0, 0, 0, 0, 1, 7]) [[7]] := by
  have hcalm : Undisturbed (responseInputs [0, 0, 0, 0, 1, 7]) :=
    ⟨by decide +kernel, by decide +kernel⟩
  have h := (okResponse_iff openRequest 0 0 hcalm).1 (by decide +kernel)
  refine h.mpr (fun _ => ?_) (by decide +kernel)
  rw [if_neg (by decide +kernel)]
  exact .inl (by decide +kernel)

/-- The server dies inside its trailers, behind a message of which four bytes are missing: both
drivers report OK. -/
theorem okResponse_cutMessage :
    let inputs := responseInputs [0, 0, 0, 0, 5, 1] ++ [.connectionBroken 0 none]
    Undisturbed inputs ∧ (∀ i ∈ inputs, i.takesOut = false) ∧
      statusCodeFromCall ((openRequest.unaryCall 0 0).applyAll inputs).checkUnary false = 0 ∧
      statusCodeFromCall ((openRequest.startCall 0 0).applyAll inputs).checkStream false = 0 ∧
      (∀ payloads, ¬WholeResponse (openRequest.unaryCall 0 0) inputs payloads ∧
        ¬WholeResponse (openRequest.startCall 0 0) inputs payloads) ∧
      World.unaryCode (World.exchangeWith [.recv 10 0,
        .memRecv ((responseEvents [0, 0, 0, 0, 5, 1]).map (.stream 1 ·)) 10, .wantWrite false,
        .recv 0 0]) = some (some Status.ok) := by
  intro inputs
  refine ⟨⟨by decide +kernel, by decide +kernel⟩, by decide +kernel, by decide +kernel,
    by decide +kernel, fun payloads => ⟨fun h => ?_, fun h => ?_⟩, by decide +kernel⟩
  · exact absurd h.not_stopsInside (by decide +kernel)
  · exact absurd h.not_stopsInside (by decide +kernel)

end GrpcLite
