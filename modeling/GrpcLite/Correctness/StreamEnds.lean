import GrpcLite.Refinement.Delivery
import GrpcLite.Refinement.Operations
import GrpcLite.Refinement.Reports

/-!
# How a stream ends

The status code of an exchange, from the inputs of its call: a reset by the peer,
trailers with whatever follows them, and a stream that stops inside a message.
-/

namespace GrpcLite

namespace GrpcCall

/-- No rule for responses was violated. -/
structure Clean (call : GrpcCall) : Prop where
  /-- The rules for grpc-status hold. -/
  status : call.invalidGrpcStatus = false
  /-- No flag ends a pull. -/
  response : call.validationFailed = false

/-- The code that the end of the stream gives without a grpc-status. -/
def endCode (call : GrpcCall) : Int :=
  if call.streamRefusedSeen then Status.unavailable
  else if call.streamResetSeen then resetStatus call.streamErrorCode
  else if call.connectionBroken then Status.unavailable
  else if call.streamClosed ∧ call.streamErrorCode = Nghttp2.noError ∧ call.httpStatus = 200 ∧
      !call.initialHeadersEndStream ∧ !call.trailingHeadersSeen then Status.internal
  else Status.unknown

/-- The cascade for a response without violations before its deadline. -/
theorem Clean.statusCode {call : GrpcCall} (h : call.Clean) (htime : call.timedOut = false) :
    statusCodeFromCall call false =
      if call.grpcStatus < 0 ∧ call.httpStatus ≠ 200 then httpStatusCode call.httpStatus
      else if call.grpcStatus ≥ 0 then call.grpcStatus else call.endCode := by
  have hflags := h.response
  simp only [validationFailed, Bool.or_eq_false_iff] at hflags
  obtain ⟨⟨⟨⟨⟨⟨hlarge, hcompressed⟩, hmalformed⟩, hct⟩, hencoding⟩, hmetadata⟩, hqueue⟩ := hflags
  unfold statusCodeFromCall endCode
  rw [htime, h.status, hct, hlarge, hmetadata, hqueue, hmalformed, hcompressed, hencoding]
  simp only [Bool.false_eq_true, if_false, Bool.or_self]

end GrpcCall

/-! ## Resets -/

/-- The error code that an input gives the stream. -/
def CallInput.streamCode : CallInput → Option Nat
  | .event _ _ (.rstStream code) => some code
  | .event _ _ (.closed code) => some code
  | .refused => some Nghttp2.refusedStream
  | _ => none

/-- An exchange whose stream the peer resets before a grpc-status, without a deadline, a
cancellation, a refusal, an HTTP status other than 200 and a violated rule. The library closes a
reset stream with the code of the reset. -/
structure ResetExchange (start : GrpcCall) (inputs : List CallInput) (code : Nat) : Prop where
  reset : ∃ ra answers, .event ra answers (.rstStream code) ∈ inputs
  codes : ∀ i ∈ inputs, ∀ code', i.streamCode = some code' → code' = code
  noStatus : inputs.any (·.fieldIs fun name _ => decide (name = HeaderName.grpcStatus)) = false
  http : inputs.all (fun i => !i.fieldIs fun name value =>
    decide (name = HeaderName.status) && decide (Protocol.httpStatusValue value ≠ 200)) = true
  inTime : ∀ now, .timedOut now ∉ inputs
  notCancelled : .userCancelled ∉ inputs ∧ .locallyCancelled ∉ inputs
  notRefused : .refused ∉ inputs
  clean : (start.applyAll inputs).Clean

/-- The stream flags behind a reset. -/
theorem ResetExchange.streamFlags {start : GrpcCall} {k : ConnId} (hstart : start.Started k)
    {inputs : List CallInput} {code : Nat} (h : ResetExchange start inputs code) :
    (start.applyAll inputs).timedOut = false ∧
      (start.applyAll inputs).streamRefusedSeen = false ∧
      (start.applyAll inputs).streamResetSeen = true ∧
      (start.applyAll inputs).streamErrorCode = code := by
  have hfold := GrpcCall.applyAll_streamFlags hstart.direct inputs
  have hkeep : ∀ f : StreamFlags, ∀ i ∈ inputs, f.timedOut = false ∧ f.streamRefusedSeen = false →
      (f.onInput i).timedOut = false ∧ (f.onInput i).streamRefusedSeen = false := by
    intro f i hi hf
    cases i with
    | event ra answers event => cases event <;> exact hf
    | refused => exact absurd hi h.notRefused
    | timedOut now => exact absurd hi (h.inTime now)
    | connectionBroken errno detail =>
      simp only [StreamFlags.onInput]
      split <;> exact hf
    | _ => exact hf
  -- behind the reset, the stream is reset with its code
  have hafter : ∀ f : StreamFlags, ∀ i ∈ inputs,
      f.streamResetSeen = true ∧ f.streamErrorCode = code →
      (f.onInput i).streamResetSeen = true ∧ (f.onInput i).streamErrorCode = code := by
    intro f i hi hf
    have hcode := h.codes i hi
    cases i with
    | event ra answers event =>
      cases event with
      | rstStream code' => exact ⟨rfl, hcode code' rfl⟩
      | closed code' => exact ⟨hf.1, hcode code' rfl⟩
      | _ => exact hf
    | refused => exact absurd hi h.notRefused
    | connectionBroken errno detail =>
      simp only [StreamFlags.onInput]
      split <;> exact hf
    | _ => exact hf
  obtain ⟨ra, answers, hmem⟩ := h.reset
  obtain ⟨pre, post, hsplit⟩ := List.append_of_mem hmem
  have hearly : start.streamFlags.timedOut = false ∧ start.streamFlags.streamRefusedSeen = false := by
    obtain ⟨req, retryAttempt, rfl | rfl⟩ := hstart
    · exact ⟨rfl, rfl⟩
    · exact ⟨rfl, rfl⟩
  have hquiet : (inputs.foldl StreamFlags.onInput start.streamFlags).timedOut = false ∧
      (inputs.foldl StreamFlags.onInput start.streamFlags).streamRefusedSeen = false :=
    StreamFlags.foldl_onInput_of_step
      (P := fun f => f.timedOut = false ∧ f.streamRefusedSeen = false) hearly
      fun f hf i hi => hkeep f i hi hf
  have hreset : (inputs.foldl StreamFlags.onInput start.streamFlags).streamResetSeen = true ∧
      (inputs.foldl StreamFlags.onInput start.streamFlags).streamErrorCode = code := by
    rw [hsplit, List.foldl_append, List.foldl_cons]
    refine StreamFlags.foldl_onInput_of_step
      (P := fun f => f.streamResetSeen = true ∧ f.streamErrorCode = code) ⟨rfl, rfl⟩
      fun f hf i hi => hafter f i ?_ hf
    rw [hsplit]
    exact List.mem_append_right _ (List.mem_cons_of_mem _ hi)
  rw [← hfold] at hquiet hreset
  exact ⟨hquiet.1, hquiet.2, hreset.1, hreset.2⟩

theorem resetStatus_eq_unavailable {code : Nat} : resetStatus code = Status.unavailable ↔ code = 7 := by
  unfold resetStatus
  split <;> simp_all [Status.cancelled, Status.unavailable, Status.resourceExhausted,
    Status.permissionDenied, Status.internal, Status.unknown]

/-- A reset has the code of the table exactly when the response headers have arrived, or when the
table gives the code for a missing HTTP status. -/
theorem resetExchange_iff {start : GrpcCall} {k : ConnId} (hstart : start.Started k)
    {inputs : List CallInput} {code : Nat} (h : ResetExchange start inputs code) :
    (statusCodeFromCall (start.applyAll inputs).checkUnary false = resetStatus code ∧
      statusCodeFromCall (start.applyAll inputs).checkStream false = resetStatus code) ↔
    inputs.any (·.fieldIs fun name _ => decide (name = HeaderName.status)) = true ∨
      code = Nghttp2.refusedStream := by
  obtain ⟨htime, hrefused, hreset, hcode⟩ := h.streamFlags hstart
  have hstatus := GrpcCall.applyAll_grpcStatus hstart.direct h.noStatus h.notCancelled.1
  have hhttp := GrpcCall.applyAll_httpStatus hstart.direct h.http
  have hfresh : start.grpcStatus = -1 ∧ start.httpStatus = -1 := by
    obtain ⟨req, retryAttempt, rfl | rfl⟩ := hstart
    · exact ⟨rfl, rfl⟩
    · exact ⟨rfl, rfl⟩
  rw [hfresh.1] at hstatus
  rw [hfresh.2] at hhttp
  have hunary : (start.applyAll inputs).checkUnary = start.applyAll inputs := by
    rw [GrpcCall.checkUnary, GrpcCall.unaryTruncated, hreset]
    simp
  have hstream : (start.applyAll inputs).checkStream = start.applyAll inputs := by
    rw [GrpcCall.checkStream, GrpcCall.streamTruncated, hreset]
    simp
  have hend : (start.applyAll inputs).endCode = resetStatus code := by
    rw [GrpcCall.endCode, hrefused, hreset, hcode]
    simp
  rw [hunary, hstream, and_self, h.clean.statusCode htime, hstatus, hend]
  cases hany : inputs.any (·.fieldIs fun name _ => decide (name = HeaderName.status)) with
  | true =>
    rw [hany, if_pos rfl] at hhttp
    rw [hhttp]
    simp
  | false =>
    rw [hany, if_neg Bool.false_ne_true] at hhttp
    rw [hhttp, if_pos (by decide)]
    simp only [Bool.false_eq_true, false_or]
    rw [show httpStatusCode (-1) = Status.unavailable from rfl, eq_comm, resetStatus_eq_unavailable]
    rfl

/-- A callback for the stream of a call. -/
private def callback (event : StreamEvent) : CallInput := .event ⟨false, 32, 8388608⟩ [] event

/-- A request without a deadline. -/
private def endlessRequest : CallRequest := { key := [] }

/-- The answers up to the first read of a unary exchange on a new connection, then others. -/
def World.exchangeWith (answers : List Answer) : Env where
  script := [
    .setupCall .getaddrinfo true 1 none, .setupCall .socket true 3 none,
    .setupCall .setNonblocking true 0 none, .setupCall .connect true 0 none,
    .setupCall .freeaddrinfo true 0 none, .setup true false, .sessionSend [] 0,
    .submitRequest 1, .setUserData 0, .sessionSend [] 0] ++ answers

/-- The status code of a unary call in an environment. -/
def World.unaryCode (env : Env) : Option (Option Int) :=
  (Proc.startBatch (CallObj.construct [] false true 0 65536 0)
    { sendMessage := some (some []), recvStatusOnClient := true } { env := env }).map
      fun r => r.1.2.status.map (·.code)

/-- Behind the response headers, a reset is resolved by the table. -/
theorem resetExchange_afterHeaders :
    let inputs := [callback (.header .response HeaderName.status (ascii ['2', '0', '0'])),
      callback (.header .response HeaderName.contentType (ascii "application/grpc".toList)),
      callback (.headersEnd .response false), callback (.rstStream 8), callback (.closed 8)]
    statusCodeFromCall ((endlessRequest.unaryCall 0 0).applyAll inputs).checkUnary false =
      Status.cancelled := by
  intro inputs
  have h : ResetExchange (endlessRequest.unaryCall 0 0) inputs 8 :=
    ⟨⟨_, _, List.mem_cons_of_mem _ (List.mem_cons_of_mem _ (List.mem_cons_of_mem _
      List.mem_cons_self))⟩, by decide, by decide, by decide, by simp [inputs, callback],
      by decide, by decide, ⟨by decide +kernel, by decide +kernel⟩⟩
  exact ((resetExchange_iff ⟨endlessRequest, 0, .inl rfl⟩ h).mpr (.inl (by decide))).1

/-- A call whose stream the peer resets with CANCEL before any header is reported unavailable. -/
theorem reset_before_headers :
    ResetExchange (endlessRequest.unaryCall 0 0) [callback (.rstStream 8), callback (.closed 8)] 8 ∧
      resetStatus 8 = Status.cancelled ∧
      World.unaryCode (World.exchangeWith [.recv 10 0,
        .memRecv [.stream 1 (.rstStream 8), .stream 1 (.closed 8)] 10, .wantWrite false]) =
        some (some Status.unavailable) := by
  refine ⟨⟨⟨_, _, List.mem_cons_self⟩, by decide, by decide, by decide, by simp [callback],
    by decide, by decide, ⟨by decide +kernel, by decide +kernel⟩⟩, rfl, by decide +kernel⟩

/-! ## Trailers -/

/-- The deadline expires. -/
def CallInput.expires : CallInput → Bool
  | .timedOut _ => true
  | _ => false

/-- An exchange whose trailers have arrived before its deadline: a block that ends the stream, with
the only grpc-status of the exchange, and what follows on the stream and the connection. -/
structure TrailedExchange where
  /-- What happens up to the grpc-status. -/
  before : List CallInput
  /-- What the callback for the grpc-status finds. -/
  statusAt : ReadAhead × List Int
  /-- The category of the block. -/
  cat : HeaderCategory
  /-- The value of the grpc-status. -/
  value : Bytes
  /-- What happens up to the end of the block. -/
  block : List CallInput
  /-- What the callback for the end of the block finds. -/
  endAt : ReadAhead × List Int
  /-- What follows. -/
  after : List CallInput
  valid : 0 ≤ Protocol.parseStatusValue value
  single : (before ++ block).any (·.fieldIs fun name _ => decide (name = HeaderName.grpcStatus)) =
    false
  inTime : (before ++ block).any CallInput.expires = false
  /-- The block and the stream are over. -/
  ended : ∀ i ∈ after, i.inHeaders = false ∧ ∀ ra answers bytes, i ≠ .event ra answers (.data bytes)
  notCancelled : .userCancelled ∉ before ++ block ++ after

namespace TrailedExchange

variable (x : TrailedExchange)

/-- The whole exchange. -/
def inputs : List CallInput :=
  x.before ++ [.event x.statusAt.1 x.statusAt.2 (.header x.cat HeaderName.grpcStatus x.value)] ++
    x.block ++ [.event x.endAt.1 x.endAt.2 (.headersEnd x.cat true)] ++ x.after

/-- The status of the trailers. -/
def status : Int := Protocol.parseStatusValue x.value

end TrailedExchange

theorem GrpcCall.applyAll_timedOut {call : GrpcCall} (h : call.Direct) (inputs : List CallInput) :
    (call.applyAll inputs).timedOut = (call.timedOut || inputs.any CallInput.expires) := by
  refine applyAll_streamFlag h inputs StreamFlags.timedOut CallInput.expires fun f i => ?_
  cases i with
  | event ra answers event => cases event <;> exact (Bool.or_false _).symm
  | timedOut now => exact (Bool.or_true _).symm
  | connectionBroken errno detail =>
    simp only [StreamFlags.onInput]
    split <;> exact (Bool.or_false _).symm
  | _ => exact (Bool.or_false _).symm

/-- The check for a truncated message finds nothing in a response without violations. -/
theorem GrpcCall.Clean.checkUnary_eq {call : GrpcCall} (h : call.checkUnary.Clean) :
    call.checkUnary = call := by
  by_cases htruncated : call.unaryTruncated = true
  · have hflags := h.response
    rw [checkUnary, if_pos htruncated] at hflags
    simp [validationFailed] at hflags
  · rw [checkUnary, if_neg htruncated]

@[inherit_doc GrpcCall.Clean.checkUnary_eq]
theorem GrpcCall.Clean.checkStream_eq {call : GrpcCall} (h : call.checkStream.Clean) :
    call.checkStream = call := by
  by_cases htruncated : call.streamTruncated = true
  · have hflags := h.response
    rw [checkStream, if_pos htruncated] at hflags
    simp [validationFailed] at hflags
  · rw [checkStream, if_neg htruncated]

/-- The status behind trailers. -/
theorem TrailedExchange.statusCode {start : GrpcCall} {k : ConnId} (hstart : start.Started k)
    (x : TrailedExchange) (hclean : (start.applyAll x.inputs).Clean) :
    statusCodeFromCall (start.applyAll x.inputs) false =
      if x.after.any CallInput.expires then Status.deadlineExceeded else x.status := by
  have hfresh : start.timedOut = false := by
    obtain ⟨req, retryAttempt, rfl | rfl⟩ := hstart
    · rfl
    · rfl
  have htime : (start.applyAll x.inputs).timedOut = x.after.any CallInput.expires := by
    have hearly := x.inTime
    rw [List.any_append, Bool.or_eq_false_iff] at hearly
    rw [GrpcCall.applyAll_timedOut hstart.direct, hfresh, inputs]
    simp only [List.any_append, hearly.1, hearly.2, List.any_cons, List.any_nil, Bool.false_or,
      CallInput.expires]
  have hstatus : (start.applyAll x.inputs).grpcStatus = x.status := by
    have hsingle := x.single
    have hcancel := x.notCancelled
    rw [List.any_append, Bool.or_eq_false_iff] at hsingle
    rw [List.mem_append, List.mem_append, not_or, not_or] at hcancel
    have hafter : x.after.any (·.fieldIs fun name _ => decide (name = HeaderName.grpcStatus)) =
        false := by
      refine List.any_eq_false.mpr fun i hi => ?_
      have hout := (x.ended i hi).1
      cases i with
      | event ra answers event =>
        cases event with
        | header => cases hout
        | _ => exact Bool.false_ne_true
      | _ => exact Bool.false_ne_true
    have hdirect := hstart.direct
    rw [inputs, GrpcCall.applyAll_append, GrpcCall.applyAll_append, GrpcCall.applyAll_append,
      GrpcCall.applyAll_append,
      GrpcCall.applyAll_grpcStatus ((((hdirect.applyAll _).applyAll _).applyAll _).applyAll _) hafter
        hcancel.2]
    have hend : ∀ call : GrpcCall, call.Direct → (call.applyAll
        [.event x.endAt.1 x.endAt.2 (.headersEnd x.cat true)]).grpcStatus = call.grpcStatus :=
      fun call h => GrpcCall.applyAll_grpcStatus h rfl (by simp)
    rw [hend _ (((hdirect.applyAll _).applyAll _).applyAll _),
      GrpcCall.applyAll_grpcStatus ((hdirect.applyAll _).applyAll _) hsingle.2 hcancel.1.2]
    refine (GrpcCall.apply_grpcStatus (hdirect.applyAll x.before)
      (.event x.statusAt.1 x.statusAt.2 (.header x.cat HeaderName.grpcStatus x.value))).trans ?_
    simp only [CallInput.statusAfter, if_true, status]
  cases hexpired : x.after.any CallInput.expires with
  | true =>
    rw [hexpired] at htime
    rw [if_pos rfl, statusCodeFromCall, if_pos htime]
  | false =>
    rw [hexpired] at htime
    have hvalid : 0 ≤ (start.applyAll x.inputs).grpcStatus := hstatus.symm ▸ x.valid
    rw [if_neg Bool.false_ne_true, hclean.statusCode htime, if_neg (fun h => absurd h.1 (not_lt.mpr hvalid)),
      if_pos hvalid, hstatus]

/-- Received trailers are final but for the deadline: whatever follows them, the status code of
either driver is theirs unless the deadline expires before the exchange ends. -/
theorem TrailedExchange.final {start : GrpcCall} {k : ConnId} (hstart : start.Started k)
    (x : TrailedExchange) :
    ((start.applyAll x.inputs).checkUnary.Clean →
      statusCodeFromCall (start.applyAll x.inputs).checkUnary false =
        if x.after.any CallInput.expires then Status.deadlineExceeded else x.status) ∧
    ((start.applyAll x.inputs).checkStream.Clean →
      statusCodeFromCall (start.applyAll x.inputs).checkStream false =
        if x.after.any CallInput.expires then Status.deadlineExceeded else x.status) := by
  constructor
  · intro hclean
    have hsame := hclean.checkUnary_eq
    rw [hsame] at hclean ⊢
    exact x.statusCode hstart hclean
  · intro hclean
    have hsame := hclean.checkStream_eq
    rw [hsame] at hclean ⊢
    exact x.statusCode hstart hclean

/-- A successful response without a message, then a reset. -/
private def trailedThenReset : TrailedExchange where
  before := [callback (.header .response HeaderName.status (ascii ['2', '0', '0'])),
    callback (.header .response HeaderName.contentType (ascii "application/grpc".toList)),
    callback (.headersEnd .response false)]
  statusAt := (⟨false, 32, 8388608⟩, [])
  cat := .headers
  value := ascii ['0']
  block := []
  endAt := (⟨false, 32, 8388608⟩, [])
  after := [callback (.rstStream 8), callback (.closed 8)]
  valid := by decide
  single := by decide
  inTime := by decide
  ended := by
    intro i hi
    simp only [List.mem_cons, List.not_mem_nil, or_false] at hi
    rcases hi with rfl | rfl
    · exact ⟨rfl, nofun⟩
    · exact ⟨rfl, nofun⟩
  notCancelled := by decide

/-- A reset behind the trailers changes nothing. -/
theorem TrailedExchange.final_thenReset :
    statusCodeFromCall ((endlessRequest.unaryCall 0 0).applyAll trailedThenReset.inputs).checkUnary
      false = Status.ok :=
  (TrailedExchange.final ⟨endlessRequest, 0, .inl rfl⟩ trailedThenReset).1
    ⟨by decide +kernel, by decide +kernel⟩

/-- The answers to a unary call with a deadline of a millisecond: its response is complete when
the upload is still blocked, and then the deadline expires. -/
private def expiredUpload : Env where
  script := [
    .setupCall .getaddrinfo true 1 none, .clock 0, .setupCall .socket true 3 none,
    .setupCall .setNonblocking true 0 none, .setupCall .connect true 0 none,
    .setupCall .freeaddrinfo true 0 none, .setup true false, .sessionSend [] 0, .clock 0, .clock 0,
    .submitRequest 1, .setUserData 0, .sessionSend [] 0, .clock 0, .recv 10 0,
    .memRecv [
      .stream 1 (.header .response HeaderName.status (ascii ['2', '0', '0'])),
      .stream 1 (.header .response HeaderName.contentType (ascii "application/grpc".toList)),
      .stream 1 (.headersEnd .response false),
      .stream 1 (.header .headers HeaderName.grpcStatus (ascii ['0'])),
      .stream 1 (.headersEnd .headers true)] 10,
    .wantWrite false, .clock 2000, .submitRst 0, .clock 0, .sessionSend [] 0]

/-- Trailers with status zero have been processed before the deadline, and the call is reported
as expired. -/
theorem TrailedExchange.expired_after_trailers :
    (Proc.startBatch (CallObj.construct [] false true 0 65536 1000)
      { sendMessage := some (some []), recvStatusOnClient := true } { env := expiredUpload }).map
        (fun r => (r.1.2.status.map (·.code), (r.2.calls 0).call.grpcStatus,
          (r.2.calls 0).call.trailingHeadersSeen)) =
      some (some Status.deadlineExceeded, Status.ok, true) := by
  decide +kernel

/-! ## Streams that stop inside a message -/

/-- The peer resets the stream. -/
def CallInput.resets : CallInput → Bool
  | .event _ _ (.rstStream _) => true
  | _ => false

/-- The connection dies under the stream. -/
def CallInput.breaks : CallInput → Bool
  | .connectionBroken _ _ => true
  | _ => false

/-- The connection died before the deadline expired. -/
def brokenInTime (inputs : List CallInput) : Bool :=
  (inputs.takeWhile fun i => !i.expires).any CallInput.breaks

/-- The server ends the stream. -/
def CallInput.endsStream : CallInput → Bool
  | .event _ _ (.headersEnd _ endStream) => endStream
  | _ => false

/-- An exchange whose stream stops inside a message, without an END_STREAM of the server and
without a violated rule. The library closes such a stream behind a reset only. -/
structure CutExchange (start : GrpcCall) (inputs : List CallInput) (cancelled : Bool) : Prop where
  mid : (start.applyAll inputs).midMessage = true
  clean : (start.applyAll inputs).Clean
  noEnd : inputs.any CallInput.endsStream = false
  closed : ∀ ra answers code, .event ra answers (.closed code) ∈ inputs →
    inputs.any CallInput.resets = true ∨ .locallyCancelled ∈ inputs
  userCancelled : .userCancelled ∈ inputs → cancelled = true

/-- The error code that the stream was closed with. -/
def lastStreamCode (inputs : List CallInput) : Nat :=
  (inputs.filterMap CallInput.streamCode).getLast?.getD 0

/-- The status code of what stopped the stream: the deadline, the user, a refusal, a reset, or
else the end of the connection. -/
def causeCode (inputs : List CallInput) (cancelled : Bool) : Int :=
  if inputs.any CallInput.expires then Status.deadlineExceeded
  else if cancelled then Status.cancelled
  else if .refused ∈ inputs then Status.unavailable
  else if inputs.any CallInput.resets then resetStatus (lastStreamCode inputs)
  else Status.unavailable

/-- The code that the header blocks brought before the stream stopped: a grpc-status, or without
one the HTTP status of a response that is not 200 (or that has none). -/
def broughtCode (inputs : List CallInput) : Option Int :=
  let http := ((inputs.filterMap CallInput.httpField).getLast?.map Protocol.httpStatusValue).getD (-1)
  match (inputs.filterMap CallInput.statusField).getLast? with
  | some value => some (Protocol.parseStatusValue value)
  | none => if http = 200 then none else some (httpStatusCode http)

/-- What stopped the stream decides on the code: the deadline or the user; or else, when the
header blocks brought no code, a refusal, a reset, or a connection that broke in time; or the
header blocks brought the same code. -/
def causeDecides (inputs : List CallInput) (cancelled : Bool) : Prop :=
  inputs.any CallInput.expires = true ∨ cancelled = true ∨
    broughtCode inputs = none ∧ (.refused ∈ inputs ∨ inputs.any CallInput.resets = true ∨
      brokenInTime inputs = true) ∨
    broughtCode inputs = some (causeCode inputs cancelled)

namespace GrpcCall

theorem applyAll_streamResetSeen {call : GrpcCall} (h : call.Direct) (inputs : List CallInput) :
    (call.applyAll inputs).streamResetSeen =
      (call.streamResetSeen || inputs.any CallInput.resets) := by
  refine applyAll_streamFlag h inputs StreamFlags.streamResetSeen CallInput.resets fun f i => ?_
  cases i with
  | event ra answers event =>
    cases event with
    | rstStream code => exact (Bool.or_true _).symm
    | _ => exact (Bool.or_false _).symm
  | connectionBroken errno detail =>
    simp only [StreamFlags.onInput]
    split <;> exact (Bool.or_false _).symm
  | _ => exact (Bool.or_false _).symm

theorem applyAll_streamRefusedSeen {call : GrpcCall} (h : call.Direct) (inputs : List CallInput) :
    (call.applyAll inputs).streamRefusedSeen =
      (call.streamRefusedSeen || decide (.refused ∈ inputs)) := by
  rw [← List.contains_eq_mem, ← List.any_beq']
  refine applyAll_streamFlag h inputs StreamFlags.streamRefusedSeen (· == .refused) fun f i => ?_
  cases i with
  | event ra answers event => cases event <;> exact (Bool.or_false _).symm
  | refused => exact (Bool.or_true _).symm
  | connectionBroken errno detail =>
    simp only [StreamFlags.onInput]
    split <;> exact (Bool.or_false _).symm
  | _ => exact (Bool.or_false _).symm

theorem applyAll_locallyCancelled {call : GrpcCall} (h : call.Direct) (inputs : List CallInput) :
    (call.applyAll inputs).locallyCancelled =
      (call.locallyCancelled || decide (.locallyCancelled ∈ inputs)) := by
  rw [← List.contains_eq_mem, ← List.any_beq']
  refine applyAll_streamFlag h inputs StreamFlags.locallyCancelled (· == .locallyCancelled)
    fun f i => ?_
  cases i with
  | event ra answers event => cases event <;> exact (Bool.or_false _).symm
  | locallyCancelled => exact (Bool.or_true _).symm
  | connectionBroken errno detail =>
    simp only [StreamFlags.onInput]
    split <;> exact (Bool.or_false _).symm
  | _ => exact (Bool.or_false _).symm

/-- The input closes the stream as far as the call knows. -/
def closes : CallInput → Bool
  | .event _ _ (.closed _) => true
  | .refused => true
  | _ => false

theorem applyAll_streamClosed {call : GrpcCall} (h : call.Direct) (inputs : List CallInput) :
    (call.applyAll inputs).streamClosed = (call.streamClosed || inputs.any closes) := by
  refine applyAll_streamFlag h inputs StreamFlags.streamClosed closes fun f i => ?_
  cases i with
  | event ra answers event =>
    cases event with
    | closed code => exact (Bool.or_true _).symm
    | _ => exact (Bool.or_false _).symm
  | refused => exact (Bool.or_true _).symm
  | connectionBroken errno detail =>
    simp only [StreamFlags.onInput]
    split <;> exact (Bool.or_false _).symm
  | _ => exact (Bool.or_false _).symm

/-- Only a connection that dies in time is noted. -/
theorem applyAll_connectionBroken {call : GrpcCall} (h : call.Direct) (inputs : List CallInput)
    (htime : call.timedOut = false) :
    (call.applyAll inputs).connectionBroken = (call.connectionBroken || brokenInTime inputs) := by
  have hfold := congrArg StreamFlags.connectionBroken (applyAll_streamFlags h inputs)
  refine hfold.trans ?_
  -- behind the expiry nothing more is noted
  have hlate : ∀ (inputs : List CallInput) (f : StreamFlags), f.timedOut = true →
      (inputs.foldl StreamFlags.onInput f).connectionBroken = f.connectionBroken := by
    intro inputs
    induction inputs with
    | nil => exact fun _ _ => rfl
    | cons i inputs ih =>
      intro f hf
      have hstep : (f.onInput i).timedOut = true ∧
          (f.onInput i).connectionBroken = f.connectionBroken := by
        cases i with
        | event ra answers event => cases event <;> exact ⟨hf, rfl⟩
        | timedOut now => exact ⟨rfl, rfl⟩
        | connectionBroken errno detail =>
          simp only [StreamFlags.onInput]
          rw [if_pos hf]
          exact ⟨hf, rfl⟩
        | _ => exact ⟨hf, rfl⟩
      rw [List.foldl_cons, ih _ hstep.1, hstep.2]
  change _ = (call.streamFlags.connectionBroken || brokenInTime inputs)
  replace htime : call.streamFlags.timedOut = false := htime
  clear hfold
  generalize call.streamFlags = f at htime ⊢
  induction inputs generalizing f with
  | nil => exact (Bool.or_false _).symm
  | cons i inputs ih =>
    rw [List.foldl_cons]
    by_cases hexpires : i.expires = true
    · have hstep : (f.onInput i).timedOut = true ∧
          (f.onInput i).connectionBroken = f.connectionBroken := by
        cases i with
        | timedOut now => exact ⟨rfl, rfl⟩
        | _ => cases hexpires
      have hnone : brokenInTime (i :: inputs) = false := by
        rw [brokenInTime, List.takeWhile_cons_of_neg (by rw [hexpires]; decide)]
        rfl
      rw [hlate inputs _ hstep.1, hstep.2, hnone, Bool.or_false]
    · rw [Bool.not_eq_true] at hexpires
      have hstep : (f.onInput i).timedOut = false ∧
          (f.onInput i).connectionBroken = (f.connectionBroken || i.breaks) := by
        cases i with
        | event ra answers event => cases event <;> exact ⟨htime, (Bool.or_false _).symm⟩
        | timedOut now => cases hexpires
        | connectionBroken errno detail =>
          simp only [StreamFlags.onInput]
          rw [if_neg (by rw [htime]; decide)]
          exact ⟨htime, (Bool.or_true _).symm⟩
        | _ => exact ⟨htime, (Bool.or_false _).symm⟩
      have hmore : brokenInTime (i :: inputs) = (i.breaks || brokenInTime inputs) := by
        rw [brokenInTime, List.takeWhile_cons_of_pos (by rw [hexpires]; decide), List.any_cons]
        rfl
      rw [ih _ hstep.1, hstep.2, hmore, Bool.or_assoc]

theorem applyAll_lastStreamCode {call : GrpcCall} (h : call.Direct) (inputs : List CallInput) :
    (call.applyAll inputs).streamErrorCode =
      (inputs.filterMap CallInput.streamCode).getLast?.getD call.streamErrorCode := by
  refine applyAll_last streamErrorCode _ h fun call hcall i _ => ?_
  refine (congrArg StreamFlags.streamErrorCode (apply_streamFlags hcall i)).trans ?_
  cases i with
  | event ra answers event => cases event <;> rfl
  | connectionBroken errno detail =>
    simp only [StreamFlags.onInput]
    split <;> rfl
  | _ => rfl

/-- The code behind header blocks that were not violated. -/
theorem Clean.statusCode_brought {call : GrpcCall} (hdirect : call.Direct)
    (hfresh : call.grpcStatus = -1 ∧ call.httpStatus = -1) {inputs : List CallInput}
    (hcancel : .userCancelled ∉ inputs) (hclean : (call.applyAll inputs).Clean)
    (htime : (call.applyAll inputs).timedOut = false) :
    statusCodeFromCall (call.applyAll inputs) false =
      (broughtCode inputs).getD (call.applyAll inputs).endCode := by
  have hstatus := applyAll_lastStatus hdirect hcancel
  have hhttp := applyAll_lastHttp hdirect inputs
  rw [hfresh.1] at hstatus
  rw [hfresh.2] at hhttp
  rw [hclean.statusCode htime, hstatus, hhttp]
  unfold broughtCode
  dsimp only
  cases hlast : (inputs.filterMap CallInput.statusField).getLast? with
  | none =>
    rw [Option.map_none, Option.getD_none, if_neg (show ¬(-1 : Int) ≥ 0 by decide)]
    generalize ((inputs.filterMap CallInput.httpField).getLast?.map
      Protocol.httpStatusValue).getD (-1) = http
    by_cases hok : http = 200
    · rw [if_neg (fun hbad => hbad.2 hok), if_pos hok, Option.getD_none]
    · rw [if_pos ⟨by decide, hok⟩, if_neg hok, Option.getD_some]
  | some value =>
    have hnonneg := statusField_nonneg hdirect hclean.status value (List.mem_of_getLast? hlast)
    rw [Option.map_some, Option.getD_some, Option.getD_some,
      if_neg (fun hbad => absurd hbad.1 (not_lt.mpr hnonneg)), if_pos hnonneg]

end GrpcCall

/-- A call of the drivers knows nothing of its stream. -/
theorem GrpcCall.Started.streamFlags {start : GrpcCall} {k : ConnId} (h : start.Started k) :
    start.streamFlags = ⟨false, false, false, 0, false, false, false⟩ ∧ start.grpcStatus = -1 := by
  obtain ⟨req, retryAttempt, rfl | rfl⟩ := h
  · exact ⟨rfl, rfl⟩
  · exact ⟨rfl, rfl⟩

/-- Nor of a code. -/
theorem GrpcCall.Started.unbrought {start : GrpcCall} {k : ConnId} (h : start.Started k) :
    start.grpcStatus = -1 ∧ start.httpStatus = -1 := by
  obtain ⟨req, retryAttempt, rfl | rfl⟩ := h
  · exact ⟨rfl, rfl⟩
  · exact ⟨rfl, rfl⟩

/-- Behind what the header blocks brought, the code is that of the cause exactly when the cause
was noted in the call. -/
theorem GrpcCall.Started.endCode_iff {start : GrpcCall} {k : ConnId} (hstart : start.Started k)
    {inputs : List CallInput} (htime : inputs.any CallInput.expires = false) :
    (start.applyAll inputs).endCode = causeCode inputs false ↔
      .refused ∈ inputs ∨ inputs.any CallInput.resets = true ∨ brokenInTime inputs = true := by
  have hfresh := hstart.streamFlags.1
  have hrefused := GrpcCall.applyAll_streamRefusedSeen hstart.direct inputs
  have hreset := GrpcCall.applyAll_streamResetSeen hstart.direct inputs
  have hcode := GrpcCall.applyAll_lastStreamCode hstart.direct inputs
  have hbroken := GrpcCall.applyAll_connectionBroken hstart.direct inputs
    (congrArg StreamFlags.timedOut hfresh)
  rw [show start.streamRefusedSeen = false from congrArg StreamFlags.streamRefusedSeen hfresh,
    Bool.false_or] at hrefused
  rw [show start.streamResetSeen = false from congrArg StreamFlags.streamResetSeen hfresh,
    Bool.false_or] at hreset
  rw [show start.streamErrorCode = 0 from congrArg StreamFlags.streamErrorCode hfresh] at hcode
  rw [show start.connectionBroken = false from congrArg StreamFlags.connectionBroken hfresh,
    Bool.false_or] at hbroken
  rw [causeCode, GrpcCall.endCode, htime, hrefused, hreset, hbroken, hcode]
  by_cases hgone : CallInput.refused ∈ inputs
  · simp [hgone]
  cases hrst : inputs.any CallInput.resets with
  | true => simp [hgone, lastStreamCode]
  | false =>
    cases hdead : brokenInTime inputs with
    | true => simp [hgone]
    | false =>
      simp only [hgone, decide_false, Bool.false_eq_true, if_false, or_self, iff_false]
      split <;> decide

section Cut

variable {start : GrpcCall} {k : ConnId} (hstart : start.Started k) {inputs : List CallInput}
  {cancelled : Bool} (h : CutExchange start inputs cancelled)
include hstart h

/-- Without a violated rule, the code is that of the cause exactly when the cause decides on it. -/
theorem CutExchange.statusCode_iff :
    statusCodeFromCall (start.applyAll inputs) cancelled = causeCode inputs cancelled ↔
      causeDecides inputs cancelled := by
  have hfresh := hstart.streamFlags.1
  have htime := GrpcCall.applyAll_timedOut hstart.direct inputs
  rw [show start.timedOut = false from congrArg StreamFlags.timedOut hfresh, Bool.false_or] at htime
  cases hexpired : inputs.any CallInput.expires with
  | true =>
    rw [hexpired] at htime
    rw [statusCodeFromCall, causeCode, if_pos htime, if_pos hexpired]
    exact ⟨fun _ => .inl hexpired, fun _ => rfl⟩
  | false =>
  rw [hexpired] at htime
  cases hcancelled : cancelled with
  | true =>
    rw [statusCodeFromCall, causeCode, htime, hexpired]
    exact ⟨fun _ => .inr (.inl rfl), fun _ => rfl⟩
  | false =>
  have hcalm : .userCancelled ∉ inputs := fun hmem =>
    Bool.false_ne_true (hcancelled.symm.trans (h.userCancelled hmem))
  have hend := hstart.endCode_iff hexpired
  rw [h.clean.statusCode_brought hstart.direct hstart.unbrought hcalm htime]
  unfold causeDecides
  rw [hexpired]
  cases hbrought : broughtCode inputs with
  | none =>
    rw [Option.getD_none, hend]
    simp
  | some code =>
    rw [Option.getD_some]
    simp

omit hstart in
/-- What the check for a truncated message looks at. -/
theorem CutExchange.flags :
    (start.applyAll inputs).responseMessageTooLarge = false ∧
      (start.applyAll inputs).compressedResponseSeen = false ∧
      (start.applyAll inputs).malformedResponseFrame = false := by
  have hflags := h.clean.response
  simp only [GrpcCall.validationFailed, Bool.or_eq_false_iff] at hflags
  exact ⟨hflags.1.1.1.1.1.1, hflags.1.1.1.1.1.2, hflags.1.1.1.1.2⟩

/-- The check of the unary driver takes a refused stream for a truncated one. -/
theorem CutExchange.unaryTruncated_iff :
    (start.applyAll inputs).unaryTruncated = true ↔ .refused ∈ inputs ∧
      ¬(inputs.any CallInput.resets = true ∨ .locallyCancelled ∈ inputs) := by
  obtain ⟨hlarge, hcompressed, -⟩ := h.flags
  have hfresh := hstart.streamFlags.1
  have hclosed := GrpcCall.applyAll_streamClosed hstart.direct inputs
  have hreset := GrpcCall.applyAll_streamResetSeen hstart.direct inputs
  have hlocal := GrpcCall.applyAll_locallyCancelled hstart.direct inputs
  rw [show start.streamClosed = false from congrArg StreamFlags.streamClosed hfresh,
    Bool.false_or] at hclosed
  rw [show start.streamResetSeen = false from congrArg StreamFlags.streamResetSeen hfresh,
    Bool.false_or] at hreset
  rw [show start.locallyCancelled = false from congrArg StreamFlags.locallyCancelled hfresh,
    Bool.false_or] at hlocal
  rw [GrpcCall.unaryTruncated, hlarge, hcompressed, hclosed, hreset, hlocal, h.mid]
  simp only [Bool.not_false, Bool.and_true, Bool.and_eq_true, Bool.not_eq_true',
    decide_eq_false_iff_not, not_or, Bool.not_eq_true, and_assoc]
  refine and_congr_left fun hnone => ⟨fun hany => ?_, fun hmem => ?_⟩
  · obtain ⟨i, hi, hcloses⟩ := List.any_eq_true.mp hany
    cases i with
    | event ra answers event =>
      cases event with
      | closed code =>
        rcases h.closed ra answers code hi with hr | hl
        · exact absurd (hr.symm.trans hnone.1) (by decide)
        · exact absurd hl hnone.2
      | _ => cases hcloses
    | refused => exact hi
    | _ => cases hcloses
  · exact List.any_eq_true.mpr ⟨.refused, hmem, rfl⟩

/-- The check of the streaming driver takes every stream for a truncated one that was neither
reset nor on a connection that is known to be broken. -/
theorem CutExchange.streamTruncated_iff :
    (start.applyAll inputs).streamTruncated = true ↔
      ¬(inputs.any CallInput.resets = true ∨ .locallyCancelled ∈ inputs ∨
        brokenInTime inputs = true) := by
  obtain ⟨hlarge, hcompressed, -⟩ := h.flags
  have hfresh := hstart.streamFlags.1
  have hbroken := GrpcCall.applyAll_connectionBroken hstart.direct inputs
    (congrArg StreamFlags.timedOut hfresh)
  have hreset := GrpcCall.applyAll_streamResetSeen hstart.direct inputs
  have hlocal := GrpcCall.applyAll_locallyCancelled hstart.direct inputs
  rw [show start.connectionBroken = false from congrArg StreamFlags.connectionBroken hfresh,
    Bool.false_or] at hbroken
  rw [show start.streamResetSeen = false from congrArg StreamFlags.streamResetSeen hfresh,
    Bool.false_or] at hreset
  rw [show start.locallyCancelled = false from congrArg StreamFlags.locallyCancelled hfresh,
    Bool.false_or] at hlocal
  rw [GrpcCall.streamTruncated, hlarge, hcompressed, hbroken, hreset, hlocal, h.mid]
  simp only [Bool.not_false, Bool.and_true, Bool.true_and, Bool.and_eq_true, Bool.not_eq_true',
    decide_eq_false_iff_not, not_or, Bool.not_eq_true, and_assoc]

end Cut

/-- Response headers and the first bytes of a message. -/
private def cutMessage : List CallInput := [
  callback (.header .response HeaderName.status (ascii ['2', '0', '0'])),
  callback (.header .response HeaderName.contentType (ascii "application/grpc".toList)),
  callback (.headersEnd .response false), callback (.data [0, 0, 0, 0, 5, 1])]

private theorem cutMessage_exchange {i : CallInput}
    (hi : i ∈ [callback (.rstStream 2), CallInput.refused]) :
    CutExchange (endlessRequest.unaryCall 0 0) (cutMessage ++ [i]) false := by
  simp only [List.mem_cons, List.not_mem_nil, or_false] at hi
  rcases hi with rfl | rfl
  · exact ⟨by decide +kernel, ⟨by decide +kernel, by decide +kernel⟩, by decide,
      by simp [cutMessage, callback], by decide⟩
  · exact ⟨by decide +kernel, ⟨by decide +kernel, by decide +kernel⟩, by decide,
      by simp [cutMessage, callback], by decide⟩

end GrpcLite
