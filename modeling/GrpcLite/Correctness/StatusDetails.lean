import GrpcLite.Correctness.StreamEnds
import GrpcLite.Surface.StatusText

/-!
# The text beside a status

A call without a grpc-message, a refusal and an error of its own takes the error
text of its connection, which other calls may have left there. Texts are compared as
the bytes that they print.
-/

namespace GrpcLite

/-- The status of a call comes from its own grpc-status. -/
structure GrpcCall.FromWire (call : GrpcCall) : Prop where
  /-- A valid grpc-status arrived. -/
  received : 0 ≤ call.grpcStatus
  /-- The deadline has not expired. -/
  inTime : call.timedOut = false
  /-- No rule for responses was violated. -/
  clean : call.Clean

theorem GrpcCall.FromWire.statusCode {call : GrpcCall} (h : call.FromWire) :
    statusCodeFromCall call false = call.grpcStatus := by
  rw [h.clean.statusCode h.inTime, if_neg fun hnot => absurd hnot.1 (not_lt.mpr h.received),
    if_pos h.received]

/-- The text of a call comes from its own record. -/
def GrpcCall.ownDetails (call : GrpcCall) : Prop :=
  (∃ message, call.grpcMessage = some message ∧ 0 < message.length) ∨
    call.streamRefusedSeen = true ∨ call.lastIoErrorDetail.isSome = true

/-- The text of a status that came without a message, a refusal and an error, from the flags of
the call alone. -/
def GrpcCall.flagText (call : GrpcCall) : Bytes :=
  let reset := ascii "HTTP/2 stream reset: ".toList ++ decimal call.streamErrorCode
  if call.httpStatus ≠ 200 then
    ascii "HTTP status ".toList ++ signedDecimal call.httpStatus ++
      ascii " without grpc-status".toList
  else if call.grpcStatus = Status.deadlineExceeded then
    ascii "HTTP/2 transport deadline exceeded".toList
  else if call.grpcStatus = Status.unavailable then if call.streamResetSeen then reset else []
  else if call.grpcStatus = Status.resourceExhausted then
    ascii "received message exceeds maximum size".toList
  else if call.grpcStatus = Status.internal then
    if call.streamResetSeen then reset else ascii "malformed gRPC response frame".toList
  else if call.grpcStatus = Status.cancelled then ascii "Cancelled".toList
  else []

/-- The text that a call with a grpc-status has of its own: its grpc-message, or else a text that
depends on its record only. -/
def GrpcCall.wireText (texts : LibraryTexts) (call : GrpcCall) : Bytes :=
  let message := call.grpcMessage.getD []
  if 0 < message.length then message
  else if call.streamRefusedSeen then ascii "HTTP/2 stream refused by GOAWAY".toList
  else (call.lastIoErrorDetail.map (ErrorDetail.text texts)).getD call.flagText

/-- The error text of the connection does not show: the call has a text of its own, or the
connection has none, or it reads like the one that the flags of the call give. -/
def GrpcCall.Unmixed (texts : LibraryTexts) (call : GrpcCall) (detail : Option ErrorDetail) :
    Prop :=
  call.ownDetails ∨ ∀ other, detail = some other → other.text texts = call.flagText

/-- The switch over the code, for a code that came from the peer. -/
theorem GrpcCall.FromWire.codeDetails_text {call : GrpcCall} (h : call.FromWire)
    (hhttp : call.httpStatus = 200) (texts : LibraryTexts) :
    (codeDetails call call.grpcStatus).text texts = call.flagText := by
  have hflags := h.clean.response
  simp only [validationFailed, Bool.or_eq_false_iff] at hflags
  obtain ⟨⟨⟨⟨⟨⟨-, hcompressed⟩, hmalformed⟩, -⟩, hencoding⟩, -⟩, hqueue⟩ := hflags
  have hreceived : ¬(call.streamClosed = true ∧ call.grpcStatus < 0) :=
    fun hnot => absurd hnot.2 (not_lt.mpr h.received)
  unfold codeDetails flagText
  rw [hcompressed, hmalformed, hencoding, hqueue, if_neg (not_not_intro hhttp)]
  simp only [Bool.false_eq_true, if_false, if_neg hreceived]
  split_ifs <;> rfl

/-- The cascade for a grpc-status: the message, the refusal, the error text of the call, the one of
its connection, and only then the flags. -/
theorem GrpcCall.FromWire.details_text {call : GrpcCall} (h : call.FromWire)
    (texts : LibraryTexts) (detail : Option ErrorDetail) :
    (statusDetailsFromCall detail call call.grpcStatus).text texts =
      let message := call.grpcMessage.getD []
      if 0 < message.length then message
      else if call.streamRefusedSeen then ascii "HTTP/2 stream refused by GOAWAY".toList
      else ((call.lastIoErrorDetail <|> detail).map (ErrorDetail.text texts)).getD
        call.flagText := by
  have hafter : (statusDetailsFromCall.afterMessage detail call call.grpcStatus).text texts =
      if call.streamRefusedSeen then ascii "HTTP/2 stream refused by GOAWAY".toList
      else ((call.lastIoErrorDetail <|> detail).map (ErrorDetail.text texts)).getD
        call.flagText := by
    unfold statusDetailsFromCall.afterMessage
    have hlate : ¬(call.grpcStatus = Status.deadlineExceeded ∧ call.timedOut = true) := by
      rw [h.inTime]
      exact fun hnot => Bool.false_ne_true hnot.2
    rw [if_neg hlate]
    by_cases hrefused : call.streamRefusedSeen = true
    · rw [if_pos hrefused, if_pos hrefused]
      rfl
    rw [if_neg hrefused, if_neg hrefused]
    cases hown : call.lastIoErrorDetail with
    | some own => rfl
    | none =>
      cases detail with
      | some other => rfl
      | none =>
        have hflags := h.clean.response
        simp only [validationFailed, Bool.or_eq_false_iff] at hflags
        simp only [hflags.1.1.1.2, h.clean.status, Bool.false_eq_true, if_false]
        by_cases hhttp : call.httpStatus = 200
        · rw [if_neg (not_not_intro hhttp)]
          exact h.codeDetails_text hhttp texts
        · rw [if_pos hhttp]
          show _ = call.flagText
          rw [flagText, if_pos hhttp]
          rfl
  unfold statusDetailsFromCall
  cases hmessage : call.grpcMessage with
  | none => exact hafter
  | some message =>
    by_cases hlength : 0 < message.length
    · simp only [gt_iff_lt, if_pos hlength]
      exact (if_pos hlength).symm
    · simp only [gt_iff_lt, if_neg hlength]
      exact hafter.trans (if_neg hlength).symm

/-- The text of a grpc-status is the call's own exactly when the error text of the connection does
not show. -/
theorem GrpcCall.FromWire.details_own_iff {call : GrpcCall} (h : call.FromWire)
    (texts : LibraryTexts) (detail : Option ErrorDetail) :
    (statusDetailsFromCall detail call call.grpcStatus).text texts = call.wireText texts ↔
      call.Unmixed texts detail := by
  rw [h.details_text texts detail]
  unfold wireText Unmixed ownDetails
  dsimp only
  by_cases hmessage : 0 < (call.grpcMessage.getD []).length
  · refine iff_of_true (by rw [if_pos hmessage, if_pos hmessage]) (.inl (.inl ?_))
    cases hsome : call.grpcMessage with
    | none => rw [hsome] at hmessage; exact absurd hmessage (lt_irrefl 0)
    | some message => exact ⟨message, rfl, by rwa [hsome] at hmessage⟩
  rw [if_neg hmessage, if_neg hmessage]
  by_cases hrefused : call.streamRefusedSeen = true
  · exact iff_of_true (by rw [if_pos hrefused, if_pos hrefused]) (.inl (.inr (.inl hrefused)))
  rw [if_neg hrefused, if_neg hrefused]
  cases hown : call.lastIoErrorDetail with
  | some own => exact iff_of_true rfl (.inl (.inr (.inr rfl)))
  | none =>
    have hnot : ¬((∃ message, call.grpcMessage = some message ∧ 0 < message.length) ∨
        call.streamRefusedSeen = true ∨ (none : Option ErrorDetail).isSome = true) := by
      rintro (⟨message, hsome, hlength⟩ | hflag | hnone)
      · rw [hsome] at hmessage
        exact hmessage hlength
      · exact hrefused hflag
      · exact Bool.false_ne_true hnone
    cases detail with
    | none =>
      exact iff_of_true rfl (.inr fun other hother => absurd hother (Option.some_ne_none other).symm)
    | some other =>
      refine ⟨fun htext => .inr fun d hd => ?_, fun hor => hor.resolve_left hnot other rfl⟩
      rw [← Option.some.inj hd]
      exact htext

/-- For two states in which a call has the same record and takes its status code from its own
grpc-status, the drivers report in both the same text, and it is the call's own, exactly when
neither connection has an error text that shows. -/
theorem details_iff (texts : LibraryTexts) {w₁ w₂ : World} {c : CallId}
    (hsame : (w₁.calls c).call = (w₂.calls c).call) :
    (∀ k₁ k₂ r₁ r₂ w₁' w₂', (w₁.calls c).call.checkUnary.FromWire →
      Proc.buildUnaryResult k₁ c w₁ = some (r₁, w₁') →
      Proc.buildUnaryResult k₂ c w₂ = some (r₂, w₂') →
      (r₁.status.details.text texts = r₂.status.details.text texts ∧
          r₁.status.details.text texts = (w₁.calls c).call.wireText texts ↔
        (w₁.calls c).call.Unmixed texts (w₁.detailOf c) ∧
          (w₁.calls c).call.Unmixed texts (w₂.detailOf c))) ∧
    (∀ s₁ s₂ i₁ i₂ t₁ t₂ o₁ o₂ w₁' w₂', (w₁.calls c).call.checkStream.FromWire →
      (w₁.calls c).cancelled = false → (w₂.calls c).cancelled = false →
      Proc.finishStream c w₁ = some (.done s₁ i₁ t₁ o₁, w₁') →
      Proc.finishStream c w₂ = some (.done s₂ i₂ t₂ o₂, w₂') →
      (s₁.details.text texts = s₂.details.text texts ∧
          s₁.details.text texts = (w₁.calls c).call.wireText texts ↔
        (w₁.calls c).call.Unmixed texts (w₁.detailOf c) ∧
          (w₁.calls c).call.Unmixed texts (w₂.detailOf c))) := by
  have hboth : ∀ {s₁ s₂ : StatusResult}, (w₁.calls c).call.FromWire →
      s₁ = resolveGrpcCallStatus (w₁.detailOf c) (w₁.calls c).call false →
      s₂ = resolveGrpcCallStatus (w₂.detailOf c) (w₁.calls c).call false →
      (s₁.details.text texts = s₂.details.text texts ∧
          s₁.details.text texts = (w₁.calls c).call.wireText texts ↔
        (w₁.calls c).call.Unmixed texts (w₁.detailOf c) ∧
          (w₁.calls c).call.Unmixed texts (w₂.detailOf c)) := by
    rintro s₁ s₂ hwire rfl rfl
    rw [← hwire.details_own_iff texts (w₁.detailOf c), ← hwire.details_own_iff texts (w₂.detailOf c)]
    dsimp only [resolveGrpcCallStatus]
    rw [hwire.statusCode]
    exact ⟨fun h => ⟨h.2, h.1 ▸ h.2⟩, fun h => ⟨h.1.trans h.2.symm, h.1⟩⟩
  constructor
  · intro k₁ k₂ r₁ r₂ w₁' w₂' hwire h₁ h₂
    have hchecked := hwire.clean.checkUnary_eq
    obtain ⟨hr₁, -⟩ := Proc.buildUnaryResult_report h₁
    obtain ⟨hr₂, -⟩ := Proc.buildUnaryResult_report h₂
    rw [← hsame] at hr₂
    rw [hchecked] at hwire hr₁ hr₂
    exact hboth hwire hr₁ hr₂
  · intro s₁ s₂ i₁ i₂ t₁ t₂ o₁ o₂ w₁' w₂' hwire hkept₁ hkept₂ h₁ h₂
    have hchecked := hwire.clean.checkStream_eq
    have hr₁ := Proc.finishStream_report h₁
    have hr₂ := Proc.finishStream_report h₂
    rw [← hsame] at hr₂
    rw [hchecked, hkept₁] at hr₁
    rw [hchecked, hkept₂] at hr₂
    rw [hchecked] at hwire
    injection hr₁ with hs₁
    injection hr₂ with hs₂
    exact hboth hwire hs₁ hs₂

/-- A finished call with a message, on a connection with some error text. -/
private def messageWorld (detail : Option ErrorDetail) : World where
  env := {}
  conns := fun _ => { lastErrorDetail := detail }
  calls := fun _ => { call := {
    connection := some 0, grpcStatus := 5, grpcStatusSeen := true, httpStatus := 200
    streamClosed := true, grpcMessage := some (ascii ['g', 'o', 'n', 'e']) } }

/-- Library texts for the tests. -/
private def sampleTexts : LibraryTexts where
  strerror := fun errno => ascii "Error ".toList ++ decimal errno
  nghttp2Strerror := fun rv => signedDecimal rv
  strerror_ne := fun _ => List.append_ne_nil_of_left_ne_nil (by decide) _

/-- A grpc-message is reported whatever happened to the connection. -/
theorem details_message :
    ∃ r₁ r₂ w₁' w₂',
      Proc.buildUnaryResult 0 0 (messageWorld none) = some (r₁, w₁') ∧
      Proc.buildUnaryResult 0 0 (messageWorld (some (.recvFailed 104))) = some (r₂, w₂') ∧
      r₁.status.details.text sampleTexts = r₂.status.details.text sampleTexts ∧
      r₁.status.details.text sampleTexts = ascii "gone".toList := by
  have h₁ : (Proc.buildUnaryResult 0 0 (messageWorld none)).isSome := by decide +kernel
  have h₂ : (Proc.buildUnaryResult 0 0 (messageWorld (some (.recvFailed 104)))).isSome := by
    decide +kernel
  obtain ⟨⟨r₁, w₁'⟩, hr₁⟩ := Option.isSome_iff_exists.mp h₁
  obtain ⟨⟨r₂, w₂'⟩, hr₂⟩ := Option.isSome_iff_exists.mp h₂
  have hwire : ((messageWorld none).calls 0).call.checkUnary.FromWire :=
    ⟨by decide +kernel, by decide +kernel, by decide +kernel, by decide +kernel⟩
  have hsame : ((messageWorld none).calls 0).call =
    ((messageWorld (some (.recvFailed 104))).calls 0).call := rfl
  have hown : ((messageWorld none).calls 0).call.ownDetails := .inl ⟨_, rfl, by decide⟩
  refine ⟨r₁, r₂, w₁', w₂', hr₁, hr₂, ?_⟩
  exact ((details_iff sampleTexts hsame).1 0 0 r₁ r₂ w₁' w₂' hwire hr₁ hr₂).mpr
    ⟨.inl hown, .inl hown⟩

/-- A response without a message and with a status of its own. -/
private def plainResponse (streamId : Int) (status : Char) : List SessionEvent := [
  .stream streamId (.header .response HeaderName.status (ascii ['2', '0', '0'])),
  .stream streamId (.header .response HeaderName.contentType (ascii "application/grpc".toList)),
  .stream streamId (.headersEnd .response false),
  .stream streamId (.header .headers HeaderName.grpcStatus (ascii [status])),
  .stream streamId (.headersEnd .headers true), .stream streamId (.closed 0)]

/-- A server stream is opened, a unary call runs on its connection, and then the stream is
pulled. -/
private def pullBehindUnary : Proc NextResult := do
  match ← Proc.serverStreamingCallOpenResource { key := [] } 0 with
  | .ok (.opened c) =>
    let _ ← Proc.performUnary { key := [] }
    Proc.serverStreamingCallNextResource c
  | _ => Exec.block

/-- The unary call reads the whole response of the stream, and then its own read has a result. -/
private def sharedConnection (result : List Answer) : World where
  env := World.exchangeWith ([.submitRequest 3, .setUserData 0, .sessionSend [] 0, .recv 10 0,
    .memRecv (plainResponse 1 '5') 10, .wantWrite false] ++ result)

/-- What a pull reports with the record of the call. -/
private def reported (r : NextResult × World) : Option StatusResult × GrpcCall :=
  (match r.1 with
    | .done status _ _ _ => some status
    | .message _ _ => none, (r.2.calls 0).call)

/-- The same stream with the same record and its own status five has no text when the unary call
beside it succeeds, and the text of the failed read when that call fails; they print different
bytes. -/
theorem details_contaminated :
    (∀ texts, StatusDetails.empty.text texts ≠
      (StatusDetails.ioError (.recvFailed 104)).text texts) ∧
    ∃ call, (pullBehindUnary (sharedConnection
        [.recv 10 0, .memRecv (plainResponse 3 '0') 10, .wantWrite false])).map reported =
          some (some ⟨5, .empty⟩, call) ∧
      (pullBehindUnary (sharedConnection [.recv (-1) 104])).map reported =
          some (some ⟨5, .ioError (.recvFailed 104)⟩, call) := by
  have hsame : ((pullBehindUnary (sharedConnection
      [.recv 10 0, .memRecv (plainResponse 3 '0') 10, .wantWrite false])).map reported).map Prod.snd =
        ((pullBehindUnary (sharedConnection [.recv (-1) 104])).map reported).map Prod.snd := by
    decide +kernel
  have hfine : ((pullBehindUnary (sharedConnection
      [.recv 10 0, .memRecv (plainResponse 3 '0') 10, .wantWrite false])).map reported).map Prod.fst =
        some (some ⟨5, .empty⟩) := by decide +kernel
  have hfailed : ((pullBehindUnary (sharedConnection [.recv (-1) 104])).map reported).map Prod.fst =
      some (some ⟨5, .ioError (.recvFailed 104)⟩) := by decide +kernel
  obtain ⟨⟨status, call⟩, hrun, rfl⟩ := Option.map_eq_some_iff.mp hfine
  obtain ⟨⟨status', call'⟩, hrun', rfl⟩ := Option.map_eq_some_iff.mp hfailed
  rw [hrun, hrun'] at hsame
  obtain rfl : call = call' := Option.some.inj hsame
  exact ⟨fun texts => ((ErrorDetail.recvFailed 104).text_ne texts).symm, call, hrun, hrun'⟩

end GrpcLite
