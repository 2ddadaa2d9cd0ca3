import GrpcLite.Refinement.Delivery
import GrpcLite.Refinement.Stillness

/-!
# Streams deliver in order

Over every run of operations, the payloads that the pulls of a server stream have
returned are the first messages of the DATA bytes of its own stream, whoever read
these bytes from the connection. Behind the end of a stream nothing is returned.
-/

namespace GrpcLite

open Framing

/-- The messages that body bytes encode: the frames with flag zero in front of the first other
one, of any length. -/
def encodedMessages (bytes : Bytes) : List Bytes :=
  (decode (fun _ flag _ => if flag = 0 then none else some ()) bytes).messages

/-- The limits of a call only cut the messages off. -/
theorem GrpcCall.decoded_prefix_encoded (call : GrpcCall) (bytes : Bytes) :
    (call.decoded bytes).messages <+: encodedMessages bytes := by
  obtain ⟨haccepted, hencode, -⟩ := decode_sound
    (responseCheck_flag call.maxResponseMessages call.maxReceiveMessageBytes) bytes
  refine prefix_decode_of_encode_prefix _ (fun pre m post hsplit => ?_) hencode
  exact ⟨(haccepted pre m post hsplit).1, if_pos rfl⟩

/-- More bytes encode more messages. -/
theorem encodedMessages_mono {bytes bytes' : Bytes} (h : bytes <+: bytes') :
    encodedMessages bytes <+: encodedMessages bytes' := by
  obtain ⟨more, rfl⟩ := h
  exact decode_messages_prefix _ bytes more

/-! ## The stream of a call -/

namespace Ledger

/-- Bytes were given to a call by a stream of its own. -/
def Sourced (l : Ledger) : Prop :=
  ∀ c, (l.calls c).bytes ≠ [] →
    ∃ k < l.nextConn, ∃ e ∈ (l.conns k).streams, e.source = c

/-- Streams keep their sources. -/
theorem Sourced.congr {l l' : Ledger} (h : l.Sourced) (hnext : l.nextConn ≤ l'.nextConn)
    (hbytes : ∀ c, (l'.calls c).bytes ≠ [] → (l.calls c).bytes ≠ [])
    (hstreams : ∀ k < l.nextConn, ∀ e ∈ (l.conns k).streams,
      ∃ e' ∈ (l'.conns k).streams, e'.source = e.source) : l'.Sourced := by
  intro c hc
  obtain ⟨k, hk, e, he, hsource⟩ := h c (hbytes c hc)
  obtain ⟨e', he', hsame⟩ := hstreams k hk e he
  exact ⟨k, Nat.lt_of_lt_of_le hk hnext, e', he', hsame.trans hsource⟩

/-- Every stream survives the driving of a session. -/
theorem Driven.survives {k : ConnId} {l l' : Ledger} (h : Driven k l l') {k' : ConnId}
    {e : StreamEntry} (he : e ∈ (l.conns k').streams) :
    ∃ e' ∈ (l'.conns k').streams, e'.source = e.source := by
  by_cases hk : k' = k
  · subst hk
    obtain ⟨f, hf, hs⟩ := h.streams
    refine ⟨f e, ?_, (hf e).source⟩
    rw [hs]
    exact List.mem_map_of_mem he
  · rw [h.others k' hk]
    exact ⟨e, he, rfl⟩

/-- Changes of calls alone. -/
theorem Sourced.of_conns {l l' : Ledger} (h : l.Sourced) (hnext : l'.nextConn = l.nextConn)
    (hconns : ∀ k, (l'.conns k).streams = (l.conns k).streams)
    (hbytes : ∀ c, (l'.calls c).bytes ≠ [] → (l.calls c).bytes ≠ []) : l'.Sourced := by
  refine h.congr (Nat.le_of_eq hnext.symm) hbytes fun k _ e he => ⟨e, ?_, rfl⟩
  rw [hconns]
  exact he

/-- A change of a call that leaves its bytes. -/
theorem bytes_setCall (l : Ledger) (c : CallId) (f : CallView → CallView)
    (hf : (f (l.calls c)).bytes = (l.calls c).bytes) (c' : CallId) :
    ((l.setCall c f).calls c').bytes = (l.calls c').bytes := by
  rw [setCall_calls]
  split
  · next hc => rw [hf, hc]
  · rfl

/-- A change of a connection that leaves its streams. -/
theorem streams_setConn (l : Ledger) (k : ConnId) (f : ConnView → ConnView)
    (hf : (f (l.conns k)).streams = (l.conns k).streams) (k' : ConnId) :
    ((l.setConn k f).conns k').streams = (l.conns k').streams := by
  rw [setConn_conns]
  split
  · next hk => rw [hf, hk]
  · rfl

/-- A change of a session gives bytes to the stream that they came for. -/
theorem Sourced.drive {k : ConnId} {l l' : Ledger} (h : l.Sourced) (hinv : l.Inv)
    (hd : Drive k l l') : l'.Sourced := by
  have hdriven := Driven.of_drive hd
  have hold (hbytes : ∀ c, (l'.calls c).bytes ≠ [] → (l.calls c).bytes ≠ []) : l'.Sourced :=
    h.congr (Nat.le_of_eq hdriven.nextConn.symm) hbytes fun _ _ _ he => hdriven.survives he
  cases hd with
  | log | die | drain | streams | receive | source => exact hold fun _ => id
  | close c =>
    refine hold fun c' => ?_
    rw [bytes_setCall _ c _ rfl]
    exact id
  | unregister c =>
    refine hold fun c' => ?_
    rw [bytes_setCall _ c _ rfl]
    exact id
  | deliver streamId c bytes hdead huser =>
    -- The stream that brought the bytes is the source's own.
    intro c' hc'
    rw [setCall_calls] at hc'
    split at hc'
    · next hcc =>
      subst hcc
      obtain ⟨e, he, -, -, hdata⟩ := mem_of_userData huser
      obtain ⟨hsource, hreg⟩ := (hinv.wired.entry k e he).user hdead _ hdata
      have howned := (hinv.counted.registered _ hreg).1
      have hhome := (hinv.wired.entry k e he).home (hinv.counted.owned _ howned).2.2
      obtain ⟨e', he', hsame⟩ := hdriven.survives he
      exact ⟨k, hinv.housed.home _ k hhome.2, e', he', hsame.trans hsource.symm⟩
    · obtain ⟨k', hk', e, he, hsource⟩ := h c' hc'
      obtain ⟨e', he', hsame⟩ := hdriven.survives he
      exact ⟨k', hk', e', he', hsame.trans hsource⟩

/-- So does any step. -/
theorem Sourced.step {l l' : Ledger} (h : l.Sourced) (hinv : l.Inv) (hs : Step l l') :
    l'.Sourced := by
  cases hs with
  | drive k hd => exact h.drive hinv hd
  | newConn =>
    refine h.congr (Nat.le_succ _) (fun _ => id) fun k hk e he => ⟨e, ?_, rfl⟩
    simp only [Function.update_of_ne (Nat.ne_of_lt hk)]
    exact he
  | newCall k hk =>
    refine h.of_conns rfl (fun _ => rfl) fun c hc => ?_
    by_cases hnew : c = l.nextCall
    · subst hnew
      simp only [Function.update_self, ne_eq, not_true_eq_false] at hc
    · simpa only [Function.update_of_ne hnew] using hc
  | submit k c streamId =>
    refine h.congr (Nat.le_refl _) (fun c' => ?_) fun k' _ e he => ⟨e, ?_, rfl⟩
    · rw [setConn_calls, bytes_setCall _ c _ rfl]
      exact id
    · rw [setConn_conns]
      split
      · next hk =>
        subst hk
        exact List.mem_append_left _ he
      · exact he
  | submitFailed c =>
    refine h.of_conns rfl (fun _ => rfl) fun c' => ?_
    rw [bytes_setCall _ c _ rfl]
    exact id
  | register k c =>
    refine h.congr (Nat.le_refl _) (fun c' => ?_) fun k' _ e he => ?_
    · rw [bytes_setCall _ c _ rfl]
      exact id
    · rw [setCall_conns, setConn_conns]
      split
      · next hk =>
        subst hk
        refine ⟨_, List.mem_map_of_mem he, ?_⟩
        split <;> rfl
      · exact ⟨e, he, rfl⟩
  | clearOwner k c forget =>
    refine h.of_conns rfl (fun k' => ?_) fun c' => ?_
    · rw [setCall_conns, streams_setConn l k _ rfl]
    · rw [bytes_setCall _ c _ rfl]
      exact id
  | release c =>
    refine h.of_conns rfl (fun _ => rfl) fun c' => ?_
    rw [bytes_setCall _ c _ rfl]
    exact id
  | uncache | cache => exact h.of_conns rfl (fun _ => rfl) fun _ => id
  | markDetached k => exact h.of_conns rfl (streams_setConn l k _ rfl) fun _ => id
  | destroy k => exact h.of_conns rfl (streams_setConn _ k _ rfl) fun _ => id

/-- So does any run. -/
theorem Sourced.steps {l l' : Ledger} (h : l.Sourced) (hinv : l.Inv) (hs : Steps l l') :
    l'.Sourced := by
  induction hs with
  | refl => exact h
  | tail hsteps hstep ih => exact ih.step (hinv.steps hsteps) hstep

end Ledger

/-! ## Pulls -/

namespace Proc

open World

/-- The end of a stream is no message. -/
theorem markCompleted_hushed (c : CallId) : Exec.Within Hushed (markCompleted c) := by
  refine .modify fun w c' hc' => ?_
  change (Function.update w.calls c { w.calls c with completed := true } c').call.responseQueue = []
  rw [Function.update_apply]
  split
  · next hc => exact hc ▸ hc'
  · exact hc'

/-- A connection leaves the cache, and no call changes. -/
theorem detachUnlessUsable_sameCalls (c : CallId) : Exec.Within SameCalls (detachUnlessUsable c) := by
  refine .bind (call_sameCalls c) fun call => ?_
  cases call.connection with
  | none => exact .pure _
  | some k =>
    refine .bind (conn_sameCalls k) fun _ => .ite (.bind .get fun w => ?_) (.pure _)
    cases w.cache.find? fun entry => entry.connection = k with
    | none => exact .pure _
    | some entry => exact .bind (.modify fun _ => rfl) fun _ => setConn_sameCalls k _

/-- The owner of a connection lets go of it. -/
theorem clearConnectionServerStreamingCallStateOwner_hushed (c : CallId) :
    Exec.Within Hushed (clearConnectionServerStreamingCallStateOwner c) := by
  refine .bind (call_sameCalls c).hushed fun call => ?_
  cases call.connection with
  | none => exact .pure _
  | some k =>
    refine .bind (detachUnlessUsable_sameCalls c).hushed fun _ =>
      .bind (unregisterGrpcCallStream_hushed c) fun _ => .bind ?_ fun _ => ?_
    · refine .bind (call_sameCalls c).hushed fun _ => .bind (.when fun _ => ?_) fun _ => ?_
      · exact (setConn_sameCalls k _).hushed
      · exact input_hushed c (by simp)
    · refine .bind (conn_sameCalls k).hushed fun _ => .ite ?_ (.pure _)
      exact .bind (.modify fun _ => .of_calls rfl) fun _ => (setConn_sameCalls k _).hushed

/-- The detail of the connection is read. -/
theorem connectionDetail_sameCalls (c : CallId) : Exec.Within SameCalls (connectionDetail c) := by
  refine .bind (call_sameCalls c) fun call => ?_
  cases call.connection with
  | none => exact .pure _
  | some k => exact .bind (conn_sameCalls k) fun _ => .pure _

/-- Looking up a call. -/
theorem tracked_sameCalls (c : CallId) : Exec.Within SameCalls (tracked c) :=
  .bind .get fun _ => .pure _

/-- The end of a stream is noted. -/
theorem finishStream_hushed (c : CallId) : Exec.Within Hushed (finishStream c) := by
  refine .bind (call_sameCalls c).hushed fun _ => .bind (.when fun _ => input_hushed c (by simp))
    fun _ => .bind (markCompleted_hushed c) fun _ => .bind (tracked_sameCalls c).hushed fun _ =>
    .bind (connectionDetail_sameCalls c).hushed fun _ => .bind ?_ fun _ => .pure _
  exact clearConnectionServerStreamingCallStateOwner_hushed c

/-- A stream is terminated with CANCEL. -/
theorem terminateWithCancel_hushed (c : CallId) : Exec.Within Hushed (terminateWithCancel c) :=
  .bind (input_hushed c (by simp)) fun _ => .bind (cancelGrpcCallStream_hushed c) fun _ =>
    .bind (detachUnlessUsable_sameCalls c).hushed fun _ => markCompleted_hushed c

/-- A message that is taken from the queue is returned. -/
theorem popMessage_payload {c : CallId} {payload : Bytes} {r : NextResult} {w w' : World}
    (h : popMessage c payload w = some (r, w')) : r.payload = some payload := by
  obtain ⟨_, w₁, -, h⟩ := Exec.bind_some.mp h
  obtain ⟨_, w₂, -, h⟩ := Exec.bind_some.mp h
  obtain ⟨tc, w₃, -, h⟩ := Exec.bind_some.mp h
  obtain ⟨rfl, -⟩ := Exec.pure_some.mp h
  rfl

/-- A pull that returns no payload leaves the stream without connection and queue. -/
theorem serverStreamingCallNextResource_spent {c : CallId} {r : NextResult} {w w' : World}
    (h : serverStreamingCallNextResource c w = some (r, w')) (hnone : r.payload = none) :
    w'.Spent c := by
  have hsevered := serverStreamingCallNextResource_severed h
  rw [serverStreamingCallNextResource, Exec.get_bind_run] at h
  obtain ⟨_, w₁, -, h⟩ := Exec.bind_some.mp h
  obtain ⟨_, w₂, -, h⟩ := Exec.bind_some.mp h
  obtain ⟨_, w₃, -, h⟩ := Exec.bind_some.mp h
  obtain ⟨call, w₄, hcall, h⟩ := Exec.bind_some.mp h
  rw [Proc.call, Exec.get_bind_run] at hcall
  obtain ⟨rfl, rfl⟩ := Exec.pure_some.mp hcall
  cases hqueue : (w₃.calls c).call.responseQueue with
  | nil =>
    simp only [hqueue] at h
    exact ⟨finishStream_connection h, finishStream_hushed c _ _ _ h c hqueue⟩
  | cons payload rest =>
    simp only [hqueue] at h
    exact absurd ((popMessage_payload h).symm.trans hnone) (Option.some_ne_none payload)

/-- A pull of a stream without connection and queue returns no payload. -/
theorem Spent.next {c : CallId} {r : NextResult} {w w' : World} (hspent : w.Spent c)
    (h : serverStreamingCallNextResource c w = some (r, w')) : r.payload = none := by
  rw [serverStreamingCallNextResource, Exec.get_bind_run] at h
  obtain ⟨_, w₁, hloop, h⟩ := Exec.bind_some.mp h
  obtain ⟨call, w₂, hcall, h⟩ := Exec.bind_some.mp h
  rw [Proc.call, Exec.get_bind_run] at hcall
  obtain ⟨rfl, rfl⟩ := Exec.pure_some.mp hcall
  obtain ⟨_, w₃, hwhen, h⟩ := Exec.bind_some.mp h
  obtain ⟨call, w₄, hcall, h⟩ := Exec.bind_some.mp h
  rw [Proc.call, Exec.get_bind_run] at hcall
  obtain ⟨rfl, rfl⟩ := Exec.pure_some.mp hcall
  -- Without a connection the loop reads nothing.
  have hqueue₁ : (w₁.calls c).call.responseQueue = [] := by
    unfold pullLoop at hloop
    obtain ⟨tc, w₂, hread, hloop⟩ := Exec.bind_some.mp hloop
    rw [Proc.tracked, Exec.get_bind_run] at hread
    obtain ⟨rfl, rfl⟩ := Exec.pure_some.mp hread
    split at hloop
    · obtain ⟨-, rfl⟩ := Exec.pure_some.mp hloop
      exact hspent.2
    · simp only [hspent.1] at hloop
      have hbreak : Exec.Within Hushed (breakUnread c) := by
        refine .bind (.bind (call_sameCalls c).hushed fun call => ?_) fun _ => markCompleted_hushed c
        cases call.connection with
        | none => exact .bind .get fun _ => input_hushed c (by simp)
        | some k => exact .bind (conn_sameCalls k).hushed fun _ => input_hushed c (by simp)
      exact hbreak _ _ _ hloop c hspent.2
  have hqueue₃ : (w₃.calls c).call.responseQueue = [] := by
    have hquiet : Exec.Within Hushed (Exec.when (w₁.calls c).call.validationFailed do
        terminateWithCancel c
        detachUnlessUsable c) :=
      .when fun _ => .bind (terminateWithCancel_hushed c) fun _ =>
        (detachUnlessUsable_sameCalls c).hushed
    exact hquiet _ _ _ hwhen c hqueue₁
  simp only [hqueue₃] at h
  obtain ⟨status, initialMetadata, trailingMetadata, outcome, rfl⟩ := finishStream_done h
  rfl

end Proc

namespace World

/-- The payloads that the pulls of a stream have returned are the first messages of the DATA bytes
of its own stream. -/
structure DeliveredInOrder (w : World) (c : CallId) : Prop where
  /-- A prefix of what the stream that carries the request of the call encodes. -/
  front : ∀ k, ∀ e ∈ (w.conns k).streams, e.source = c →
    (w.calls c).delivered <+: encodedMessages e.data
  /-- Nothing is returned without such a stream. -/
  source : (w.calls c).delivered ≠ [] → ∃ k, ∃ e ∈ (w.conns k).streams, e.source = c

/-- In every state that operations reach, in whatever order, on whatever calls and with whatever
answers of the outside: what the pulls of a stream have returned is a prefix of the messages in
the DATA bytes of that stream, a pull adds just the payload that it returns, and when a pull has
ended the stream, no later pull returns a payload. -/
theorem Operations.deliveredInOrder {env : Env} {config : Config} {w : World}
    (hrun : Operations { env := env, config := config } w) {c : CallId}
    (hstream : (w.calls c).Streaming) :
    w.DeliveredInOrder c ∧
      ∀ r w₁, (w.calls c).live = true →
        Proc.serverStreamingCallNextResource c w = some (r, w₁) →
        (w₁.calls c).delivered = (w.calls c).delivered ++ r.payload.toList ∧
        (r.payload = none → ∀ w₂ r₂ w₃, Operations w₁ w₂ →
          Proc.serverStreamingCallNextResource c w₂ = some (r₂, w₃) → r₂.payload = none) := by
  have hstart := orderly_start env config
  obtain ⟨hsteps, horder⟩ := hrun.orderly hstart
  have hborn : w.ledger.Born := Steps.born hsteps fun c hc => absurd hc Bool.false_ne_true
  have hinorder : (w.calls c).InOrder := by
    refine InOrder.steps (fun c hc => ?_) hsteps hstart.sound.replayed c hstream
    obtain ⟨req, k, retryAttempt, hfresh⟩ := hc
    exact absurd (congrArg GrpcCall.connection hfresh) (Option.some_ne_none k).symm
  refine ⟨⟨fun k e he hsource => ?_, fun hne => ?_⟩, fun r w₁ hlive hnext => ?_⟩
  · have hbytes : (w.calls c).bytes <+: e.data := by
      have hdata := (horder.sound.inv.wired.entry k e he).data
      rw [hsource] at hdata
      exact hdata
    exact hinorder.delivered.trans
      (((w.calls c).call.decoded_prefix_encoded _).trans (encodedMessages_mono hbytes))
  · have hsourced : w.ledger.Sourced :=
      Ledger.Sourced.steps (fun c hc => absurd rfl hc) hstart.sound.inv (Steps.ledger hsteps)
    have hgiven : (w.calls c).bytes ≠ [] := by
      intro hnil
      have hfront := hinorder.delivered
      rw [hnil] at hfront
      exact hne (List.prefix_nil.mp hfront)
    obtain ⟨k, -, e, he, hsource⟩ := hsourced c hgiven
    exact ⟨k, e, he, hsource⟩
  · have hpulled := (Proc.serverStreamingCallNextResource_delivers hnext).pulled
    simp only [TrackedCall.settled, Prod.mk.injEq] at hpulled
    refine ⟨hpulled.2.2, fun hnone w₂ r₂ w₃ hlater hagain => ?_⟩
    obtain ⟨hsteps₁, horder₁⟩ := (Operation.next c hlive hnext).orderly horder
    have hc₁ : c < w₁.nextCall :=
      Nat.lt_of_lt_of_le (hborn c hlive) (Steps.nextCall_le hsteps₁)
    have hspent₂ := (Proc.serverStreamingCallNextResource_spent hnext hnone).steps
      (hlater.orderly horder₁).1 horder₁.sound hc₁
    exact Proc.Spent.next hspent₂ hagain

/-- A server sends two messages in one chunk and closes the stream. -/
private def twoMessages : Env where
  script := [
    .setupCall .getaddrinfo true 1 none, .setupCall .socket true 3 none,
    .setupCall .setNonblocking true 0 none, .setupCall .connect true 0 none,
    .setupCall .freeaddrinfo true 0 none, .setup true false, .sessionSend [] 0,
    .submitRequest 1, .setUserData 0, .sessionSend [] 0, .sessionSend [] 0, .recv 40 0,
    .memRecv [.stream 1 (.header .response HeaderName.status (ascii ['2', '0', '0'])),
      .stream 1 (.header .response HeaderName.contentType
        (ascii ['a', 'p', 'p', 'l', 'i', 'c', 'a', 't', 'i', 'o', 'n', '/', 'g', 'r', 'p', 'c'])),
      .stream 1 (.headersEnd .response false),
      .stream 1 (.data [0, 0, 0, 0, 1, 7, 0, 0, 0, 0, 1, 8]), .stream 1 (.closed 0)] 40,
    .wantWrite false]

/-- The stream is opened and pulled for the first time. -/
private def firstPull : Option (NextResult × World) :=
  (Proc.serverStreamingCallOpenResource { key := [] } 0 { env := twoMessages }).bind fun opened =>
    if (opened.2.calls 0).live then Proc.serverStreamingCallNextResource 0 opened.2 else none

/-- The first pull returns the first of the two messages. -/
theorem Operations.deliveredInOrder_twoMessages :
    ∃ w, Operations { env := twoMessages } w ∧ (w.calls 0).delivered = [[7]] ∧
      w.DeliveredInOrder 0 := by
  have hrun : firstPull.any (fun pull => decide ((pull.2.calls 0).delivered = [[7]]) &&
      decide ((pull.2.calls 0).start = CallRequest.startCall { key := [] } 0 0)) = true := by
    decide +kernel
  obtain ⟨⟨r, w⟩, hpull, hcheck⟩ := (Option.any_eq_true _ _).mp hrun
  rw [Bool.and_eq_true, decide_eq_true_eq, decide_eq_true_eq] at hcheck
  obtain ⟨⟨opened, w₁⟩, hopen, hnext⟩ := Option.bind_eq_some_iff.mp hpull
  split at hnext
  · next hlive =>
    have hops : Operations { env := twoMessages } w :=
      (Relation.ReflTransGen.single (.openStream _ 0 hopen)).tail (.next 0 hlive hnext)
    exact ⟨w, hops, hcheck.1, (deliveredInOrder hops ⟨{ key := [] }, 0, 0, hcheck.2⟩).1⟩
  · cases hnext

end World

end GrpcLite
