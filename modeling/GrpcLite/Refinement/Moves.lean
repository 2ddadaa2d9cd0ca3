import GrpcLite.Drivers.ServerStreaming
import GrpcLite.Drivers.Unary
import GrpcLite.Refinement.Io

/-!
# Moves of the transport state

The changes that the transport makes to its state, each with the condition under
which it makes it: `Drive` while the session of a connection is driven, `Keep`
around that, and `Step` with the creation, submission and registration of calls.
Every move is a run of the ledger and keeps the write flags honest.
-/

namespace GrpcLite

/-- The input tells a call that its stream is closed. -/
def CallInput.closes : CallInput → Bool
  | .event _ _ e => e.isClose
  | .refused => true
  | _ => false

/-- The record that one of the drivers starts with. -/
def GrpcCall.Started (start : GrpcCall) (k : ConnId) : Prop :=
  ∃ (req : CallRequest) (retryAttempt : Nat),
    start = req.unaryCall k retryAttempt ∨ start = req.startCall k retryAttempt

namespace World

/-- Inputs that a driver makes to its own call; only the unary driver takes a payload. -/
def Notes (w : World) (c : CallId) : CallInput → Prop
  | .timedOut now => now = w.env.now ∧ 0 < (w.calls c).call.deadlineAbsUs ∧
      w.env.Elapsed (w.calls c).call.deadlineAbsUs
  | .ioError _ _ _ | .connectionBroken _ _ | .locallyCancelled | .truncated
  | .requestSent _ => True
  | .take => (w.calls c).call.maxResponseMessages = 1
  | _ => False

/-- The effect of `unregister_grpc_call_stream` behind its checks. -/
def unregister (w : World) (k : ConnId) (c : CallId) : World :=
  (w.setConn k fun conn =>
    { conn with
      activeStreams := conn.activeStreams.erase c
      activeStreamCount := conn.activeStreamCount - 1
      streams := if conn.dead then conn.streams else
        Streams.modify (w.calls c).call.streamId (fun entry => { entry with userData := none })
          conn.streams }).input c .unregistered

/-- The effect of `register_grpc_call_stream` behind its checks. -/
def register (w : World) (k : ConnId) (c : CallId) : World :=
  (w.setConn k fun conn =>
    { conn with
      streams := Streams.modify (w.calls c).call.streamId
        (fun entry => { entry with userData := some c }) conn.streams
      activeStreams := c :: conn.activeStreams
      activeStreamCount := conn.activeStreamCount + 1
      streamOwnerCount := conn.streamOwnerCount + 1 }).input c (.registered k)

/-- The effect of giving up a connection. -/
def clearOwner (w : World) (k : ConnId) (c : CallId) (forget : Bool) : World :=
  (w.setConn k fun conn =>
    { conn with streamOwnerCount := if (w.calls c).call.connectionOwned then
        conn.streamOwnerCount - 1 else conn.streamOwnerCount }).input c (.ownerCleared forget)

/-- The pop of a pull. -/
def pop (w : World) (c : CallId) (payload : Bytes) : World :=
  (w.input c .dequeue).setCall c fun tc =>
    { tc with
      deliveredMessages := tc.deliveredMessages + 1
      delivered := tc.delivered ++ [payload] }

/-- The user gives up a stream and its queue. -/
def abort (w : World) (c : CallId) : World :=
  ((w.setCall c fun tc => { tc with cancelled := true }).input c .userCancelled).input c .freeQueue

/-- The changes made while the session of a connection is driven. -/
inductive Drive (k : ConnId) (w : World) : World → Prop
  /-- Time passes and fields change that the ledger does not keep. -/
  | quiet (env : Env) (conn : H2Connection) (henv : w.env.Grows env)
      (hview : conn.view = (w.conns k).view)
      (hhonest : (w.conns k).Honest w.env → conn.Honest env) :
    Drive k w { w with env := env, conns := Function.update w.conns k conn }
  /-- An operation other than a submission is made on a living connection. -/
  | log (kind : IoKind) (hkind : kind ≠ .submitRequest) (hdead : (w.conns k).dead = false)
      (hdes : (w.conns k).destroyed = 0) : Drive k w (w.log k kind)
  /-- The connection dies. -/
  | die (errorCode : Int) : Drive k w (w.setConn k (·.markDead errorCode))
  /-- The connection starts to drain. -/
  | drain (lastStreamId : Int) (errorCode : Nat) :
    Drive k w (w.setConn k (·.markDraining lastStreamId errorCode))
  /-- Streams are closed, reset or forget their registration. -/
  | streams (f : StreamEntry → StreamEntry) (hf : ∀ e, Ledger.EntryKeeps e (f e)) :
    Drive k w (w.setConn k fun conn => { conn with streams := conn.streams.map f })
  /-- An event arrives on a stream that nobody is registered for. -/
  | receive (streamId : Int) (event : StreamEvent)
      (hnone : (w.conns k).userData streamId = none) :
    Drive k w (w.setConn k (·.receive streamId event))
  /-- An event arrives on a stream and is given to the call registered for it. -/
  | deliver (streamId : Int) (c : CallId) (ra : ReadAhead) (answers : List Int)
      (event : StreamEvent) (hclose : event.isClose = false) (hdead : (w.conns k).dead = false)
      (huser : (w.conns k).userData streamId = some c)
      (hcalm : (w.calls c).cancelled = false) :
    Drive k w ((w.setConn k (·.receive streamId event)).input c (.event ra answers event))
  /-- A registered call learns that its stream is closed. -/
  | close (c : CallId) (i : CallInput) (hi : i.closes = true)
      (hreg : (w.calls c).call.streamRegistered = true)
      (hconn : (w.calls c).call.connection = some k) : Drive k w (w.input c i)
  /-- A call is taken off the list. -/
  | unregister (c : CallId) (hreg : (w.calls c).call.streamRegistered = true)
      (hconn : (w.calls c).call.connection = some k) : Drive k w (w.unregister k c)
  /-- The library reads the request of a live call. -/
  | source (c : CallId) (hlive : (w.calls c).live = true) :
    Drive k w { w with sourceReads := w.sourceReads ++ [(c, true)] }
  /-- A driver records something on its call. -/
  | note (c : CallId) (i : CallInput) (hi : w.Notes c i) : Drive k w (w.input c i)
  /-- A server stream whose request is detached has ended. -/
  | complete (c : CallId) (hdet : w.ledger.RequestDetached c) :
    Drive k w (w.setCall c fun tc => { tc with completed := true })
  /-- A message of a healthy stream is handed to the user. -/
  | pop (c : CallId) (payload : Bytes) (rest : List Bytes)
      (hqueue : (w.calls c).call.responseQueue = payload :: rest)
      (hvalid : (w.calls c).call.validationFailed = false)
      (hcalm : (w.calls c).cancelled = false) : Drive k w (w.pop c payload)
  /-- The queue of an invalid response is dropped. -/
  | free (c : CallId) (hvalid : (w.calls c).call.validationFailed = true) :
    Drive k w (w.input c .freeQueue)

/-- The changes around that which touch no request. -/
inductive Keep (w : World) : World → Prop
  /-- A session is driven. -/
  | drive (k : ConnId) {w' : World} (h : Drive k w w') : Keep w w'
  /-- The user gives up a stream. -/
  | abort (c : CallId) : Keep w (w.abort c)
  /-- A connection is created. -/
  | newConn (conn : H2Connection) (hview : conn.view = {})
      (hflag : conn.currentWriteTimedOut = false) :
    Keep w { w with
      nextConn := w.nextConn + 1, conns := Function.update w.conns w.nextConn conn }
  /-- A call whose request is detached gives up its connection. -/
  | clearOwner (k : ConnId) (c : CallId) (forget : Bool)
      (hconn : (w.calls c).call.connection = some k)
      (hreg : (w.calls c).call.streamRegistered = false) (hdet : w.ledger.RequestDetached c) :
    Keep w (w.clearOwner k c forget)
  /-- A call that owns nothing and whose request is detached is released. -/
  | release (c : CallId) (howned : (w.calls c).call.connectionOwned = false)
      (hdet : w.ledger.RequestDetached c)
      (hcleared : ∀ k, ∀ e ∈ (w.conns k).streams, e.source = c →
        (w.ledger.calls c).cleared = true) :
    Keep w (({ w with releases := w.releases ++ [⟨c, w.requestDetached c⟩] } : World).setCall c
      fun tc => { tc with live := false })
  /-- Entries of the cache are removed. -/
  | uncache (p : CacheEntry → Bool) : Keep w { w with cache := w.cache.filter p }
  /-- A connection outside the cache is marked as detached. -/
  | markDetached (k : ConnId) (hcache : ¬w.ledger.Cached k) :
    Keep w (w.setConn k fun conn => { conn with detachedFromCache := true })
  /-- A connection outside the cache is cached under a free key. -/
  | cache (key : Bytes) (k : ConnId) (hk : k < w.nextConn) (hcache : ¬w.ledger.Cached k)
      (hkey : ∀ entry ∈ w.cache, entry.key ≠ key) (hdes : (w.conns k).destroyed = 0)
      (hdet : (w.conns k).detachedFromCache = false) :
    Keep w { w with cache := w.cache ++ [⟨key, k, key⟩] }
  /-- A connection without owner and outside the cache is destroyed. -/
  | destroy (k : ConnId) (hcache : ¬w.ledger.Cached k) (hown : (w.conns k).streamOwnerCount = 0)
      (hdes : (w.conns k).destroyed = 0) :
    Keep w (({ w with destroys := w.destroys ++
      [⟨k, (w.conns k).streamOwnerCount, w.cache.any fun entry => entry.connection = k,
        (w.conns k).destroyed⟩] } : World).setConn k fun conn =>
          { conn with destroyed := conn.destroyed + 1 })

/-- All changes. -/
inductive Step (w : World) : World → Prop
  /-- No request is touched. -/
  | keep {w' : World} (h : Keep w w') : Step w w'
  /-- A driver creates its call for a connection. -/
  | newCall (k : ConnId) (start : GrpcCall) (hk : k < w.nextConn) (hstart : start.Started k) :
    Step w { w with
      nextCall := w.nextCall + 1
      calls := Function.update w.calls w.nextCall { call := start, start := start, live := true } }
  /-- A submission is made on a living connection. -/
  | logSubmit (k : ConnId) (hdead : (w.conns k).dead = false)
      (hdes : (w.conns k).destroyed = 0) : Step w (w.log k .submitRequest)
  /-- The request of a new call is submitted. -/
  | submit (k : ConnId) (c : CallId) (streamId : Int) (hc : c < w.nextCall)
      (hlive : (w.calls c).live = true) (hcleared : (w.ledger.calls c).cleared = false)
      (hconn : (w.calls c).call.connection = some k)
      (howned : (w.calls c).call.connectionOwned = false)
      (hold : (w.calls c).call.streamId ≤ 0) (hbytes : (w.calls c).bytes = [])
      (hcompleted : (w.calls c).completed = false) (hpos : 0 < streamId) (hnew : ∀ e ∈ (w.conns k).streams, e.streamId < streamId) :
    Step w ((w.input c (.submitted streamId)).setConn k fun conn =>
      { conn with streams := conn.streams ++ [{ streamId := streamId, source := c }] })
  /-- The submission of a request fails. -/
  | submitFailed (c : CallId) (rv : Int) (hold : (w.calls c).call.streamId ≤ 0)
      (hreg : (w.calls c).call.streamRegistered = false) (hneg : rv ≤ 0) :
    Step w (w.input c (.submitted rv))
  /-- A submitted call is registered and becomes an owner. -/
  | register (k : ConnId) (c : CallId) (hc : c < w.nextCall) (hlive : (w.calls c).live = true)
      (hcleared : (w.ledger.calls c).cleared = false)
      (hconn : (w.calls c).call.connection = some k)
      (howned : (w.calls c).call.connectionOwned = false)
      (hpos : 0 < (w.calls c).call.streamId) (hdes : (w.conns k).destroyed = 0)
      (hown : ∀ e ∈ (w.conns k).streams, e.streamId = (w.calls c).call.streamId →
        e.source = c ∧ e.data = (w.calls c).bytes) : Step w (w.register k c)

/-- Runs of the three kinds of change. -/
abbrev Drives (k : ConnId) : World → World → Prop := Relation.ReflTransGen (Drive k)
@[inherit_doc Drives]
abbrev Keeps : World → World → Prop := Relation.ReflTransGen Keep
@[inherit_doc Drives]
abbrev Steps : World → World → Prop := Relation.ReflTransGen Step

/-- A session keeps calls apart. -/
theorem Drives.keeps {k : ConnId} {w w' : World} (h : Drives k w w') : Keeps w w' :=
  h.lift id fun _ _ => Keep.drive k

/-- What keeps calls apart is a run. -/
theorem Keeps.steps {w w' : World} (h : Keeps w w') : Steps w w' :=
  h.lift id fun _ _ => Step.keep

/-! ## The ledger of a move -/

/-- The ledger behind an input. -/
theorem ledger_input (w : World) (c : CallId) (i : CallInput) (g : CallView → CallView)
    (h : ((w.calls c).input i).view = g (w.calls c).view) :
    (w.input c i).ledger = w.ledger.setCall c g :=
  w.ledger_setCall c (·.input i) g h

/-- The ledger behind changes that it does not keep. -/
theorem ledger_quiet (w : World) (k : ConnId) (env : Env) (conn : H2Connection)
    (hview : conn.view = (w.conns k).view) :
    ({ w with env := env, conns := Function.update w.conns k conn } : World).ledger = w.ledger :=
  w.ledger_setConn_same k (fun _ => conn) hview

/-- A note is no input of the ledger. -/
theorem Notes.quiet {w : World} {c : CallId} {i : CallInput} (h : w.Notes c i) :
    i.quiet = true := by
  cases i <;> first | rfl | exact h.elim

/-- What closing a stream does to the call of it. -/
theorem view_closes (tc : TrackedCall) {i : CallInput} (hi : i.closes = true) :
    (tc.input i).view = { tc.view with closed := true } := by
  cases i with
  | event ra answers event =>
    cases event with
    | closed code =>
      rw [TrackedCall.view_input]
      simp only [CallInput.isOwnerCleared, CallInput.bytes, StreamEvent.bytes, List.append_nil,
        Bool.or_false]
      rfl
    | _ => cases hi
  | refused =>
    rw [TrackedCall.view_input]
    simp only [CallInput.isOwnerCleared, CallInput.bytes, List.append_nil, Bool.or_false]
    rfl
  | _ => cases hi

/-- What an event other than a close does to the call it is given to. -/
theorem view_event (tc : TrackedCall) (ra : ReadAhead) (answers : List Int) {event : StreamEvent}
    (hclose : event.isClose = false) : (tc.input (.event ra answers event)).view =
      { tc.view with bytes := tc.view.bytes ++ event.bytes } := by
  obtain ⟨hc, hi, hr, ho, hs⟩ :=
    GrpcCall.link_of_fixed (tc.call.apply_event_fixed ra answers hclose)
  rw [TrackedCall.view_input, hc, hi, hr, ho, hs]
  simp only [CallInput.isOwnerCleared, CallInput.bytes, Bool.or_false]
  rfl

/-- The ledger notes that a call has left its list. -/
theorem view_unregistered (tc : TrackedCall) :
    (tc.input .unregistered).view = { tc.view with registered := false } := by
  rw [TrackedCall.view_input]
  simp only [CallInput.isOwnerCleared, CallInput.bytes, List.append_nil, Bool.or_false]
  rfl

/-- The ledger notes the stream of a call. -/
theorem view_submitted (tc : TrackedCall) (streamId : Int) :
    (tc.input (.submitted streamId)).view = { tc.view with streamId := streamId } := by
  rw [TrackedCall.view_input]
  simp only [CallInput.isOwnerCleared, CallInput.bytes, List.append_nil, Bool.or_false]
  rfl

/-- The ledger notes the registration of a call. -/
theorem view_registered {tc : TrackedCall} {k : ConnId} (h : tc.call.connection = some k) :
    (tc.input (.registered k)).view = { tc.view with registered := true, owned := true } := by
  have hv : tc.view.connection = some k := h
  rw [TrackedCall.view_input]
  simp only [CallInput.isOwnerCleared, CallInput.bytes, List.append_nil, Bool.or_false, hv]
  rfl

/-- The ledger notes that a call has let go of its connection. -/
theorem view_ownerCleared (tc : TrackedCall) (forget : Bool) :
    (tc.input (.ownerCleared forget)).view = { tc.view with
      owned := false, cleared := true
      connection := if forget then none else tc.view.connection } := by
  rw [TrackedCall.view_input]
  simp only [CallInput.isOwnerCleared, CallInput.bytes, List.append_nil, Bool.or_true]
  rfl

/-- A pull is not in the ledger. -/
theorem ledger_pop (w : World) (c : CallId) (payload : Bytes) :
    (w.pop c payload).ledger = w.ledger := by
  rw [World.pop, ledger_setCall_same _ c _ rfl]
  exact w.ledger_input_quiet c rfl

/-- Nor is a stream that its user gives up. -/
theorem ledger_abort (w : World) (c : CallId) : (w.abort c).ledger = w.ledger := by
  rw [World.abort, ledger_input_quiet _ c rfl, ledger_input_quiet _ c rfl]
  exact w.ledger_setCall_same c _ rfl

/-- A change of a session is a run of the ledger. -/
theorem Drive.ledger {k : ConnId} {w w' : World} (h : Drive k w w') :
    Ledger.Drives k w.ledger w'.ledger := by
  cases h with
  | quiet env conn henv hview hhonest =>
    rw [w.ledger_quiet k env conn hview]
  | log kind hkind hdead hdes =>
    have hlog : (w.log k kind).ledger =
        { w.ledger with ioLog := w.ledger.ioLog ++ [⟨k, kind, false, false⟩] } := by
      simp only [World.ledger, World.log, hdead, hdes, gt_iff_lt, Nat.lt_irrefl, decide_false]
    rw [hlog]
    exact .single (.log kind hdead hdes)
  | die errorCode =>
    rw [w.ledger_setConn k _ (fun v => { v with dead := true }) rfl]
    exact .single .die
  | drain lastStreamId errorCode =>
    rw [w.ledger_setConn k _ (fun v => { v with draining := true }) rfl]
    exact .single .drain
  | streams f hf =>
    rw [w.ledger_setConn k _ (fun v => { v with streams := v.streams.map f }) rfl]
    exact .single (.streams f hf)
  | receive streamId event hnone =>
    rw [w.ledger_setConn k _
      (fun v => { v with streams := Streams.append streamId event.bytes v.streams }) rfl]
    exact .single (.receive streamId event.bytes hnone)
  | deliver streamId c ra answers event hclose hdead huser hcalm =>
    rw [ledger_input _ c _ (fun v => { v with bytes := v.bytes ++ event.bytes })
      (view_event _ ra answers hclose), w.ledger_setConn k _
      (fun v => { v with streams := Streams.append streamId event.bytes v.streams }) rfl]
    exact .single (.deliver streamId c event.bytes hdead huser)
  | close c i hi hreg hconn =>
    rw [ledger_input w c i (fun v => { v with closed := true }) (view_closes _ hi)]
    exact .single (.close c hreg hconn)
  | unregister c hreg hconn =>
    rw [World.unregister, ledger_input _ c _ (fun v => { v with registered := false })
      (view_unregistered _), w.ledger_setConn k _ (fun v => { v with
        active := v.active.erase c
        activeCount := v.activeCount - 1
        streams := if v.dead then v.streams else
          Streams.modify (w.ledger.calls c).streamId (fun e => { e with userData := none })
            v.streams }) rfl]
    exact .single (.unregister c hreg hconn)
  | source c hlive => exact .single (.source c hlive)
  | note c i hi => rw [w.ledger_input_quiet c hi.quiet]
  | complete c hdet => rw [w.ledger_setCall_same c _ rfl]
  | pop c payload rest hqueue hvalid hcalm => rw [w.ledger_pop c payload]
  | free c hvalid => rw [w.ledger_input_quiet c rfl]

/-- So is a session. -/
theorem Drives.ledger {k : ConnId} {w w' : World} (h : Drives k w w') :
    Ledger.Drives k w.ledger w'.ledger := by
  induction h with
  | refl => exact .refl
  | tail _ hd ih => exact ih.trans hd.ledger

/-- The log of a release says whether the request is detached. -/
theorem requestDetached_of_ledger {w : World} {c : CallId} (h : w.ledger.RequestDetached c) :
    w.requestDetached c = true := by
  refine List.all_eq_true.mpr fun k _ => List.all_eq_true.mpr fun e he => ?_
  by_cases hsource : e.source = c
  · rcases h k e he hsource with hd | hd | hd
    · simp [hd]
    · simp [hd]
    · have hdead : (w.conns k).dead = true := hd
      simp [hdead]
  · simp [hsource]

/-- The ledger knows which connections are in the cache. -/
theorem cached_iff {w : World} {k : ConnId} :
    w.ledger.Cached k ↔ (w.cache.any fun entry => entry.connection = k) = true := by
  rw [List.any_eq_true]
  simp only [Ledger.Cached, decide_eq_true_eq]
  rfl

/-- What keeps calls apart is a run of the ledger. -/
theorem Keep.ledger {w w' : World} (h : Keep w w') : Ledger.Steps w.ledger w'.ledger := by
  cases h with
  | drive k h => exact h.ledger.steps
  | abort c => rw [w.ledger_abort c]
  | newConn conn hview hflag =>
    have hnew : ({ w with
        nextConn := w.nextConn + 1
        conns := Function.update w.conns w.nextConn conn } : World).ledger =
        { w.ledger with
          conns := Function.update w.ledger.conns w.ledger.nextConn {}
          nextConn := w.ledger.nextConn + 1 } := by
      have hconns : (fun k => (Function.update w.conns w.nextConn conn k).view) =
          Function.update (fun k => (w.conns k).view) w.nextConn {} := by
        rw [← hview]
        exact Function.comp_update H2Connection.view w.conns w.nextConn conn
      simp only [World.ledger, hconns]
    rw [hnew]
    exact .single .newConn
  | clearOwner k c forget hconn hreg hdet =>
    rw [World.clearOwner, ledger_input _ c _ (fun v => { v with
        owned := false, cleared := true, connection := if forget then none else v.connection })
      (view_ownerCleared _ forget), w.ledger_setConn k _ (fun v => { v with
        ownerCount := if (w.ledger.calls c).owned then v.ownerCount - 1 else v.ownerCount }) rfl]
    exact .single (.clearOwner k c forget hconn hreg hdet)
  | release c howned hdet hcleared =>
    rw [ledger_setCall _ c _ (fun v => { v with live := false }) rfl]
    have hlog : ({ w with releases := w.releases ++ [⟨c, w.requestDetached c⟩] } : World).ledger =
        { w.ledger with releases := w.ledger.releases ++ [⟨c, true⟩] } := by
      simp only [World.ledger, requestDetached_of_ledger hdet]
    rw [hlog]
    exact .single (.release c howned hdet hcleared)
  | uncache p => exact .single (.uncache p)
  | markDetached k hcache =>
    rw [w.ledger_setConn k _ (fun v => { v with detached := true }) rfl]
    exact .single (.markDetached k hcache)
  | cache key k hk hcache hkey hdes hdet => exact .single (.cache key k hk hcache hkey hdes hdet)
  | destroy k hcache hown hdes =>
    rw [ledger_setConn _ k _ (fun v => { v with destroyed := v.destroyed + 1 }) rfl]
    have hlog : ({ w with destroys := w.destroys ++
        [⟨k, (w.conns k).streamOwnerCount, w.cache.any fun entry => entry.connection = k,
          (w.conns k).destroyed⟩] } : World).ledger =
        { w.ledger with destroys := w.ledger.destroys ++ [⟨k, 0, false, 0⟩] } := by
      have hany : (w.cache.any fun entry => entry.connection = k) = false := by
        rw [cached_iff, Bool.not_eq_true] at hcache
        exact hcache
      simp only [World.ledger, hown, hdes, hany]
    rw [hlog]
    exact .single (.destroy k hcache hown hdes)

/-- A step is a run of the ledger. -/
theorem Step.ledger {w w' : World} (h : Step w w') : Ledger.Steps w.ledger w'.ledger := by
  cases h with
  | keep h => exact h.ledger
  | newCall k start hk hstart =>
    have hconn : start.connection = some k ∧ start.streamId = 0 ∧
        start.streamRegistered = false ∧ start.connectionOwned = false ∧
        start.streamClosed = false := by
      obtain ⟨req, retryAttempt, rfl | rfl⟩ := hstart
      · exact ⟨rfl, rfl, rfl, rfl, rfl⟩
      · exact ⟨rfl, rfl, rfl, rfl, rfl⟩
    have hview : ({ call := start, start := start, live := true } : TrackedCall).view =
        { live := true, connection := some k } := by
      obtain ⟨hc, hi, hr, ho, hs⟩ := hconn
      simp only [TrackedCall.view, hc, hi, hr, ho, hs, TrackedCall.bytes, List.any_nil,
        List.flatMap_nil]
    have hcalls : (fun c => (Function.update w.calls w.nextCall
          ({ call := start, start := start, live := true } : TrackedCall) c).view) =
        Function.update (fun c => (w.calls c).view) w.nextCall
          { live := true, connection := some k } := by
      rw [← hview]
      exact Function.comp_update TrackedCall.view w.calls w.nextCall _
    have hnew : ({ w with
        nextCall := w.nextCall + 1
        calls := Function.update w.calls w.nextCall
          { call := start, start := start, live := true } } : World).ledger =
        { w.ledger with
          calls := Function.update w.ledger.calls w.ledger.nextCall
            { live := true, connection := some k }
          nextCall := w.ledger.nextCall + 1 } := by
      simp only [World.ledger, hcalls]
    rw [hnew]
    exact .single (.newCall k hk)
  | logSubmit k hdead hdes =>
    have hlog : (w.log k .submitRequest).ledger =
        { w.ledger with ioLog := w.ledger.ioLog ++ [⟨k, .submitRequest, false, false⟩] } := by
      simp only [World.ledger, World.log, hdead, hdes, gt_iff_lt, Nat.lt_irrefl, decide_false]
    rw [hlog]
    exact .single (.drive k (.log .submitRequest hdead hdes))
  | submit k c streamId hc hlive hcleared hconn howned hold hbytes hcompleted hpos hnew =>
    rw [ledger_setConn _ k _
      (fun v => { v with streams := v.streams ++ [{ streamId := streamId, source := c }] }) rfl,
      ledger_input w c _ (fun v => { v with streamId := streamId }) (view_submitted _ _)]
    exact .single (.submit k c streamId hc hlive hcleared hconn howned hold hbytes hpos hnew)
  | submitFailed c rv hold hreg hneg =>
    rw [ledger_input w c _ (fun v => { v with streamId := rv }) (view_submitted _ _)]
    exact .single (.submitFailed c rv hold hreg hneg)
  | register k c hc hlive hcleared hconn howned hpos hdes hown =>
    rw [World.register, ledger_input _ c _ (fun v => { v with registered := true, owned := true })
      (view_registered (by exact hconn)), w.ledger_setConn k _ (fun v => { v with
        streams := Streams.modify (w.ledger.calls c).streamId
          (fun e => { e with userData := some c }) v.streams
        active := c :: v.active
        activeCount := v.activeCount + 1
        ownerCount := v.ownerCount + 1 }) rfl]
    exact .single (.register k c hc hlive hcleared hconn howned hpos hdes hown)

/-- A run is a run of the ledger. -/
theorem Steps.ledger {w w' : World} (h : Steps w w') : Ledger.Steps w.ledger w'.ledger := by
  induction h with
  | refl => exact .refl
  | tail _ hd ih => exact ih.trans hd.ledger

/-! ## Honest write flags -/

/-- Every write flag is raised only behind an expired deadline. -/
def Honest (w : World) : Prop := ∀ k, (w.conns k).Honest w.env

/-- A change that touches neither the write flags nor the deadlines. -/
theorem Honest.congr {w w' : World} (h : w.Honest) (henv : w'.env = w.env)
    (hflag : ∀ k, (w'.conns k).currentWriteTimedOut = (w.conns k).currentWriteTimedOut)
    (hdeadline : ∀ k,
      (w'.conns k).currentWriteDeadlineAbsUs = (w.conns k).currentWriteDeadlineAbsUs) :
    w'.Honest := by
  intro k hf
  rw [hdeadline, henv]
  exact h k ((hflag k).symm.trans hf)

/-- A change of one connection. -/
theorem Honest.update {w w' : World} (h : w.Honest) {k : ConnId} {conn : H2Connection}
    (henv : w'.env = w.env) (hconns : w'.conns = Function.update w.conns k conn)
    (hflag : conn.currentWriteTimedOut = (w.conns k).currentWriteTimedOut)
    (hdeadline : conn.currentWriteDeadlineAbsUs = (w.conns k).currentWriteDeadlineAbsUs) :
    w'.Honest := by
  refine h.congr henv (fun k' => ?_) fun k' => ?_
  · rw [hconns, Function.update_apply]
    split
    · next hk => exact hk ▸ hflag
    · rfl
  · rw [hconns, Function.update_apply]
    split
    · next hk => exact hk ▸ hdeadline
    · rfl

/-- Calls do not count. -/
theorem Honest.calls {w w' : World} (h : w.Honest) (henv : w'.env = w.env)
    (hconns : w'.conns = w.conns) : w'.Honest :=
  h.congr henv (fun k => by rw [hconns]) fun k => by rw [hconns]

/-- A session notes an expired write only behind its deadline. -/
theorem Honest.drive {k : ConnId} {w w' : World} (h : w.Honest) (hd : Drive k w w') :
    w'.Honest := by
  cases hd with
  | quiet env conn henv hview hhonest =>
    intro k'
    by_cases hk : k' = k
    · subst hk
      simpa only [Function.update_self] using hhonest (h k')
    · simpa only [Function.update_of_ne hk] using (h k').grows henv
  | die | drain | streams | receive | deliver | unregister => exact h.update rfl rfl rfl rfl
  | log | close | source | note | complete | pop | free => exact h.calls rfl rfl

/-- So does any step. -/
theorem Honest.step {w w' : World} (h : w.Honest) (hs : Step w w') : w'.Honest := by
  cases hs with
  | keep hk =>
    cases hk with
    | drive k hd => exact h.drive hd
    | newConn conn hview hflag =>
      intro k
      by_cases hk : k = w.nextConn
      · subst hk
        intro hf
        simp only [Function.update_self, hflag] at hf
        exact absurd hf Bool.false_ne_true
      · simpa only [Function.update_of_ne hk] using h k
    | clearOwner | markDetached | destroy => exact h.update rfl rfl rfl rfl
    | abort | release | uncache | cache => exact h.calls rfl rfl
  | newCall | logSubmit | submitFailed => exact h.calls rfl rfl
  | submit | register => exact h.update rfl rfl rfl rfl

end World

end GrpcLite
