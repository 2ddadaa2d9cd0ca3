import GrpcLite.Core.Counting
import GrpcLite.Transport.World

/-!
# The ownership ledger

The part of the transport state that decides who may touch which connection and
when objects may go: streams and their request sources, owners, the cache, and
the logs. `Drive` are the changes made while somebody drives the session of one
connection, `Step` all changes. Every step carries the condition under which the
protocol allows it.
-/

namespace GrpcLite

/-- What the ledger keeps of a connection. -/
structure ConnView where
  /-- No input or output is allowed any more. -/
  dead : Bool := false
  /-- No new streams are allowed. -/
  draining : Bool := false
  /-- The connection left the cache. -/
  detached : Bool := false
  /-- Counter beside `active`. -/
  activeCount : Nat := 0
  /-- Counter of owners. -/
  ownerCount : Nat := 0
  /-- Registered calls. -/
  active : List CallId := []
  /-- Streams of the session. -/
  streams : List StreamEntry := []
  /-- Number of destructions. -/
  destroyed : Nat := 0

/-- What the ledger keeps of a call. -/
structure CallView where
  /-- The object exists. -/
  live : Bool := false
  /-- The connection the call points at. -/
  connection : Option ConnId := none
  /-- Its stream. -/
  streamId : Int := 0
  /-- It is registered for callbacks. -/
  registered : Bool := false
  /-- It is counted as an owner. -/
  owned : Bool := false
  /-- It has given up its connection. -/
  cleared : Bool := false
  /-- It knows that its stream is closed. -/
  closed : Bool := false
  /-- Body bytes it has been given. -/
  bytes : Bytes := []

/-- The view without what a callback changes. -/
def CallView.link (v : CallView) : CallView := { v with closed := false, bytes := [] }

theorem CallView.of_link {v v' : CallView} (h : v'.link = v.link) :
    v'.live = v.live ∧ v'.connection = v.connection ∧ v'.streamId = v.streamId ∧
      v'.registered = v.registered ∧ v'.owned = v.owned ∧ v'.cleared = v.cleared := by
  simp only [CallView.link, CallView.mk.injEq] at h
  exact ⟨h.1, h.2.1, h.2.2.1, h.2.2.2.1, h.2.2.2.2.1, h.2.2.2.2.2.1⟩

/-- The ledger. -/
structure Ledger where
  /-- Connections by identity. -/
  conns : ConnId → ConnView := fun _ => {}
  /-- Calls by identity. -/
  calls : CallId → CallView := fun _ => {}
  /-- Number of connections created. -/
  nextConn : ConnId := 0
  /-- Number of calls created. -/
  nextCall : CallId := 0
  /-- The persistent cache. -/
  cache : List CacheEntry := []
  /-- Operations on connections. -/
  ioLog : List IoRecord := []
  /-- Reads of request bytes. -/
  sourceReads : List (CallId × Bool) := []
  /-- Destructions of connections. -/
  destroys : List DestroyRecord := []
  /-- Releases of calls. -/
  releases : List ReleaseRecord := []

namespace Ledger

/-- Change a connection. -/
def setConn (l : Ledger) (k : ConnId) (f : ConnView → ConnView) : Ledger :=
  { l with conns := Function.update l.conns k (f (l.conns k)) }

/-- Change a call. -/
def setCall (l : Ledger) (c : CallId) (f : CallView → CallView) : Ledger :=
  { l with calls := Function.update l.calls c (f (l.calls c)) }

theorem setConn_conns (l : Ledger) (k : ConnId) (f : ConnView → ConnView) (k' : ConnId) :
    (l.setConn k f).conns k' = if k' = k then f (l.conns k) else l.conns k' :=
  Function.update_apply ..

@[simp] theorem setConn_calls (l : Ledger) (k : ConnId) (f : ConnView → ConnView) :
    (l.setConn k f).calls = l.calls := rfl

@[simp] theorem setCall_conns (l : Ledger) (c : CallId) (f : CallView → CallView) :
    (l.setCall c f).conns = l.conns := rfl

theorem setCall_calls (l : Ledger) (c : CallId) (f : CallView → CallView) (c' : CallId) :
    (l.setCall c f).calls c' = if c' = c then f (l.calls c) else l.calls c' :=
  Function.update_apply ..

/-- A call is an owner of a connection. -/
def Owns (l : Ledger) (c : CallId) (k : ConnId) : Prop :=
  (l.calls c).owned = true ∧ (l.calls c).connection = some k

instance (l : Ledger) (k : ConnId) : DecidablePred fun c => l.Owns c k :=
  fun _ => inferInstanceAs (Decidable (_ ∧ _))

/-- The library can no longer read the request of a call. -/
def RequestDetached (l : Ledger) (c : CallId) : Prop :=
  ∀ k, ∀ e ∈ (l.conns k).streams, e.source = c →
    e.closed = true ∨ e.reset = true ∨ (l.conns k).dead = true

/-- A connection is in the cache. -/
def Cached (l : Ledger) (k : ConnId) : Prop := ∃ entry ∈ l.cache, entry.connection = k

/-! ## Driving a session -/

/-- What may happen to the entry of a stream that gets no data. -/
structure EntryKeeps (e e' : StreamEntry) : Prop where
  /-- The identity of the stream stays. -/
  streamId : e'.streamId = e.streamId
  /-- The request source stays. -/
  source : e'.source = e.source
  /-- The bytes stay. -/
  data : e'.data = e.data
  /-- A closed stream stays closed. -/
  closed : e.closed = true → e'.closed = true
  /-- An accepted reset stays. -/
  reset : e.reset = true → e'.reset = true
  /-- A registration can only go away. -/
  userData : ∀ c, e'.userData = some c → e.userData = some c

/-- The changes made while the session of a connection is driven. -/
inductive Drive (k : ConnId) (l : Ledger) : Ledger → Prop
  /-- An operation on the connection, which is neither dead nor destroyed. -/
  | log (kind : IoKind) (hdead : (l.conns k).dead = false) (hdes : (l.conns k).destroyed = 0) :
    Drive k l { l with ioLog := l.ioLog ++ [⟨k, kind, false, false⟩] }
  /-- The connection dies. -/
  | die : Drive k l (l.setConn k fun v => { v with dead := true })
  /-- The connection starts to drain. -/
  | drain : Drive k l (l.setConn k fun v => { v with draining := true })
  /-- Streams are closed, reset or forget their registration. -/
  | streams (f : StreamEntry → StreamEntry) (hf : ∀ e, EntryKeeps e (f e)) :
    Drive k l (l.setConn k fun v => { v with streams := v.streams.map f })
  /-- Bytes arrive on a stream that nobody is registered for. -/
  | receive (streamId : Int) (bytes : Bytes)
      (hnone : Streams.userData streamId (l.conns k).streams = none) :
    Drive k l (l.setConn k fun v => { v with streams := Streams.append streamId bytes v.streams })
  /-- Bytes arrive on a stream and are given to the call registered for it. -/
  | deliver (streamId : Int) (c : CallId) (bytes : Bytes) (hdead : (l.conns k).dead = false)
      (huser : Streams.userData streamId (l.conns k).streams = some c) :
    Drive k l ((l.setConn k fun v =>
      { v with streams := Streams.append streamId bytes v.streams }).setCall c fun v =>
        { v with bytes := v.bytes ++ bytes })
  /-- A registered call learns that its stream is closed. -/
  | close (c : CallId) (hreg : (l.calls c).registered = true)
      (hconn : (l.calls c).connection = some k) :
    Drive k l (l.setCall c fun v => { v with closed := true })
  /-- A call is taken off the list; a live session forgets its registration. -/
  | unregister (c : CallId) (hreg : (l.calls c).registered = true)
      (hconn : (l.calls c).connection = some k) :
    Drive k l ((l.setConn k fun v => { v with
      active := v.active.erase c
      activeCount := v.activeCount - 1
      streams := if v.dead then v.streams else
        Streams.modify (l.calls c).streamId (fun e => { e with userData := none })
          v.streams }).setCall c fun v => { v with registered := false })
  /-- The library reads the request of a live call. -/
  | source (c : CallId) (hlive : (l.calls c).live = true) :
    Drive k l { l with sourceReads := l.sourceReads ++ [(c, true)] }

/-! ## All changes -/

/-- The changes of the ledger. -/
inductive Step (l : Ledger) : Ledger → Prop
  /-- A session is driven. -/
  | drive (k : ConnId) {l' : Ledger} (h : Drive k l l') : Step l l'
  /-- A connection is created. -/
  | newConn : Step l { l with
      conns := Function.update l.conns l.nextConn {}, nextConn := l.nextConn + 1 }
  /-- A call is created for a connection. -/
  | newCall (k : ConnId) (hk : k < l.nextConn) : Step l { l with
      calls := Function.update l.calls l.nextCall { live := true, connection := some k }
      nextCall := l.nextCall + 1 }
  /-- The request of a new call is submitted. -/
  | submit (k : ConnId) (c : CallId) (streamId : Int) (hc : c < l.nextCall)
      (hlive : (l.calls c).live = true) (hcleared : (l.calls c).cleared = false)
      (hconn : (l.calls c).connection = some k) (howned : (l.calls c).owned = false)
      (hold : (l.calls c).streamId ≤ 0) (hbytes : (l.calls c).bytes = []) (hpos : 0 < streamId)
      (hnew : ∀ e ∈ (l.conns k).streams, e.streamId < streamId) :
    Step l ((l.setCall c fun v => { v with streamId := streamId }).setConn k fun v =>
      { v with streams := v.streams ++ [{ streamId := streamId, source := c }] })
  /-- The submission of a request fails. -/
  | submitFailed (c : CallId) (rv : Int) (hold : (l.calls c).streamId ≤ 0)
      (hreg : (l.calls c).registered = false) (hneg : rv ≤ 0) :
    Step l (l.setCall c fun v => { v with streamId := rv })
  /-- A submitted call is registered and becomes an owner. -/
  | register (k : ConnId) (c : CallId) (hc : c < l.nextCall) (hlive : (l.calls c).live = true)
      (hcleared : (l.calls c).cleared = false) (hconn : (l.calls c).connection = some k)
      (howned : (l.calls c).owned = false) (hpos : 0 < (l.calls c).streamId)
      (hdes : (l.conns k).destroyed = 0)
      (hown : ∀ e ∈ (l.conns k).streams, e.streamId = (l.calls c).streamId →
        e.source = c ∧ e.data = (l.calls c).bytes) :
    Step l ((l.setConn k fun v => { v with
      streams := Streams.modify (l.calls c).streamId (fun e => { e with userData := some c })
        v.streams
      active := c :: v.active
      activeCount := v.activeCount + 1
      ownerCount := v.ownerCount + 1 }).setCall c fun v => { v with registered := true, owned := true })
  /-- A call whose request is detached gives up its connection. -/
  | clearOwner (k : ConnId) (c : CallId) (forget : Bool)
      (hconn : (l.calls c).connection = some k) (hreg : (l.calls c).registered = false)
      (hdet : l.RequestDetached c) :
    Step l ((l.setConn k fun v => { v with
      ownerCount := if (l.calls c).owned then v.ownerCount - 1 else v.ownerCount }).setCall c
        fun v => { v with
          owned := false, cleared := true, connection := if forget then none else v.connection })
  /-- A call that owns nothing and whose request is detached is released. -/
  | release (c : CallId) (howned : (l.calls c).owned = false) (hdet : l.RequestDetached c)
      (hcleared : ∀ k, ∀ e ∈ (l.conns k).streams, e.source = c → (l.calls c).cleared = true) :
    Step l (({ l with releases := l.releases ++ [⟨c, true⟩] } : Ledger).setCall c fun v =>
      { v with live := false })
  /-- Entries of the cache are removed. -/
  | uncache (p : CacheEntry → Bool) : Step l { l with cache := l.cache.filter p }
  /-- A connection outside the cache is marked as detached. -/
  | markDetached (k : ConnId) (hcache : ¬l.Cached k) :
    Step l (l.setConn k fun v => { v with detached := true })
  /-- A connection outside the cache is cached under a free key. -/
  | cache (key : Bytes) (k : ConnId) (hk : k < l.nextConn) (hcache : ¬l.Cached k)
      (hkey : ∀ entry ∈ l.cache, entry.key ≠ key) (hdes : (l.conns k).destroyed = 0)
      (hdet : (l.conns k).detached = false) :
    Step l { l with cache := l.cache ++ [⟨key, k, key⟩] }
  /-- A connection without owner and outside the cache is destroyed. -/
  | destroy (k : ConnId) (hcache : ¬l.Cached k) (hown : (l.conns k).ownerCount = 0)
      (hdes : (l.conns k).destroyed = 0) :
    Step l (({ l with destroys := l.destroys ++ [⟨k, 0, false, 0⟩] } : Ledger).setConn k fun v =>
      { v with destroyed := v.destroyed + 1 })

/-- A run of the ledger. -/
abbrev Steps : Ledger → Ledger → Prop := Relation.ReflTransGen Step

/-- A run that drives the session of one connection. -/
abbrev Drives (k : ConnId) : Ledger → Ledger → Prop := Relation.ReflTransGen (Drive k)

theorem Drives.steps {k : ConnId} {l l' : Ledger} (h : Drives k l l') : Steps l l' :=
  h.lift id fun _ _ => Step.drive k

end Ledger

end GrpcLite
