import GrpcLite.Refinement.Release

/-!
# The error detail of a living connection

`last_error_detail` is written where input or output fails. Apart from a failed
read, every failure kills the connection, so the detail of a living connection
stays as it is: the callbacks and the successful sends spare it.
-/

namespace GrpcLite

namespace Port

/-- The connection is as usable as before and keeps its detail. -/
structure Steady (p p' : Port) : Prop where
  /-- It is dead or not as before. -/
  dead : p'.conn.dead = p.conn.dead
  /-- It drains or not as before. -/
  draining : p'.conn.draining = p.conn.draining
  /-- The detail stays. -/
  detail : p'.conn.lastErrorDetail = p.conn.lastErrorDetail
  /-- The library has frames to send or not as before. -/
  outbound : p'.conn.outbound = p.conn.outbound

instance : Std.Refl Steady := ⟨fun _ => ⟨rfl, rfl, rfl, rfl⟩⟩

instance : IsTrans Port Steady :=
  ⟨fun _ _ _ h h' => ⟨h'.dead.trans h.dead, h'.draining.trans h.draining, h'.detail.trans h.detail,
    h'.outbound.trans h.outbound⟩⟩

/-- What the environment does leaves the connection alone. -/
theorem onEnv_steady {α : Type} (m : Exec Env α) : Exec.Within Steady (onEnv m) := by
  intro p a p' h
  obtain ⟨env, -, rfl⟩ := Exec.zoom_some.mp h
  exact ⟨rfl, rfl, rfl, rfl⟩

/-- A change of the connection that leaves its life, its draining, its detail and its frames alone.
-/
theorem setConn_steady {f : H2Connection → H2Connection} (hdead : ∀ conn, (f conn).dead = conn.dead)
    (hdraining : ∀ conn, (f conn).draining = conn.draining)
    (hrest : ∀ conn, (f conn).lastErrorDetail = conn.lastErrorDetail ∧
      (f conn).outbound = conn.outbound) : Exec.Within Steady (setConn f) :=
  .modify fun _ => ⟨hdead _, hdraining _, (hrest _).1, (hrest _).2⟩

/-- A wait that succeeds leaves the connection alone. -/
theorem waitReady_steady (events deadline : Nat) (pollFailed : Nat → ErrorDetail) :
    Exec.Yields (· = .again) Steady (waitReady events deadline pollFailed) := by
  refine .bind (onEnv_steady _) fun _ => .ite (fun _ => Exec.Within.yields (.pure _) _) fun _ => ?_
  refine .bind .get fun _ => .ite (fun _ => .refuse_after (by decide)) fun _ => ?_
  exact .refuse_after (by decide)

/-! ## Reading -/

/-- A read from TLS that gives bytes leaves the connection alone. -/
theorem sslReadLoop_steady (length deadline fuel : Nat) :
    Exec.Yields (0 < ·) Steady (sslReadLoop length deadline fuel) := by
  induction fuel with
  | zero => exact .block
  | succ fuel ih =>
    refine .bind (onEnv_steady _) fun _ => .bind (onEnv_steady _) fun _ => ?_
    refine .ite (fun _ => Exec.Within.yields (.pure _) _) fun _ => ?_
    refine .bind (setConn_steady (fun _ => rfl) (fun _ => rfl) fun _ => ⟨rfl, rfl⟩) fun _ => ?_
    split
    · refine .seq (waitReady_steady _ deadline _) ?_ ?_
      · rintro _ rfl
        exact ih
      · intro wait hwait p rv p' h
        cases wait with
        | again => exact absurd rfl hwait
        | timedOut | failed =>
          obtain ⟨rfl, -⟩ := Exec.pure_some.mp h
          decide
    · exact .bind (onEnv_steady _) fun _ => .refuse_after (by decide)

/-- So does a read from the socket that gives bytes. -/
theorem recvLoop_steady (length deadline fuel : Nat) :
    Exec.Yields (0 < ·) Steady (recvLoop length deadline fuel) := by
  induction fuel with
  | zero => exact .block
  | succ fuel ih =>
    refine .bind (onEnv_steady _) fun _ => .ite (fun _ => Exec.Within.yields (.pure _) _) fun _ => ?_
    refine .bind (onEnv_steady _) fun _ => .ite (fun _ => ?_) fun _ => .refuse_after (by decide)
    refine .seq (waitReady_steady _ deadline _) ?_ ?_
    · rintro _ rfl
      exact ih
    · intro wait hwait p rv p' h
      cases wait with
      | again => exact absurd rfl hwait
      | timedOut | failed =>
        obtain ⟨rfl, -⟩ := Exec.pure_some.mp h
        decide

/-- A successful read, whichever way it goes. -/
theorem connectionRecv_steady (length deadline : Nat) :
    Exec.Yields (0 < ·) Steady (connectionRecv length deadline) := by
  refine .bind (onEnv_steady _) fun _ => .ite (fun _ => ?_) fun _ => ?_
  · exact .bind (onEnv_steady _) fun _ => .refuse_after (by decide)
  · refine .bind .get fun _ => .ite (fun _ => ?_) fun _ => ?_
    · exact sslReadLoop_steady length deadline _
    · exact recvLoop_steady length deadline _

/-! ## Writing -/

/-- Bytes that are put on the wire. -/
theorem putOnWire_steady (data : Bytes) (written : Int) :
    Exec.Within Steady (putOnWire data written) :=
  setConn_steady (fun _ => rfl) (fun _ => rfl) fun _ => ⟨rfl, rfl⟩

/-- A write to TLS that takes bytes leaves the connection alone. -/
theorem sslWriteLoop_steady (data : Bytes) (deadline fuel : Nat) :
    Exec.Yields (0 < ·) Steady (sslWriteLoop data deadline fuel) := by
  induction fuel with
  | zero => exact .block
  | succ fuel ih =>
    refine .bind (onEnv_steady _) fun _ => .bind (onEnv_steady _) fun _ => ?_
    refine .ite (fun _ => Exec.Within.yields (.bind (putOnWire_steady _ _) fun _ => .pure _) _)
      fun _ => ?_
    refine .bind (setConn_steady (fun _ => rfl) (fun _ => rfl) fun _ => ⟨rfl, rfl⟩) fun _ => ?_
    split
    · refine .seq (waitReady_steady _ deadline _) ?_ ?_
      · rintro _ rfl
        exact ih
      · intro wait hwait p rv p' h
        cases wait with
        | again => exact absurd rfl hwait
        | timedOut =>
          obtain ⟨_, p₁, -, h⟩ := Exec.bind_some.mp h
          obtain ⟨rfl, -⟩ := Exec.pure_some.mp h
          decide
        | failed =>
          obtain ⟨rfl, -⟩ := Exec.pure_some.mp h
          decide
    · exact .bind (onEnv_steady _) fun _ => .refuse_after (by decide)

/-- So does a write to the socket that takes bytes. -/
theorem sendLoop_steady (data : Bytes) (deadline fuel : Nat) :
    Exec.Yields (0 < ·) Steady (sendLoop data deadline fuel) := by
  induction fuel with
  | zero => exact .block
  | succ fuel ih =>
    refine .bind (onEnv_steady _) fun _ => ?_
    refine .ite (fun _ => Exec.Within.yields (.bind (putOnWire_steady _ _) fun _ => .pure _) _)
      fun _ => ?_
    refine .bind (onEnv_steady _) fun _ => .ite (fun _ => ?_) fun _ => .refuse_after (by decide)
    refine .seq (waitReady_steady _ deadline _) ?_ ?_
    · rintro _ rfl
      exact ih
    · intro wait hwait p rv p' h
      cases wait with
      | again => exact absurd rfl hwait
      | timedOut =>
        obtain ⟨_, p₁, -, h⟩ := Exec.bind_some.mp h
        obtain ⟨rfl, -⟩ := Exec.pure_some.mp h
        decide
      | failed =>
        obtain ⟨rfl, -⟩ := Exec.pure_some.mp h
        decide

/-- A successful send, whichever way it goes. -/
theorem h2ConnectionSend_steady (data : Bytes) (deadline : Nat) :
    Exec.Yields (0 < ·) Steady (h2ConnectionSend data deadline) := by
  refine .bind (onEnv_steady _) fun _ => .ite (fun _ => ?_) fun _ => ?_
  · refine .bind (onEnv_steady _) fun _ => ?_
    refine .bind (setConn_steady (fun conn => ?_) (fun conn => ?_) fun conn => ?_) fun _ =>
      .refuse_after (by decide)
    · unfold H2Connection.markWriteTimedOut
      split <;> rfl
    · unfold H2Connection.markWriteTimedOut
      split <;> rfl
    · unfold H2Connection.markWriteTimedOut
      split <;> exact ⟨rfl, rfl⟩
  · refine .bind .get fun _ => .ite (fun _ => .ite (fun _ => ?_) fun _ => ?_) fun _ => ?_
    · exact .bind (onEnv_steady _) fun _ => .refuse_after (by decide)
    · exact sslWriteLoop_steady data deadline _
    · exact sendLoop_steady data deadline _

/-- The bytes are written as a whole. -/
theorem writeAllLoop_steady (deadline fuel : Nat) (data : Bytes) :
    Exec.Yields (· = true) Steady (writeAllLoop deadline fuel data) := by
  induction fuel generalizing data with
  | zero =>
    cases data with
    | nil => exact Exec.Within.yields (.pure _) _
    | cons b bs => exact .block
  | succ fuel ih =>
    cases data with
    | nil => exact Exec.Within.yields (.pure _) _
    | cons b bs =>
      refine .seq (h2ConnectionSend_steady _ deadline) (fun written _ => ?_) ?_
      · exact .ite (fun _ => .refuse (by decide)) fun _ => ih _
      · intro written hnot p ok p' h
        rw [if_pos (by omega)] at h
        obtain ⟨rfl, -⟩ := Exec.pure_some.mp h
        decide

/-- The write buffer is flushed as a whole. -/
theorem flushWriteBuffer_steady (deadline : Nat) :
    Exec.Yields (· = true) Steady (flushWriteBuffer deadline) := by
  refine .bind .get fun p => .ite (fun _ => Exec.Within.yields (.pure _) _) fun _ => ?_
  refine .seq (writeAllLoop_steady deadline _ _) ?_ ?_
  · rintro _ rfl
    refine .ite (fun hno => absurd hno (by decide)) fun _ => ?_
    exact .bind (setConn_steady (fun _ => rfl) (fun _ => rfl) fun _ => ⟨rfl, rfl⟩) fun _ => Exec.Within.yields (.pure _) _
  · intro ok hok p₁ ok' p' h
    rw [if_pos (by simpa using hok)] at h
    obtain ⟨rfl, -⟩ := Exec.pure_some.mp h
    decide

/-- Room is made in the write buffer. -/
theorem makeRoom_steady (length deadline : Nat) :
    Exec.Yields (· = true) Steady (makeRoom length deadline) :=
  .bind .get fun _ => .ite (fun _ => flushWriteBuffer_steady deadline)
    fun _ => Exec.Within.yields (.pure _) _

/-- Bytes that are buffered or written. -/
theorem bufferOrWrite_steady (data : Bytes) (deadline : Nat) :
    Exec.Yields (· = true) Steady (bufferOrWrite data deadline) := by
  have hfail {ok : Bool} {f : Exec Port Bool} (hok : ¬ok = true) (p : Port) (ok' : Bool) (p' : Port)
      (h : (if (!ok) = true then pure false else f) p = some (ok', p')) : ¬ok' = true := by
    rw [if_pos (by simpa using hok)] at h
    obtain ⟨rfl, -⟩ := Exec.pure_some.mp h
    decide
  refine .bind .get fun p => .ite (fun _ => writeAllLoop_steady deadline _ _) fun _ => ?_
  refine .ite (fun _ => ?_) fun _ => ?_
  · refine .seq (flushWriteBuffer_steady deadline) ?_ fun ok hok p₁ ok' p' h => hfail hok p₁ ok' p' h
    rintro _ rfl
    exact writeAllLoop_steady deadline _ _
  · refine .seq (makeRoom_steady _ deadline) ?_ fun ok hok p₁ ok' p' h => hfail hok p₁ ok' p' h
    rintro _ rfl
    refine .ite (fun hno => absurd hno (by decide)) fun _ => ?_
    exact .bind (setConn_steady (fun _ => rfl) (fun _ => rfl) fun _ => ⟨rfl, rfl⟩) fun _ => Exec.Within.yields (.pure _) _

/-- A send callback whose writes succeed leaves the connection alone. -/
theorem sendCallback_steady (data : Bytes) :
    Exec.Yields (· = true) Steady (sendCallback data) :=
  .bind (setConn_steady (fun _ => rfl) (fun _ => rfl) fun _ => ⟨rfl, rfl⟩) fun _ =>
    .bind .get fun _ => bufferOrWrite_steady data _

end Port

namespace World

/-- A change of one connection, seen from any connection. -/
theorem setConn_conns (w : World) (k : ConnId) (f : H2Connection → H2Connection) (k' : ConnId) :
    (w.setConn k f).conns k' = if k' = k then f (w.conns k) else w.conns k' :=
  Function.update_apply ..

/-- A dead connection stays dead, a draining one drains, and a living one keeps its
detail. -/
structure Spares (w w' : World) : Prop where
  /-- No connection comes back to life. -/
  dead : ∀ k, (w.conns k).dead = true → (w'.conns k).dead = true
  /-- None stops to drain. -/
  draining : ∀ k, (w.conns k).draining = true → (w'.conns k).draining = true
  /-- The details of living connections stay. -/
  detail : ∀ k, (w'.conns k).dead = false →
    (w'.conns k).lastErrorDetail = (w.conns k).lastErrorDetail

instance : Std.Refl Spares := ⟨fun _ => ⟨fun _ => id, fun _ => id, fun _ _ => rfl⟩⟩

instance : IsTrans World Spares := by
  refine ⟨fun w w₁ w' h h' => ⟨fun k => h'.dead k ∘ h.dead k,
    fun k => h'.draining k ∘ h.draining k, fun k hk => ?_⟩⟩
  have halive : (w₁.conns k).dead = false := by
    by_contra hdead
    exact absurd ((h'.dead k (Bool.not_eq_false _ ▸ hdead)).symm.trans hk) (by decide)
  rw [h'.detail k hk, h.detail k halive]

/-- No connection changes at all. -/
theorem Spares.of_conns {w w' : World} (h : w'.conns = w.conns) : Spares w w' := by
  refine ⟨fun k => ?_, fun k => ?_, fun k _ => by rw [h]⟩
  · rw [h]
    exact id
  · rw [h]
    exact id

/-- A dead connection stays dead, a living one keeps its detail and drains or not as before,
and no library gets something to send. -/
structure Steady (w w' : World) : Prop where
  /-- The details of living connections stay. -/
  spares : Spares w w'
  /-- No connection starts to drain. -/
  draining : ∀ k, (w'.conns k).draining = (w.conns k).draining
  /-- No library gets something to send. -/
  outbound : ∀ k, (w'.conns k).outbound = true → (w.conns k).outbound = true

instance : Std.Refl Steady := ⟨fun _ => ⟨Std.Refl.refl _, fun _ => rfl, fun _ => id⟩⟩

instance : IsTrans World Steady :=
  ⟨fun _ _ _ h h' => ⟨trans_of Spares h.spares h'.spares,
    fun k => (h'.draining k).trans (h.draining k), fun k => h.outbound k ∘ h'.outbound k⟩⟩

/-- No connection changes at all. -/
theorem Steady.of_conns {w w' : World} (h : w'.conns = w.conns) : Steady w w' := by
  refine ⟨.of_conns h, fun k => by rw [h], fun k => ?_⟩
  rw [h]
  exact id

/-- A usable connection carries no detail. -/
def Clean (w : World) (k : ConnId) : Prop :=
  (w.conns k).usable = true → (w.conns k).lastErrorDetail = none

/-- A usable connection was usable before. -/
theorem Spares.usable {w w' : World} {k : ConnId} (hs : Spares w w')
    (hk : (w'.conns k).usable = true) : (w.conns k).usable = true := by
  simp only [H2Connection.usable, Bool.and_eq_true, Bool.not_eq_true'] at hk ⊢
  constructor
  · by_contra hdead
    exact absurd ((hs.dead k (Bool.not_eq_false _ ▸ hdead)).symm.trans hk.1) (by decide)
  · by_contra hdrain
    exact absurd ((hs.draining k (Bool.not_eq_false _ ▸ hdrain)).symm.trans hk.2) (by decide)

/-- What spares the details keeps a connection clean. -/
theorem Clean.spares {w w' : World} {k : ConnId} (h : w.Clean k) (hs : Spares w w') :
    w'.Clean k := by
  intro hk
  have hbefore := h (hs.usable hk)
  simp only [H2Connection.usable, Bool.and_eq_true, Bool.not_eq_true'] at hk
  rw [hs.detail k hk.1, hbefore]

/-- A usable connection carries no detail, and its library has nothing to send. -/
def Idle (w : World) (k : ConnId) : Prop :=
  (w.conns k).usable = true → (w.conns k).lastErrorDetail = none ∧ (w.conns k).outbound = false

/-- An idle connection is clean. -/
theorem Idle.clean {w : World} {k : ConnId} (h : w.Idle k) : w.Clean k := fun hk => (h hk).1

/-- A clean connection with nothing to send is idle. -/
theorem Clean.idle {w : World} {k : ConnId} (h : w.Clean k)
    (hout : (w.conns k).outbound = false) : w.Idle k := fun hk => ⟨h hk, hout⟩

/-- A connection that cannot be used is idle. -/
theorem Idle.of_unusable {w : World} {k : ConnId} (h : (w.conns k).usable = false) : w.Idle k :=
  fun hk => absurd (h.symm.trans hk) (by decide)

/-- A dead connection is idle. -/
theorem Idle.of_dead {w : World} {k : ConnId} (h : (w.conns k).dead = true) : w.Idle k :=
  .of_unusable (by simp [H2Connection.usable, h])

/-- An idle connection stays idle where no library gets something to send. -/
theorem Idle.steady {w w' : World} {k : ConnId} (h : w.Idle k) (hs : Steady w w') : w'.Idle k := by
  intro hk
  refine ⟨h.clean.spares hs.spares hk, ?_⟩
  by_contra hout
  have hbefore := hs.outbound k (Bool.not_eq_false _ ▸ hout)
  exact absurd (hbefore.symm.trans (h (hs.spares.usable hk)).2) (by decide)

end World

/-- What is steady spares the details. -/
theorem Exec.Within.spares {α : Type} {m : Proc α} (h : Exec.Within World.Steady m) :
    Exec.Within World.Spares m :=
  h.mono fun _ _ hsteady => hsteady.spares

namespace Proc

open World

/-! ## The session -/

/-- A change of anything but the connections. -/
theorem modify_steady {f : World → World} (h : ∀ w, (f w).conns = w.conns) :
    Exec.Within Steady (modify f : Proc Unit) :=
  .modify fun w => .of_conns (h w)

/-- A change of a connection that keeps its detail and does not bring it back. -/
theorem setConn_spares (k : ConnId) {f : H2Connection → H2Connection}
    (hdead : ∀ conn, (f conn).dead = conn.dead)
    (hdraining : ∀ conn, conn.draining = true → (f conn).draining = true)
    (hdetail : ∀ conn, (f conn).lastErrorDetail = conn.lastErrorDetail) :
    Exec.Within Spares (setConn k f) := by
  refine .modify fun w => ⟨fun k' => ?_, fun k' => ?_, fun k' _ => ?_⟩
  · rw [World.setConn_conns]
    split
    · next hk =>
      rw [hdead, hk]
      exact id
    · exact id
  · rw [World.setConn_conns]
    split
    · next hk =>
      rw [hk]
      exact hdraining _
    · exact id
  · rw [World.setConn_conns]
    split
    · next hk => rw [hdetail, hk]
    · rfl

end Proc

/-- A change of a connection that leaves its use alone. -/
theorem World.Steady.setConn {k : ConnId} {f : H2Connection → H2Connection} {w w' : World} {u : Unit}
    (h : Proc.setConn k f w = some (u, w')) (hdead : ∀ conn, (f conn).dead = conn.dead)
    (hdraining : ∀ conn, (f conn).draining = conn.draining)
    (hrest : ∀ conn, (f conn).lastErrorDetail = conn.lastErrorDetail ∧
      ((f conn).outbound = true → conn.outbound = true)) : Steady w w' := by
  have hkeeps : ∀ conn, conn.draining = true → (f conn).draining = true :=
    fun conn hconn => (hdraining conn).trans hconn
  have hspares := Proc.setConn_spares k hdead hkeeps (fun conn => (hrest conn).1) _ _ _ h
  refine ⟨hspares, fun k' => ?_, fun k' => ?_⟩
  · rw [Exec.modify_some.mp h, World.setConn_conns]
    split
    · next hk => rw [hdraining, hk]
    · rfl
  · rw [Exec.modify_some.mp h, World.setConn_conns]
    split
    · next hk =>
      rw [hk]
      exact (hrest _).2
    · exact id

namespace Proc

open World

/-- A change of a connection that keeps its detail and gives its library nothing to send. -/
theorem setConn_steady (k : ConnId) {f : H2Connection → H2Connection}
    (hdead : ∀ conn, (f conn).dead = conn.dead)
    (hdraining : ∀ conn, (f conn).draining = conn.draining)
    (hrest : ∀ conn, (f conn).lastErrorDetail = conn.lastErrorDetail ∧
      ((f conn).outbound = true → conn.outbound = true)) : Exec.Within Steady (setConn k f) :=
  fun _ _ _ h => .setConn h hdead hdraining hrest

/-- A note of what the library has to send spares the details. -/
theorem noteOutbound_spares (k : ConnId) (outbound : Bool) :
    Exec.Within Spares (noteOutbound k outbound) :=
  setConn_spares k (fun _ => rfl) (fun _ => id) fun _ => rfl

/-- A note that it has nothing to send is steady. -/
theorem noteOutbound_steady (k : ConnId) : Exec.Within Steady (noteOutbound k false) :=
  setConn_steady k (fun _ => rfl) (fun _ => rfl) fun _ => ⟨rfl, nofun⟩

/-- A connection may die: its detail counts only while it lives. -/
theorem markConnectionDead_steady (k : ConnId) (errorCode : Int) :
    Exec.Within Steady (markConnectionDead k errorCode) := by
  refine .modify fun w => ⟨⟨fun k' hk' => ?_, fun k' => ?_, fun k' hk' => ?_⟩, fun k' => ?_,
    fun k' => ?_⟩
  · rw [World.setConn_conns]
    split
    · rfl
    · exact hk'
  · rw [World.setConn_conns]
    split
    · next hk =>
      rw [hk, H2Connection.markDead]
      exact id
    · exact id
  · rw [World.setConn_conns] at hk' ⊢
    split at hk'
    · exact absurd hk'.symm Bool.false_ne_true
    · next hne => rw [if_neg hne]
  · rw [World.setConn_conns]
    split
    · next hk => rw [hk, H2Connection.markDead]
    · rfl
  · rw [World.setConn_conns]
    split
    · next hk =>
      rw [hk, H2Connection.markDead]
      exact id
    · exact id

/-- What the environment does leaves the connections alone. -/
theorem onEnv_steady {α : Type} (m : Exec Env α) : Exec.Within Steady (onEnv m) := by
  intro w a w' h
  obtain ⟨env, -, rfl⟩ := Exec.zoom_some.mp h
  exact .of_conns rfl

/-- A record in the log leaves the connections alone. -/
theorem log_steady (k : ConnId) (kind : IoKind) : Exec.Within Steady (log k kind) :=
  modify_steady fun _ => rfl

/-- An input to a call leaves the connections alone. -/
theorem input_steady (c : CallId) (i : CallInput) : Exec.Within Steady (input c i) :=
  modify_steady fun _ => rfl

/-- A change of a call leaves the connections alone. -/
theorem setCall_steady (c : CallId) (f : TrackedCall → TrackedCall) :
    Exec.Within Steady (setCall c f) :=
  modify_steady fun _ => rfl

/-- Looking up a call changes nothing. -/
theorem call_steady (c : CallId) : Exec.Within Steady (call c) := .bind .get fun _ => .pure _

/-- Looking up a connection changes nothing. -/
theorem conn_steady (k : ConnId) : Exec.Within Steady (conn k) := .bind .get fun _ => .pure _

/-- A successful operation on the socket or on TLS. -/
theorem onPort_steady {α : Type} {P : α → Prop} (k : ConnId) {m : Exec Port α}
    (h : Exec.Yields P Port.Steady m) : Exec.Yields P Steady (onPort k m) := by
  intro w a w' hm ha
  obtain ⟨p, hp, rfl⟩ := Exec.zoom_some.mp hm
  obtain ⟨hdead, hdraining, hdetail, houtbound⟩ := h _ _ _ hp ha
  refine ⟨⟨fun k' => ?_, fun k' => ?_, fun k' _ => ?_⟩, fun k' => ?_, fun k' => ?_⟩
  · simp only [Function.update_apply]
    split
    · next hk =>
      rw [hk]
      exact hdead.trans
    · exact id
  · simp only [Function.update_apply]
    split
    · next hk =>
      rw [hk]
      exact hdraining.trans
    · exact id
  · simp only [Function.update_apply]
    split
    · next hk =>
      rw [hk]
      exact hdetail
    · rfl
  · simp only [Function.update_apply]
    split
    · next hk =>
      rw [hk]
      exact hdraining
    · rfl
  · simp only [Function.update_apply]
    split
    · next hk =>
      rw [hk]
      exact houtbound.symm.trans
    · exact id

/-! ## Callbacks -/

/-- The library forgets a stream. -/
theorem clearUserData_steady (k : ConnId) (streamId : Int) :
    Exec.Within Steady (clearUserData k streamId) :=
  .bind (log_steady k _) fun _ => setConn_steady k (fun _ => rfl) (fun _ => rfl) fun _ => ⟨rfl, id⟩

/-- A call leaves the list of its connection. -/
theorem unregisterGrpcCallStream_steady (c : CallId) :
    Exec.Within Steady (unregisterGrpcCallStream c) := by
  refine .bind (call_steady c) fun call => ?_
  cases call.connection with
  | none => exact .pure _
  | some k =>
    refine .ite (.pure _) (.bind (conn_steady k) fun _ => ?_)
    refine .bind (.when fun _ => clearUserData_steady k _) fun _ => ?_
    exact .bind (setConn_steady k (fun _ => rfl) (fun _ => rfl) fun _ => ⟨rfl, id⟩) fun _ => input_steady c _

/-- The library is told to reset a stream, or fails to. -/
theorem noteRst_steady (k : ConnId) (streamId rv : Int) :
    Exec.Within Steady (noteRst k streamId rv) := by
  refine .bind (log_steady k _) fun _ => .bind (modify_steady fun _ => rfl) fun _ => ?_
  exact .ite (setConn_steady k (fun _ => rfl) (fun _ => rfl) fun _ => ⟨rfl, id⟩)
    (.ite (markConnectionDead_steady k rv) (.pure _))

/-- The same for all resets of a callback. -/
theorem noteRsts_steady (k : ConnId) (streamId : Int) (rsts : List (Nat × Int)) :
    Exec.Within Steady (noteRsts k streamId rsts) := by
  induction rsts with
  | nil => exact .pure _
  | cons rst rsts ih => exact .bind (noteRst_steady k streamId rst.2) fun _ => ih

/-- A callback of a stream works on its call alone. -/
theorem onStreamEvent_steady (k : ConnId) (streamId : Int) (event : StreamEvent) :
    Exec.Within Steady (onStreamEvent k streamId event) := by
  have hcallback : Exec.Within Steady (eventCallback k streamId event) := by
    refine .bind .get fun w => ?_
    cases (w.conns k).userData streamId with
    | none => exact .pure _
    | some c =>
      refine .ite (.pure _) (.bind .get fun w₁ => .bind (input_steady c _) fun _ => ?_)
      refine .bind (noteRsts_steady k streamId _) fun _ => ?_
      exact .bind (.when fun _ => unregisterGrpcCallStream_steady c) fun _ => .pure _
  refine .bind (setConn_steady k (fun _ => rfl) (fun _ => rfl) fun _ => ⟨rfl, id⟩) fun _ => .bind hcallback fun _ => ?_
  exact .bind (.when fun _ => setConn_steady k (fun _ => rfl) (fun _ => rfl) fun _ => ⟨rfl, id⟩) fun _ => .pure _

/-- A GOAWAY refuses calls and touches no detail. -/
theorem refuseStreams_steady (k : ConnId) (lastStreamId : Int) (active : List CallId) :
    Exec.Within Steady (refuseStreams k lastStreamId active) := by
  induction active with
  | nil => exact .pure _
  | cons c active ih =>
    refine .bind (call_steady c) fun _ => ?_
    refine .bind (.when fun _ => ?_) fun _ => ih
    exact .bind (input_steady c _) fun _ => unregisterGrpcCallStream_steady c

/-- A connection that receives GOAWAY drains, and details stay. -/
theorem onGoaway_spares (k : ConnId) (lastStreamId : Int) (errorCode : Nat) :
    Exec.Within Spares (onGoaway k lastStreamId errorCode) := by
  refine .bind (conn_steady k).spares fun active => ?_
  refine .bind (setConn_spares k (fun _ => rfl) (fun _ _ => rfl) fun _ => rfl) fun _ => ?_
  refine .bind (.when fun _ => (refuseStreams_steady k lastStreamId _).spares) fun _ => ?_
  exact setConn_spares k (fun _ => rfl) (fun _ => id) fun _ => rfl

/-- The callbacks of one read spare the details. -/
theorem onSessionEvents_spares (k : ConnId) (rv : Int) (events : List SessionEvent) :
    Exec.Within Spares (onSessionEvents k rv events) := by
  induction events with
  | nil => exact .pure _
  | cons event events ih =>
    refine .bind ?_ fun _ => .ite (.pure _) ih
    cases event with
    | stream streamId event => exact (onStreamEvent_steady k streamId event).spares
    | goaway lastStreamId errorCode =>
      exact .bind (onGoaway_spares k lastStreamId errorCode) fun _ => .pure _

/-- Feeding the library spares the details. -/
theorem sessionMemRecv_spares (k : ConnId) : Exec.Within Spares (sessionMemRecv k) :=
  .bind (log_steady k _).spares fun _ => .bind (onEnv_steady _).spares fun _ =>
    .bind (noteOutbound_spares k true) fun _ => onSessionEvents_spares k _ _

/-! ## Sending -/

/-- A frame that is sent as a whole. -/
theorem sendFrame_steady (k : ConnId) (bytes : Bytes) :
    Exec.Yields (· = true) Steady (sendFrame k bytes) :=
  .bind (log_steady k _) fun _ => onPort_steady k (Port.sendCallback_steady bytes)

/-- A failed send of a frame ends what follows. -/
theorem failed_of_not {ok : Bool} {m : Proc Bool} (hok : ¬ok = true) (w : World) (ok' : Bool)
    (w' : World) (h : (if (!ok) = true then pure false else m) w = some (ok', w')) :
    ¬ok' = true := by
  rw [if_pos (by simpa using hok)] at h
  obtain ⟨rfl, -⟩ := Exec.pure_some.mp h
  decide

/-- The payload of a DATA frame that is sent as a whole. -/
theorem sendDataLoop_steady (k : ConnId) (c : CallId) (fuel length : Nat) :
    Exec.Yields (· = true) Steady (sendDataLoop k c fuel length) := by
  induction fuel generalizing length with
  | zero =>
    cases length with
    | zero => exact Exec.Within.yields (.pure _) _
    | succ length => exact .refuse (by decide)
  | succ fuel ih =>
    cases length with
    | zero => exact Exec.Within.yields (.pure _) _
    | succ length =>
      refine .bind (call_steady c) fun call => ?_
      cases call.requestChunk (length + 1) with
      | none => exact .refuse (by decide)
      | some chunk =>
        refine .seq (sendFrame_steady k chunk) ?_ fun ok hok w ok' w' h => failed_of_not hok w ok' w' h
        rintro _ rfl
        refine .ite (fun hno => absurd hno (by decide)) fun _ => ?_
        exact .bind (input_steady c _) fun _ => ih _

/-- A DATA frame that is sent as a whole. -/
theorem sendData_steady (k : ConnId) (streamId : Int) (limit : Nat) (framehd : Bytes)
    (padlen : Nat) : Exec.Yields (· = true) Steady (sendData k streamId limit framehd padlen) := by
  refine .bind .get fun w => ?_
  cases (w.conns k).requestSource streamId with
  | none => exact Exec.Within.yields (.pure _) _
  | some c =>
    refine .bind (modify_steady fun _ => rfl) fun _ => .ite (fun _ => ?_) fun _ => ?_
    · exact .bind (setConn_steady k (fun _ => rfl) (fun _ => rfl) fun _ => ⟨rfl, id⟩) fun _ =>
        Exec.Within.yields (.pure _) _
    · refine .seq (sendFrame_steady k framehd) ?_ fun ok hok w ok' w' h => failed_of_not hok w ok' w' h
      rintro _ rfl
      exact .ite (fun hno => absurd hno (by decide)) fun _ => sendDataLoop_steady k c _ _

/-- The callbacks of a send that succeeds. -/
theorem onSendOps_steady (k : ConnId) (rv : Int) (ops : List SendOp) :
    Exec.Yields (· = 0) Steady (onSendOps k rv ops) := by
  induction ops with
  | nil => exact Exec.Within.yields (.pure _) _
  | cons op ops ih =>
    have hop : Exec.Yields (· = true) Steady (onSendOp k op) := by
      cases op with
      | frame bytes => exact sendFrame_steady k bytes
      | data streamId limit framehd padlen => exact sendData_steady k streamId limit framehd padlen
      | close streamId errorCode =>
        exact Exec.Within.yields (.bind (onStreamEvent_steady k streamId _) fun _ => .pure _) _
    refine .seq hop ?_ fun ok hok w rv' w' h => ?_
    · rintro _ rfl
      exact .ite (fun hno => absurd hno (by decide)) fun _ => ih
    · rw [if_pos (by simpa using hok)] at h
      obtain ⟨rfl, -⟩ := Exec.pure_some.mp h
      decide

/-- A flush of the library and the buffer that succeeds. -/
theorem flushPending_steady (k : ConnId) : Exec.Yields (· = 0) Steady (flushPending k) := by
  refine .bind (log_steady k _) fun _ => .bind (conn_steady k) fun _ => ?_
  refine .seq (onPort_steady k (Port.flushWriteBuffer_steady _)) ?_ fun ok hok w rv' w' h => ?_
  · rintro _ rfl
    exact Exec.Within.yields (.pure _) _
  · rw [if_neg hok] at h
    obtain ⟨rfl, -⟩ := Exec.pure_some.mp h
    decide

/-- A send with the flush behind it that succeeds. -/
theorem sendAndFlush_steady (k : ConnId) : Exec.Yields (· = 0) Steady (sendAndFlush k) := by
  have hsend : Exec.Yields (· = 0) Steady (sessionSend k) := by
    refine .bind (log_steady k _) fun _ => .bind (conn_steady k) fun _ => ?_
    refine .bind (onEnv_steady _) fun _ => .seq (onSendOps_steady k _ _) ?_ ?_
    · rintro _ rfl
      exact .bind (.when fun _ => noteOutbound_steady k) fun _ => Exec.Within.yields (.pure _) _
    · intro rv hrv w rv' w' h
      obtain ⟨_, w₁, -, h⟩ := Exec.bind_some.mp h
      rw [← (Exec.pure_some.mp h).1]
      exact hrv
  refine .seq hsend ?_ fun rv hrv w rv' w' h => ?_
  · rintro _ rfl
    exact flushPending_steady k
  · rw [if_neg hrv] at h
    obtain ⟨rfl, -⟩ := Exec.pure_some.mp h
    exact hrv

/-- A send under a deadline that succeeds. -/
theorem sendPendingH2FramesWithDeadline_steady (k : ConnId) (oc : Option CallId) (fallback : Nat) :
    Exec.Yields (· = 0) Steady (sendPendingH2FramesWithDeadline k oc fallback) := by
  refine .bind .get fun w => .ite (fun _ => .refuse (by decide)) fun _ => ?_
  refine .bind (setConn_steady k (fun _ => rfl) (fun _ => rfl) fun _ => ⟨rfl, id⟩) fun _ => ?_
  refine .seq (sendAndFlush_steady k) ?_ fun rv hrv w₁ rv' w' h => ?_
  · rintro _ rfl
    refine .bind (.when fun hne => absurd rfl hne) fun _ => ?_
    exact .bind (setConn_steady k (fun _ => rfl) (fun _ => rfl) fun _ => ⟨rfl, id⟩) fun _ => Exec.Within.yields (.pure _) _
  · obtain ⟨_, w₂, -, h⟩ := Exec.bind_some.mp h
    obtain ⟨_, w₃, -, h⟩ := Exec.bind_some.mp h
    obtain ⟨rfl, -⟩ := Exec.pure_some.mp h
    exact hrv

/-- A completed send leaves the library with nothing to send. -/
theorem sendPendingH2FramesWithDeadline_dry {k : ConnId} {oc : Option CallId} {fallback : Nat}
    {w w' : World} (h : sendPendingH2FramesWithDeadline k oc fallback w = some (0, w')) :
    (w'.conns k).outbound = false := by
  rw [sendPendingH2FramesWithDeadline, Exec.get_bind_run] at h
  split at h
  · exact absurd (Exec.pure_some.mp h).1 (by decide)
  · obtain ⟨_, w₁, -, h⟩ := Exec.bind_some.mp h
    obtain ⟨rv, w₂, hsend, h⟩ := Exec.bind_some.mp h
    obtain ⟨_, w₃, hwhen, h⟩ := Exec.bind_some.mp h
    obtain ⟨_, w₄, hend, h⟩ := Exec.bind_some.mp h
    obtain ⟨rfl, rfl⟩ := Exec.pure_some.mp h
    obtain ⟨hne, -⟩ | ⟨-, rfl⟩ := Exec.when_some.mp hwhen
    · exact absurd rfl hne
    obtain ⟨rv₁, w₃, hsession, hflush⟩ := Exec.bind_some.mp hsend
    have hdry : rv₁ = 0 → (w₃.conns k).outbound = false := by
      rintro rfl
      obtain ⟨_, w₅, -, hsession⟩ := Exec.bind_some.mp hsession
      obtain ⟨_, w₆, -, hsession⟩ := Exec.bind_some.mp hsession
      obtain ⟨_, w₇, -, hsession⟩ := Exec.bind_some.mp hsession
      obtain ⟨rv₂, w₈, -, hsession⟩ := Exec.bind_some.mp hsession
      obtain ⟨_, w₉, hnote, hsession⟩ := Exec.bind_some.mp hsession
      obtain ⟨rfl, rfl⟩ := Exec.pure_some.mp hsession
      obtain ⟨-, hdry⟩ | ⟨hne, -⟩ := Exec.when_some.mp hnote
      · rw [(noteOutbound_session hdry).2.2]
      · exact absurd rfl hne
    have hsteady : Steady w₃ w₂ := by
      split at hflush
      · exact flushPending_steady k _ _ _ hflush rfl
      · rw [(Exec.pure_some.mp hflush).2]
        exact Std.Refl.refl _
    have hrv₁ : rv₁ = 0 := by
      by_contra hne
      rw [if_neg hne] at hflush
      exact hne (Exec.pure_some.mp hflush).1
    have hreset : Steady w₂ w₄ := .setConn hend (fun _ => rfl) (fun _ => rfl) fun _ => ⟨rfl, id⟩
    by_contra hout
    have hbefore := (trans_of Steady hsteady hreset).outbound k (Bool.not_eq_false _ ▸ hout)
    exact absurd (hbefore.symm.trans (hdry hrv₁)) (by decide)

/-- Behind a send a clean connection is dead or idle. -/
theorem sendPendingH2FramesWithDeadline_idle {k : ConnId} {oc : Option CallId} {fallback : Nat}
    {rv : Int} {w w' : World}
    (h : sendPendingH2FramesWithDeadline k oc fallback w = some (rv, w')) (hs : w.Sound)
    (hdes : (w.conns k).destroyed = 0) (hclean : w.Clean k) : w'.Idle k := by
  by_cases hrv : rv = 0
  · subst hrv
    have hsteady := sendPendingH2FramesWithDeadline_steady k oc fallback _ _ _ h rfl
    exact (hclean.spares hsteady.spares).idle (sendPendingH2FramesWithDeadline_dry h)
  · exact .of_dead ((sendPendingH2FramesWithDeadline_turn h hs hdes).2.2 hrv)

/-- A send under the deadline of its owner that succeeds. -/
theorem sendPendingH2Frames_steady (k : ConnId) (oc : Option CallId) :
    Exec.Yields (· = 0) Steady (sendPendingH2Frames k oc) :=
  .bind (conn_steady k) fun _ => sendPendingH2FramesWithDeadline_steady k oc _

/-- Behind a send, successful or not, a clean connection is idle. -/
theorem sendPendingH2Frames_idle {k : ConnId} {oc : Option CallId} {rv : Int} {w w' : World}
    (h : sendPendingH2Frames k oc w = some (rv, w')) (hs : w.Sound)
    (hdes : (w.conns k).destroyed = 0) (hclean : w.Clean k) : w'.Idle k := by
  obtain ⟨conn, w₁, hconn, h⟩ := Exec.bind_some.mp h
  rw [Proc.conn, Exec.get_bind_run] at hconn
  obtain ⟨rfl, rfl⟩ := Exec.pure_some.mp hconn
  exact sendPendingH2FramesWithDeadline_idle h hs hdes hclean

/-- `nghttp2_session_want_write`: a library that does not want to write has nothing to send. -/
theorem sessionWantWrite_session {k : ConnId} {wants : Bool} {w w' : World}
    (h : sessionWantWrite k w = some (wants, w')) :
    Session k w w' ∧ w'.calls = w.calls ∧ (w'.conns k).dead = (w.conns k).dead ∧ Steady w w' ∧
      (wants = false → (w'.conns k).outbound = false) := by
  obtain ⟨wants', w₁, hask, h⟩ := Exec.bind_some.mp h
  obtain ⟨_, w₂, hwhen, h⟩ := Exec.bind_some.mp h
  obtain ⟨rfl, rfl⟩ := Exec.pure_some.mp h
  obtain ⟨hsession, hconns, hcalls⟩ := onEnv_session (k := k) (Env.ask_grows _) hask
  obtain ⟨-, hdry⟩ | ⟨hwants, rfl⟩ := Exec.when_some.mp hwhen
  · obtain ⟨hnote, hcalls₂, hconn₂⟩ := noteOutbound_session hdry
    refine ⟨hsession.trans hnote, hcalls₂.trans hcalls, ?_,
      trans_of Steady (.of_conns hconns) (noteOutbound_steady k _ _ _ hdry), fun _ => ?_⟩
    · rw [hconn₂, hconns]
    · rw [hconn₂]
  · exact ⟨hsession, hcalls, by rw [hconns], .of_conns hconns, fun hno => absurd hno hwants⟩

/-! ## Owners -/

/-- The owner of a connection lets go of it. -/
theorem releaseOwner_steady (k : ConnId) (c : CallId) (forget : Bool) :
    Exec.Within Steady (releaseOwner k c forget) :=
  .bind (call_steady c) fun _ =>
    .bind (.when fun _ => setConn_steady k (fun _ => rfl) (fun _ => rfl) fun _ => ⟨rfl, id⟩) fun _ => input_steady c _

/-- The connection of a call loses that owner. -/
theorem clearConnectionCallOwner_steady (k : ConnId) (c : CallId) :
    Exec.Within Steady (clearConnectionCallOwner k c) :=
  .bind (call_steady c) fun _ => .ite (.pure _)
    (.bind (unregisterGrpcCallStream_steady c) fun _ => releaseOwner_steady k c _)

/-- A connection that is destroyed counts as dead. -/
theorem destroyH2Connection_steady (k : ConnId) : Exec.Within Steady (destroyH2Connection k) :=
  .bind (modify_steady fun _ => rfl) fun _ => setConn_steady k (fun _ => rfl) (fun _ => rfl) fun _ => ⟨rfl, id⟩

/-- A detached connection without owners is destroyed. -/
theorem destroyDetachedConnectionIfUnowned_steady (k : ConnId) :
    Exec.Within Steady (destroyDetachedConnectionIfUnowned k) :=
  .bind (conn_steady k) fun _ => .ite (destroyH2Connection_steady k) (.pure _)

/-- A connection is detached. -/
theorem markDetached_steady (k : ConnId) : Exec.Within Steady (markDetached k) :=
  setConn_steady k (fun _ => rfl) (fun _ => rfl) fun _ => ⟨rfl, id⟩

/-- Every entry with the connection leaves the cache. -/
theorem detachPersistentConnectionByPtr_steady (k : ConnId) :
    Exec.Within Steady (detachPersistentConnectionByPtr k) := by
  refine .bind .get fun w => ?_
  cases w.cache.find? fun entry => entry.connection = k with
  | none => exact .pure _
  | some entry => exact .bind (modify_steady fun _ => rfl) fun _ => markDetached_steady k

/-- A connection that cannot be used leaves the cache. -/
theorem detachUnlessUsable_steady (c : CallId) : Exec.Within Steady (detachUnlessUsable c) := by
  refine .bind (call_steady c) fun call => ?_
  cases call.connection with
  | none => exact .pure _
  | some k =>
    exact .bind (conn_steady k) fun _ => .ite (detachPersistentConnectionByPtr_steady k) (.pure _)

/-- The connection of a server stream loses that owner. -/
theorem clearConnectionServerStreamingCallStateOwner_steady (c : CallId) :
    Exec.Within Steady (clearConnectionServerStreamingCallStateOwner c) := by
  refine .bind (call_steady c) fun call => ?_
  cases call.connection with
  | none => exact .pure _
  | some k =>
    refine .bind (detachUnlessUsable_steady c) fun _ => ?_
    refine .bind (unregisterGrpcCallStream_steady c) fun _ => ?_
    exact .bind (releaseOwner_steady k c _) fun _ => destroyDetachedConnectionIfUnowned_steady k

/-- A call is released. -/
theorem releaseCall_steady (c : CallId) : Exec.Within Steady (releaseCall c) :=
  .bind (modify_steady fun _ => rfl) fun _ => setCall_steady c _

/-- A connection leaves the cache, and its library has nothing to send. -/
theorem evict_steady (key : Bytes) (k : ConnId) : Exec.Within Steady (evict key k) := by
  have hdetach : Exec.Within Steady (do markDetached k; destroyDetachedConnectionIfUnowned k) :=
    .bind (markDetached_steady k) fun _ => destroyDetachedConnectionIfUnowned_steady k
  refine .bind (.bind .get fun _ => .pure _) fun found => ?_
  cases found with
  | none => exact hdetach
  | some entry =>
    refine .ite hdetach (.bind (modify_steady fun _ => rfl) fun _ => .bind (conn_steady k) fun _ => ?_)
    exact .ite (markDetached_steady k) (destroyH2Connection_steady k)

/-! ## Cancelling -/

/-- `cancel_grpc_call_stream` leaves the connection idle if it was, and in any case if it
had something to cancel. -/
theorem cancelGrpcCallStream_idle {k : ConnId} {c : CallId} {w w' : World} {u : Unit}
    (h : cancelGrpcCallStream c w = some (u, w')) (hs : w.Sound)
    (hconn : (w.calls c).call.connection = some k) (hdes : (w.conns k).destroyed = 0)
    (hidle : w.Idle k ∨ (0 < (w.calls c).call.streamId ∧
      (w.calls c).call.streamClosed = false)) : w'.Idle k := by
  obtain ⟨call, w₁, hcall, h⟩ := Exec.bind_some.mp h
  rw [Proc.call, Exec.get_bind_run] at hcall
  obtain ⟨rfl, rfl⟩ := Exec.pure_some.mp hcall
  simp only [hconn] at h
  obtain ⟨conn, w₂, hread, h⟩ := Exec.bind_some.mp h
  rw [Proc.conn, Exec.get_bind_run] at hread
  obtain ⟨rfl, rfl⟩ := Exec.pure_some.mp hread
  split at h
  · next hguard =>
    obtain ⟨-, rfl⟩ := Exec.pure_some.mp h
    rcases hidle with hidle | ⟨hid, hopen⟩
    · exact hidle
    · simp only [H2Connection.ioAllowed, Bool.not_not, Bool.or_eq_true, decide_eq_true_eq, hopen,
        Bool.false_eq_true, or_false] at hguard
      exact .of_dead (hguard.resolve_right (by omega))
  · next hguard =>
    simp only [H2Connection.ioAllowed, Bool.not_not, Bool.or_eq_true, decide_eq_true_eq,
      not_or, Bool.not_eq_true] at hguard
    obtain ⟨⟨hdead, -⟩, -⟩ := hguard
    obtain ⟨_, w₃, hin, h⟩ := Exec.bind_some.mp h
    obtain rfl := Exec.modify_some.mp hin
    obtain ⟨rv, w₄, hrst, h⟩ := Exec.bind_some.mp h
    have hnote : Session k w (w.input c .locallyCancelled) := .note trivial
    obtain ⟨hsession, -, -, -⟩ := submitRstStream_session hrst
      (⟨hdead, hdes⟩ : World.Ready (w.input c .locallyCancelled) k)
    have hpre : Session k w w₄ := hnote.trans hsession
    split at h
    · obtain ⟨_, w₅, hdie, h⟩ := Exec.bind_some.mp h
      obtain rfl := Exec.modify_some.mp hdie
      obtain ⟨-, rfl⟩ := Exec.pure_some.mp h
      exact .of_dead (congrArg H2Connection.dead (setConn_conns_self w₄ k (·.markDead rv)))
    · obtain ⟨now, w₅, hnow, h⟩ := Exec.bind_some.mp h
      obtain ⟨henv, -, -⟩ := onEnv_session (k := k) Env.monotonicUs_grows hnow
      have hto₅ := hpre.trans henv
      obtain ⟨rv', w₆, hsend, h⟩ := Exec.bind_some.mp h
      have hdes₅ : (w₅.conns k).destroyed = 0 := hto₅.drives.destroyed.trans hdes
      obtain ⟨-, -, hfailed⟩ := sendPendingH2FramesWithDeadline_turn hsend (hs.drives hto₅.drives)
        hdes₅
      split at h
      · next hzero =>
        subst hzero
        obtain rfl := Exec.modify_some.mp h
        intro _
        rw [setConn_conns_self]
        exact ⟨rfl, sendPendingH2FramesWithDeadline_dry hsend⟩
      · next hrv =>
        obtain ⟨-, rfl⟩ := Exec.pure_some.mp h
        exact .of_dead (hfailed hrv)

/-- A cancelled server stream leaves its connection idle. -/
theorem cancelActiveServerStreamingCallState_idle {k : ConnId} {c : CallId} {w w' : World}
    {u : Unit} (h : cancelActiveServerStreamingCallState c w = some (u, w')) (hs : w.Sound)
    (hconn : (w.calls c).call.connection = some k)
    (hdes : (w.conns k).destroyed = 0)
    (hidle : w.Idle k ∨ (0 < (w.calls c).call.streamId ∧
      (w.calls c).call.streamClosed = false ∧ (w.calls c).completed = false)) : w'.Idle k := by
  obtain ⟨tc, w₁, htc, h⟩ := Exec.bind_some.mp h
  rw [Proc.tracked, Exec.get_bind_run] at htc
  obtain ⟨rfl, rfl⟩ := Exec.pure_some.mp htc
  split at h
  · next hguard =>
    obtain ⟨-, rfl⟩ := Exec.pure_some.mp h
    rcases hidle with hidle | ⟨-, -, hopen⟩
    · exact hidle
    · simp only [hconn, hopen, Option.isNone_some, Bool.or_false, Bool.false_eq_true] at hguard
  · exact cancelGrpcCallStream_idle h hs hconn hdes
      (hidle.imp_right fun hopen => ⟨hopen.1, hopen.2.1⟩)

/-- The destructor of a server stream leaves the connection idle. -/
theorem destroyServerStreamingCallState_idle {k : ConnId} {c : CallId} {w w' : World} {u : Unit}
    (h : destroyServerStreamingCallState c w = some (u, w')) (hs : w.Sound)
    (hconn : (w.calls c).call.connection = some k) (hdes : (w.conns k).destroyed = 0)
    (hidle : w.Idle k) : w'.Idle k := by
  rw [destroyServerStreamingCallState, Exec.get_bind_run] at h
  obtain ⟨_, w₁, hwhen, h⟩ := Exec.bind_some.mp h
  obtain ⟨_, w₂, hclear, h⟩ := Exec.bind_some.mp h
  have hidle₁ : w₁.Idle k := by
    obtain ⟨-, hcancel⟩ | ⟨-, rfl⟩ := Exec.when_some.mp hwhen
    · obtain ⟨_, w₃, hactive, hdetach⟩ := Exec.bind_some.mp hcancel
      exact (cancelActiveServerStreamingCallState_idle hactive hs hconn hdes
        (.inl hidle)).steady (detachUnlessUsable_steady c _ _ _ hdetach)
    · exact hidle
  have hsteady := trans_of Steady
    (clearConnectionServerStreamingCallStateOwner_steady c _ _ _ hclear) (releaseCall_steady c _ _ _ h)
  exact hidle₁.steady hsteady

end Proc

end GrpcLite
