import GrpcLite.Refinement.Operations

/-!
# Streams that are over

A live call was created before, a call that gave up its connection or whose
connection died stays that way, and a completed stream stays completed. Of such a
stream a cancellation has nothing left to do.
-/

namespace GrpcLite

namespace Ledger

/-- Live calls were created. -/
def Born (l : Ledger) : Prop := ∀ c, (l.calls c).live = true → c < l.nextCall

/-- A call has no connection, or one that is dead. -/
def Severed (l : Ledger) (c : CallId) : Prop :=
  (l.calls c).connection = none ∨ ∃ k, (l.calls c).connection = some k ∧ (l.conns k).dead = true

/-- No call comes to life. -/
theorem Born.congr {l l' : Ledger} (h : l.Born) (hnext : l'.nextCall = l.nextCall)
    (hlive : ∀ c, (l'.calls c).live = true → (l.calls c).live = true) : l'.Born := by
  intro c hc
  rw [hnext]
  exact h c (hlive c hc)

theorem Born.setCall {l l' : Ledger} (h : l.Born) {c₀ : CallId} {v : CallView}
    (hnext : l'.nextCall = l.nextCall) (hcalls : l'.calls = Function.update l.calls c₀ v)
    (hlive : v.live = true → (l.calls c₀).live = true) : l'.Born := by
  refine h.congr hnext fun c => ?_
  rw [hcalls, Function.update_apply]
  split
  · next hc => exact hc ▸ hlive
  · exact id

theorem Born.step {l l' : Ledger} (h : l.Born) (hs : Step l l') : l'.Born := by
  cases hs with
  | drive k hd =>
    have hdriven := Driven.of_drives (.single hd)
    exact h.congr hdriven.nextCall fun c hc => (hdriven.calls c).1.symm.trans hc
  | newCall k hk =>
    intro c hc
    by_cases hnew : c = l.nextCall
    · subst hnew
      exact Nat.lt_succ_self _
    · simp only [Function.update_of_ne hnew] at hc
      exact Nat.lt_succ_of_lt (h c hc)
  | newConn | uncache | markDetached | cache | destroy => exact h.congr rfl fun _ => id
  | submit | submitFailed | register | clearOwner => exact h.setCall rfl rfl id
  | release => exact h.setCall rfl rfl fun hlive => absurd hlive Bool.false_ne_true

/-- Calls only lose their connection, and dead connections stay dead. -/
theorem Severed.congr {l l' : Ledger} {c : CallId} (h : l.Severed c)
    (hconn : (l'.calls c).connection = (l.calls c).connection ∨ (l'.calls c).connection = none)
    (hdead : ∀ k, (l.calls c).connection = some k → (l.conns k).dead = true →
      (l'.conns k).dead = true) : l'.Severed c := by
  rcases hconn with hsame | hnone
  · rcases h with hnone | ⟨k, hk, hd⟩
    · exact .inl (hsame.trans hnone)
    · exact .inr ⟨k, hsame.trans hk, hdead k hk hd⟩
  · exact .inl hnone

theorem Severed.setConn {l l' : Ledger} {c : CallId} (h : l.Severed c) {k₀ : ConnId} {v : ConnView}
    (hconn : (l'.calls c).connection = (l.calls c).connection ∨ (l'.calls c).connection = none)
    (hconns : l'.conns = Function.update l.conns k₀ v)
    (hdead : (l.conns k₀).dead = true → v.dead = true) : l'.Severed c := by
  refine h.congr hconn fun k _ => ?_
  rw [hconns, Function.update_apply]
  split
  · next hk => exact hk ▸ hdead
  · exact id

/-- The connection of a call behind a change of one call. -/
theorem connection_update {calls : CallId → CallView} {c₀ : CallId} {v : CallView}
    (h : v.connection = (calls c₀).connection ∨ v.connection = none) (c : CallId) :
    (Function.update calls c₀ v c).connection = (calls c).connection ∨
      (Function.update calls c₀ v c).connection = none := by
  rw [Function.update_apply]
  split
  · next hc => exact hc ▸ h
  · exact .inl rfl

theorem Severed.step {l l' : Ledger} {c : CallId} (h : l.Severed c) (hs : Step l l')
    (hhoused : l.Housed) (hc : c < l.nextCall) : l'.Severed c := by
  cases hs with
  | drive k₀ hd =>
    have hdriven := Driven.of_drives (.single hd)
    refine h.congr (.inl (hdriven.calls c).2.1) fun k _ hdead => ?_
    by_cases hk : k = k₀
    · subst hk
      exact hdriven.dead hdead
    · rw [hdriven.others k hk]
      exact hdead
  | newConn =>
    refine h.congr (.inl rfl) fun k hk hdead => ?_
    have hlt : k < l.nextConn := hhoused.home c k hk
    simp only [Function.update_of_ne (Nat.ne_of_lt hlt)]
    exact hdead
  | newCall k₀ hk₀ =>
    refine h.congr (.inl ?_) fun _ _ => id
    simp only [Function.update_of_ne (Nat.ne_of_lt hc)]
  | submit | register => exact h.setConn (connection_update (by exact .inl rfl) c) rfl id
  | clearOwner k₀ c₀ forget =>
    refine h.setConn (connection_update ?_ c) rfl id
    cases forget with
    | true => exact .inr rfl
    | false => exact .inl rfl
  | submitFailed | release => exact h.congr (connection_update (by exact .inl rfl) c) fun _ _ => id
  | markDetached | destroy => exact h.setConn (.inl rfl) rfl id
  | uncache | cache => exact h.congr (.inl rfl) fun _ _ => id

theorem Step.nextCall_le {l l' : Ledger} (hs : Step l l') : l.nextCall ≤ l'.nextCall := by
  cases hs with
  | drive k hd => exact Nat.le_of_eq (Driven.of_drives (.single hd)).nextCall.symm
  | newCall => exact Nat.le_succ _
  | _ => exact Nat.le_refl _

theorem Severed.steps {l l' : Ledger} {c : CallId} (h : l.Severed c) (hs : Steps l l')
    (hinv : l.Inv) (hc : c < l.nextCall) : l'.Severed c := by
  have hrun : l'.Severed c ∧ l'.Inv ∧ c < l'.nextCall := by
    induction hs with
    | refl => exact ⟨h, hinv, hc⟩
    | tail _ hstep ih =>
      obtain ⟨hsev, hinv, hlt⟩ := ih
      exact ⟨hsev.step hstep hinv.housed hlt, hinv.step hstep, hlt.trans_le hstep.nextCall_le⟩
  exact hrun.1

theorem Born.steps {l l' : Ledger} (h : l.Born) (hs : Steps l l') : l'.Born := by
  induction hs with
  | refl => exact h
  | tail _ hs ih => exact ih.step hs

end Ledger

namespace World

/-- A stream has ended or has no connection to use. -/
def Aside (w : World) (c : CallId) : Prop :=
  (w.calls c).completed = true ∨ w.ledger.Severed c

theorem Step.completed {w w' : World} (hs : Step w w') {c : CallId} (hc : c < w.nextCall)
    (h : (w.calls c).completed = true) : (w'.calls c).completed = true := by
  cases hs with
  | keep hk =>
    cases hk with
    | drive k hd =>
      cases hd with
      | quiet | log | die | drain | streams | receive | source => exact h
      | deliver | close | unregister | note | free =>
        exact (completed_update (by rfl) c).trans h
      | pop c₀ payload =>
        exact ((completed_update (by rfl) c).trans (completed_update (by rfl) c)).trans h
      | complete c₀ hdet =>
        simp only [World.setCall, Function.update_apply]
        split
        · rfl
        · exact h
    | abort c₀ =>
      exact ((completed_update (by rfl) c).trans
        ((completed_update (by rfl) c).trans (completed_update (by rfl) c))).trans h
    | newConn | uncache | markDetached | cache | destroy => exact h
    | clearOwner | release => exact (completed_update (by rfl) c).trans h
  | newCall k start hk hstart =>
    simp only [Function.update_of_ne (Nat.ne_of_lt hc)]
    exact h
  | logSubmit => exact h
  | submit | submitFailed | register => exact (completed_update (by rfl) c).trans h

/-- A stream that is over stays over. -/
theorem Steps.aside {w w' : World} (hs : Steps w w') (hsound : w.Sound) {c : CallId}
    (hc : c < w.nextCall) (h : w.Aside c) : w'.Aside c := by
  induction hs with
  | refl => exact h
  | tail hsteps hstep ih =>
    have hlt := Nat.lt_of_lt_of_le hc (Steps.nextCall_le hsteps)
    have hinv := (hsound.steps hsteps).inv
    exact ih.imp (hstep.completed hlt) fun hsev => hsev.steps hstep.ledger hinv hlt

/-- Live calls were created. -/
theorem Steps.born {w w' : World} (hs : Steps w w') (h : w.ledger.Born) : w'.ledger.Born :=
  Ledger.Born.steps h (Steps.ledger hs)

end World

namespace Proc

open World

/-- A stream behind `clear_connection_server_streaming_call_state_owner` has no connection. -/
theorem clearConnectionServerStreamingCallStateOwner_connection {c : CallId} {w w' : World}
    {u : Unit} (h : clearConnectionServerStreamingCallStateOwner c w = some (u, w')) :
    (w'.calls c).call.connection = none := by
  obtain ⟨call, w₀, hcall, h⟩ := Exec.bind_some.mp h
  rw [Proc.call, Exec.get_bind_run] at hcall
  obtain ⟨rfl, rfl⟩ := Exec.pure_some.mp hcall
  cases hconn : (w.calls c).call.connection with
  | none =>
    simp only [hconn] at h
    obtain ⟨-, rfl⟩ := Exec.pure_some.mp h
    exact hconn
  | some k =>
    simp only [hconn] at h
    obtain ⟨_, w₁, -, h⟩ := Exec.bind_some.mp h
    obtain ⟨_, w₂, -, h⟩ := Exec.bind_some.mp h
    obtain ⟨_, w₃, hrelease, h⟩ := Exec.bind_some.mp h
    obtain rfl := releaseOwner_some hrelease
    have hcalls : w'.calls = (w₂.clearOwner k c true).calls := by
      obtain ⟨conn, w₄, hread, h⟩ := Exec.bind_some.mp h
      rw [Proc.conn, Exec.get_bind_run] at hread
      obtain ⟨rfl, rfl⟩ := Exec.pure_some.mp hread
      split at h
      · obtain ⟨_, w₅, hlog, h⟩ := Exec.bind_some.mp h
        obtain rfl := Exec.modify_some.mp hlog
        obtain rfl := Exec.modify_some.mp h
        rfl
      · rw [(Exec.pure_some.mp h).2]
    rw [hcalls, World.clearOwner, input_calls_self]
    rfl

/-- The end of a stream leaves it without a connection. -/
theorem finishStream_connection {c : CallId} {r : NextResult} {w w' : World}
    (h : finishStream c w = some (r, w')) : (w'.calls c).call.connection = none := by
  obtain ⟨_, w₁, -, h⟩ := Exec.bind_some.mp h
  obtain ⟨_, w₂, -, h⟩ := Exec.bind_some.mp h
  obtain ⟨_, w₃, -, h⟩ := Exec.bind_some.mp h
  obtain ⟨_, w₄, -, h⟩ := Exec.bind_some.mp h
  obtain ⟨_, w₅, -, h⟩ := Exec.bind_some.mp h
  obtain ⟨_, w₆, hclear, h⟩ := Exec.bind_some.mp h
  obtain ⟨-, rfl⟩ := Exec.pure_some.mp h
  exact clearConnectionServerStreamingCallStateOwner_connection hclear

/-- A pull that ends a stream leaves it without a connection. -/
theorem serverStreamingCallNextResource_severed {c : CallId} {r : NextResult} {w w' : World}
    (h : serverStreamingCallNextResource c w = some (r, w')) :
    (∃ payload initialMetadata, r = .message payload initialMetadata) ∨
      (w'.calls c).call.connection = none := by
  rw [serverStreamingCallNextResource, Exec.get_bind_run] at h
  obtain ⟨_, w₁, -, h⟩ := Exec.bind_some.mp h
  obtain ⟨_, w₂, -, h⟩ := Exec.bind_some.mp h
  obtain ⟨_, w₃, -, h⟩ := Exec.bind_some.mp h
  obtain ⟨call, w₄, -, h⟩ := Exec.bind_some.mp h
  cases hqueue : call.responseQueue with
  | nil =>
    simp only [hqueue] at h
    exact .inr (finishStream_connection h)
  | cons payload rest =>
    simp only [hqueue] at h
    obtain ⟨_, w₅, -, h⟩ := Exec.bind_some.mp h
    obtain ⟨_, w₆, -, h⟩ := Exec.bind_some.mp h
    obtain ⟨tc, w₇, -, h⟩ := Exec.bind_some.mp h
    obtain ⟨rfl, -⟩ := Exec.pure_some.mp h
    exact .inl ⟨_, _, rfl⟩

/-- A cancelled stream is over. -/
theorem serverStreamingCallCancelResource_aside {c : CallId} {w w' : World} {u : Unit}
    (h : serverStreamingCallCancelResource c w = some (u, w')) : w'.Aside c := by
  obtain ⟨tc, w₁, htc, h⟩ := Exec.bind_some.mp h
  rw [Proc.tracked, Exec.get_bind_run] at htc
  obtain ⟨rfl, rfl⟩ := Exec.pure_some.mp htc
  cases hconn : (w.calls c).call.connection with
  | none =>
    simp only [hconn] at h
    obtain ⟨-, rfl⟩ := Exec.pure_some.mp h
    exact .inr (.inl hconn)
  | some k =>
    simp only [hconn] at h
    obtain ⟨conn, w₁, hread, h⟩ := Exec.bind_some.mp h
    rw [Proc.conn, Exec.get_bind_run] at hread
    obtain ⟨rfl, rfl⟩ := Exec.pure_some.mp hread
    split at h
    · obtain ⟨_, w₁, -, h⟩ := Exec.bind_some.mp h
      obtain ⟨_, w₂, -, h⟩ := Exec.bind_some.mp h
      obtain ⟨_, w₃, -, h⟩ := Exec.bind_some.mp h
      exact .inr (.inl (clearConnectionServerStreamingCallStateOwner_connection h))
    · next hover =>
      obtain ⟨-, rfl⟩ := Exec.pure_some.mp h
      simp only [H2Connection.ioAllowed, Bool.and_eq_true, Bool.not_eq_true', not_and_or,
        Bool.not_eq_false] at hover
      exact hover.imp_right fun hdead => .inr ⟨k, hconn, hdead⟩

/-- Cancelling a stream that is over does nothing. -/
theorem serverStreamingCallCancelResource_idle {c : CallId} {w : World} (h : w.Aside c) :
    serverStreamingCallCancelResource c w = some ((), w) := by
  unfold serverStreamingCallCancelResource tracked
  rw [bind_assoc, Exec.get_bind_run, Exec.pure_bind_run]
  cases hconn : (w.calls c).call.connection with
  | none => rfl
  | some k =>
    have hover : (!(w.calls c).completed && (w.conns k).ioAllowed) = false := by
      rcases h with hcompleted | hnone | ⟨k', hk', hdead⟩
      · rw [hcompleted]
        rfl
      · exact absurd (hconn.symm.trans hnone) (Option.some_ne_none k)
      · obtain rfl : k = k' := Option.some.inj (hconn.symm.trans hk')
        have hdead : (w.conns k).dead = true := hdead
        rw [H2Connection.ioAllowed, hdead, Bool.not_true, Bool.and_false]
    simp only [Proc.conn]
    rw [bind_assoc, Exec.get_bind_run, Exec.pure_bind_run, hover]
    rfl

end Proc

end GrpcLite
