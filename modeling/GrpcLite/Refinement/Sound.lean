import GrpcLite.Refinement.Frames

/-!
# Sound states

What holds between any two moves: the invariant of the ledger, honest write
flags, records that follow from their inputs, detached requests behind ended
streams and empty queues behind cancelled ones.
-/

namespace GrpcLite

namespace World

/-! ## Detached requests -/

/-- A detached request stays detached while the streams of its call stay. -/
theorem requestDetached_congr {w w' : World} {c : CallId} (h : w.ledger.RequestDetached c)
    (hstreams : ∀ k, ∀ e' ∈ (w'.conns k).streams, e'.source = c →
      ∃ e ∈ (w.conns k).streams, e.source = c ∧ (e.closed = true ∨ e.reset = true →
        e'.closed = true ∨ e'.reset = true))
    (hdead : ∀ k, (w'.conns k).streams ≠ [] → (w.conns k).dead = true →
      (w'.conns k).dead = true) : w'.ledger.RequestDetached c := by
  intro k e' he' hsource
  have hmem : e' ∈ (w'.conns k).streams := he'
  obtain ⟨e, he, hs, hkeep⟩ := hstreams k e' hmem hsource
  rcases h k e he hs with hd | hd | hd
  · exact (hkeep (.inl hd)).imp_right .inl
  · exact (hkeep (.inr hd)).imp_right .inl
  · exact .inr (.inr (hdead k (List.ne_nil_of_mem hmem) hd))

/-- A change of one connection. -/
theorem requestDetached_update {w w' : World} {c : CallId} (h : w.ledger.RequestDetached c)
    {k : ConnId} {conn : H2Connection} (hconns : w'.conns = Function.update w.conns k conn)
    (hstreams : ∀ e' ∈ conn.streams, e'.source = c →
      ∃ e ∈ (w.conns k).streams, e.source = c ∧ (e.closed = true ∨ e.reset = true →
        e'.closed = true ∨ e'.reset = true))
    (hdead : conn.streams ≠ [] → (w.conns k).dead = true → conn.dead = true) :
    w'.ledger.RequestDetached c := by
  refine requestDetached_congr h (fun k' e' he' hsource => ?_) fun k' => ?_
  · rw [hconns, Function.update_apply] at he'
    split at he'
    · next hk => exact hk ▸ hstreams e' he' hsource
    · exact ⟨e', he', hsource, id⟩
  · rw [hconns, Function.update_apply]
    split
    · next hk => exact hk ▸ hdead
    · exact fun _ => id

/-- A change of one connection that keeps its streams. -/
theorem requestDetached_same {w w' : World} {c : CallId} (h : w.ledger.RequestDetached c)
    {k : ConnId} {conn : H2Connection} (hconns : w'.conns = Function.update w.conns k conn)
    (hconn : conn.streams = (w.conns k).streams ∧ conn.dead = (w.conns k).dead) :
    w'.ledger.RequestDetached c := by
  refine requestDetached_update h hconns (fun e' he' hsource => ?_) fun _ => ?_
  · rw [hconn.1] at he'
    exact ⟨e', he', hsource, id⟩
  · exact hconn.2.trans

theorem requestDetached_of_conns {w w' : World} {c : CallId} (h : w.ledger.RequestDetached c)
    (hconns : w'.conns = w.conns) : w'.ledger.RequestDetached c := by
  refine requestDetached_congr h (fun k e' he' hsource => ⟨e', hconns ▸ he', hsource, id⟩) ?_
  intro k
  rw [hconns]
  exact fun _ => id

theorem Keep.requestDetached {w w' : World} (h : Keep w w') {c : CallId}
    (hc : w.ledger.RequestDetached c) : w'.ledger.RequestDetached c := by
  cases h with
  | drive k h => exact (Ledger.Driven.of_drives h.ledger).requestDetached hc
  | abort | release | uncache | cache => exact requestDetached_of_conns hc rfl
  | newConn conn hview hflag =>
    have hstreams : conn.streams = [] := congrArg ConnView.streams hview
    refine requestDetached_update hc rfl (fun e' he' => ?_) fun hne => absurd hstreams hne
    rw [hstreams] at he'
    exact absurd he' List.not_mem_nil
  | clearOwner | markDetached | destroy => exact requestDetached_same hc rfl ⟨rfl, rfl⟩

theorem Keeps.requestDetached {w w' : World} (h : Keeps w w') {c : CallId}
    (hc : w.ledger.RequestDetached c) : w'.ledger.RequestDetached c := by
  induction h with
  | refl => exact hc
  | tail _ hk ih => exact hk.requestDetached ih

/-! ## Ended streams -/

/-- A server stream that has ended has a detached request. -/
def Ended (w : World) : Prop := ∀ c, (w.calls c).completed = true → w.ledger.RequestDetached c

/-- The completed calls stay the same. -/
theorem Ended.keep {w w' : World} (h : w.Ended) (hk : Keep w w')
    (hcompleted : ∀ c, (w'.calls c).completed = (w.calls c).completed) : w'.Ended := by
  intro c hc
  rw [hcompleted c] at hc
  exact hk.requestDetached (h c hc)

theorem completed_update {calls : CallId → TrackedCall} {c : CallId} {tc : TrackedCall}
    (h : tc.completed = (calls c).completed) (c' : CallId) :
    (Function.update calls c tc c').completed = (calls c').completed := by
  rw [Function.update_apply]
  split
  · next hc => exact hc ▸ h
  · rfl

/-- A step keeps ended streams ended. -/
theorem Ended.step {w w' : World} (h : w.Ended) (hs : Step w w') : w'.Ended := by
  cases hs with
  | keep hk =>
    have hk' := hk
    cases hk with
    | drive k hd =>
      cases hd with
      | quiet | log | die | drain | streams | receive | source => exact h.keep hk' fun _ => rfl
      | deliver | close | unregister | note | free =>
        exact h.keep hk' (completed_update (by rfl))
      | pop c payload =>
        refine h.keep hk' fun c' => ?_
        exact (completed_update (by rfl) c').trans (completed_update (by rfl) c')
      | complete c hdet =>
        intro c' hc'
        by_cases hc : c' = c
        · exact hk'.requestDetached (hc ▸ hdet)
        · have hsame : ((w.setCall c fun tc => { tc with completed := true }).calls c') =
              w.calls c' := Function.update_of_ne hc ..
          rw [hsame] at hc'
          exact hk'.requestDetached (h c' hc')
    | abort c =>
      refine h.keep hk' fun c' => ?_
      exact (completed_update (by rfl) c').trans
        ((completed_update (by rfl) c').trans (completed_update (by rfl) c'))
    | newConn | uncache | markDetached | cache | destroy => exact h.keep hk' fun _ => rfl
    | clearOwner | release => exact h.keep hk' (completed_update (by rfl))
  | newCall k start hk hstart =>
    intro c hc
    by_cases he : c = w.nextCall
    · subst he
      simp only [Function.update_self] at hc
      exact absurd hc Bool.false_ne_true
    · simp only [Function.update_of_ne he] at hc
      exact requestDetached_of_conns (h c hc) rfl
  | logSubmit => exact fun c hc => requestDetached_of_conns (h c hc) rfl
  | submit k c streamId hc hlive hcleared hconn howned hold hbytes hcompleted hpos hnew =>
    intro c' hc'
    have hsame : ((w.input c (.submitted streamId)).calls c').completed =
        (w.calls c').completed := completed_update (by rfl) c'
    have hold' : (w.calls c').completed = true := hsame.symm.trans hc'
    refine requestDetached_update (h c' hold') rfl (fun e' he' hsource => ?_) fun _ => id
    rcases List.mem_append.mp he' with he | he
    · exact ⟨e', he, hsource, id⟩
    · obtain rfl := List.mem_singleton.mp he
      rw [← hsource, hcompleted] at hold'
      exact absurd hold' Bool.false_ne_true
  | submitFailed c rv =>
    intro c' hc'
    refine requestDetached_of_conns (h c' ?_) rfl
    exact (completed_update (by rfl) c').symm.trans hc'
  | register k c =>
    intro c' hc'
    have hold' : (w.calls c').completed = true := (completed_update (by rfl) c').symm.trans hc'
    refine requestDetached_update (h c' hold') rfl (fun e' he' hsource => ?_) fun _ => id
    obtain ⟨e, he, rfl⟩ := List.mem_map.mp he'
    refine ⟨e, he, ?_, ?_⟩
    · rw [← hsource]
      split
      · rfl
      · rfl
    · split
      · exact id
      · exact id

/-! ## Cancelled streams -/

/-- The queue of a cancelled stream is empty. -/
def Emptied (w : World) : Prop :=
  ∀ c, (w.calls c).cancelled = true → (w.calls c).call.responseQueue = []

/-- A change of one call that keeps cancelled queues empty. -/
theorem Emptied.update {w w' : World} (h : w.Emptied) {c : CallId} {tc : TrackedCall}
    (hcalls : w'.calls = Function.update w.calls c tc)
    (htc : tc.cancelled = true → ((w.calls c).cancelled = true →
      (w.calls c).call.responseQueue = []) → tc.call.responseQueue = []) : w'.Emptied := by
  intro c' hc'
  rw [hcalls, Function.update_apply] at hc' ⊢
  split at hc'
  · next hc =>
    rw [if_pos hc]
    exact htc hc' (h c)
  · next hc =>
    rw [if_neg hc]
    exact h c' hc'

/-- Inputs that bring no message. -/
theorem apply_queue_nil {call : GrpcCall} {i : CallInput} (h : call.responseQueue = [])
    (hi : ∀ ra answers event, i = .event ra answers event → event.isClose = true) :
    (call.apply i).responseQueue = [] := by
  cases i with
  | event ra answers event =>
    have hclose := hi ra answers event rfl
    cases event with
    | closed code => exact h
    | _ => cases hclose
  | connectionBroken errno detail =>
    simp only [GrpcCall.apply]
    split
    · exact h
    · exact h
  | freeQueue => rfl
  | dequeue => simp only [GrpcCall.apply, GrpcCall.dequeueResponsePayload, h]
  | take => simp only [GrpcCall.apply, GrpcCall.unaryTakeResponsePayload, h]
  | refused | submitted | registered | unregistered | ownerCleared | timedOut | ioError
  | locallyCancelled | userCancelled | truncated | requestSent => exact h

/-- An input that brings no message. -/
theorem Emptied.input {w w' : World} (h : w.Emptied) {c : CallId} {i : CallInput}
    (hcalls : w'.calls = (w.input c i).calls)
    (hi : ∀ ra answers event, i = .event ra answers event → event.isClose = true) :
    w'.Emptied :=
  h.update hcalls fun hcan hq => apply_queue_nil (hq hcan) hi

/-- A step keeps cancelled queues empty. -/
theorem Emptied.step {w w' : World} (h : w.Emptied) (hs : Step w w') : w'.Emptied := by
  have hno {i : CallInput} (hi : ∀ ra answers event, i ≠ .event ra answers event) :
      ∀ ra answers event, i = .event ra answers event → event.isClose = true :=
    fun ra answers event he => absurd he (hi ra answers event)
  cases hs with
  | keep hk =>
    cases hk with
    | drive k hd =>
      cases hd with
      | quiet | log | die | drain | streams | receive | source => exact h
      | deliver streamId c ra answers event hclose hdead huser hcalm =>
        exact h.update rfl fun hcan => absurd (hcalm.symm.trans hcan) Bool.false_ne_true
      | close c i hi =>
        refine h.input rfl fun ra answers event he => ?_
        subst he
        exact hi
      | note c i hi =>
        refine h.input rfl fun ra answers event he => ?_
        subst he
        exact hi.elim
      | unregister | free => exact h.input rfl (hno (by simp))
      | complete => exact h.update rfl fun hcan hq => hq hcan
      | pop c =>
        have hin : (w.input c .dequeue).Emptied := h.input rfl (hno (by simp))
        exact hin.update rfl fun hcan hq => hq hcan
    | abort c =>
      have hcalls : (w.abort c).calls = Function.update w.calls c
          { (((w.calls c).input .userCancelled).input .freeQueue) with cancelled := true } := by
        simp only [World.abort, World.input, World.setCall, Function.update_self,
          Function.update_idem]
        rfl
      exact h.update hcalls fun _ _ => rfl
    | newConn | uncache | markDetached | cache | destroy => exact h
    | clearOwner => exact h.input rfl (hno (by simp))
    | release => exact h.update rfl fun hcan hq => hq hcan
  | newCall k start hk hstart => exact h.update rfl fun hcan => absurd hcan Bool.false_ne_true
  | logSubmit => exact h
  | submit | submitFailed | register => exact h.input rfl (hno (by simp))

/-! ## Sound states -/

/-- What holds between any two moves. -/
structure Sound (w : World) : Prop where
  /-- The invariant of the ledger. -/
  inv : Ledger.Inv w.ledger
  /-- The write flags are honest. -/
  honest : w.Honest
  /-- The records follow from their inputs. -/
  replayed : w.Replayed
  /-- Ended streams have detached requests. -/
  ended : w.Ended
  /-- Cancelled streams have empty queues. -/
  emptied : w.Emptied

/-- A step keeps the state sound. -/
theorem Sound.step {w w' : World} (h : Sound w) (hs : Step w w') : Sound w' :=
  ⟨h.inv.steps hs.ledger, h.honest.step hs, h.replayed.step hs, h.ended.step hs,
    h.emptied.step hs⟩

/-- So does a run. -/
theorem Sound.steps {w w' : World} (h : Sound w) (hs : Steps w w') : Sound w' := by
  induction hs with
  | refl => exact h
  | tail _ hs ih => exact ih.step hs

theorem Sound.keeps {w w' : World} (h : Sound w) (hs : Keeps w w') : Sound w' := h.steps hs.steps

theorem Sound.drives {k : ConnId} {w w' : World} (h : Sound w) (hs : Drives k w w') : Sound w' :=
  h.keeps hs.keeps

end World

end GrpcLite
