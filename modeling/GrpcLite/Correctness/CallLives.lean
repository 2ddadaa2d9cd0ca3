import GrpcLite.Refinement.Stages

/-!
# Lives of call objects

A process holds any number of call objects and channels, whose methods follow each
other in any order. Every transport call that is ever made is an attempt of exactly
one object. An object hands out messages of its last attempt only, and unless one of
its batches has thrown, it attempts one request, a second time only behind a refusal.
The methods follow each other: a credentials plugin does not start or cancel a batch
of the call that it is asked for.
-/

namespace GrpcLite

open World Proc CallObj

/-- A call object and what its user has seen of it. -/
structure Life where
  /-- The object. -/
  call : CallObj
  /-- The messages that its batches have handed out. -/
  handed : List Bytes := []
  /-- One of its batches has thrown. -/
  threw : Bool := false
  /-- The object was destroyed. -/
  dropped : Bool := false

/-- The life of a new object. -/
def Life.begin (call : CallObj) : Life := { call := call }

/-- The life behind a batch. -/
def Life.batched (life : Life) (event : Option BatchEvent) (call : CallObj) : Life :=
  { life with
    call := call
    handed := life.handed ++ BatchEvent.messages event
    threw := life.threw || event.isNone }

/-- The objects that a process has created, with the state of the transport. -/
structure Process where
  /-- The state of the transport. -/
  world : World
  /-- The objects, oldest first. -/
  lives : List Life := []

namespace Process

/-- One method of one of the objects or of a channel. -/
inductive Step : Process → Process → Prop
  /-- `Call::__construct`. -/
  | construct (key : Bytes) (ssl inputsValid : Bool) (maxReceiveMessageLength : Int)
      (maxResponseMetadataBytes : Nat) (deadlineUs : Int) {w : World} {lives : List Life} :
    Step ⟨w, lives⟩ ⟨w, lives ++ [.begin (.construct key ssl inputsValid maxReceiveMessageLength
      maxResponseMetadataBytes deadlineUs)]⟩
  /-- `Call::startBatch`. -/
  | startBatch {w w' : World} {before after : List Life} {life : Life} (ops : Batch)
      {event : Option BatchEvent} {call' : CallObj} (hin : life.dropped = false)
      (h : Proc.startBatch life.call ops w = some ((event, call'), w')) :
    Step ⟨w, before ++ life :: after⟩ ⟨w', before ++ life.batched event call' :: after⟩
  /-- `Call::cancel`. -/
  | cancel {w w' : World} {before after : List Life} {life : Life} {call' : CallObj}
      (hin : life.dropped = false) (h : cancelCall life.call w = some (call', w')) :
    Step ⟨w, before ++ life :: after⟩ ⟨w', before ++ { life with call := call' } :: after⟩
  /-- `Call::setCredentials`. -/
  | setCredentials {w : World} {before after : List Life} {life : Life} (plugin : Bool)
      (hin : life.dropped = false) :
    Step ⟨w, before ++ life :: after⟩
      ⟨w, before ++ { life with call := Proc.setCredentials life.call plugin } :: after⟩
  /-- The destructor of an object. -/
  | drop {w w' : World} {before after : List Life} {life : Life} {u : Unit}
      (hin : life.dropped = false) (h : dropResource life.call w = some (u, w')) :
    Step ⟨w, before ++ life :: after⟩ ⟨w', before ++ { life with dropped := true } :: after⟩
  /-- `Channel::close`. -/
  | close {w w' : World} {lives : List Life} (key : Bytes) {u : Unit}
      (h : channelClose key w = some (u, w')) : Step ⟨w, lives⟩ ⟨w', lives⟩

/-- The process has come here by methods. -/
def Reachable (p : Process) : Prop :=
  ∃ env config, Relation.ReflTransGen Step ⟨{ env := env, config := config }, []⟩ p

end Process

/-! ## The invariant -/

/-- What an object has handed out comes from its last attempt, and without an exception all its
attempts are attempts at one of its requests. -/
structure Life.Accounted (life : Life) (w : World) : Prop where
  /-- The messages. -/
  encodes : w.Encodes life.call.attempts life.handed
  /-- The attempts. -/
  attempted : life.threw = false →
    ∃ req, life.call.Asks req ∧ w.Attempted req 0 life.call.attempts

/-- A life between two methods. -/
inductive Life.Fine (life : Life) (w : World) : Prop
  /-- The object exists. -/
  | alive {earlier : List CallId} (hin : life.dropped = false)
      (hrests : Rests w earlier life.call life.handed)
      (hearlier : life.threw = false → earlier = [])
  /-- The object was destroyed. -/
  | gone (hgone : life.dropped = true) (h : life.Accounted w)

theorem Life.Fine.account {life : Life} {w : World} (h : life.Fine w) : life.Accounted w := by
  cases h with
  | alive _ hrests hearlier =>
    obtain ⟨hencodes, req, current, hasks, hall, hattempted⟩ := hrests.accounts
    refine ⟨hencodes, fun hthrew => ⟨req, hasks, ?_⟩⟩
    rw [hall, hearlier hthrew]
    exact hattempted
  | gone _ h => exact h

theorem Life.Accounted.steps {life : Life} {w w' : World} (h : life.Accounted w)
    (hs : World.Steps w w') : life.Accounted w' := by
  refine ⟨h.encodes.steps hs, fun hthrew => ?_⟩
  obtain ⟨req, hasks, hattempted⟩ := h.attempted hthrew
  exact ⟨req, hasks, hattempted.steps hs⟩

/-- A method that leaves the calls of the object alone. -/
theorem Life.Fine.made {life : Life} {w w' : World} (h : life.Fine w) (hmade : Made w w')
    (ho : w.Orderly)
    (hkept : ∀ c ∈ life.call.held, life.dropped = false →
      (w'.calls c).settled = (w.calls c).settled ∧ (w'.calls c).live = (w.calls c).live) :
    life.Fine w' := by
  cases h with
  | alive hin hrests hearlier =>
    exact .alive hin (hrests.made hmade fun c hc => hkept c hc hin) hearlier
  | gone hgone h => exact .gone hgone (h.steps (hmade.steps ho))

namespace Process

/-- What holds in front of every method. -/
structure Sound (p : Process) : Prop where
  /-- The state is in order. -/
  orderly : p.world.Orderly
  /-- Streams deliver in order. -/
  inOrder : p.world.InOrder
  /-- Live calls were created. -/
  born : p.world.ledger.Born
  /-- There are no more submissions than calls. -/
  submissions : p.world.submissions.length ≤ p.world.nextCall
  /-- Every call is an attempt of one object. -/
  owned : (p.lives.flatMap fun life => life.call.attempts).Perm (List.range p.world.nextCall)
  /-- An object holds one of its attempts. -/
  held : ∀ life ∈ p.lives, life.dropped = false → ∀ c ∈ life.call.held, c ∈ life.call.attempts
  /-- Every object is fine. -/
  fine : ∀ life ∈ p.lives, life.Fine p.world

variable {w w' : World} {before after : List Life} {life life' : Life}

/-- Attempts of different objects are different calls. -/
theorem Sound.apart (h : Sound ⟨w, before ++ life :: after⟩) {other : Life}
    (hother : other ∈ before ++ after) {c : CallId} (hc : c ∈ other.call.attempts) :
    c ∉ life.call.attempts := by
  intro hmine
  have hnodup := h.owned.nodup_iff.mpr List.nodup_range
  rw [List.flatMap_append, List.flatMap_cons] at hnodup
  have hfirst := List.nodup_append'.mp hnodup
  have hsecond := List.nodup_append'.mp hfirst.2.1
  rcases List.mem_append.mp hother with hother | hother
  · exact hfirst.2.2 (List.mem_flatMap.mpr ⟨other, hother, hc⟩) (List.mem_append_left _ hmine)
  · exact hsecond.2.2 hmine (List.mem_flatMap.mpr ⟨other, hother, hc⟩)

/-- A method of one of the objects. -/
theorem Sound.method (h : Sound ⟨w, before ++ life :: after⟩) (hin : life.dropped = false)
    (hmade : Made w w') (hworks : Works life.call w life'.call w') (hfine : life'.Fine w') :
    Sound ⟨w', before ++ life' :: after⟩ := by
  have hsteps := hmade.steps h.orderly
  have hborn := Steps.born hsteps h.born
  have hmem : life ∈ before ++ life :: after := List.mem_append_right _ List.mem_cons_self
  have hothers : ∀ other ∈ before ++ after, other ∈ before ++ life :: after := fun other hother =>
    (List.mem_append.mp hother).elim (List.mem_append_left _) fun hmem =>
      List.mem_append_right _ (List.mem_cons_of_mem _ hmem)
  have hsplit {P : Life → Prop} (hnew : P life') (hold : ∀ other ∈ before ++ after, P other) :
      ∀ other ∈ before ++ life' :: after, P other := by
    intro other hother
    rcases List.mem_append.mp hother with hother | hother
    · exact hold other (List.mem_append_left _ hother)
    rcases List.mem_cons.mp hother with rfl | hother
    · exact hnew
    · exact hold other (List.mem_append_right _ hother)
  obtain ⟨n, hn⟩ := Nat.exists_eq_add_of_le hworks.spawns.nextCall
  refine ⟨hmade.orderly, h.inOrder.steps hsteps h.orderly.sound.replayed, hborn, ?_, ?_, ?_, ?_⟩
  · have hnew := hworks.spawns.submissions
    have hold : w.submissions.length ≤ w.nextCall := h.submissions
    change w'.submissions.length ≤ w'.nextCall
    omega
  · have hattempts : life'.call.attempts = life.call.attempts ++ List.range' w.nextCall n := by
      rw [hworks.attempts, hn, Nat.add_sub_cancel_left]
    have hmoved : ((before ++ life' :: after).flatMap fun life => life.call.attempts).Perm
        (((before ++ life :: after).flatMap fun life => life.call.attempts) ++
          List.range' w.nextCall n) := by
      rw [List.flatMap_append, List.flatMap_cons, List.flatMap_append, List.flatMap_cons, hattempts]
      simp only [List.append_assoc]
      exact ((List.perm_append_comm).append_left _).append_left _
    refine hmoved.trans ((h.owned.append_right _).trans ?_)
    rw [hn, List.range_eq_range', List.range_eq_range']
    change (List.range' 0 w.nextCall ++ List.range' w.nextCall n).Perm _
    have hjoin := List.range'_append_1 (s := 0) (m := w.nextCall) (n := n)
    rw [Nat.zero_add] at hjoin
    rw [hjoin]
  · refine hsplit (fun hin' c hc => ?_) fun other hother => h.held other (hothers other hother)
    rw [hworks.attempts]
    by_cases hold : c < w.nextCall
    · exact List.mem_append_left _ (h.held life hmem hin c (hworks.resource c hc hold))
    · refine List.mem_append_right _ (List.mem_range'_1.mpr ⟨Nat.not_lt.mp hold, ?_⟩)
      have hcreated : c < w'.nextCall := by
        cases hfine with
        | alive _ hrests => exact hborn c (hrests.footing.held c hc)
        | gone hgone => exact absurd (hin'.symm.trans hgone) Bool.false_ne_true
      rw [hn] at hcreated ⊢
      rwa [Nat.add_sub_cancel_left]
  · refine hsplit hfine fun other hother => ?_
    refine (h.fine other (hothers other hother)).made hmade h.orderly fun c hc halive => ?_
    -- the calls that another object holds are none of this object's
    have hin' := h.held other (hothers other hother) halive c hc
    have hcreated : c < w.nextCall := by
      refine List.mem_range.mp (h.owned.mem_iff.mp (List.mem_flatMap.mpr ⟨other, ?_, hin'⟩))
      exact hothers other hother
    exact hworks.spawns.others c hcreated fun hmine =>
      h.apart hother hin' (h.held life hmem hin c hmine)

/-- A new object. -/
theorem Sound.construct {lives : List Life} (h : Sound ⟨w, lives⟩) (key : Bytes)
    (ssl inputsValid : Bool) (maxReceiveMessageLength : Int) (maxResponseMetadataBytes : Nat)
    (deadlineUs : Int) :
    Sound ⟨w, lives ++ [.begin (.construct key ssl inputsValid maxReceiveMessageLength
      maxResponseMetadataBytes deadlineUs)]⟩ := by
  have hrests := Rests.construct key ssl inputsValid maxReceiveMessageLength
    maxResponseMetadataBytes deadlineUs h.orderly h.inOrder
  refine ⟨h.orderly, h.inOrder, h.born, h.submissions, ?_, fun life hmem hin c hc => ?_,
    fun life hmem => ?_⟩
  · rw [List.flatMap_append, List.flatMap_singleton]
    change (_ ++ []).Perm _
    rw [List.append_nil]
    exact h.owned
  · rcases List.mem_append.mp hmem with hold | hnew
    · exact h.held life hold hin c hc
    · rw [List.mem_singleton.mp hnew] at hc
      cases hc
  · rcases List.mem_append.mp hmem with hold | hnew
    · exact h.fine life hold
    · rw [List.mem_singleton.mp hnew]
      exact .alive rfl hrests fun _ => rfl

/-- A channel is closed. -/
theorem Sound.close {lives : List Life} (h : Sound ⟨w, lives⟩) {key : Bytes} {u : Unit}
    (hclose : channelClose key w = some (u, w')) : Sound ⟨w', lives⟩ := by
  have hmade := Made.of_operation (.close key hclose) h.orderly
  have hsteps := hmade.steps h.orderly
  have hstill : w.Still ∅ w' := channelClose_still key _ _ _ hclose
  refine ⟨hmade.orderly, h.inOrder.steps hsteps h.orderly.sound.replayed,
    Steps.born hsteps h.born, ?_, ?_, h.held, fun life hmem => ?_⟩
  · change w'.submissions.length ≤ w'.nextCall
    rw [hstill.submissions, hstill.nextCall]
    exact h.submissions
  · change (lives.flatMap _).Perm (List.range w'.nextCall)
    rw [hstill.nextCall]
    exact h.owned
  · exact (h.fine life hmem).made hmade h.orderly fun c _ _ =>
      ⟨hstill.settled c, hstill.live c (Set.notMem_empty c)⟩

/-- The object that a method belongs to. -/
theorem Sound.rests (h : Sound ⟨w, before ++ life :: after⟩) (hin : life.dropped = false) :
    ∃ earlier, Rests w earlier life.call life.handed ∧ (life.threw = false → earlier = []) := by
  cases h.fine life (List.mem_append_right _ List.mem_cons_self) with
  | alive _ hrests hearlier => exact ⟨_, hrests, hearlier⟩
  | gone hgone => exact absurd (hin.symm.trans hgone) Bool.false_ne_true

/-- Every method keeps the process sound. -/
theorem Step.sound {p p' : Process} (hs : Step p p') (h : Sound p) : Sound p' := by
  cases hs with
  | construct key ssl inputsValid maxReceiveMessageLength maxResponseMetadataBytes deadlineUs =>
    exact h.construct _ _ _ _ _ _
  | startBatch ops hin hbatch =>
    obtain ⟨earlier, hrests, hearlier⟩ := h.rests hin
    obtain ⟨earlier', hrests', hsame⟩ := hrests.startBatch hbatch
    refine h.method hin (startBatch_made hbatch h.orderly hrests.footing.held)
      (startBatch_works hbatch) (.alive hin hrests' fun hthrew => ?_)
    obtain ⟨hno, hevent⟩ := Bool.or_eq_false_iff.mp hthrew
    rw [hsame (by rw [← Option.not_isNone, hevent]; rfl), hearlier hno]
  | cancel hin hcancel =>
    obtain ⟨earlier, hrests, hearlier⟩ := h.rests hin
    exact h.method hin (cancelCall_made hcancel h.orderly hrests.footing.held)
      (cancelCall_works hcancel) (.alive hin (hrests.cancel hcancel) hearlier)
  | setCredentials plugin hin =>
    obtain ⟨earlier, hrests, hearlier⟩ := h.rests hin
    exact h.method hin (.refl h.orderly) (.of_call rfl rfl rfl)
      (.alive hin (hrests.setCredentials plugin) hearlier)
  | @drop w w' before after life u hin hdrop =>
    obtain ⟨earlier, hrests, hearlier⟩ := h.rests hin
    have hmade := dropResource_made hdrop h.orderly hrests.footing.held
    have haccounted := (h.fine life (List.mem_append_right _ List.mem_cons_self)).account.steps
      (hmade.steps h.orderly)
    exact h.method hin hmade (.of_still (dropResource_still _ _ _ _ hdrop))
      (.gone rfl ⟨haccounted.encodes, haccounted.attempted⟩)
  | close key hclose => exact h.close hclose

theorem Reachable.sound {p : Process} (h : p.Reachable) : Sound p := by
  obtain ⟨env, config, hrun⟩ := h
  induction hrun with
  | refl =>
    refine ⟨orderly_start env config, fun c hc => ?_, fun c hc => absurd hc Bool.false_ne_true,
      Nat.le_refl _, .refl _, fun life hmem => absurd hmem List.not_mem_nil,
      fun life hmem => absurd hmem List.not_mem_nil⟩
    obtain ⟨req, k, retryAttempt, hfresh⟩ := hc
    exact absurd (congrArg GrpcCall.connection hfresh) (Option.some_ne_none k).symm
  | tail _ hs ih => exact hs.sound ih

/-! ## Results -/

theorem length_flatMap_le {α β : Type} {f : α → List β} {n : Nat} {l : List α}
    (h : ∀ a ∈ l, (f a).length ≤ n) : (l.flatMap f).length ≤ n * l.length := by
  induction l with
  | nil => exact Nat.zero_le _
  | cons a l ih =>
    have hrest := ih fun b hb => h b (List.mem_cons_of_mem _ hb)
    have hfirst := h a List.mem_cons_self
    rw [List.flatMap_cons, List.length_append, List.length_cons, Nat.mul_succ]
    omega

/-- In whatever order the methods of all objects and channels come, what the batches of an object
have handed out are the first messages in the body of its last attempt. Unless a batch of it has
thrown, all its attempts are attempts at one request of the object under its deadline, there are
two of them at most, and there is a second one only behind a first that the peer refused before it
had answered. A credentials plugin does not call methods of the object while it is asked. -/
theorem Reachable.lives_accounted {p : Process} (h : p.Reachable) {life : Life}
    (hlife : life ∈ p.lives) : life.Accounted p.world := (h.sound.fine life hlife).account

/-- A server that refuses the first stream and answers the second one. -/
private def refusingServer : Env :=
  World.exchangeWith [.sessionSend [] 0, .recv 10 0,
    .memRecv [.stream 1 (.rstStream 7), .stream 1 (.closed 7)] 10, .wantWrite false,
    .recv (-1) 11, .submitRequest 3, .setUserData 0, .sessionSend [] 0, .sessionSend [] 0,
    .recv 10 0, .memRecv [
    .stream 3 (.header .response HeaderName.status (ascii ['2', '0', '0'])),
    .stream 3 (.header .response HeaderName.contentType (ascii "application/grpc".toList)),
    .stream 3 (.headersEnd .response false), .stream 3 (.data [0, 0, 0, 0, 1, 7])] 10,
    .wantWrite false]

/-- An object whose first message comes from its second attempt. -/
private theorem refusedOnce : ∃ p life, Process.Reachable p ∧ p.lives = [life] ∧
    life.threw = false ∧ life.handed = [[7]] ∧ life.call.attempts = [0, 1] := by
  have hrun : (Proc.startBatch (CallObj.construct [] false true 0 65536 0)
      { sendMessage := some (some []), recvMessage := true } { env := refusingServer }).map
        (fun r => (BatchEvent.messages r.1.1, r.1.1.isNone, r.1.2.attempts)) =
          some ([[7]], false, [0, 1]) := by decide +kernel
  obtain ⟨⟨⟨event, call'⟩, w'⟩, hbatch, heq⟩ := Option.map_eq_some_iff.mp hrun
  obtain ⟨hmessages, hevent, hattempts⟩ : BatchEvent.messages event = [[7]] ∧
      event.isNone = false ∧ call'.attempts = [0, 1] := by simpa using heq
  let life := Life.begin (.construct [] false true 0 65536 0)
  have hconstruct : Process.Step ⟨{ env := refusingServer }, []⟩
      ⟨{ env := refusingServer }, [life]⟩ := .construct [] false true 0 65536 0
  have hstep : Process.Step ⟨{ env := refusingServer }, [] ++ life :: []⟩
      ⟨w', [] ++ life.batched event call' :: []⟩ := .startBatch _ rfl hbatch
  refine ⟨_, life.batched event call',
    ⟨refusingServer, {}, .tail (.single hconstruct) hstep⟩, rfl, ?_, ?_, hattempts⟩
  · change (false || event.isNone) = false
    rw [hevent]
    rfl
  · exact hmessages

theorem Reachable.lives_accounted_refused : ∃ p life, Process.Reachable p ∧ life ∈ p.lives ∧
    (life.handed, life.call.attempts) = ([[7]], [0, 1]) ∧ life.Accounted p.world ∧
    ∃ req, life.call.Asks req ∧ p.world.Attempted req 0 life.call.attempts := by
  obtain ⟨p, life, hreach, hlives, hthrew, hhanded, hattempts⟩ := refusedOnce
  have hmem : life ∈ p.lives := by
    rw [hlives]
    exact List.mem_singleton_self life
  have haccounted := Reachable.lives_accounted hreach hmem
  exact ⟨p, life, hreach, hmem, Prod.ext hhanded hattempts, haccounted,
    haccounted.attempted hthrew⟩

/-- In whatever order the methods of all objects and channels come, every call that was ever
created is an attempt of exactly one object, and there are no more submitted requests than calls.
Objects without exceptions together submit at most two requests each. A credentials plugin does not
call methods of the object while it is asked. -/
theorem Reachable.calls_owned {p : Process} (h : p.Reachable) :
    (p.lives.flatMap fun life => life.call.attempts).Perm (List.range p.world.nextCall) ∧
      p.world.submissions.length ≤ p.world.nextCall ∧
      ((∀ life ∈ p.lives, life.threw = false) →
        p.world.submissions.length ≤ 2 * p.lives.length) := by
  have hsound := h.sound
  refine ⟨hsound.owned, hsound.submissions, fun hthrew => hsound.submissions.trans ?_⟩
  rw [← List.length_range (n := p.world.nextCall), ← hsound.owned.length_eq]
  refine length_flatMap_le fun life hmem => ?_
  obtain ⟨req, -, hattempted⟩ := (hsound.fine life hmem).account.attempted (hthrew life hmem)
  exact hattempted.length_le

theorem Reachable.calls_owned_refused : ∃ p, Process.Reachable p ∧ p.world.nextCall = 2 ∧
    (p.lives.flatMap fun life => life.call.attempts).Perm (List.range p.world.nextCall) ∧
    p.world.submissions.length ≤ 2 * p.lives.length := by
  obtain ⟨p, life, hreach, hlives, hthrew, -, hattempts⟩ := refusedOnce
  obtain ⟨howned, -, hall⟩ := Reachable.calls_owned hreach
  refine ⟨p, hreach, ?_, howned, hall fun life' hmem => ?_⟩
  · have hlength := howned.length_eq
    rw [hlives, List.flatMap_singleton, hattempts, List.length_range] at hlength
    exact hlength.symm
  · rw [hlives] at hmem
    rw [List.mem_singleton.mp hmem]
    exact hthrew

end Process

end GrpcLite
