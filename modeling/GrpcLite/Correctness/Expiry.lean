import GrpcLite.Refinement.Operations

/-!
# Expired deadlines

A call takes note of an expired deadline behind a look at the clock, or behind an
answer of the environment that looks like one: a `recv` that fails with ETIMEDOUT,
a `poll` that fails with EAGAIN or ETIMEDOUT, and a `poll` that waited for the
longest timeout there is. Without such an answer no deadline fires early, whatever
calls share the connection.
-/

namespace GrpcLite

namespace World

/-- Whether an input is the note of an expired deadline. -/
theorem apply_timedOut {call : GrpcCall} {i : CallInput} (h : (call.apply i).timedOut = true) :
    call.timedOut = true ∨ ∃ now, i = .timedOut now := by
  cases i with
  | event ra answers event =>
    left
    by_cases hclose : event.isClose = true
    · cases event with
      | closed code => exact h
      | _ => cases hclose
    · have hfixed := call.apply_event_fixed ra answers (Bool.not_eq_true _ ▸ hclose)
      have htimed := congrArg GrpcCall.timedOut hfixed
      exact htimed.symm.trans h
  | timedOut now => exact .inr ⟨now, rfl⟩
  | connectionBroken errno detail =>
    simp only [GrpcCall.apply] at h
    split at h
    · next htimed => exact .inl htimed
    · exact .inl h
  | dequeue => exact .inl ((congrArg GrpcCall.timedOut call.dequeue_fixed).symm.trans h)
  | take => exact .inl ((congrArg GrpcCall.timedOut call.take_fixed).symm.trans h)
  | refused | submitted | registered | unregistered | ownerCleared | ioError
  | locallyCancelled | userCancelled | freeQueue | truncated | requestSent => exact .inl h

/-- A call that timed out took note of it behind its deadline, as far as the answers so far
are to be trusted. -/
def Punctual (env : Env) (tc : TrackedCall) : Prop :=
  tc.call.timedOut = true → 0 < tc.call.deadlineAbsUs ∧
    ∃ now, CallInput.timedOut now ∈ tc.inputs ∧ now ≤ env.now ∧
      (tc.call.deadlineAbsUs ≤ now ∨ ∃ answer ∈ env.history, answer.spurious = true)

theorem Punctual.grows {env env' : Env} {tc : TrackedCall} (h : Punctual env tc)
    (hg : env.Grows env') : Punctual env' tc := by
  intro htimed
  obtain ⟨hpos, now, hmem, hnow, hlate⟩ := h htimed
  refine ⟨hpos, now, hmem, hnow.trans hg.now, hlate.imp_right ?_⟩
  rintro ⟨answer, hanswer, hspurious⟩
  exact ⟨answer, hg.history.subset hanswer, hspurious⟩

/-- A change of what surrounds a call. -/
theorem Punctual.same {env : Env} {tc tc' : TrackedCall} (h : Punctual env tc)
    (hcall : tc'.call = tc.call) (hinputs : tc'.inputs = tc.inputs) : Punctual env tc' := by
  unfold Punctual
  rw [hcall, hinputs]
  exact h

/-- An input is the note of an expired deadline or changes nothing about it. -/
theorem Punctual.input {env : Env} {tc : TrackedCall} (h : Punctual env tc) {i : CallInput}
    (hi : ∀ now, i = .timedOut now → now = env.now ∧ 0 < tc.call.deadlineAbsUs ∧
      env.Elapsed tc.call.deadlineAbsUs) : Punctual env (tc.input i) := by
  intro htimed
  have hdeadline := congrArg GrpcCall.deadlineAbsUs (tc.call.apply_config i)
  change (tc.input i).call.deadlineAbsUs = tc.call.deadlineAbsUs at hdeadline
  rw [hdeadline]
  rcases apply_timedOut htimed with hold | ⟨now, hnote⟩
  · obtain ⟨hpos, now, hmem, hlate⟩ := h hold
    exact ⟨hpos, now, List.mem_append_left _ hmem, hlate⟩
  · obtain ⟨rfl, hpos, hlate⟩ := hi now hnote
    refine ⟨hpos, env.now, ?_, Nat.le_refl _, hlate⟩
    rw [← hnote]
    exact List.mem_append_right _ (List.mem_singleton_self i)

/-- All calls are punctual. -/
def AllPunctual (w : World) : Prop := ∀ c, Punctual w.env (w.calls c)

theorem AllPunctual.update {w w' : World} (h : w.AllPunctual) (henv : w'.env = w.env) {c : CallId}
    {tc : TrackedCall} (hcalls : w'.calls = Function.update w.calls c tc)
    (htc : Punctual w.env tc) : w'.AllPunctual := by
  intro c'
  rw [hcalls, henv, Function.update_apply]
  split
  · exact htc
  · exact h c'

theorem AllPunctual.input {w w' : World} (h : w.AllPunctual) (henv : w'.env = w.env) {c : CallId}
    {i : CallInput} (hcalls : w'.calls = (w.input c i).calls)
    (hi : ∀ now, i = .timedOut now → w.Notes c i) : w'.AllPunctual := by
  refine h.update henv hcalls ((h c).input ?_)
  intro now hnote
  have hnotes := hi now hnote
  rw [hnote] at hnotes
  exact hnotes

/-- Every move takes note of an expired deadline only behind it. -/
theorem AllPunctual.step {w w' : World} (h : w.AllPunctual) (hs : Step w w') : w'.AllPunctual := by
  cases hs with
  | keep hk =>
    cases hk with
    | drive k hd =>
      cases hd with
      | quiet env conn henv => exact fun c => (h c).grows henv
      | log | die | drain | streams | receive | source => exact h
      | note c i hi => exact h.input rfl rfl fun _ _ => hi
      | close c i hi =>
        refine h.input rfl rfl fun now hnote => ?_
        rw [hnote] at hi
        cases hi
      | deliver | unregister | free => exact h.input rfl rfl nofun
      | complete c => exact h.update rfl rfl ((h c).same rfl rfl)
      | pop c payload =>
        have hin : (w.input c .dequeue).AllPunctual := h.input rfl rfl nofun
        exact hin.update rfl rfl ((hin c).same rfl rfl)
    | abort c =>
      have hmark : (w.setCall c fun tc => { tc with cancelled := true }).AllPunctual :=
        h.update rfl rfl ((h c).same rfl rfl)
      have hcancel : ((w.setCall c fun tc => { tc with cancelled := true }).input c
          .userCancelled).AllPunctual := hmark.input rfl rfl nofun
      exact hcancel.input rfl rfl nofun
    | newConn | uncache | markDetached | cache | destroy => exact h
    | clearOwner => exact h.input rfl rfl nofun
    | release c => exact h.update rfl rfl ((h c).same rfl rfl)
  | newCall k start hk hstart =>
    refine h.update rfl rfl fun htimed => ?_
    obtain ⟨req, retryAttempt, rfl | rfl⟩ := hstart
    · exact absurd htimed Bool.false_ne_true
    · exact absurd htimed Bool.false_ne_true
  | logSubmit => exact h
  | submit | submitFailed | register => exact h.input rfl rfl nofun

theorem AllPunctual.steps {w w' : World} (h : w.AllPunctual) (hs : Steps w w') :
    w'.AllPunctual := by
  induction hs with
  | refl => exact h
  | tail _ hstep ih => exact ih.step hstep

/-- A run of methods on a process that starts without connections and calls. -/
theorem Methods.allPunctual {env : Env} {config : Config} {w : World}
    (h : Methods { env := env, config := config } w) : w.AllPunctual := by
  have ho := orderly_start env config
  have hmade := Methods.made h ho
  obtain ⟨hsteps, -⟩ := Operations.orderly hmade.operations ho
  have hstart : World.AllPunctual { env := env, config := config } :=
    fun _ htimed => absurd htimed Bool.false_ne_true
  exact hstart.steps hsteps

/-- Deadlines do not fire early: in every run whose answers hold no failure that looks like an
expiry, a call that timed out has a deadline and took note of its expiry at a time that the
clock had reached and that is not before the deadline. -/
theorem Methods.timedOut_late {env : Env} {config : Config} {w : World}
    (h : Methods { env := env, config := config } w)
    (hhonest : ∀ answer ∈ w.env.history, answer.spurious = false) (c : CallId)
    (htimed : (w.calls c).call.timedOut = true) :
    0 < (w.calls c).call.deadlineAbsUs ∧
      ∃ now, CallInput.timedOut now ∈ (w.calls c).inputs ∧
        (w.calls c).call.deadlineAbsUs ≤ now ∧ now ≤ w.env.now := by
  obtain ⟨hpos, now, hmem, hnow, hlate | ⟨answer, hanswer, hspurious⟩⟩ :=
    Methods.allPunctual h c htimed
  · exact ⟨hpos, now, hmem, hlate, hnow⟩
  · rw [hhonest answer hanswer] at hspurious
    exact absurd hspurious Bool.false_ne_true

/-- The answers to a unary call with a deadline of a millisecond, with those to its only read. -/
private def singleRead (answers : List Answer) : Env where
  script := [
    .setupCall .getaddrinfo true 1 none, .clock 0, .setupCall .socket true 3 none,
    .setupCall .setNonblocking true 0 none, .setupCall .connect true 0 none,
    .setupCall .freeaddrinfo true 0 none, .setup true false, .sessionSend [] 0, .clock 0, .clock 0,
    .submitRequest 1, .setUserData 0, .sessionSend [] 0, .clock 0] ++ answers ++
    [.submitRst 0, .clock 0, .sessionSend [] 0]

/-- The unary call. -/
private def performSingleRead (answers : List Answer) : Option World :=
  (Proc.startBatch (CallObj.construct [] false true 0 65536 1000)
    { sendMessage := some (some []), recvStatusOnClient := true }
    { env := singleRead answers }).map Prod.snd

private theorem performSingleRead_methods {answers : List Answer} {w : World}
    (h : performSingleRead answers = some w) : Methods { env := singleRead answers } w := by
  obtain ⟨⟨r, w'⟩, hrun, rfl⟩ := Option.map_eq_some_iff.mp h
  refine .single (.startBatch _ _ (fun c hc => ?_) hrun)
  exact absurd hc (Option.some_ne_none c).symm

/-- The socket stays silent until the deadline: the call is told so at the deadline. -/
theorem Methods.timedOut_late_silent :
    ∃ w, Methods { env := singleRead [.recv (-1) Errno.eagain, .clock 0, .poll 0 0 0 1000] } w ∧
      0 < (w.calls 0).call.deadlineAbsUs ∧
      ∃ now, CallInput.timedOut now ∈ (w.calls 0).inputs ∧
        (w.calls 0).call.deadlineAbsUs ≤ now ∧ now ≤ w.env.now := by
  have hrun : (performSingleRead [.recv (-1) Errno.eagain, .clock 0, .poll 0 0 0 1000]).any
      (fun w => (w.calls 0).call.timedOut && w.env.history.all fun a => !a.spurious) = true := by
    decide +kernel
  obtain ⟨w, hw, hcheck⟩ := (Option.any_eq_true _ _).mp hrun
  rw [Bool.and_eq_true, List.all_eq_true] at hcheck
  have hmethods := performSingleRead_methods hw
  refine ⟨w, hmethods, Methods.timedOut_late hmethods ?_ 0 hcheck.1⟩
  intro answer hanswer
  simpa using hcheck.2 answer hanswer

/-- The kernel gives up the connection with ETIMEDOUT, a millisecond before the deadline of the
call: the call is reported as expired. -/
theorem Methods.timedOut_early :
    ∃ w, Methods { env := singleRead [.recv (-1) Errno.etimedout] } w ∧
      (w.calls 0).call.timedOut = true ∧ w.env.now < (w.calls 0).call.deadlineAbsUs := by
  have hrun : (performSingleRead [.recv (-1) Errno.etimedout]).any
      (fun w => (w.calls 0).call.timedOut &&
        decide (w.env.now < (w.calls 0).call.deadlineAbsUs)) = true := by
    decide +kernel
  obtain ⟨w, hw, hcheck⟩ := (Option.any_eq_true _ _).mp hrun
  rw [Bool.and_eq_true, decide_eq_true_eq] at hcheck
  exact ⟨w, performSingleRead_methods hw, hcheck⟩

end World

end GrpcLite
