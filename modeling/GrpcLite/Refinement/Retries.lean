import GrpcLite.Correctness.OkResponse
import GrpcLite.Correctness.UnaryRuns
import GrpcLite.Refinement.Works

/-!
# Attempts at a request

A request is attempted once, or a second time behind an attempt that the peer refused
before it had answered. The messages that reach the user come from the last attempt.
Later moves leave all of this as it is.
-/

namespace GrpcLite

namespace World

/-! ## Attempts -/

/-- The call is an attempt at a request, by its number. -/
structure AttemptOf (w : World) (req : CallRequest) (retryAttempt : Nat) (c : CallId) : Prop where
  /-- The call was created. -/
  created : c < w.nextCall
  /-- One of the drivers has started it. -/
  start : ∃ k, (w.calls c).start = req.unaryCall k retryAttempt ∨
    (w.calls c).start = req.startCall k retryAttempt

/-- The peer refused the call before it had answered. -/
def RefusedUnprocessed (w : World) (c : CallId) : Prop :=
  ∃ inputs, inputs <+: (w.calls c).inputs ∧ Unprocessed (w.calls c).start inputs

/-- The attempts at a request from one number on: only a refused first one is followed by
another. -/
inductive Attempted (w : World) (req : CallRequest) : Nat → List CallId → Prop
  /-- None was made. -/
  | none {retryAttempt : Nat} : Attempted w req retryAttempt []
  /-- The last one. -/
  | last {retryAttempt : Nat} {c : CallId} (h : w.AttemptOf req retryAttempt c) :
    Attempted w req retryAttempt [c]
  /-- One that is repeated. -/
  | again {c : CallId} {rest : List CallId} (h : w.AttemptOf req 0 c)
    (hrefused : w.RefusedUnprocessed c) (hrest : Attempted w req 1 rest) :
    Attempted w req 0 (c :: rest)

/-- The messages are the first ones in the body of the last of some calls. -/
def Encodes (w : World) (attempts : List CallId) (messages : List Bytes) : Prop :=
  messages = [] ∨ ∃ c, attempts.getLast? = some c ∧ c < w.nextCall ∧
    messages <+: encodedMessages (w.calls c).bytes

variable {w w' : World} {req : CallRequest} {retryAttempt : Nat} {c : CallId}
  {attempts : List CallId}

/-- A request is attempted at most twice. -/
theorem Attempted.length_le (h : w.Attempted req 0 attempts) : attempts.length ≤ 2 := by
  cases h with
  | none => exact Nat.zero_le _
  | last => exact Nat.le_succ _
  | again _ _ hrest =>
    cases hrest with
    | none => exact Nat.le_succ _
    | last => exact Nat.le_refl _

/-- The last of the attempts is the first or the second. -/
theorem Attempted.last_cases (h : w.Attempted req 0 attempts) (hlast : attempts.getLast? = some c) :
    attempts = [c] ∧ w.AttemptOf req 0 c ∨ w.AttemptOf req 1 c := by
  cases h with
  | none => cases hlast
  | last h =>
    obtain rfl := Option.some.inj hlast
    exact .inl ⟨rfl, h⟩
  | again h hrefused hrest =>
    cases hrest with
    | none =>
      obtain rfl := Option.some.inj hlast
      exact .inl ⟨rfl, h⟩
    | last h' =>
      obtain rfl := Option.some.inj hlast
      exact .inr h'

/-- The number of an attempt is that of its call. -/
theorem AttemptOf.retryAttempt_eq (h : w.AttemptOf req retryAttempt c) :
    (w.calls c).start.retryAttempt = retryAttempt := by
  obtain ⟨k, hstart | hstart⟩ := h.start
  · rw [hstart]
    rfl
  · rw [hstart]
    rfl

/-- The call that an attempt has created. -/
theorem Attempt.attemptOf {start : GrpcCall} (h : Attempt start w w')
    (hstart : ∃ k, start = req.unaryCall k retryAttempt ∨ start = req.startCall k retryAttempt) :
    w'.AttemptOf req retryAttempt w.nextCall := by
  refine ⟨h.nextCall ▸ Nat.lt_succ_self _, ?_⟩
  have hfresh := congrArg Prod.fst h.fresh
  change (w'.calls w.nextCall).start = start at hfresh
  rw [hfresh]
  exact hstart

/-! ## Later states -/

/-- An attempt stays one while calls are only added. -/
theorem AttemptOf.later (h : w.AttemptOf req retryAttempt c)
    (hstart : ∀ c < w.nextCall, (w'.calls c).start = (w.calls c).start)
    (hnext : w.nextCall ≤ w'.nextCall) : w'.AttemptOf req retryAttempt c := by
  refine ⟨Nat.lt_of_lt_of_le h.created hnext, ?_⟩
  rw [hstart c h.created]
  exact h.start

/-- An attempt stays one. -/
theorem AttemptOf.steps (h : w.AttemptOf req retryAttempt c) (hs : Steps w w') :
    w'.AttemptOf req retryAttempt c :=
  h.later (fun _ hc => (Steps.extends hs hc).start) (Steps.nextCall_le hs)

/-- A refusal stays on the record. -/
theorem RefusedUnprocessed.steps (h : w.RefusedUnprocessed c) (hs : Steps w w')
    (hc : c < w.nextCall) : w'.RefusedUnprocessed c := by
  obtain ⟨inputs, hinputs, hunprocessed⟩ := h
  have hext := Steps.extends hs hc
  exact ⟨inputs, hinputs.trans hext.inputs, hext.start ▸ hunprocessed⟩

/-- The attempts of an object stay its attempts. -/
theorem Attempted.steps (h : w.Attempted req retryAttempt attempts) (hs : Steps w w') :
    w'.Attempted req retryAttempt attempts := by
  induction h with
  | none => exact .none
  | last h => exact .last (h.steps hs)
  | again h hrefused _ ih => exact .again (h.steps hs) (hrefused.steps hs h.created) ih

/-- Bytes of the body are only added. -/
theorem bytes_extends {tc tc' : TrackedCall} (h : tc.Extends tc') :
    tc.bytes <+: tc'.bytes := by
  obtain ⟨more, hmore⟩ := h.inputs
  rw [TrackedCall.bytes, TrackedCall.bytes, ← hmore, List.flatMap_append]
  exact List.prefix_append _ _

/-- More bytes encode the same messages in front. -/
theorem Encodes.steps {messages : List Bytes} (h : w.Encodes attempts messages) (hs : Steps w w') :
    w'.Encodes attempts messages := by
  refine h.imp_right ?_
  rintro ⟨c, hlast, hc, hfront⟩
  refine ⟨c, hlast, Nat.lt_of_lt_of_le hc (Steps.nextCall_le hs), ?_⟩
  exact hfront.trans (encodedMessages_mono (bytes_extends (Steps.extends hs hc)))

/-- Only the last attempt counts. -/
theorem Encodes.append {messages : List Bytes} (h : w.Encodes attempts messages)
    (earlier : List CallId) : w.Encodes (earlier ++ attempts) messages := by
  refine h.imp_right ?_
  rintro ⟨c, hlast, hc, hfront⟩
  refine ⟨c, ?_, hc, hfront⟩
  rw [List.getLast?_append, hlast]
  rfl

/-- Fewer messages of the same body. -/
theorem Encodes.front {messages messages' : List Bytes} (h : w.Encodes attempts messages)
    (hfront : messages' <+: messages) : w.Encodes attempts messages' := by
  rcases h with rfl | ⟨c, hlast, hc, hmore⟩
  · exact .inl (List.prefix_nil.mp hfront)
  · exact .inr ⟨c, hlast, hc, hfront.trans hmore⟩

end World

/-! ## What the unary driver reports -/

namespace GrpcCall

/-- The unary driver takes a payload and no flag. -/
theorem unaryTake_streamFlags (call : GrpcCall) :
    call.unaryTakeResponsePayload.2.streamFlags = call.streamFlags := by
  unfold unaryTakeResponsePayload
  cases call.responseQueue <;> rfl

/-- It leaves what the peer has touched. -/
theorem unaryTake_touched (call : GrpcCall) :
    call.unaryTakeResponsePayload.2.touched = call.touched := by
  unfold unaryTakeResponsePayload
  cases call.responseQueue <;> rfl

/-- It leaves the number of the attempt. -/
theorem unaryTake_retryAttempt (call : GrpcCall) :
    call.unaryTakeResponsePayload.2.retryAttempt = call.retryAttempt := by
  unfold unaryTakeResponsePayload
  cases call.responseQueue <;> rfl

/-- The checks behind the loops only add the mark of a message that was cut off. -/
theorem checkUnary_same {α : Type} (call : GrpcCall) (f : GrpcCall → α)
    (hf : ∀ call : GrpcCall, f { call with malformedResponseFrame := true } = f call) :
    f call.checkUnary = f call := by
  unfold checkUnary
  split
  · exact hf call
  · rfl

@[inherit_doc checkUnary_same]
theorem checkStream_same {α : Type} (call : GrpcCall) (f : GrpcCall → α)
    (hf : ∀ call : GrpcCall, f { call with malformedResponseFrame := true } = f call) :
    f call.checkStream = f call := by
  unfold checkStream
  split
  · exact hf call
  · rfl

/-- No input changes the number of an attempt. -/
theorem retryAttempt_applyAll (call : GrpcCall) (inputs : List CallInput) :
    (call.applyAll inputs).retryAttempt = call.retryAttempt := by
  have hretry := congrArg GrpcCall.retryAttempt (call.applyAll_config inputs)
  exact hretry

/-- A call that has not begun. -/
structure Unborn (call : GrpcCall) : Prop where
  /-- The call is one of the drivers'. -/
  direct : call.Direct
  /-- No GOAWAY was seen. -/
  refused : call.streamRefusedSeen = false
  /-- No reset was seen. -/
  reset : call.streamResetSeen = false

/-- A call of the drivers starts before everything. -/
theorem Started.unborn {start : GrpcCall} {k : ConnId} (h : start.Started k) : start.Unborn := by
  refine ⟨h.direct, ?_, ?_⟩ <;> obtain ⟨req, retryAttempt, rfl | rfl⟩ := h <;> rfl

/-- What the queue holds in front of the first take-out is the front of the body. -/
theorem Started.queue_front {start : GrpcCall} {k : ConnId} (h : start.Started k)
    {inputs : List CallInput} (hkeep : ∀ i ∈ inputs, i.takesOut = false)
    (hvalid : (start.applyAll inputs).validationFailed = false) :
    (start.applyAll inputs).responseQueue <+: encodedMessages (inputs.flatMap CallInput.bytes) := by
  have hreads : ∀ {call : GrpcCall} {bytes : Bytes} (inputs : List CallInput),
      call.Direct → call.Reads [] bytes → (∀ i ∈ inputs, i.takesOut = false) →
      (call.applyAll inputs).Reads [] (bytes ++ inputs.flatMap CallInput.bytes) := by
    intro call bytes inputs
    induction inputs generalizing call bytes with
    | nil =>
      intro _ hreads _
      simpa [applyAll] using hreads
    | cons i inputs ih =>
      intro hdirect hreads hkeep
      have hrest := ih (hdirect.apply i)
        (hreads.apply hdirect (hkeep i List.mem_cons_self))
        fun j hj => hkeep j (List.mem_cons_of_mem _ hj)
      rw [List.flatMap_cons, ← List.append_assoc]
      exact hrest
  have hfront := (hreads inputs h.direct h.reads hkeep).front hvalid
  rw [List.nil_append, List.nil_append] at hfront
  exact hfront.trans ((start.applyAll inputs).decoded_prefix_encoded _)

/-- The loop of the unary driver takes nothing out of the queue. -/
theorem unaryInputs_keeps {ending : List CallInput} (hending : ∀ i ∈ ending, i.inEnding = true)
    {rounds : List (List CallInput)}
    (hrounds : ∀ round ∈ rounds, ∀ i ∈ round, i.inRound = true) (call : GrpcCall) :
    ∀ i ∈ call.unaryInputs ending rounds, i.takesOut = false := by
  have hround {i : CallInput} (h : i.inEnding = true) : i.takesOut = false := by
    cases i with
    | dequeue | take | freeQueue => cases h
    | _ => rfl
  induction rounds generalizing call with
  | nil =>
    unfold unaryInputs
    split
    · exact fun i hi => absurd hi List.not_mem_nil
    · exact fun i hi => hround (hending i hi)
  | cons round rounds ih =>
    unfold unaryInputs
    split
    · exact fun i hi => absurd hi List.not_mem_nil
    · intro i hi
      rcases List.mem_append.mp hi with hi | hi
      · exact hround (CallInput.inEnding_of_inRound (hrounds round List.mem_cons_self i hi))
      · exact ih (fun r hr => hrounds r (List.mem_cons_of_mem _ hr)) _ i hi

end GrpcCall

namespace Behaviour

/-- The unary driver repeats only what was refused. -/
theorem unaryResult_retryable {b : Behaviour} {start : GrpcCall} {details : StatusDetails}
    (hstart : start.Unborn)
    (h : (b.unaryResult start details).outcome.transparentRetryableUnprocessed = true) :
    Unprocessed start (start.unaryInputs b.ending b.rounds) ∧ start.retryAttempt = 0 := by
  have hflags : (b.unaryEnd start).checkUnary.unaryTakeResponsePayload.2.streamFlags =
      (start.applyAll (start.unaryInputs b.ending b.rounds)).streamFlags :=
    (GrpcCall.unaryTake_streamFlags _).trans (GrpcCall.checkUnary_same _ _ fun _ => rfl)
  have htouched : (b.unaryEnd start).checkUnary.unaryTakeResponsePayload.2.touched =
      (start.applyAll (start.unaryInputs b.ending b.rounds)).touched :=
    (GrpcCall.unaryTake_touched _).trans (GrpcCall.checkUnary_same _ _ fun _ => rfl)
  obtain ⟨hunprocessed, hfirst, -⟩ := Unprocessed.of_retryable hstart.direct hstart.refused
    hstart.reset hflags htouched h
  refine ⟨hunprocessed, ?_⟩
  rw [GrpcCall.unaryTake_retryAttempt,
    GrpcCall.checkUnary_same _ GrpcCall.retryAttempt fun _ => rfl] at hfirst
  exact (start.retryAttempt_applyAll _).symm.trans hfirst

/-- The message beside an OK is the first one of the body. -/
theorem unaryResult_body {b : Behaviour} {start : GrpcCall} {k : ConnId} (hstart : start.Started k)
    (hends : b.Ends) {details : StatusDetails}
    (hok : (b.unaryResult start details).status.code = Status.ok) :
    (b.unaryResult start details).body.toList <+:
      encodedMessages ((start.unaryInputs b.ending b.rounds).flatMap CallInput.bytes) := by
  have hvalid : (b.unaryEnd start).validationFailed = false := by
    by_contra hfailed
    have hchecked : (b.unaryEnd start).checkUnary.validationFailed = true := by
      unfold GrpcCall.checkUnary
      split
      · simp [GrpcCall.validationFailed]
      · exact Bool.not_eq_false _ ▸ hfailed
    have hclean := (GrpcCall.statusCode_ok hok).2.1.response
    exact Bool.false_ne_true (hclean.symm.trans hchecked)
  have hfront := hstart.queue_front
    (GrpcCall.unaryInputs_keeps hends.kind b.inRound start) hvalid
  refine List.IsPrefix.trans ?_ hfront
  change (b.unaryEnd start).responseQueue.head?.toList <+: (b.unaryEnd start).responseQueue
  cases (b.unaryEnd start).responseQueue with
  | nil => exact List.prefix_rfl
  | cons payload rest => exact ⟨rest, rfl⟩

end Behaviour

namespace Proc

open World

/-! ## The attempts of a unary call -/

/-- The calls between two numbers, the first one apart. -/
theorem range_calls {a b : CallId} (h : a < b) :
    List.range' a (b - a) = a :: List.range' (a + 1) (b - (a + 1)) := by
  obtain ⟨n, rfl⟩ := Nat.exists_eq_add_of_lt h
  rw [Nat.add_assoc, Nat.add_sub_cancel_left, List.range'_succ, ← Nat.add_assoc,
    Nat.add_right_comm, Nat.add_sub_cancel_left]

/-- The attempts that the loop makes, and the message of its result. -/
theorem unaryAttempts_attempted {req : CallRequest} {retryAttempt left : Nat} {r : UnaryAttempts}
    {w w' : World} (h : unaryAttempts req retryAttempt left w = some (r, w'))
    (hleft : retryAttempt + left = 2) (ho : w.Orderly ∨ Stale w req.key)
    (hlast : left = 0 → w.Orderly) :
    w'.Attempted req retryAttempt (List.range' w.nextCall (w'.nextCall - w.nextCall)) ∧
      ∀ k result, r = .result k result → result.status.code = Status.ok →
        w'.Encodes (List.range' w.nextCall (w'.nextCall - w.nextCall)) result.body.toList := by
  induction left generalizing w retryAttempt with
  | zero =>
    obtain ⟨rfl, rfl⟩ := Exec.pure_some.mp h
    rw [Nat.sub_self]
    exact ⟨.none, fun k result he => by cases he⟩
  | succ left ih =>
    obtain ⟨got, w₁, hget, h⟩ := Exec.bind_some.mp h
    obtain ⟨ho₁, hund₁, hstored⟩ := getPersistentConnection_orderly hget ho
    have hstill₁ : w.Still ∅ w₁ := getPersistentConnection_still _ _ _ _ _ _ hget
    rw [← hstill₁.nextCall]
    -- nothing was attempted
    have hnone {w₂ : World} {r : UnaryAttempts} (hno : ∀ k result, r ≠ .result k result)
        (hstill : w₁.Still ∅ w₂) :
        w₂.Attempted req retryAttempt (List.range' w₁.nextCall (w₂.nextCall - w₁.nextCall)) ∧
          ∀ k result, r = .result k result → result.status.code = Status.ok →
            w₂.Encodes (List.range' w₁.nextCall (w₂.nextCall - w₁.nextCall))
              result.body.toList := by
      rw [hstill.nextCall, Nat.sub_self]
      exact ⟨.none, fun k result he => absurd he (hno k result)⟩
    cases got with
    | error error =>
      obtain ⟨code, w₂, hstatus, h⟩ := Exec.bind_some.mp h
      obtain ⟨rfl, rfl⟩ := Exec.pure_some.mp h
      exact hnone (fun k result he => by cases he) (setupFailureStatus_still _ _ _ _ _ hstatus)
    | ok k =>
      obtain ⟨hst₁, husable₁⟩ := hstored k rfl
      obtain ⟨attempt, w₂, hperform, h⟩ := Exec.bind_some.mp h
      obtain ⟨hsteps₂, hsettles, -⟩ :=
        unaryCallPerformOnConnection_settles hperform ho₁ hst₁ husable₁
      have hattempt := unaryCallPerformOnConnection_attempt hperform
      cases attempt with
      | error failure =>
        obtain ⟨rfl, rfl⟩ := Exec.pure_some.mp h
        rcases hattempt with ⟨hstill, -⟩ | hattempt
        · exact hnone (fun k result he => by cases he) hstill
        · have hcall := hattempt.attemptOf ⟨k, .inl rfl⟩
          rw [hattempt.nextCall, Nat.add_sub_cancel_left]
          exact ⟨.last hcall, fun k result he => by cases he⟩
      | ok result =>
        obtain ⟨hst₂, ho₂, hretry⟩ := hsettles
        replace hattempt := hattempt.resolve_left (by rintro ⟨-, failure, he⟩; cases he)
        have hcall := hattempt.attemptOf ⟨k, .inl rfl⟩
        obtain ⟨b, hrun⟩ := unaryCallPerformOnConnection_run hperform
        obtain ⟨post, -, hrecord⟩ := hrun.record
        have hstart : (w₂.calls w₁.nextCall).start = req.unaryCall k retryAttempt :=
          congrArg Prod.fst hattempt.fresh
        have hstarted : (req.unaryCall k retryAttempt).Started k := ⟨req, retryAttempt, .inl rfl⟩
        simp only at h
        split at h
        · obtain ⟨rfl, rfl⟩ := Exec.pure_some.mp h
          rw [hattempt.nextCall, Nat.add_sub_cancel_left]
          refine ⟨.last hcall, fun k' result' he hok => ?_⟩
          obtain ⟨rfl, rfl⟩ := UnaryAttempts.result.inj he
          refine .inr ⟨w₁.nextCall, rfl, hcall.created, ?_⟩
          rw [hrun.result] at hok ⊢
          refine (Behaviour.unaryResult_body hstarted hrun.ends hok).trans (encodedMessages_mono ?_)
          rw [TrackedCall.bytes, hrecord, List.flatMap_append]
          exact List.prefix_append _ _
        · next hagain =>
          -- the attempt was refused, so it is the first one
          have hyes : result.outcome.transparentRetryableUnprocessed = true := by simpa using hagain
          obtain rfl : retryAttempt = 0 := hretry hyes
          have hrefused : w₂.RefusedUnprocessed w₁.nextCall := by
            refine ⟨(req.unaryCall k 0).unaryInputs b.ending b.rounds, ?_, ?_⟩
            · rw [hrecord]
              exact List.prefix_append _ _
            · rw [hstart]
              rw [hrun.result] at hyes
              exact (Behaviour.unaryResult_retryable hstarted.unborn hyes).1
          obtain ⟨_, w₃, hwhen, h⟩ := Exec.bind_some.mp h
          have hbehind : Steps w₂ w₃ ∧ (w₃.Orderly ∨ Stale w₃ req.key) ∧
              w₃.nextCall = w₂.nextCall := by
            obtain ⟨-, hremove⟩ | ⟨-, rfl⟩ := Exec.when_some.mp hwhen
            · obtain ⟨hkeeps, horder⟩ := removeUnusable_orderly hremove hst₂ ho₂
              exact ⟨hkeeps.steps, .inl horder, hkeeps.nextCall⟩
            · exact ⟨.refl, ho₂, rfl⟩
          obtain ⟨hsteps₃, ho₃, hnext₃⟩ := hbehind
          obtain ⟨hsteps', -⟩ := unaryAttempts_settles h (by omega) ho₃ (by omega)
          obtain ⟨hrest, hresult⟩ := ih h (by omega) ho₃ (by omega)
          have hlater := hsteps₃.trans hsteps'
          have hnext : w₃.nextCall = w₁.nextCall + 1 := hnext₃.trans hattempt.nextCall
          have hmore : w₁.nextCall < w'.nextCall := by
            have hle := Steps.nextCall_le hsteps'
            rw [hnext] at hle
            exact hle
          rw [hnext] at hrest hresult
          rw [range_calls hmore]
          refine ⟨.again (hcall.steps hlater) (hrefused.steps hlater hcall.created) hrest,
            fun k' result' he hok => ?_⟩
          rcases hresult k' result' he hok with hnil | ⟨c, hlast', hc, hfront⟩
          · exact .inl hnil
          · refine .inr ⟨c, ?_, hc, hfront⟩
            rw [List.getLast?_cons, hlast']
            rfl

/-- The attempts of a unary call, and the message of its result. -/
theorem performUnary_attempted {req : CallRequest} {r : UnaryAttempts} {w w' : World}
    (h : performUnary req w = some (r, w')) (ho : w.Orderly) :
    w'.Attempted req 0 (List.range' w.nextCall (w'.nextCall - w.nextCall)) ∧
      ∀ k result, r = .result k result → result.status.code = Status.ok →
        w'.Encodes (List.range' w.nextCall (w'.nextCall - w.nextCall)) result.body.toList := by
  obtain ⟨outcome, w₁, hattempts, h⟩ := Exec.bind_some.mp h
  obtain ⟨_, w₂, hevict, h⟩ := Exec.bind_some.mp h
  obtain ⟨rfl, rfl⟩ := Exec.pure_some.mp h
  obtain ⟨hattempted, hencodes⟩ := unaryAttempts_attempted hattempts rfl (.inl ho) (by omega)
  obtain ⟨-, hsettle⟩ := unaryAttempts_settles hattempts rfl (.inl ho) (by omega)
  have hkeeps : Keeps w₁ w₂ := by
    cases outcome with
    | result k result => exact (removeUnusable_orderly hevict hsettle.1 hsettle.2).1
    | setupFailure | failure =>
      obtain ⟨-, rfl⟩ := Exec.pure_some.mp hevict
      exact .refl
  rw [hkeeps.nextCall]
  exact ⟨hattempted.steps hkeeps.steps, fun k result he hok =>
    (hencodes k result he hok).steps hkeeps.steps⟩

end Proc

end GrpcLite
