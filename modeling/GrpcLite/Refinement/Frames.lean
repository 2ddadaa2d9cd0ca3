import GrpcLite.Refinement.Moves

/-!
# What moves leave alone

A call changes through recorded inputs only, and no input touches its limits, its
deadline and its request. Driving a session keeps the place of every call.
-/

namespace GrpcLite

/-- The fields of a call that its driver sets once. -/
def GrpcCall.config (call : GrpcCall) : GrpcCall where
  retryAttempt := call.retryAttempt
  maxResponseMessages := call.maxResponseMessages
  maxReceiveMessageBytes := call.maxReceiveMessageBytes
  deadlineAbsUs := call.deadlineAbsUs
  decodeResponseIncrementally := call.decodeResponseIncrementally
  directResponsePayload := call.directResponsePayload
  queueResponsePayloads := call.queueResponsePayloads
  maxResponseMetadataBytes := call.maxResponseMetadataBytes
  grpcHeader := call.grpcHeader
  request := call.request

namespace GrpcCall

/-- A callback does not change the configuration. -/
theorem config_of_fixed {call call' : GrpcCall} (h : call'.fixed = call.fixed) :
    call'.config = call.config := by
  have hconfig : ∀ call : GrpcCall, call.fixed.config = call.config := fun _ => rfl
  rw [← hconfig call', h, hconfig]

/-- No input changes the configuration. -/
theorem apply_config (call : GrpcCall) (i : CallInput) : (call.apply i).config = call.config := by
  cases i with
  | event ra answers event =>
    by_cases hclose : event.isClose = true
    · cases event with
      | closed code => rfl
      | _ => cases hclose
    · exact config_of_fixed (call.apply_event_fixed ra answers (Bool.not_eq_true _ ▸ hclose))
  | dequeue => exact config_of_fixed call.dequeue_fixed
  | take => exact config_of_fixed call.take_fixed
  | connectionBroken errno detail =>
    simp only [apply]
    split <;> rfl
  | refused | submitted | registered | unregistered | ownerCleared | timedOut | ioError
  | locallyCancelled | userCancelled | freeQueue | truncated | requestSent => rfl

/-- A call behind a list of inputs. -/
def applyAll (call : GrpcCall) (inputs : List CallInput) : GrpcCall := inputs.foldl apply call

/-- Inputs in two parts. -/
theorem applyAll_append (call : GrpcCall) (xs ys : List CallInput) :
    call.applyAll (xs ++ ys) = (call.applyAll xs).applyAll ys := List.foldl_append

/-- No run changes the configuration. -/
theorem applyAll_config (call : GrpcCall) (inputs : List CallInput) :
    (call.applyAll inputs).config = call.config := by
  induction inputs generalizing call with
  | nil => rfl
  | cons i inputs ih => exact (ih (call.apply i)).trans (call.apply_config i)

end GrpcCall

namespace TrackedCall

/-- The call record follows from its inputs. -/
def Replayed (tc : TrackedCall) : Prop := tc.call = tc.start.applyAll tc.inputs

/-- A recorded input is accounted for. -/
theorem Replayed.input {tc : TrackedCall} (h : tc.Replayed) (i : CallInput) :
    (tc.input i).Replayed := by
  unfold Replayed TrackedCall.input at *
  rw [GrpcCall.applyAll_append, ← h]
  rfl

/-- The configuration is that of the start. -/
theorem Replayed.config {tc : TrackedCall} (h : tc.Replayed) : tc.call.config = tc.start.config := by
  rw [h]
  exact tc.start.applyAll_config tc.inputs

/-- A later state of the same call. -/
structure Extends (tc tc' : TrackedCall) : Prop where
  /-- The call started with the same record. -/
  start : tc'.start = tc.start
  /-- Inputs are only added. -/
  inputs : tc.inputs <+: tc'.inputs
  /-- What the driver set stays. -/
  config : tc'.call.config = tc.call.config
  /-- The delivered messages are only added to. -/
  delivered : tc.delivered <+: tc'.delivered
  /-- A cancelled stream stays so. -/
  cancelled : tc.cancelled = true → tc'.cancelled = true

/-- Nothing is added. -/
theorem Extends.refl (tc : TrackedCall) : Extends tc tc :=
  ⟨rfl, List.prefix_rfl, rfl, List.prefix_rfl, id⟩

/-- What is added one after the other. -/
theorem Extends.trans {a b c : TrackedCall} (h : Extends a b) (h' : Extends b c) : Extends a c :=
  ⟨h'.start.trans h.start, h.inputs.trans h'.inputs, h'.config.trans h.config,
    h.delivered.trans h'.delivered, h'.cancelled ∘ h.cancelled⟩

/-- An input is added. -/
theorem Extends.input (tc : TrackedCall) (i : CallInput) : Extends tc (tc.input i) :=
  ⟨rfl, List.prefix_append _ _, tc.call.apply_config i, List.prefix_rfl, id⟩

end TrackedCall

namespace World

/-- A change of one call. -/
theorem extends_update {calls : CallId → TrackedCall} {c : CallId} {tc : TrackedCall}
    (h : (calls c).Extends tc) (c' : CallId) :
    (calls c').Extends (Function.update calls c tc c') := by
  rw [Function.update_apply]
  split
  · next hc => exact hc ▸ h
  · exact .refl _

/-- Whoever drives a session adds to the records of calls. -/
theorem Drive.extends {k : ConnId} {w w' : World} (h : Drive k w w') (c : CallId) :
    (w.calls c).Extends (w'.calls c) := by
  cases h with
  | quiet | log | die | drain | streams | receive | source => exact .refl _
  | deliver | close | unregister | note | free => exact extends_update (.input _ _) c
  | complete =>
    refine extends_update ?_ c
    exact ⟨rfl, List.prefix_rfl, rfl, List.prefix_rfl, id⟩
  | pop c₀ payload =>
    refine (extends_update (.input _ _) c).trans (extends_update ?_ c)
    exact ⟨rfl, List.prefix_rfl, rfl, List.prefix_append _ _, id⟩

/-- What keeps calls apart adds to their records. -/
theorem Keep.extends {w w' : World} (h : Keep w w') (c : CallId) :
    (w.calls c).Extends (w'.calls c) := by
  cases h with
  | drive k h => exact h.extends c
  | abort c₀ =>
    have hmark : (w.calls c₀).Extends { w.calls c₀ with cancelled := true } :=
      ⟨rfl, List.prefix_rfl, rfl, List.prefix_rfl, fun _ => rfl⟩
    exact (extends_update hmark c).trans
      ((extends_update (.input _ _) c).trans (extends_update (.input _ _) c))
  | newConn | uncache | markDetached | cache | destroy => exact .refl _
  | clearOwner => exact extends_update (.input _ _) c
  | release =>
    refine extends_update ?_ c
    exact ⟨rfl, List.prefix_rfl, rfl, List.prefix_rfl, id⟩

/-- A step adds to the records of existing calls. -/
theorem Step.extends {w w' : World} (h : Step w w') {c : CallId} (hc : c < w.nextCall) :
    (w.calls c).Extends (w'.calls c) := by
  cases h with
  | keep h => exact h.extends c
  | newCall k start hk hstart =>
    simp only [Function.update_of_ne (Nat.ne_of_lt hc)]
    exact .refl _
  | logSubmit => exact .refl _
  | submit | submitFailed | register => exact extends_update (.input _ _) c

/-- No call is created where calls are kept. -/
theorem Keep.nextCall {w w' : World} (h : Keep w w') : w'.nextCall = w.nextCall := by
  cases h with
  | drive k h => cases h <;> rfl
  | _ => rfl

/-- A step creates calls and takes none away. -/
theorem Step.nextCall_le {w w' : World} (h : Step w w') : w.nextCall ≤ w'.nextCall := by
  cases h with
  | keep h => exact Nat.le_of_eq h.nextCall.symm
  | newCall => exact Nat.le_succ _
  | _ => exact Nat.le_refl _

/-- No call is created where calls are kept. -/
theorem Keeps.nextCall {w w' : World} (h : Keeps w w') : w'.nextCall = w.nextCall := by
  induction h with
  | refl => rfl
  | tail _ hk ih => exact hk.nextCall.trans ih

/-- What keeps calls apart adds to their records. -/
theorem Keeps.extends {w w' : World} (h : Keeps w w') (c : CallId) :
    (w.calls c).Extends (w'.calls c) := by
  induction h with
  | refl => exact .refl _
  | tail _ hk ih => exact ih.trans (hk.extends c)

/-- A run creates calls and takes none away. -/
theorem Steps.nextCall_le {w w' : World} (h : Steps w w') : w.nextCall ≤ w'.nextCall := by
  induction h with
  | refl => exact Nat.le_refl _
  | tail _ hs ih => exact ih.trans hs.nextCall_le

/-- A run adds to the records of existing calls. -/
theorem Steps.extends {w w' : World} (h : Steps w w') {c : CallId} (hc : c < w.nextCall) :
    (w.calls c).Extends (w'.calls c) := by
  induction h with
  | refl => exact .refl _
  | tail hs hk ih => exact ih.trans (hk.extends (Nat.lt_of_lt_of_le hc (Steps.nextCall_le hs)))

/-- Moves that create no call. -/
abbrev Proceeds : World → World → Prop :=
  Relation.ReflTransGen fun w w' => Step w w' ∧ w'.nextCall = w.nextCall

/-- A run that creates no call is a run. -/
theorem Proceeds.steps {w w' : World} (h : Proceeds w w') : Steps w w' :=
  h.lift id fun _ _ => And.left

/-- It creates no call. -/
theorem Proceeds.nextCall {w w' : World} (h : Proceeds w w') : w'.nextCall = w.nextCall := by
  induction h with
  | refl => rfl
  | tail _ hs ih => exact hs.2.trans ih

/-- What keeps calls apart creates none. -/
theorem Keeps.proceeds {w w' : World} (h : Keeps w w') : Proceeds w w' :=
  h.lift id fun _ _ hk => ⟨.keep hk, hk.nextCall⟩

/-- The calls created on the way were given this connection. -/
def Creates (w : World) (k : ConnId) (w' : World) : Prop :=
  ∀ c, w.nextCall ≤ c → c < w'.nextCall → (w'.calls c).start.connection = some k

/-- Nothing is created. -/
theorem Creates.of_nextCall {w w' : World} (h : w'.nextCall = w.nextCall) (k : ConnId) :
    w.Creates k w' := fun _ hc hc' => absurd (h ▸ hc') (Nat.not_lt.mpr hc)

/-- One call is created. -/
theorem Creates.of_newCall {w w₁ w' : World} {k : ConnId}
    (hnext : w₁.nextCall = w.nextCall + 1)
    (hstart : (w₁.calls w.nextCall).start.connection = some k) (h : Proceeds w₁ w') :
    w.Creates k w' := by
  intro c hc hc'
  have hlast : c = w.nextCall := by
    rw [h.nextCall, hnext] at hc'
    exact Nat.le_antisymm (Nat.le_of_lt_succ hc') hc
  subst hlast
  rw [(Steps.extends h.steps (hnext ▸ Nat.lt_succ_self _)).start]
  exact hstart

/-- A run of a session leaves the deadlines alone. -/
theorem Drives.deadline {k : ConnId} {w w' : World} (h : Drives k w w') (c : CallId) :
    (w'.calls c).call.deadlineAbsUs = (w.calls c).call.deadlineAbsUs := by
  have hdeadline := congrArg GrpcCall.deadlineAbsUs (h.keeps.extends c).config
  exact hdeadline

/-! ## Replay -/

/-- Every call record follows from its inputs. -/
def Replayed (w : World) : Prop := ∀ c, (w.calls c).Replayed

/-- A change of one call whose record accounts for it. -/
theorem Replayed.update {w w' : World} (h : w.Replayed) {c : CallId} {tc : TrackedCall}
    (hcalls : w'.calls = Function.update w.calls c tc) (htc : tc.Replayed) : w'.Replayed := by
  intro c'
  rw [hcalls, Function.update_apply]
  split
  · exact htc
  · exact h c'

/-- An input that is recorded. -/
theorem Replayed.input {w w' : World} (h : w.Replayed) {c : CallId} {i : CallInput}
    (hcalls : w'.calls = (w.input c i).calls) : w'.Replayed :=
  h.update hcalls ((h c).input i)

/-- A change of what surrounds a call. -/
theorem Replayed.setCall {w w' : World} (h : w.Replayed) {c : CallId} {tc : TrackedCall}
    (hcalls : w'.calls = Function.update w.calls c tc)
    (htc : tc.call = (w.calls c).call ∧ tc.start = (w.calls c).start ∧
      tc.inputs = (w.calls c).inputs) : w'.Replayed := by
  refine h.update hcalls ?_
  unfold TrackedCall.Replayed
  rw [htc.1, htc.2.1, htc.2.2]
  exact h c

/-- Calls that do not change. -/
theorem Replayed.of_calls {w w' : World} (h : w.Replayed) (hcalls : w'.calls = w.calls) :
    w'.Replayed := by
  intro c
  rw [hcalls]
  exact h c

/-- A step keeps the records complete. -/
theorem Replayed.step {w w' : World} (h : w.Replayed) (hs : Step w w') : w'.Replayed := by
  cases hs with
  | keep hk =>
    cases hk with
    | drive k hd =>
      cases hd with
      | quiet | log | die | drain | streams | receive | source => exact h.of_calls rfl
      | deliver | close | unregister | note | free => exact h.input rfl
      | complete => exact h.setCall rfl ⟨rfl, rfl, rfl⟩
      | pop c =>
        have hin : (w.input c .dequeue).Replayed := h.input rfl
        exact hin.setCall rfl ⟨rfl, rfl, rfl⟩
    | abort c =>
      have hc : (w.setCall c fun tc => { tc with cancelled := true }).Replayed :=
        h.setCall rfl ⟨rfl, rfl, rfl⟩
      have hin := hc.input (c := c) (i := .userCancelled) rfl
      exact hin.input rfl
    | newConn | uncache | markDetached | cache | destroy => exact h.of_calls rfl
    | clearOwner => exact h.input rfl
    | release => exact h.setCall rfl ⟨rfl, rfl, rfl⟩
  | newCall k start => exact h.update rfl rfl
  | logSubmit => exact h.of_calls rfl
  | submit | submitFailed | register => exact h.input rfl

/-- A run keeps the records complete. -/
theorem Replayed.steps {w w' : World} (h : w.Replayed) (hs : Steps w w') : w'.Replayed := by
  induction hs with
  | refl => exact h
  | tail _ hs ih => exact ih.step hs

end World

end GrpcLite
