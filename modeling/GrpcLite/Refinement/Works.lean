import GrpcLite.Correctness.TerminalStatus
import GrpcLite.Refinement.Attempts

/-!
# What a method of an object touches

A method of a call object creates calls for this object alone, submits no more
requests than it creates calls, and leaves the calls that other objects hold as they
are: it neither releases them nor takes messages out of them.
-/

namespace GrpcLite

namespace World

/-- New calls appear, each with at most one request. Older calls outside a set neither deliver a
message nor are released. -/
structure Spawns (S : Set CallId) (w w' : World) : Prop where
  /-- Calls are only added. -/
  nextCall : w.nextCall ≤ w'.nextCall
  /-- There are no more new submissions than new calls. -/
  submissions : w'.submissions.length + w.nextCall ≤ w.submissions.length + w'.nextCall
  /-- The older calls of others. -/
  others : ∀ c < w.nextCall, c ∉ S → (w'.calls c).settled = (w.calls c).settled ∧
    (w'.calls c).live = (w.calls c).live

variable {S : Set CallId} {w w₁ w' : World}

instance : Std.Refl (Spawns S) := ⟨fun _ => ⟨Nat.le_refl _, Nat.le_refl _, fun _ _ _ => ⟨rfl, rfl⟩⟩⟩

/-- What is still spawns nothing. -/
theorem Still.spawns (h : w.Still S w') : w.Spawns S w' :=
  ⟨Nat.le_of_eq h.nextCall.symm, by rw [h.submissions, h.nextCall],
    fun c _ hc => ⟨h.settled c, h.live c hc⟩⟩

/-- An attempt spawns one call with one request at most. -/
theorem Attempt.spawns {start : GrpcCall} (h : Attempt start w w') : w.Spawns S w' := by
  refine ⟨Nat.le_of_lt (h.nextCall ▸ Nat.lt_succ_self _), ?_,
    fun c hc _ => h.others c (Nat.ne_of_lt hc)⟩
  rw [h.nextCall, Nat.add_comm w.nextCall, ← Nat.add_assoc]
  exact Nat.add_le_add_right h.submissions _

/-- A pull may touch its own stream. -/
theorem Spawns.of_delivers {c : CallId} {returned : Option Bytes}
    (h : Proc.Delivers c returned w w') (hc : c ∈ S) : w.Spawns S w' :=
  ⟨Nat.le_of_eq h.nextCall.symm, by rw [h.submissions, h.nextCall],
    fun c' _ hc' => ⟨h.others c' fun he => hc' (he ▸ hc), h.live c'⟩⟩

/-- What is touched afterwards is touched before already, or new. -/
theorem Spawns.append {T : Set CallId} (h : w.Spawns S w₁) (h' : w₁.Spawns T w')
    (hT : ∀ c ∈ T, c < w.nextCall → c ∈ S) : w.Spawns S w' := by
  refine ⟨h.nextCall.trans h'.nextCall, ?_, fun c hc hS => ?_⟩
  · have hfirst := h.submissions
    have hsecond := h'.submissions
    omega
  · obtain ⟨hsettled, hlive⟩ := h.others c hc hS
    obtain ⟨hsettled', hlive'⟩ :=
      h'.others c (Nat.lt_of_lt_of_le hc h.nextCall) fun hin => hS (hT c hin hc)
    exact ⟨hsettled'.trans hsettled, hlive'.trans hlive⟩

instance : IsTrans World (Spawns S) := ⟨fun _ _ _ h h' => h.append h' fun _ hc _ => hc⟩

end World

namespace Proc

open World

variable {S : Set CallId}

/-! ## Operations of the drivers -/

/-- The status of a failed setup may read the clock. -/
theorem setupFailureStatus_still (error : SetupError) (deadlineAbsUs : Nat) :
    Exec.Within (Still S) (setupFailureStatus error deadlineAbsUs) :=
  .ite (.bind (onEnv_still _) fun _ => .pure _) (.pure _)

/-- Every attempt of a unary call spawns one call at most. -/
theorem unaryAttempts_spawns (req : CallRequest) (retryAttempt left : Nat) :
    Exec.Within (Spawns S) (unaryAttempts req retryAttempt left) := by
  induction left generalizing retryAttempt with
  | zero => exact .pure _
  | succ left ih =>
    refine .bind ((getPersistentConnection_still _ _ _).mono fun _ _ => Still.spawns) fun got => ?_
    cases got with
    | error error =>
      exact .bind ((setupFailureStatus_still error _).mono fun _ _ => Still.spawns) fun _ => .pure _
    | ok k =>
      refine .bind (fun w r w' h => ?_) fun r => ?_
      · rcases unaryCallPerformOnConnection_attempt h with ⟨hstill, -⟩ | hattempt
        · exact (hstill.mono (Set.empty_subset S)).spawns
        · exact hattempt.spawns
      · cases r with
        | error failure => exact .pure _
        | ok result =>
          refine .ite (.pure _) <| .bind (.when fun _ => ?_) fun _ => ih (retryAttempt + 1)
          exact (removeUnusablePersistentConnection_still _ _).mono fun _ _ => Still.spawns

/-- A connection that cannot be used is evicted. -/
theorem evictUnusable_still (key : Bytes) (outcome : UnaryAttempts) :
    Exec.Within (Still S) (evictUnusable key outcome) := by
  cases outcome with
  | result k => exact removeUnusablePersistentConnection_still key k
  | setupFailure | failure => exact .pure _

/-- A unary call touches none of the older calls. -/
theorem performUnary_spawns (req : CallRequest) : Exec.Within (Spawns S) (performUnary req) :=
  .bind (unaryAttempts_spawns req 0 2) fun _ =>
    .bind ((evictUnusable_still _ _).mono fun _ _ => Still.spawns) fun _ => .pure _

/-- An opened server stream touches none of the older calls. -/
theorem serverStreamingCallOpenResource_spawns (req : CallRequest) (retryAttempt : Nat) :
    Exec.Within (Spawns S) (serverStreamingCallOpenResource req retryAttempt) := by
  intro w r w' h
  rcases serverStreamingCallOpenResource_attempt h with ⟨hstill, -⟩ | ⟨k, hattempt, -⟩
  · exact (hstill.mono (Set.empty_subset S)).spawns
  · exact hattempt.spawns

/-- A cancelled server stream is not released. -/
theorem serverStreamingCallCancelResource_still (c : CallId) :
    Exec.Within (Still S) (serverStreamingCallCancelResource c) := by
  refine .bind (tracked_still c) fun tc => ?_
  cases tc.call.connection with
  | none => exact .pure _
  | some k =>
    exact .bind (conn_still k) fun _ => .ite (.bind (setCall_still c (fun _ => rfl)
      (.inr fun _ => rfl)) fun _ => .bind (input_still c _) fun _ =>
      .bind (terminateWithCancel_still c) fun _ =>
      clearConnectionServerStreamingCallStateOwner_still c) (.pure _)

/-- A closed channel closes its cached connection. -/
theorem channelClose_still (key : Bytes) : Exec.Within (Still S) (channelClose key) := by
  refine .bind (.bind .get fun _ => .pure _) fun entry => ?_
  cases entry with
  | none => exact .pure _
  | some entry => exact evict_still key _

end Proc

namespace CallObj

open World Proc

/-! ## Objects -/

/-- The calls that an object holds. -/
def held (call : CallObj) : Set CallId := {c | call.serverStreamingResource = some c}

/-- What every request of an object has in common. -/
def channel (call : CallObj) : CallRequest := { call.request [] with headersValid := true }

/-- The work of a method of one object. -/
structure Works (call : CallObj) (w : World) (call' : CallObj) (w' : World) : Prop where
  /-- What happens to the calls. -/
  spawns : w.Spawns call.held w'
  /-- The object has made every new call. -/
  attempts : call'.attempts =
    call.attempts ++ List.range' w.nextCall (w'.nextCall - w.nextCall)
  /-- A resource is kept or new. -/
  resource : ∀ c ∈ call'.held, c < w.nextCall → c ∈ call.held
  /-- The object stays with its channel and its deadline. -/
  channel : call'.channel = call.channel

variable {call call₁ call' : CallObj} {w w₁ w' : World}

/-- Nothing happens. -/
theorem Works.refl (call : CallObj) (w : World) : Works call w call w :=
  ⟨Std.Refl.refl w, by rw [Nat.sub_self, List.range'_zero, List.append_nil], fun _ hc _ => hc, rfl⟩

/-- Work one after the other. -/
theorem Works.trans (h : Works call w call₁ w₁) (h' : Works call₁ w₁ call' w') :
    Works call w call' w' := by
  refine ⟨h.spawns.append h'.spawns h.resource, ?_, fun c hc hold => ?_,
    h'.channel.trans h.channel⟩
  · obtain ⟨m, hm⟩ := Nat.exists_eq_add_of_le h.spawns.nextCall
    obtain ⟨n, hn⟩ := Nat.exists_eq_add_of_le h'.spawns.nextCall
    rw [h'.attempts, h.attempts, List.append_assoc, hn, hm, Nat.add_sub_cancel_left,
      Nat.add_sub_cancel_left, List.range'_append_1, Nat.add_assoc, Nat.add_sub_cancel_left]
  · exact h.resource c (h'.resource c hc (Nat.lt_of_lt_of_le hold h.spawns.nextCall)) hold

/-- A change of the object alone. -/
theorem Works.of_call (hattempts : call'.attempts = call.attempts)
    (hheld : call'.serverStreamingResource = call.serverStreamingResource)
    (hchannel : call'.channel = call.channel) : Works call w call' w := by
  refine ⟨Std.Refl.refl w, ?_, fun c hc _ => ?_, hchannel⟩
  · rw [Nat.sub_self, List.range'_zero, List.append_nil, hattempts]
  · rw [held, hheld] at hc
    exact hc

/-- What happens to the calls alone. -/
theorem Works.of_still (h : w.Still call.held w') : Works call w call w' := by
  refine ⟨h.spawns, ?_, fun _ hc _ => hc, rfl⟩
  rw [h.nextCall, Nat.sub_self, List.range'_zero, List.append_nil]

/-! ## Opening a stream -/

/-- The plugin is asked, and the merged object works as before. -/
theorem mergeCallCredentialsMetadata_works {merged : Option CallObj}
    (h : mergeCallCredentialsMetadata call w = some (merged, w')) :
    w.Still ∅ w' ∧ ∀ call', merged = some call' → Works call w call' w' := by
  obtain ⟨-, hfields⟩ := mergeCallCredentialsMetadata_fields h
  have hstill : Exec.Within (Still ∅) (mergeCallCredentialsMetadata call) :=
    .ite (.pure _) (.bind (onEnv_still _) fun _ => .pure _)
  have hsame := hstill _ _ _ h
  refine ⟨hsame, fun call' he => ?_⟩
  obtain ⟨valid, rfl⟩ := hfields call' he
  exact (Works.of_still (hsame.mono (Set.empty_subset _))).trans (.of_call rfl rfl rfl)

/-- The resource of an object is released. -/
theorem dropResource_still (call : CallObj) : Exec.Within (Still call.held) (dropResource call) := by
  unfold dropResource
  cases hres : call.serverStreamingResource with
  | none => exact .pure _
  | some c => exact destroyServerStreamingCallState_still hres

/-- An attempt to open a stream works for the object. -/
theorem openPrepared_works {message : Bytes} {retryAttempt : Nat} {ok : Bool}
    (h : Proc.openPrepared call message retryAttempt w = some ((ok, call'), w')) :
    Works call w call' w' := by
  obtain ⟨_, w₁, hdrop, h⟩ := Exec.bind_some.mp h
  have hstill := dropResource_still call _ _ _ hdrop
  rw [Exec.get_bind_run] at h
  obtain ⟨opened, w₂, hopen, h⟩ := Exec.bind_some.mp h
  rw [Exec.get_bind_run] at h
  obtain ⟨hstore, rfl⟩ := Exec.pure_some.mp h
  refine (Works.of_still hstill).trans ?_
  have hspawns := serverStreamingCallOpenResource_spawns (S := call.held) _ _ _ _ _ hopen
  have hkept : call'.attempts = call.attempts ++ List.range' w₁.nextCall (w₂.nextCall - w₁.nextCall) ∧
      call'.channel = call.channel := by
    match opened with
    | .error failure | .ok (.opened c) | .ok (.setupFailure code details) =>
      obtain ⟨-, rfl⟩ := Prod.mk.inj hstore
      exact ⟨rfl, rfl⟩
  refine ⟨hspawns, hkept.1, fun c hc hold => ?_, hkept.2⟩
  have hopened := storeOpened_resource hstore rfl hc
  subst hopened
  rcases serverStreamingCallOpenResource_attempt hopen with ⟨-, hno⟩ | ⟨k, -, hnew⟩
  · exact absurd rfl (hno c)
  · exact absurd hold (hnew c rfl ▸ Nat.lt_irrefl _)

/-- So does one that asks the plugin first. -/
theorem openCallStreamAttempt_works {retryAttempt : Nat} {prepareMetadata ok : Bool}
    (h : openCallStreamAttempt call retryAttempt prepareMetadata w = some ((ok, call'), w')) :
    Works call w call' w' := by
  unfold openCallStreamAttempt at h
  split at h
  · obtain ⟨hsame, rfl⟩ := Exec.pure_some.mp h
    obtain ⟨-, rfl⟩ := Prod.mk.inj hsame
    exact .refl call w
  cases hpayload : call.requestPayload with
  | none =>
    simp only [hpayload] at h
    obtain ⟨hsame, rfl⟩ := Exec.pure_some.mp h
    obtain ⟨-, rfl⟩ := Prod.mk.inj hsame
    exact .refl call w
  | some message =>
    simp only [hpayload] at h
    split at h
    · exact openPrepared_works h
    split at h
    · obtain ⟨hsame, rfl⟩ := Exec.pure_some.mp h
      obtain ⟨-, rfl⟩ := Prod.mk.inj hsame
      exact .of_call rfl rfl rfl
    obtain ⟨merged, w₁, hmerge, h⟩ := Exec.bind_some.mp h
    obtain ⟨hstill, hmerged⟩ := mergeCallCredentialsMetadata_works hmerge
    cases merged with
    | none =>
      obtain ⟨hsame, rfl⟩ := Exec.pure_some.mp h
      obtain ⟨-, rfl⟩ := Prod.mk.inj hsame
      exact .of_still (hstill.mono (Set.empty_subset _))
    | some call₁ => exact (hmerged call₁ rfl).trans (openPrepared_works h)

/-- So does a transparent retry. -/
theorem retryCallStream_works {ok : Bool} (h : retryCallStream call w = some ((ok, call'), w')) :
    Works call w call' w' := by
  have hclosed : Works call w { call with serverStreamingOpened := false } w := .of_call rfl rfl rfl
  exact hclosed.trans (openCallStreamAttempt_works h)

/-! ## Pulling a stream -/

/-- The loop of a pull works for the object, over retries. -/
theorem nextForCallLoop_works {fuel : Nat} {r : Option CallNext}
    (h : nextForCallLoop fuel call w = some ((r, call'), w')) : Works call w call' w' := by
  induction fuel generalizing w call with
  | zero => exact (Exec.block_some.mp h).elim
  | succ fuel ih =>
    obtain ⟨⟨opened, call₁⟩, w₁, hopen, h⟩ := Exec.bind_some.mp h
    refine (openCallStreamAttempt_works hopen).trans ?_
    have hstop {r₁ : Option CallNext}
        (h : (pure (r₁, call₁) : Proc (Option CallNext × CallObj)) w₁ = some ((r, call'), w')) :
        Works call₁ w₁ call' w' := by
      obtain ⟨hsame, rfl⟩ := Exec.pure_some.mp h
      obtain ⟨-, rfl⟩ := Prod.mk.inj hsame
      exact .refl call₁ w₁
    simp only at h
    split at h
    · exact hstop h
    generalize call₁.statusReady = ready at h
    generalize call₁.status = status at h
    split at h
    · exact hstop h
    cases hres : call₁.serverStreamingResource with
    | none =>
      simp only [hres] at h
      exact hstop h
    | some c =>
      simp only [hres] at h
      obtain ⟨result, w₂, hpull, h⟩ := Exec.bind_some.mp h
      have hdelivers := serverStreamingCallNextResource_delivers hpull
      have hpulled : Works call₁ w₁ call₁ w₂ := by
        refine ⟨.of_delivers hdelivers hres, ?_, fun _ hc _ => hc, rfl⟩
        rw [hdelivers.nextCall, Nat.sub_self, List.range'_zero, List.append_nil]
      refine hpulled.trans ?_
      split at h
      · obtain ⟨hsame, rfl⟩ := Exec.pure_some.mp h
        obtain ⟨-, rfl⟩ := Prod.mk.inj hsame
        exact .refl call₁ w₂
      obtain ⟨⟨again, call₂⟩, w₃, hretry, h⟩ := Exec.bind_some.mp h
      refine (retryCallStream_works hretry).trans ?_
      simp only at h
      split at h
      · obtain ⟨hsame, rfl⟩ := Exec.pure_some.mp h
        obtain ⟨-, rfl⟩ := Prod.mk.inj hsame
        exact .refl call₂ w₃
      · exact ih h

/-- So does a pull. -/
theorem serverStreamingNextForCall_works {r : Option CallNext}
    (h : serverStreamingNextForCall call w = some ((r, call'), w')) : Works call w call' w' := by
  rw [serverStreamingNextForCall, Exec.get_bind_run] at h
  exact nextForCallLoop_works h

/-- What a pull gives is stored in the object. -/
theorem storeNext_works (call : CallObj) (w : World) (next : CallNext) :
    Works call w (Proc.storeNext call next) w := by
  cases next with
  | message payload metadata =>
    simp only [Proc.storeNext]
    split
    · exact .refl call w
    · exact .of_call rfl rfl rfl
  | done status initial trailing =>
    simp only [Proc.storeNext]
    split
    · exact .of_call rfl rfl rfl
    · exact .of_call rfl rfl rfl

/-- A drain for the status works for the object. -/
theorem drainForStatus_works {fuel : Nat} {ok : Bool}
    (h : drainForStatus fuel call w = some ((ok, call'), w')) : Works call w call' w' := by
  induction fuel generalizing w call with
  | zero => exact (Exec.block_some.mp h).elim
  | succ fuel ih =>
    obtain ⟨⟨next, call₁⟩, w₁, hnext, h⟩ := Exec.bind_some.mp h
    refine (serverStreamingNextForCall_works hnext).trans ?_
    match next with
    | none =>
      obtain ⟨hsame, rfl⟩ := Exec.pure_some.mp h
      obtain ⟨-, rfl⟩ := Prod.mk.inj hsame
      exact .refl call₁ w₁
    | some (.message payload metadata) => exact ih h
    | some (.done status initial trailing) =>
      obtain ⟨hsame, rfl⟩ := Exec.pure_some.mp h
      obtain ⟨-, rfl⟩ := Prod.mk.inj hsame
      exact storeNext_works call₁ w₁ _

/-! ## Methods -/

/-- The outcome of a unary call is stored in the object. -/
theorem storeUnary_works (call : CallObj) (w : World) (outcome : UnaryAttempts) :
    Works call w (storeUnary call outcome).2 w := by
  cases outcome with
  | setupFailure | failure | result => exact .of_call rfl rfl rfl

/-- A unary call works for the object. -/
theorem performCallUnary_works {ok : Bool}
    (h : performCallUnary call w = some ((ok, call'), w')) : Works call w call' w' := by
  unfold performCallUnary at h
  cases hpayload : call.requestPayload with
  | none =>
    simp only [hpayload] at h
    obtain ⟨hsame, rfl⟩ := Exec.pure_some.mp h
    obtain ⟨-, rfl⟩ := Prod.mk.inj hsame
    exact .refl call w
  | some message =>
    simp only [hpayload] at h
    split at h
    · obtain ⟨hsame, rfl⟩ := Exec.pure_some.mp h
      obtain ⟨-, rfl⟩ := Prod.mk.inj hsame
      exact .of_call rfl rfl rfl
    obtain ⟨merged, w₁, hmerge, h⟩ := Exec.bind_some.mp h
    obtain ⟨hstill, hmerged⟩ := mergeCallCredentialsMetadata_works hmerge
    cases merged with
    | none =>
      obtain ⟨hsame, rfl⟩ := Exec.pure_some.mp h
      obtain ⟨-, rfl⟩ := Prod.mk.inj hsame
      exact .of_still (hstill.mono (Set.empty_subset _))
    | some call₁ =>
      refine (hmerged call₁ rfl).trans ?_
      simp only at h
      rw [Exec.get_bind_run] at h
      obtain ⟨outcome, w₂, hperform, h⟩ := Exec.bind_some.mp h
      rw [Exec.get_bind_run] at h
      obtain ⟨hstore, rfl⟩ := Exec.pure_some.mp h
      have hnoted : Works call₁ w₁ (call₁.noteAttempts w₁.nextCall w₂.nextCall) w₂ :=
        ⟨performUnary_spawns _ _ _ _ hperform, rfl, fun _ hc _ => hc, rfl⟩
      have hstored := storeUnary_works (call₁.noteAttempts w₁.nextCall w₂.nextCall) w₂ outcome
      rw [hstore] at hstored
      exact hnoted.trans hstored

/-- A batch behind its checks works for the object. -/
theorem runBatch_works {ops : Batch} {event : Option BatchEvent}
    (h : Proc.runBatch call ops w = some ((event, call'), w')) : Works call w call' w' := by
  have hstop {call₁ : CallObj} {w₁ : World} {event₁ : Option BatchEvent}
      (h : (pure (event₁, call₁) : Proc (Option BatchEvent × CallObj)) w₁ =
        some ((event, call'), w')) : Works call₁ w₁ call' w' := by
    obtain ⟨hsame, rfl⟩ := Exec.pure_some.mp h
    obtain ⟨-, rfl⟩ := Prod.mk.inj hsame
    exact .refl call₁ w₁
  unfold Proc.runBatch at h
  split at h
  · split at h
    · obtain ⟨⟨ok, call₁⟩, w₁, hperform, h⟩ := Exec.bind_some.mp h
      refine (performCallUnary_works hperform).trans ?_
      simp only at h
      split at h
      · exact hstop h
      · exact hstop h
    split at h
    · rw [Exec.get_bind_run] at h
      obtain ⟨⟨ok, call₁⟩, w₁, hdrain, h⟩ := Exec.bind_some.mp h
      refine (drainForStatus_works hdrain).trans ?_
      simp only at h
      split at h
      · exact hstop h
      · exact hstop h
    · exact hstop h
  split at h
  · obtain ⟨⟨next, call₁⟩, w₁, hnext, h⟩ := Exec.bind_some.mp h
    refine (serverStreamingNextForCall_works hnext).trans ?_
    cases next with
    | none => exact hstop h
    | some next => exact (storeNext_works call₁ w₁ next).trans (hstop h)
  · exact hstop h

/-- A batch works for the object. -/
theorem startBatch_works {ops : Batch} {event : Option BatchEvent}
    (h : Proc.startBatch call ops w = some ((event, call'), w')) : Works call w call' w' := by
  obtain ⟨-, valid, payload, response, hstored, -⟩ := storeSendBatch_kept call ops
  rw [Proc.startBatch] at h
  rcases hstore : storeSendBatch call ops with ⟨stored, call₀⟩
  rw [hstore] at h
  simp only [hstore] at h hstored
  have hsent : Works call w call₀ w := by
    rw [hstored]
    exact .of_call rfl rfl rfl
  refine hsent.trans ?_
  split at h
  · obtain ⟨hsame, rfl⟩ := Exec.pure_some.mp h
    obtain ⟨-, rfl⟩ := Prod.mk.inj hsame
    exact .refl call₀ w
  split at h
  · obtain ⟨hsame, rfl⟩ := Exec.pure_some.mp h
    obtain ⟨-, rfl⟩ := Prod.mk.inj hsame
    unfold markCancelled
    split
    · exact .refl call₀ w
    · exact .of_call rfl rfl rfl
  split at h
  · obtain ⟨hsame, rfl⟩ := Exec.pure_some.mp h
    obtain ⟨-, rfl⟩ := Prod.mk.inj hsame
    exact .refl call₀ w
  · exact runBatch_works h

/-- The resource of an object is cancelled and not released. -/
theorem cancelResource_still (call : CallObj) {S : Set CallId} :
    Exec.Within (Still S) (cancelResource call) := by
  unfold cancelResource
  cases call.serverStreamingOpened with
  | false => exact .pure _
  | true =>
    cases call.serverStreamingResource with
    | none => exact .pure _
    | some c => exact serverStreamingCallCancelResource_still c

/-- A cancellation works for the object. -/
theorem cancelCall_works (h : cancelCall call w = some (call', w')) : Works call w call' w' := by
  obtain ⟨_, w₁, hcancel, h⟩ := Exec.bind_some.mp h
  obtain ⟨rfl, rfl⟩ := Exec.pure_some.mp h
  exact (Works.of_still (cancelResource_still call _ _ _ hcancel)).trans (.of_call rfl rfl rfl)

end CallObj

end GrpcLite
