import GrpcLite.Refinement.Pulling

/-!
# Runs of operations

The operations of the drivers and the methods of the call objects and channels
that are made of them. A process starts without connections and calls, every
operation leaves its state in order, and so does every method and every run.
-/

namespace GrpcLite

namespace World

/-- A state without connections and calls. -/
theorem orderly_start (env : Env) (config : Config) :
    World.Orderly { env := env, config := config } where
  sound := by
    refine ⟨Ledger.Inv.empty, ?_, fun _ => rfl, ?_, ?_⟩
    · intro k hflag
      exact absurd hflag Bool.false_ne_true
    · intro c hc
      exact absurd hc Bool.false_ne_true
    · intro c hc
      exact absurd hc Bool.false_ne_true
  settled := fun _ h => absurd h Bool.false_ne_true
  calm := fun _ h => absurd h Bool.false_ne_true
  kept := fun _ hk _ => absurd hk (Nat.not_lt_zero _)
  fit := fun _ _ hin => by
    obtain ⟨entry, hentry, -⟩ := hin
    exact absurd hentry List.not_mem_nil
  idle := fun _ _ _ => ⟨rfl, rfl⟩
  room := Nat.zero_le _
  seated := fun _ _ h => absurd h Bool.false_ne_true

/-- One operation of a driver, as the wrapper makes it. A stream is used as long as its
resource exists. -/
inductive Operation (w : World) : World → Prop
  /-- The attempts of a unary call. -/
  | unary (req : CallRequest) {r : Proc.UnaryAttempts} {w' : World}
      (h : Proc.performUnary req w = some (r, w')) : Operation w w'
  /-- A stream is opened. -/
  | openStream (req : CallRequest) (retryAttempt : Nat) {r : Except Failure OpenResult} {w' : World}
      (h : Proc.serverStreamingCallOpenResource req retryAttempt w = some (r, w')) : Operation w w'
  /-- A stream is pulled. -/
  | next (c : CallId) (hlive : (w.calls c).live = true) {r : NextResult} {w' : World}
      (h : Proc.serverStreamingCallNextResource c w = some (r, w')) : Operation w w'
  /-- A stream is cancelled. -/
  | cancel (c : CallId) (hlive : (w.calls c).live = true) {u : Unit} {w' : World}
      (h : Proc.serverStreamingCallCancelResource c w = some (u, w')) : Operation w w'
  /-- The resource of a stream is destroyed. -/
  | destroy (c : CallId) (hlive : (w.calls c).live = true) {u : Unit} {w' : World}
      (h : Proc.destroyServerStreamingCallState c w = some (u, w')) : Operation w w'
  /-- A channel is closed. -/
  | close (key : Bytes) {u : Unit} {w' : World} (h : Proc.channelClose key w = some (u, w')) :
    Operation w w'
  /-- The plugin of call credentials is asked. -/
  | credentials (call : CallObj) {r : Option CallObj} {w' : World}
      (h : Proc.mergeCallCredentialsMetadata call w = some (r, w')) : Operation w w'

/-- Operations one after the other. -/
abbrev Operations : World → World → Prop := Relation.ReflTransGen Operation

end World

namespace Proc

open World

/-- A closed channel keeps calls apart. -/
theorem channelClose_orderly {key : Bytes} {w w' : World} {u : Unit}
    (h : channelClose key w = some (u, w')) (ho : w.Orderly) : Keeps w w' ∧ w'.Orderly := by
  obtain ⟨found, w₁, hread, h⟩ := Exec.bind_some.mp h
  rw [findEntry, Exec.get_bind_run] at hread
  obtain ⟨rfl, rfl⟩ := Exec.pure_some.mp hread
  cases hfind : w.cache.find? fun entry => entry.key = key with
  | none =>
    simp only [hfind] at h
    obtain ⟨-, rfl⟩ := Exec.pure_some.mp h
    exact ⟨.refl, ho⟩
  | some entry =>
    simp only [hfind] at h
    have hwide : w.Around (· = entry.connection) fun _ => False :=
      ho.widen (fun _ hno => hno.elim) fun _ => id
    obtain ⟨horder, hund, -⟩ := evict_orderly h hwide (ho.idle _ id) hfind
    exact ⟨hund.keeps, horder⟩

/-- The plugin answers without touching a call. -/
theorem mergeCallCredentialsMetadata_orderly {call : CallObj} {r : Option CallObj} {w w' : World}
    (h : mergeCallCredentialsMetadata call w = some (r, w')) (ho : w.Orderly) :
    Keeps w w' ∧ w'.Orderly := by
  unfold mergeCallCredentialsMetadata at h
  split at h
  · obtain ⟨-, rfl⟩ := Exec.pure_some.mp h
    exact ⟨.refl, ho⟩
  · obtain ⟨answer, w₁, hask, h⟩ := Exec.bind_some.mp h
    obtain ⟨-, rfl⟩ := Exec.pure_some.mp h
    obtain ⟨horder, hund, -⟩ := onEnv_orderly (Env.ask_grows _) hask ho
    exact ⟨hund.keeps, horder⟩

end Proc

namespace World

/-- Every operation is a run of the transport state and leaves it in order. -/
theorem Operation.orderly {w w' : World} (h : Operation w w') (ho : w.Orderly) :
    Steps w w' ∧ w'.Orderly := by
  have hkeeps {w' : World} (h : Keeps w w' ∧ w'.Orderly) : Steps w w' ∧ w'.Orderly :=
    ⟨Keeps.steps h.1, h.2⟩
  cases h with
  | unary req h => exact Proc.performUnary_orderly h ho
  | openStream req retryAttempt h =>
    obtain ⟨hsteps, horder, -⟩ := Proc.serverStreamingCallOpenResource_orderly h ho
    exact ⟨hsteps, horder⟩
  | next c hlive h =>
    obtain ⟨hmoves, horder, -⟩ := Proc.serverStreamingCallNextResource_orderly h ho hlive
    exact hkeeps ⟨hmoves, horder⟩
  | cancel c hlive h =>
    obtain ⟨hmoves, horder, -⟩ := Proc.serverStreamingCallCancelResource_orderly h ho hlive
    exact hkeeps ⟨hmoves, horder⟩
  | destroy c hlive h => exact hkeeps (Proc.destroyServerStreamingCallState_orderly h ho hlive)
  | close key h => exact hkeeps (Proc.channelClose_orderly h ho)
  | credentials call h => exact hkeeps (Proc.mergeCallCredentialsMetadata_orderly h ho)

/-- Operations are a run. -/
theorem Operations.orderly {w w' : World} (h : Operations w w') (ho : w.Orderly) :
    Steps w w' ∧ w'.Orderly := by
  induction h with
  | refl => exact ⟨.refl, ho⟩
  | tail _ hop ih =>
    obtain ⟨hsteps, horder⟩ := hop.orderly ih.2
    exact ⟨ih.1.trans hsteps, horder⟩

/-- The resource that an object holds exists. -/
def Holds (w : World) (call : CallObj) : Prop :=
  ∀ c, call.serverStreamingResource = some c → (w.calls c).live = true

/-- One method of a call object or a channel, or the destructor of a call object. The resource
of an object exists as long as the object holds it. -/
inductive Method (w : World) : World → Prop
  /-- `Call::startBatch`. -/
  | startBatch (call : CallObj) (ops : Proc.Batch) (hheld : w.Holds call)
      {r : Option Proc.BatchEvent × CallObj} {w' : World}
      (h : Proc.startBatch call ops w = some (r, w')) : Method w w'
  /-- `Call::cancel`. -/
  | cancel (call : CallObj) (hheld : w.Holds call) {call' : CallObj} {w' : World}
      (h : Proc.cancelCall call w = some (call', w')) : Method w w'
  /-- The destructor of a call object. -/
  | drop (call : CallObj) (hheld : w.Holds call) {u : Unit} {w' : World}
      (h : Proc.dropResource call w = some (u, w')) : Method w w'
  /-- `Channel::close`. -/
  | close (key : Bytes) {u : Unit} {w' : World} (h : Proc.channelClose key w = some (u, w')) :
    Method w w'

/-- Methods one after the other. -/
abbrev Methods : World → World → Prop := Relation.ReflTransGen Method

/-- A state behind methods of a process. -/
def Reachable (w : World) : Prop :=
  ∃ env config, Methods { env := env, config := config } w

end World

namespace Proc

open World

/-- Operations that leave the state in order. -/
structure Made (w w' : World) : Prop where
  /-- The operations. -/
  operations : Operations w w'
  /-- The state behind them. -/
  orderly : w'.Orderly

/-- Nothing happens. -/
theorem Made.refl {w : World} (ho : w.Orderly) : Made w w := ⟨.refl, ho⟩

/-- A single operation. -/
theorem Made.of_operation {w w' : World} (h : Operation w w') (ho : w.Orderly) : Made w w' :=
  ⟨.single h, (h.orderly ho).2⟩

/-- Operations one after the other. -/
theorem Made.trans {w w₁ w' : World} (h : Made w w₁) (h' : Made w₁ w') : Made w w' :=
  ⟨h.operations.trans h'.operations, h'.orderly⟩

/-- The resource of an object is destroyed. -/
theorem dropResource_made {call : CallObj} {w w' : World} {u : Unit}
    (h : dropResource call w = some (u, w')) (ho : w.Orderly) (hheld : w.Holds call) :
    Made w w' := by
  unfold dropResource at h
  cases hres : call.serverStreamingResource with
  | none =>
    simp only [hres] at h
    obtain ⟨-, rfl⟩ := Exec.pure_some.mp h
    exact .refl ho
  | some c =>
    simp only [hres] at h
    exact .of_operation (.destroy c (hheld c hres) h) ho

/-- An object without a resource holds what was opened for it. -/
theorem storeOpened_resource {call call' : CallObj} {opened : Except Failure OpenResult} {ok : Bool}
    {c : CallId} (h : storeOpened call opened = (ok, call'))
    (hnone : call.serverStreamingResource = none) (hc : call'.serverStreamingResource = some c) :
    opened = .ok (.opened c) := by
  match opened with
  | .error failure =>
    obtain ⟨-, rfl⟩ := Prod.mk.inj h
    exact absurd (hnone.symm.trans hc) (Option.some_ne_none c).symm
  | .ok (.setupFailure code details) =>
    obtain ⟨-, rfl⟩ := Prod.mk.inj h
    exact absurd (hnone.symm.trans hc) (Option.some_ne_none c).symm
  | .ok (.opened c') =>
    obtain ⟨-, rfl⟩ := Prod.mk.inj h
    rw [Option.some.inj hc]

/-- A stream is opened for an object, which then holds it. -/
theorem openPrepared_made {call call' : CallObj} {message : Bytes} {retryAttempt : Nat} {ok : Bool}
    {w w' : World} (h : openPrepared call message retryAttempt w = some ((ok, call'), w'))
    (ho : w.Orderly) (hheld : w.Holds call) : Made w w' ∧ w'.Holds call' := by
  obtain ⟨_, w₁, hdrop, h⟩ := Exec.bind_some.mp h
  have hmade₁ := dropResource_made hdrop ho hheld
  rw [Exec.get_bind_run] at h
  obtain ⟨opened, w₂, hopen, h⟩ := Exec.bind_some.mp h
  rw [Exec.get_bind_run] at h
  obtain ⟨hstore, rfl⟩ := Exec.pure_some.mp h
  have hmade₂ := Made.of_operation (.openStream _ retryAttempt hopen) hmade₁.orderly
  obtain ⟨-, -, hopens⟩ := serverStreamingCallOpenResource_orderly hopen hmade₁.orderly
  refine ⟨hmade₁.trans hmade₂, fun c hc => ?_⟩
  have hres : call'.serverStreamingResource = some c → opened = .ok (.opened c) :=
    storeOpened_resource hstore rfl
  have hopened := hres hc
  subst hopened
  exact hopens

/-- An attempt to open a stream is made of operations, and the object holds its stream. -/
theorem openCallStreamAttempt_made {call call' : CallObj} {retryAttempt : Nat}
    {prepareMetadata ok : Bool} {w w' : World}
    (h : openCallStreamAttempt call retryAttempt prepareMetadata w = some ((ok, call'), w'))
    (ho : w.Orderly) (hheld : w.Holds call) : Made w w' ∧ w'.Holds call' := by
  unfold openCallStreamAttempt at h
  split at h
  · obtain ⟨hsame, rfl⟩ := Exec.pure_some.mp h
    obtain ⟨-, rfl⟩ := Prod.mk.inj hsame
    exact ⟨.refl ho, hheld⟩
  · cases hpayload : call.requestPayload with
    | none =>
      simp only [hpayload] at h
      obtain ⟨hsame, rfl⟩ := Exec.pure_some.mp h
      obtain ⟨-, rfl⟩ := Prod.mk.inj hsame
      exact ⟨.refl ho, hheld⟩
    | some message =>
      simp only [hpayload] at h
      split at h
      · exact openPrepared_made h ho hheld
      · split at h
        · obtain ⟨hsame, rfl⟩ := Exec.pure_some.mp h
          obtain ⟨-, rfl⟩ := Prod.mk.inj hsame
          exact ⟨.refl ho, hheld⟩
        · obtain ⟨merged, w₁, hmerge, h⟩ := Exec.bind_some.mp h
          have hmade₁ := Made.of_operation (.credentials call hmerge) ho
          have hsame : w₁.calls = w.calls ∧ ∀ call₁, merged = some call₁ →
              call₁.serverStreamingResource = call.serverStreamingResource := by
            unfold mergeCallCredentialsMetadata at hmerge
            split at hmerge
            · obtain ⟨rfl, rfl⟩ := Exec.pure_some.mp hmerge
              exact ⟨rfl, fun call₁ he => by rw [Option.some.inj he]⟩
            · obtain ⟨answer, w₂, hask, hmerge⟩ := Exec.bind_some.mp hmerge
              obtain ⟨rfl, rfl⟩ := Exec.pure_some.mp hmerge
              refine ⟨onEnv_sameCalls _ _ _ _ hask, fun call₁ he => ?_⟩
              obtain ⟨valid, -, rfl⟩ := Option.map_eq_some_iff.mp he
              rfl
          cases merged with
          | none =>
            obtain ⟨hsame', rfl⟩ := Exec.pure_some.mp h
            obtain ⟨-, rfl⟩ := Prod.mk.inj hsame'
            refine ⟨hmade₁, fun c hc => ?_⟩
            rw [hsame.1]
            exact hheld c hc
          | some call₁ =>
            obtain ⟨hmade₂, hheld'⟩ := openPrepared_made h hmade₁.orderly fun c hc => by
              rw [hsame.1]
              exact hheld c ((hsame.2 call₁ rfl).symm.trans hc)
            exact ⟨hmade₁.trans hmade₂, hheld'⟩

/-- The loop of `grpc_lite_server_streaming_next_for_call`. -/
theorem nextForCallLoop_made {fuel : Nat} {call call' : CallObj} {r : Option CallNext} {w w' : World}
    (h : nextForCallLoop fuel call w = some ((r, call'), w')) (ho : w.Orderly)
    (hheld : w.Holds call) : Made w w' ∧ w'.Holds call' := by
  induction fuel generalizing w call with
  | zero => exact (Exec.block_some.mp h).elim
  | succ fuel ih =>
    obtain ⟨⟨opened, call₁⟩, w₁, hopen, h⟩ := Exec.bind_some.mp h
    obtain ⟨hmade₁, hheld₁⟩ := openCallStreamAttempt_made hopen ho hheld
    simp only at h
    split at h
    · obtain ⟨hsame, rfl⟩ := Exec.pure_some.mp h
      obtain ⟨-, rfl⟩ := Prod.mk.inj hsame
      exact ⟨hmade₁, hheld₁⟩
    · generalize hready : call₁.statusReady = ready at h
      generalize hstatus : call₁.status = status at h
      split at h
      · obtain ⟨hsame, rfl⟩ := Exec.pure_some.mp h
        obtain ⟨-, rfl⟩ := Prod.mk.inj hsame
        exact ⟨hmade₁, hheld₁⟩
      · cases hres : call₁.serverStreamingResource with
        | none =>
          simp only [hres] at h
          obtain ⟨hsame, rfl⟩ := Exec.pure_some.mp h
          obtain ⟨-, rfl⟩ := Prod.mk.inj hsame
          exact ⟨hmade₁, hheld₁⟩
        | some c =>
          simp only [hres] at h
          obtain ⟨result, w₂, hnext, h⟩ := Exec.bind_some.mp h
          have hmade₂ := Made.of_operation (.next c (hheld₁ c hres) hnext) hmade₁.orderly
          obtain ⟨-, -, hlive₂⟩ := serverStreamingCallNextResource_orderly hnext hmade₁.orderly
            (hheld₁ c hres)
          have hheld₂ : w₂.Holds call₁ := by
            intro c' hc'
            obtain rfl : c = c' := Option.some.inj (hres.symm.trans hc')
            exact hlive₂
          have hto₂ := hmade₁.trans hmade₂
          split at h
          · obtain ⟨hsame, rfl⟩ := Exec.pure_some.mp h
            obtain ⟨-, rfl⟩ := Prod.mk.inj hsame
            exact ⟨hto₂, hheld₂⟩
          · obtain ⟨⟨again, call₂⟩, w₃, hretry, h⟩ := Exec.bind_some.mp h
            obtain ⟨hmade₃, hheld₃⟩ := openCallStreamAttempt_made hretry hmade₂.orderly hheld₂
            simp only at h
            split at h
            · obtain ⟨hsame, rfl⟩ := Exec.pure_some.mp h
              obtain ⟨-, rfl⟩ := Prod.mk.inj hsame
              exact ⟨hto₂.trans hmade₃, hheld₃⟩
            · obtain ⟨hmade₄, hheld₄⟩ := ih h hmade₃.orderly hheld₃
              exact ⟨hto₂.trans (hmade₃.trans hmade₄), hheld₄⟩

/-- So is a pull, over all retries. -/
theorem serverStreamingNextForCall_made {call call' : CallObj} {r : Option CallNext} {w w' : World}
    (h : serverStreamingNextForCall call w = some ((r, call'), w')) (ho : w.Orderly)
    (hheld : w.Holds call) : Made w w' ∧ w'.Holds call' := by
  rw [serverStreamingNextForCall, Exec.get_bind_run] at h
  exact nextForCallLoop_made h ho hheld

/-- So is a drain for the status. -/
theorem drainForStatus_made {fuel : Nat} {call call' : CallObj} {ok : Bool} {w w' : World}
    (h : drainForStatus fuel call w = some ((ok, call'), w')) (ho : w.Orderly)
    (hheld : w.Holds call) : Made w w' := by
  induction fuel generalizing w call with
  | zero => exact (Exec.block_some.mp h).elim
  | succ fuel ih =>
    obtain ⟨⟨next, call₁⟩, w₁, hnext, h⟩ := Exec.bind_some.mp h
    obtain ⟨hmade₁, hheld₁⟩ := serverStreamingNextForCall_made hnext ho hheld
    match next with
    | none =>
      obtain ⟨-, rfl⟩ := Exec.pure_some.mp h
      exact hmade₁
    | some (.message payload initialMetadata) => exact hmade₁.trans (ih h hmade₁.orderly hheld₁)
    | some (.done status initialMetadata trailingMetadata) =>
      obtain ⟨-, rfl⟩ := Exec.pure_some.mp h
      exact hmade₁

/-- So is a unary call. -/
theorem performCallUnary_made {call : CallObj} {r : Bool × CallObj} {w w' : World}
    (h : performCallUnary call w = some (r, w')) (ho : w.Orderly) : Made w w' := by
  unfold performCallUnary at h
  cases hpayload : call.requestPayload with
  | none =>
    simp only [hpayload] at h
    obtain ⟨-, rfl⟩ := Exec.pure_some.mp h
    exact .refl ho
  | some message =>
    simp only [hpayload] at h
    split at h
    · obtain ⟨-, rfl⟩ := Exec.pure_some.mp h
      exact .refl ho
    · obtain ⟨merged, w₁, hmerge, h⟩ := Exec.bind_some.mp h
      have hmade₁ := Made.of_operation (.credentials call hmerge) ho
      cases merged with
      | none =>
        obtain ⟨-, rfl⟩ := Exec.pure_some.mp h
        exact hmade₁
      | some call₁ =>
        simp only at h
        rw [Exec.get_bind_run] at h
        obtain ⟨outcome, w₂, hperform, h⟩ := Exec.bind_some.mp h
        rw [Exec.get_bind_run] at h
        obtain ⟨-, rfl⟩ := Exec.pure_some.mp h
        exact hmade₁.trans (.of_operation (.unary _ hperform) hmade₁.orderly)

/-- Stored operands leave the resource. -/
theorem storeSendBatch_resource {call call' : CallObj} {ops : Batch} {stored : Bool}
    (h : storeSendBatch call ops = (stored, call')) :
    call'.serverStreamingResource = call.serverStreamingResource := by
  have hcall : (storeSendBatch call ops).2 = call' := congrArg Prod.snd h
  rw [← hcall, storeSendBatch]
  cases ops.sendInitialMetadata <;> rcases ops.sendMessage with _ | _ | _ <;> rfl

/-- `Call::startBatch` is made of operations. -/
theorem startBatch_made {call : CallObj} {ops : Batch} {r : Option BatchEvent × CallObj}
    {w w' : World} (h : startBatch call ops w = some (r, w')) (ho : w.Orderly)
    (hheld : w.Holds call) : Made w w' := by
  rw [startBatch] at h
  rcases hstore : storeSendBatch call ops with ⟨stored, call₀⟩
  have hheld₀ : w.Holds call₀ := by
    intro c hc
    refine hheld c ?_
    rw [← storeSendBatch_resource hstore]
    exact hc
  rw [hstore] at h
  simp only at h
  split at h
  · obtain ⟨-, rfl⟩ := Exec.pure_some.mp h
    exact .refl ho
  split at h
  · obtain ⟨-, rfl⟩ := Exec.pure_some.mp h
    exact .refl ho
  split at h
  · obtain ⟨-, rfl⟩ := Exec.pure_some.mp h
    exact .refl ho
  unfold runBatch at h
  split at h
  · split at h
    · obtain ⟨⟨ok, call₁⟩, w₁, hperform, h⟩ := Exec.bind_some.mp h
      have hmade := performCallUnary_made hperform ho
      simp only at h
      split at h <;> obtain ⟨-, rfl⟩ := Exec.pure_some.mp h <;> exact hmade
    · split at h
      · rw [Exec.get_bind_run] at h
        obtain ⟨⟨ok, call₁⟩, w₁, hdrain, h⟩ := Exec.bind_some.mp h
        have hmade := drainForStatus_made hdrain ho hheld₀
        simp only at h
        split at h <;> obtain ⟨-, rfl⟩ := Exec.pure_some.mp h <;> exact hmade
      · obtain ⟨-, rfl⟩ := Exec.pure_some.mp h
        exact .refl ho
  · split at h
    · obtain ⟨⟨next, call₁⟩, w₁, hnext, h⟩ := Exec.bind_some.mp h
      obtain ⟨hmade, -⟩ := serverStreamingNextForCall_made hnext ho hheld₀
      cases next <;> obtain ⟨-, rfl⟩ := Exec.pure_some.mp h <;> exact hmade
    · obtain ⟨-, rfl⟩ := Exec.pure_some.mp h
      exact .refl ho

/-- A cancellation is made of operations. -/
theorem cancelCall_made {call call' : CallObj} {w w' : World}
    (h : cancelCall call w = some (call', w')) (ho : w.Orderly) (hheld : w.Holds call) :
    Made w w' := by
  obtain ⟨_, w₁, hcancel, h⟩ := Exec.bind_some.mp h
  obtain ⟨-, rfl⟩ := Exec.pure_some.mp h
  unfold cancelResource at hcancel
  generalize hopened : call.serverStreamingOpened = opened at hcancel
  generalize hres : call.serverStreamingResource = resource at hcancel
  split at hcancel
  · next c => exact .of_operation (.cancel c (hheld c hres) hcancel) ho
  · obtain ⟨-, rfl⟩ := Exec.pure_some.mp hcancel
    exact .refl ho

end Proc

namespace World

/-- Every method is made of operations and leaves the state in order. -/
theorem Method.made {w w' : World} (h : Method w w') (ho : w.Orderly) : Proc.Made w w' := by
  cases h with
  | startBatch call ops hheld h => exact Proc.startBatch_made h ho hheld
  | cancel call hheld h => exact Proc.cancelCall_made h ho hheld
  | drop call hheld h => exact Proc.dropResource_made h ho hheld
  | close key h => exact .of_operation (.close key h) ho

/-- Methods are made of operations. -/
theorem Methods.made {w w' : World} (h : Methods w w') (ho : w.Orderly) : Proc.Made w w' := by
  induction h with
  | refl => exact .refl ho
  | tail _ hmethod ih => exact ih.trans (hmethod.made ih.orderly)

/-- Every reachable state is in order. -/
theorem Reachable.orderly {w : World} (h : w.Reachable) : w.Orderly := by
  obtain ⟨env, config, hrun⟩ := h
  exact (Methods.made hrun (orderly_start env config)).orderly

/-- One address accepts the connection, and the server closes the stream of the call. -/
def closedExchange : Env where
  script := [
    .setupCall .getaddrinfo true 1 none, .setupCall .socket true 3 none,
    .setupCall .setNonblocking true 0 none, .setupCall .connect true 0 none,
    .setupCall .freeaddrinfo true 0 none, .setup true false, .sessionSend [] 0,
    .submitRequest 1, .setUserData 0, .sessionSend [] 0, .recv 10 0,
    .memRecv [.stream 1 (.closed 8)] 10, .wantWrite false]

end World

end GrpcLite
