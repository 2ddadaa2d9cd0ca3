import GrpcLite.Refinement.Severed

/-!
# The terminal status of a call object

An object together with the state of the transport changes by the methods of the
object and by methods elsewhere in the process. Once its status is ready, no
method changes it or touches the transport, and an object cancelled before that
ends with CANCELLED. The methods follow each other: a credentials plugin does not
start or cancel a batch of the call that it is asked for.
-/

namespace GrpcLite

namespace CallObj

/-- One method of a call object, or a method elsewhere that leaves its resource alive. -/
inductive Operation : CallObj × World → CallObj × World → Prop
  /-- `Call::startBatch`. -/
  | startBatch {call call' : CallObj} {w w' : World} (ops : Proc.Batch)
      {event : Option Proc.BatchEvent}
      (h : Proc.startBatch call ops w = some ((event, call'), w')) : Operation (call, w) (call', w')
  /-- `Call::cancel`. -/
  | cancel {call call' : CallObj} {w w' : World}
      (h : Proc.cancelCall call w = some (call', w')) : Operation (call, w) (call', w')
  /-- `Call::setCredentials`. -/
  | setCredentials {call : CallObj} {w : World} (plugin : Bool) :
    Operation (call, w) (Proc.setCredentials call plugin, w)
  /-- A method of another object. -/
  | elsewhere {call : CallObj} {w w' : World} (h : w.Method w') (hheld : w'.Holds call) :
    Operation (call, w) (call, w')

/-- Methods one after the other. -/
abbrev Operations : CallObj × World → CallObj × World → Prop := Relation.ReflTransGen Operation

/-- What holds of an object and the state between two methods. -/
structure Coherent (call : CallObj) (w : World) : Prop where
  /-- The state is in order. -/
  orderly : w.Orderly
  /-- Live calls were created. -/
  born : w.ledger.Born
  /-- The resource of the object exists. -/
  held : w.Holds call
  /-- An object with a resource is opened and has a request. -/
  opened : call.serverStreamingResource.isSome = true →
    call.serverStreamingOpened = true ∧ call.requestPayload.isSome = true
  /-- A ready status is there. -/
  ready : call.statusReady = true → call.status.isSome = true
  /-- The stream of a finished or cancelled object is over. -/
  settled : call.statusReady = true ∨ call.cancelled = true →
    ∀ c, call.serverStreamingResource = some c → w.Aside c

end CallObj

namespace Proc

open World

theorem Made.steps {w w' : World} (h : Made w w') (ho : w.Orderly) : Steps w w' :=
  (Operations.orderly h.operations ho).1

end Proc

namespace CallObj

open World Proc

variable {call call' : CallObj} {w w' : World}

/-- A stream that is over stays so. -/
theorem Coherent.made (h : call.Coherent w) (hmade : Made w w') (hheld : w'.Holds call) :
    call.Coherent w' := by
  have hsteps := hmade.steps h.orderly
  refine ⟨hmade.orderly, Steps.born hsteps h.born, hheld, h.opened, h.ready, fun hend c hc => ?_⟩
  exact Steps.aside hsteps h.orderly.sound (h.born c (h.held c hc)) (h.settled hend c hc)

/-- A change of the object that touches neither its resource nor the two flags. -/
theorem Coherent.congr (h : call.Coherent w)
    (hresource : call'.serverStreamingResource = call.serverStreamingResource)
    (hopened : call.serverStreamingOpened = true → call'.serverStreamingOpened = true)
    (hpayload : call.requestPayload.isSome = true → call'.requestPayload.isSome = true)
    (hready : call'.statusReady = true → call'.status.isSome = true)
    (hover : call'.statusReady = true ∨ call'.cancelled = true →
      (call.statusReady = true ∨ call.cancelled = true) ∨
        ∀ c, call.serverStreamingResource = some c → w.Aside c) : call'.Coherent w := by
  refine ⟨h.orderly, h.born, fun c hc => h.held c (hresource ▸ hc), fun hsome => ?_, hready,
    fun hend c hc => ?_⟩
  · rw [hresource] at hsome
    exact (h.opened hsome).imp hopened hpayload
  · rw [hresource] at hc
    rcases hover hend with hold | hover
    · exact h.settled hold c hc
    · exact hover c hc

/-- A new object. -/
theorem Coherent.construct (key : Bytes) (ssl inputsValid : Bool) (maxReceiveMessageLength : Int)
    (maxResponseMetadataBytes : Nat) (deadlineUs : Int) (hw : w.Reachable) :
    (CallObj.construct key ssl inputsValid maxReceiveMessageLength maxResponseMetadataBytes
      deadlineUs).Coherent w := by
  obtain ⟨env, config, hrun⟩ := hw
  have hmade := Methods.made hrun (orderly_start env config)
  have hsteps := hmade.steps (orderly_start env config)
  have hborn : w.ledger.Born := Steps.born hsteps fun c hc => absurd hc Bool.false_ne_true
  exact ⟨hmade.orderly, hborn, fun c hc => absurd hc (Option.some_ne_none c).symm,
    fun hsome => absurd hsome Bool.false_ne_true, fun hready => absurd hready Bool.false_ne_true,
    fun _ c hc => absurd hc (Option.some_ne_none c).symm⟩

/-! ## Opening a stream -/

/-- An object for which a stream may be opened. -/
structure Opening (call : CallObj) (w : World) : Prop where
  /-- The state is in order. -/
  orderly : w.Orderly
  /-- Live calls were created. -/
  born : w.ledger.Born
  /-- The resource of the object exists. -/
  held : w.Holds call
  /-- The object has a request. -/
  payload : call.requestPayload.isSome = true
  /-- The object is not finished. -/
  unready : call.statusReady = false
  /-- The object is not cancelled. -/
  calm : call.cancelled = false

/-- A stream is opened, or the object is finished or left without one. -/
theorem Opening.openPrepared (h : call.Opening w) {message : Bytes} {retryAttempt : Nat} {ok : Bool}
    (hopen : Proc.openPrepared call message retryAttempt w = some ((ok, call'), w')) :
    call'.Coherent w' ∧ call'.cancelled = false ∧
      (ok = true → call'.serverStreamingOpened = true) := by
  obtain ⟨hmade, hheld⟩ := openPrepared_made hopen h.orderly h.held
  have hborn := Steps.born (hmade.steps h.orderly) h.born
  obtain ⟨_, w₁, -, hopen⟩ := Exec.bind_some.mp hopen
  rw [Exec.get_bind_run] at hopen
  obtain ⟨opened, w₂, -, hopen⟩ := Exec.bind_some.mp hopen
  rw [Exec.get_bind_run] at hopen
  obtain ⟨hstore, rfl⟩ := Exec.pure_some.mp hopen
  match opened with
  | .error failure =>
    obtain ⟨rfl, rfl⟩ := Prod.mk.inj hstore
    refine ⟨⟨hmade.orderly, hborn, hheld, fun hsome => absurd hsome Bool.false_ne_true,
      fun hready => absurd (h.unready.symm.trans hready) Bool.false_ne_true,
      fun _ c hc => absurd hc (Option.some_ne_none c).symm⟩, h.calm,
      fun hok => absurd hok Bool.false_ne_true⟩
  | .ok (.opened c) =>
    obtain ⟨rfl, rfl⟩ := Prod.mk.inj hstore
    refine ⟨⟨hmade.orderly, hborn, hheld, fun _ => ⟨rfl, h.payload⟩,
      fun hready => absurd (h.unready.symm.trans hready) Bool.false_ne_true, fun hend => ?_⟩,
      h.calm, fun _ => rfl⟩
    rcases hend with hready | hcancelled
    · exact absurd (h.unready.symm.trans hready) Bool.false_ne_true
    · exact absurd (h.calm.symm.trans hcancelled) Bool.false_ne_true
  | .ok (.setupFailure code details) =>
    obtain ⟨rfl, rfl⟩ := Prod.mk.inj hstore
    exact ⟨⟨hmade.orderly, hborn, hheld, fun hsome => absurd hsome Bool.false_ne_true,
      fun _ => rfl, fun _ c hc => absurd hc (Option.some_ne_none c).symm⟩, h.calm, fun _ => rfl⟩

/-- An object that holds no resource. -/
theorem Coherent.resource_none (h : call.Coherent w) (hopened : call.serverStreamingOpened = false) :
    call.serverStreamingResource = none := by
  cases hres : call.serverStreamingResource with
  | none => rfl
  | some c =>
    have hopen := (h.opened (by rw [hres]; rfl)).1
    exact absurd (hopened.symm.trans hopen) Bool.false_ne_true

/-- The credentials change the stored metadata only. -/
theorem mergeCallCredentialsMetadata_fields {merged : Option CallObj}
    (h : mergeCallCredentialsMetadata call w = some (merged, w')) :
    w'.calls = w.calls ∧ ∀ call', merged = some call' →
      ∃ valid, call' = { call with metadataValid := valid } := by
  unfold mergeCallCredentialsMetadata at h
  split at h
  · obtain ⟨rfl, rfl⟩ := Exec.pure_some.mp h
    exact ⟨rfl, fun call' he => ⟨call.metadataValid, (Option.some.inj he).symm⟩⟩
  · obtain ⟨answer, w₁, hask, h⟩ := Exec.bind_some.mp h
    obtain ⟨rfl, rfl⟩ := Exec.pure_some.mp h
    refine ⟨onEnv_sameCalls _ _ _ _ hask, fun call' he => ?_⟩
    obtain ⟨valid, -, rfl⟩ := Option.map_eq_some_iff.mp he
    exact ⟨valid, rfl⟩

/-- The first attempt to open a stream. -/
theorem Coherent.openAttempt (h : call.Coherent w) (hcalm : call.cancelled = false)
    (hfresh : call.serverStreamingOpened = false → call.statusReady = false)
    {retryAttempt : Nat} {ok : Bool}
    (hopen : openCallStreamAttempt call retryAttempt true w = some ((ok, call'), w')) :
    call'.Coherent w' ∧ call'.cancelled = false := by
  unfold openCallStreamAttempt at hopen
  split at hopen
  · obtain ⟨hsame, rfl⟩ := Exec.pure_some.mp hopen
    obtain ⟨-, rfl⟩ := Prod.mk.inj hsame
    exact ⟨h, hcalm⟩
  next hclosed =>
  have hclosed : call.serverStreamingOpened = false := by simpa using hclosed
  cases hpayload : call.requestPayload with
  | none =>
    simp only [hpayload] at hopen
    obtain ⟨hsame, rfl⟩ := Exec.pure_some.mp hopen
    obtain ⟨-, rfl⟩ := Prod.mk.inj hsame
    exact ⟨h, hcalm⟩
  | some message =>
    simp only [hpayload, Bool.not_true, Bool.false_eq_true, if_false] at hopen
    have hnone := h.resource_none hclosed
    split at hopen
    · obtain ⟨hsame, rfl⟩ := Exec.pure_some.mp hopen
      obtain ⟨-, rfl⟩ := Prod.mk.inj hsame
      refine ⟨h.congr rfl id id (fun _ => rfl) fun _ => .inr fun c hc => ?_, hcalm⟩
      exact absurd (hnone.symm.trans hc) (Option.some_ne_none c).symm
    · obtain ⟨merged, w₁, hmerge, hopen⟩ := Exec.bind_some.mp hopen
      have hmade := Made.of_operation (.credentials call hmerge) h.orderly
      obtain ⟨hcalls, hfields⟩ := mergeCallCredentialsMetadata_fields hmerge
      have h₁ : call.Coherent w₁ := h.made hmade fun c hc => by
        rw [hcalls]
        exact h.held c hc
      cases merged with
      | none =>
        obtain ⟨hsame, rfl⟩ := Exec.pure_some.mp hopen
        obtain ⟨-, rfl⟩ := Prod.mk.inj hsame
        exact ⟨h₁, hcalm⟩
      | some call₁ =>
        obtain ⟨valid, rfl⟩ := hfields call₁ rfl
        have hopening : CallObj.Opening { call with metadataValid := valid } w₁ :=
          ⟨h₁.orderly, h₁.born, h₁.held, by rw [hpayload]; rfl, hfresh hclosed, hcalm⟩
        obtain ⟨hcoherent, hcalm', -⟩ := hopening.openPrepared hopen
        exact ⟨hcoherent, hcalm'⟩

/-- An attempt that does not prepare the metadata again. -/
theorem openCallStreamAttempt_prepared (call : CallObj) {message : Bytes} (retryAttempt : Nat)
    (hopened : call.serverStreamingOpened = false) (hpayload : call.requestPayload = some message) :
    openCallStreamAttempt call retryAttempt false =
      Proc.openPrepared call message retryAttempt := by
  simp only [openCallStreamAttempt, hopened, hpayload, Bool.false_eq_true, if_false, Bool.not_false,
    if_true]

/-- The retry of an opened stream. -/
theorem Coherent.retry (h : call.Coherent w) (hcalm : call.cancelled = false)
    (hunready : call.statusReady = false) (hheld : call.serverStreamingResource.isSome = true)
    {ok : Bool} (hretry : retryCallStream call w = some ((ok, call'), w')) :
    call'.Coherent w' ∧ call'.cancelled = false ∧
      (ok = true → call'.serverStreamingOpened = true) := by
  have hpayload := (h.opened hheld).2
  have hopening : CallObj.Opening { call with serverStreamingOpened := false } w :=
    ⟨h.orderly, h.born, h.held, hpayload, hunready, hcalm⟩
  obtain ⟨message, hmessage⟩ := Option.isSome_iff_exists.mp hpayload
  rw [retryCallStream, openCallStreamAttempt_prepared { call with serverStreamingOpened := false } 1
    rfl hmessage] at hretry
  exact hopening.openPrepared hretry

/-! ## Pulling a stream -/

/-- The loop of a pull: a message leaves the object unfinished, and behind the end its stream
is over. -/
theorem Coherent.nextLoop {fuel : Nat} {r : Option CallNext} (h : call.Coherent w)
    (hcalm : call.cancelled = false)
    (hfresh : call.serverStreamingOpened = false → call.statusReady = false)
    (hnext : nextForCallLoop fuel call w = some ((r, call'), w')) :
    call'.Coherent w' ∧ call'.cancelled = false ∧
      (∀ payload metadata, r = some (.message payload metadata) → call'.statusReady = false) ∧
      (∀ status initial trailing, r = some (.done status initial trailing) →
        ∀ c, call'.serverStreamingResource = some c → w'.Aside c) := by
  induction fuel generalizing w call with
  | zero => exact (Exec.block_some.mp hnext).elim
  | succ fuel ih =>
    obtain ⟨⟨opened, call₁⟩, w₁, hopen, hnext⟩ := Exec.bind_some.mp hnext
    obtain ⟨h₁, hcalm₁⟩ := h.openAttempt hcalm hfresh hopen
    simp only at hnext
    have hfail {call₂ : CallObj} {w₂ : World} (h₂ : call₂.Coherent w₂)
        (hcalm₂ : call₂.cancelled = false)
        (hpure : (pure (none, call₂) : Proc (Option CallNext × CallObj)) w₂ =
          some ((r, call'), w')) :
        call'.Coherent w' ∧ call'.cancelled = false ∧
          (∀ payload metadata, r = some (.message payload metadata) → call'.statusReady = false) ∧
          (∀ status initial trailing, r = some (.done status initial trailing) →
            ∀ c, call'.serverStreamingResource = some c → w'.Aside c) := by
      obtain ⟨hsame, rfl⟩ := Exec.pure_some.mp hpure
      obtain ⟨rfl, rfl⟩ := Prod.mk.inj hsame
      exact ⟨h₂, hcalm₂, fun _ _ he => absurd he (Option.some_ne_none _).symm,
        fun _ _ _ he => absurd he (Option.some_ne_none _).symm⟩
    split at hnext
    · exact hfail h₁ hcalm₁ hnext
    cases hready : call₁.statusReady with
    | true =>
      obtain ⟨status, hstatus⟩ := Option.isSome_iff_exists.mp (h₁.ready hready)
      simp only [hready, hstatus] at hnext
      obtain ⟨hsame, rfl⟩ := Exec.pure_some.mp hnext
      obtain ⟨rfl, rfl⟩ := Prod.mk.inj hsame
      refine ⟨h₁, hcalm₁, fun payload metadata he => ?_, fun _ _ _ _ => h₁.settled (.inl hready)⟩
      cases he
    | false =>
      simp only [hready] at hnext
      cases hres : call₁.serverStreamingResource with
      | none =>
        simp only [hres] at hnext
        exact hfail h₁ hcalm₁ hnext
      | some c =>
        simp only [hres] at hnext
        obtain ⟨result, w₂, hpull, hnext⟩ := Exec.bind_some.mp hnext
        have hlive := h₁.held c hres
        have hmade := Made.of_operation (.next c hlive hpull) h₁.orderly
        obtain ⟨-, -, hlive₂⟩ := serverStreamingCallNextResource_orderly hpull h₁.orderly hlive
        have h₂ : call₁.Coherent w₂ := h₁.made hmade fun c' hc' => by
          obtain rfl : c = c' := Option.some.inj (hres.symm.trans hc')
          exact hlive₂
        split at hnext
        · obtain ⟨hsame, rfl⟩ := Exec.pure_some.mp hnext
          obtain ⟨rfl, rfl⟩ := Prod.mk.inj hsame
          refine ⟨h₂, hcalm₁, fun _ _ _ => hready, fun status initial trailing he c' hc' => ?_⟩
          obtain rfl : c = c' := Option.some.inj (hres.symm.trans hc')
          rcases serverStreamingCallNextResource_severed hpull with ⟨payload, metadata, rfl⟩ | hnone
          · cases he
          · exact .inr (.inl hnone)
        · obtain ⟨⟨again, call₂⟩, w₃, hretry, hnext⟩ := Exec.bind_some.mp hnext
          obtain ⟨h₃, hcalm₃, hopened₃⟩ :=
            h₂.retry hcalm₁ hready (by rw [hres]; rfl) hretry
          simp only at hnext
          split at hnext
          · exact hfail h₃ hcalm₃ hnext
          next hagain =>
          refine ih h₃ hcalm₃ (fun hclosed => ?_) hnext
          have hopen := hopened₃ (by simpa using hagain)
          exact absurd (hclosed.symm.trans hopen) Bool.false_ne_true

/-- A pull keeps the object coherent, and a stream that is done leaves its connection. -/
theorem Coherent.next {r : Option CallNext} (h : call.Coherent w)
    (hcalm : call.cancelled = false) (hunready : call.statusReady = false)
    (hnext : serverStreamingNextForCall call w = some ((r, call'), w')) :
    call'.Coherent w' ∧ call'.cancelled = false ∧
      (∀ payload metadata, r = some (.message payload metadata) → call'.statusReady = false) ∧
      (∀ status initial trailing, r = some (.done status initial trailing) →
        ∀ c, call'.serverStreamingResource = some c → w'.Aside c) := by
  rw [serverStreamingNextForCall, Exec.get_bind_run] at hnext
  exact h.nextLoop hcalm (fun _ => hunready) hnext

/-- What a pull brings is stored. -/
theorem Coherent.storeNext (h : call.Coherent w) (next : CallNext)
    (hover : ∀ status initial trailing, next = .done status initial trailing →
      ∀ c, call.serverStreamingResource = some c → w.Aside c) :
    (Proc.storeNext call next).Coherent w := by
  cases next with
  | message payload metadata =>
    simp only [Proc.storeNext]
    split
    · exact h
    · exact h.congr rfl id id h.ready .inl
  | done status initial trailing =>
    have hend := hover status initial trailing rfl
    simp only [Proc.storeNext]
    split
    · exact h.congr rfl id id (fun _ => rfl) fun _ => .inr hend
    · exact h.congr rfl id id (fun _ => rfl) fun _ => .inr hend

/-- The drain of a batch that wants the status. -/
theorem Coherent.drain {fuel : Nat} {ok : Bool} (h : call.Coherent w)
    (hcalm : call.cancelled = false) (hunready : call.statusReady = false)
    (hdrain : drainForStatus fuel call w = some ((ok, call'), w')) : call'.Coherent w' := by
  induction fuel generalizing w call with
  | zero => exact (Exec.block_some.mp hdrain).elim
  | succ fuel ih =>
    obtain ⟨⟨next, call₁⟩, w₁, hnext, hdrain⟩ := Exec.bind_some.mp hdrain
    obtain ⟨h₁, hcalm₁, hmessage, hdone⟩ := h.next hcalm hunready hnext
    match next with
    | none =>
      obtain ⟨hsame, rfl⟩ := Exec.pure_some.mp hdrain
      obtain ⟨-, rfl⟩ := Prod.mk.inj hsame
      exact h₁
    | some (.message payload metadata) => exact ih h₁ hcalm₁ (hmessage payload metadata rfl) hdrain
    | some (.done status initial trailing) =>
      obtain ⟨hsame, rfl⟩ := Exec.pure_some.mp hdrain
      obtain ⟨-, rfl⟩ := Prod.mk.inj hsame
      exact h₁.storeNext _ fun _ _ _ _ => hdone status initial trailing rfl

/-! ## Methods -/

/-- Performing a unary call. -/
theorem Coherent.performUnary (h : call.Coherent w) (hunready : call.statusReady = false)
    (hclosed : call.serverStreamingOpened = false) {ok : Bool}
    (hperform : performCallUnary call w = some ((ok, call'), w')) : call'.Coherent w' := by
  have hmade := performCallUnary_made hperform h.orderly
  have hnone := h.resource_none hclosed
  have hborn := Steps.born (hmade.steps h.orderly) h.born
  -- Without a resource only the status itself is left to look at.
  have hwithout (hresource : call'.serverStreamingResource = none)
      (hready : call'.statusReady = true → call'.status.isSome = true) : call'.Coherent w' := by
    refine ⟨hmade.orderly, hborn, fun c hc => ?_, fun hsome => ?_, hready, fun _ c hc => ?_⟩
    · exact absurd (hresource.symm.trans hc) (Option.some_ne_none c).symm
    · rw [hresource] at hsome
      exact absurd hsome Bool.false_ne_true
    · exact absurd (hresource.symm.trans hc) (Option.some_ne_none c).symm
  have hsame (hcall : call = call') : call'.Coherent w' := by
    subst hcall
    exact hwithout hnone h.ready
  unfold performCallUnary at hperform
  cases hpayload : call.requestPayload with
  | none =>
    simp only [hpayload] at hperform
    exact hsame (Prod.mk.inj (Exec.pure_some.mp hperform).1).2
  | some message =>
    simp only [hpayload] at hperform
    split at hperform
    · obtain ⟨hpure, -⟩ := Exec.pure_some.mp hperform
      obtain ⟨-, rfl⟩ := Prod.mk.inj hpure
      exact hwithout hnone fun _ => rfl
    · obtain ⟨merged, w₁, hmerge, hperform⟩ := Exec.bind_some.mp hperform
      obtain ⟨-, hfields⟩ := mergeCallCredentialsMetadata_fields hmerge
      cases merged with
      | none => exact hsame (Prod.mk.inj (Exec.pure_some.mp hperform).1).2
      | some call₁ =>
        obtain ⟨valid, rfl⟩ := hfields call₁ rfl
        simp only at hperform
        rw [Exec.get_bind_run] at hperform
        obtain ⟨outcome, w₂, -, hperform⟩ := Exec.bind_some.mp hperform
        rw [Exec.get_bind_run] at hperform
        obtain ⟨hstore, -⟩ := Exec.pure_some.mp hperform
        cases outcome with
        | setupFailure code error =>
          obtain ⟨-, rfl⟩ := Prod.mk.inj hstore
          exact hwithout hnone fun _ => rfl
        | failure failure =>
          obtain ⟨-, rfl⟩ := Prod.mk.inj hstore
          exact hwithout hnone fun hready => absurd (hunready.symm.trans hready) Bool.false_ne_true
        | result k result =>
          obtain ⟨-, rfl⟩ := Prod.mk.inj hstore
          exact hwithout hnone fun _ => rfl

/-- What storing the request of a batch changes. -/
theorem storeSendBatch_kept (call : CallObj) (ops : Batch) :
    (storeSendBatch call ops).1 = decide (ops.sendMessage ≠ some none) ∧
      ∃ valid payload response, (storeSendBatch call ops).2 =
          { call with
            metadataValid := valid, requestPayload := payload, unaryResponsePayload := response } ∧
        (call.requestPayload.isSome = true → payload.isSome = true) := by
  unfold storeSendBatch
  cases ops.sendInitialMetadata <;> rcases ops.sendMessage with _ | _ | _ <;>
    exact ⟨rfl, _, _, _, rfl, by simp⟩

/-- What a batch sends is stored. -/
theorem Coherent.storeSend (h : call.Coherent w) (ops : Batch) :
    (storeSendBatch call ops).2.Coherent w := by
  obtain ⟨-, valid, payload, response, hstored, hpayload⟩ := storeSendBatch_kept call ops
  rw [hstored]
  exact h.congr rfl id hpayload h.ready .inl

/-- A batch on an object that is neither cancelled nor finished. -/
theorem Coherent.runBatch (h : call.Coherent w) (hcalm : call.cancelled = false)
    (hunready : call.statusReady = false) {ops : Batch} {event : Option BatchEvent}
    (hrun : Proc.runBatch call ops w = some ((event, call'), w')) : call'.Coherent w' := by
  unfold Proc.runBatch at hrun
  split at hrun
  · split at hrun
    · next hnew =>
      have hclosed : call.serverStreamingOpened = false := by
        simp only [Bool.and_eq_true, Bool.not_eq_true'] at hnew
        exact hnew.2
      obtain ⟨⟨ok, call₁⟩, w₁, hperform, hrun⟩ := Exec.bind_some.mp hrun
      have h₁ := h.performUnary hunready hclosed hperform
      simp only at hrun
      split at hrun <;> obtain ⟨hpure, rfl⟩ := Exec.pure_some.mp hrun <;>
        obtain ⟨-, rfl⟩ := Prod.mk.inj hpure <;> exact h₁
    · split at hrun
      · rw [Exec.get_bind_run] at hrun
        obtain ⟨⟨ok, call₁⟩, w₁, hdrain, hrun⟩ := Exec.bind_some.mp hrun
        have h₁ := h.drain hcalm hunready hdrain
        simp only at hrun
        split at hrun <;> obtain ⟨hpure, rfl⟩ := Exec.pure_some.mp hrun <;>
          obtain ⟨-, rfl⟩ := Prod.mk.inj hpure <;> exact h₁
      · obtain ⟨hpure, rfl⟩ := Exec.pure_some.mp hrun
        obtain ⟨-, rfl⟩ := Prod.mk.inj hpure
        exact h
  · split at hrun
    · obtain ⟨⟨next, call₁⟩, w₁, hnext, hrun⟩ := Exec.bind_some.mp hrun
      obtain ⟨h₁, -, -, hdone⟩ := h.next hcalm hunready hnext
      cases next with
      | none =>
        obtain ⟨hpure, rfl⟩ := Exec.pure_some.mp hrun
        obtain ⟨-, rfl⟩ := Prod.mk.inj hpure
        exact h₁
      | some next =>
        obtain ⟨hpure, rfl⟩ := Exec.pure_some.mp hrun
        obtain ⟨-, rfl⟩ := Prod.mk.inj hpure
        refine h₁.storeNext next fun status initial trailing he => ?_
        subst he
        exact hdone status initial trailing rfl
    · obtain ⟨hpure, rfl⟩ := Exec.pure_some.mp hrun
      obtain ⟨-, rfl⟩ := Prod.mk.inj hpure
      exact h

/-- A batch keeps the object coherent. -/
theorem Coherent.startBatch (h : call.Coherent w) {ops : Batch} {event : Option BatchEvent}
    (hbatch : Proc.startBatch call ops w = some ((event, call'), w')) : call'.Coherent w' := by
  rw [Proc.startBatch] at hbatch
  have h₀ := h.storeSend ops
  rcases hstore : storeSendBatch call ops with ⟨stored, call₀⟩
  rw [hstore] at hbatch h₀
  simp only at hbatch h₀
  split at hbatch
  · obtain ⟨hpure, rfl⟩ := Exec.pure_some.mp hbatch
    obtain ⟨-, rfl⟩ := Prod.mk.inj hpure
    exact h₀
  split at hbatch
  · next hcancelled =>
    obtain ⟨hpure, rfl⟩ := Exec.pure_some.mp hbatch
    obtain ⟨-, rfl⟩ := Prod.mk.inj hpure
    unfold markCancelled
    split
    · exact h₀
    · exact h₀.congr rfl id id (fun _ => rfl) fun _ => .inl (.inr hcancelled)
  split at hbatch
  · obtain ⟨hpure, rfl⟩ := Exec.pure_some.mp hbatch
    obtain ⟨-, rfl⟩ := Prod.mk.inj hpure
    exact h₀
  next hcalm hunready =>
  exact h₀.runBatch (by simpa using hcalm) (by simpa using hunready) hbatch

/-- So does a cancellation. -/
theorem Coherent.cancel (h : call.Coherent w)
    (hcancel : cancelCall call w = some (call', w')) : call'.Coherent w' := by
  have hmade := cancelCall_made hcancel h.orderly h.held
  have hsteps := hmade.steps h.orderly
  obtain ⟨_, w₁, hresource, hcancel⟩ := Exec.bind_some.mp hcancel
  obtain ⟨rfl, rfl⟩ := Exec.pure_some.mp hcancel
  have hpart (c : CallId) (hc : call.serverStreamingResource = some c) :
      w₁.Aside c ∧ (w₁.calls c).live = true := by
    have hopened := (h.opened (by rw [hc]; rfl)).1
    simp only [cancelResource, hopened, hc] at hresource
    obtain ⟨-, -, hlive⟩ :=
      serverStreamingCallCancelResource_orderly hresource h.orderly (h.held c hc)
    exact ⟨serverStreamingCallCancelResource_aside hresource, hlive⟩
  have h₁ : call.Coherent w₁ := h.made hmade fun c hc => (hpart c hc).2
  exact h₁.congr rfl id id h.ready fun _ => .inr fun c hc => (hpart c hc).1

/-- Every method leaves the object and the state coherent. -/
theorem Operation.coherent {p p' : CallObj × World} (hop : Operation p p')
    (h : p.1.Coherent p.2) : p'.1.Coherent p'.2 := by
  cases hop with
  | startBatch ops hbatch => exact h.startBatch hbatch
  | cancel hcancel => exact h.cancel hcancel
  | setCredentials plugin => exact h.congr rfl id id h.ready .inl
  | elsewhere hmethod hheld => exact h.made (hmethod.made h.orderly) hheld

/-- So do any number of operations. -/
theorem Operations.coherent {p p' : CallObj × World} (hops : Operations p p')
    (h : p.1.Coherent p.2) : p'.1.Coherent p'.2 := by
  induction hops with
  | refl => exact h
  | tail _ hop ih => exact hop.coherent ih

/-! ## Finished objects -/

/-- The object reports this status and this initial metadata for good. -/
structure Ended (call : CallObj) (status : CallStatus) (initialMetadata : List (Bytes × Bytes)) :
    Prop where
  /-- The status is final. -/
  ready : call.statusReady = true
  /-- The status. -/
  status : call.status = some status
  /-- The initial metadata. -/
  initialMetadata : call.initialMetadata = initialMetadata

/-- What a batch on a finished object returns: none for an exception about its operand. -/
def lastEvent (status : CallStatus) (initialMetadata : List (Bytes × Bytes)) (ops : Batch) :
    Option BatchEvent :=
  if ops.sendMessage = some none then none
  else some {
    metadata := if ops.recvInitialMetadata then some initialMetadata else none
    message := if ops.recvMessage then some none else none
    status := if ops.recvStatusOnClient then some status else none }

/-- The status of an object that was cancelled before it was finished. -/
def cancelledStatus : CallStatus := ⟨Status.cancelled, .cancelled, []⟩

/-- The object was cancelled before its status was ready. -/
structure Doomed (call : CallObj) : Prop where
  /-- The object is cancelled. -/
  cancelled : call.cancelled = true
  /-- Its only status says so. -/
  ended : call.statusReady = true → call.Ended cancelledStatus []

variable {status : CallStatus} {initialMetadata : List (Bytes × Bytes)}

theorem Ended.event (h : call.Ended status initialMetadata) {ops : Batch}
    (hops : ops.sendMessage ≠ some none) :
    some (batchEvent call ops none) = lastEvent status initialMetadata ops := by
  rw [lastEvent, if_neg hops]
  simp only [batchEvent, h.status, h.initialMetadata]

/-- A batch on a finished object only reads it. -/
theorem Ended.startBatch (h : call.Ended status initialMetadata) (ops : Batch) (w : World) :
    ∃ call', Proc.startBatch call ops w = some ((lastEvent status initialMetadata ops, call'), w) ∧
      call'.Ended status initialMetadata := by
  obtain ⟨hok, valid, payload, response, hstored, -⟩ := storeSendBatch_kept call ops
  rcases hstore : storeSendBatch call ops with ⟨stored, call₀⟩
  simp only [hstore] at hok hstored
  have h₀ : call₀.Ended status initialMetadata := by
    rw [hstored]
    exact ⟨h.ready, h.status, h.initialMetadata⟩
  rw [Proc.startBatch, hstore]
  by_cases hops : ops.sendMessage = some none
  · refine ⟨call₀, ?_, h₀⟩
    simp only [hok, hops, lastEvent, ne_eq, not_true_eq_false, decide_false, Bool.not_false, if_true]
    rfl
  · refine ⟨call₀, ?_, h₀⟩
    have hcancelled : call₀.markCancelled = call₀ := by rw [markCancelled, if_pos h₀.ready]
    simp only [hok, hops, ne_eq, not_false_eq_true, decide_true, Bool.not_true, Bool.false_eq_true,
      if_false, h₀.ready, if_true, hcancelled, h₀.event hops, ite_self]
    rfl

/-- A batch on a cancelled object finishes it. -/
theorem Doomed.startBatch (h : call.Doomed) (ops : Batch) (w : World) :
    ∃ call', Proc.startBatch call ops w = some ((lastEvent cancelledStatus [] ops, call'), w) ∧
      call'.Doomed := by
  obtain ⟨hok, valid, payload, response, hstored, -⟩ := storeSendBatch_kept call ops
  rcases hstore : storeSendBatch call ops with ⟨stored, call₀⟩
  simp only [hstore] at hok hstored
  have h₀ : call₀.Doomed := by
    rw [hstored]
    refine ⟨h.cancelled, fun hready => ?_⟩
    have hended := h.ended hready
    exact ⟨hready, hended.status, hended.initialMetadata⟩
  have hmarked : call₀.markCancelled.Ended cancelledStatus [] := by
    unfold markCancelled
    split
    · next hready => exact h₀.ended hready
    · exact ⟨rfl, rfl, rfl⟩
  have hdoomed : call₀.markCancelled.Doomed := by
    refine ⟨?_, fun _ => hmarked⟩
    unfold markCancelled
    split
    · exact h₀.cancelled
    · exact h₀.cancelled
  rw [Proc.startBatch, hstore]
  by_cases hops : ops.sendMessage = some none
  · refine ⟨call₀, ?_, h₀⟩
    simp only [hok, hops, lastEvent, ne_eq, not_true_eq_false, decide_false, Bool.not_false, if_true]
    rfl
  · refine ⟨call₀.markCancelled, ?_, hdoomed⟩
    simp only [hok, hops, ne_eq, not_false_eq_true, decide_true, Bool.not_true, Bool.false_eq_true,
      if_false, h₀.cancelled, if_true, hmarked.event hops]
    rfl

/-- An operation leaves the terminal status. -/
theorem Operation.ended {p p' : CallObj × World} (hop : Operation p p')
    (h : p.1.Ended status initialMetadata) : p'.1.Ended status initialMetadata := by
  cases hop with
  | startBatch ops hbatch =>
    obtain ⟨call₁, hrun, h₁⟩ := h.startBatch ops _
    obtain ⟨hpair, -⟩ := Prod.mk.inj (Option.some.inj (hrun.symm.trans hbatch))
    obtain ⟨-, rfl⟩ := Prod.mk.inj hpair
    exact h₁
  | cancel hcancel =>
    obtain ⟨_, w₁, -, hcancel⟩ := Exec.bind_some.mp hcancel
    obtain ⟨rfl, -⟩ := Exec.pure_some.mp hcancel
    exact ⟨h.ready, h.status, h.initialMetadata⟩
  | setCredentials plugin => exact ⟨h.ready, h.status, h.initialMetadata⟩
  | elsewhere hmethod hheld => exact h

/-- An operation leaves a cancelled object cancelled. -/
theorem Operation.doomed {p p' : CallObj × World} (hop : Operation p p') (h : p.1.Doomed) :
    p'.1.Doomed := by
  have hkept {call' : CallObj} (hready : call'.statusReady = p.1.statusReady)
      (hstatus : call'.status = p.1.status) (hinitial : call'.initialMetadata = p.1.initialMetadata)
      (hcancelled : call'.cancelled = true) : call'.Doomed := by
    refine ⟨hcancelled, fun hr => ?_⟩
    have hended := h.ended (hready.symm.trans hr)
    exact ⟨hr, hstatus.trans hended.status, hinitial.trans hended.initialMetadata⟩
  cases hop with
  | startBatch ops hbatch =>
    obtain ⟨call₁, hrun, h₁⟩ := h.startBatch ops _
    obtain ⟨hpair, -⟩ := Prod.mk.inj (Option.some.inj (hrun.symm.trans hbatch))
    obtain ⟨-, rfl⟩ := Prod.mk.inj hpair
    exact h₁
  | cancel hcancel =>
    obtain ⟨_, w₁, -, hcancel⟩ := Exec.bind_some.mp hcancel
    obtain ⟨rfl, -⟩ := Exec.pure_some.mp hcancel
    exact hkept rfl rfl rfl rfl
  | setCredentials plugin => exact hkept rfl rfl rfl h.cancelled
  | elsewhere hmethod hheld => exact h

theorem Operations.ended {p p' : CallObj × World} (hops : Operations p p')
    (h : p.1.Ended status initialMetadata) : p'.1.Ended status initialMetadata := by
  induction hops with
  | refl => exact h
  | tail _ hop ih => exact hop.ended ih

theorem Operations.doomed {p p' : CallObj × World} (hops : Operations p p') (h : p.1.Doomed) :
    p'.1.Doomed := by
  induction hops with
  | refl => exact h
  | tail _ hop ih => exact hop.doomed ih

/-- Cancelling a finished or cancelled object leaves the transport alone. -/
theorem Coherent.cancel_idle (h : call.Coherent w)
    (hend : call.statusReady = true ∨ call.cancelled = true) :
    cancelCall call w = some ({ call with cancelled := true }, w) := by
  have hresource : cancelResource call w = some ((), w) := by
    unfold cancelResource
    cases hopened : call.serverStreamingOpened with
    | false => rfl
    | true =>
      cases hres : call.serverStreamingResource with
      | none => rfl
      | some c => exact serverStreamingCallCancelResource_idle (h.settled hend c hres)
  exact Exec.bind_some.mpr ⟨(), w, hresource, rfl⟩

/-- A call object keeps its terminal status. From the time its status is ready, behind any
further methods every batch returns that status and that initial metadata and no message,
and neither a batch nor a cancellation touches the transport. An object cancelled before
that returns CANCELLED. A credentials plugin does not call methods of the object while it is
asked. -/
theorem terminalStatus {key : Bytes} {ssl inputsValid : Bool} {maxReceiveMessageLength : Int}
    {maxResponseMetadataBytes : Nat} {deadlineUs : Int} {call₁ call₂ : CallObj} {w₀ w₁ w₂ : World}
    (hw : w₀.Reachable)
    (hbefore : Operations (CallObj.construct key ssl inputsValid maxReceiveMessageLength
      maxResponseMetadataBytes deadlineUs, w₀) (call₁, w₁))
    (hafter : Operations (call₁, w₁) (call₂, w₂)) :
    (call₁.statusReady = true → ∃ status, call₁.status = some status ∧
      (∀ ops, ∃ call₃, Proc.startBatch call₂ ops w₂ =
        some ((lastEvent status call₁.initialMetadata ops, call₃), w₂)) ∧
      ∃ call₃, cancelCall call₂ w₂ = some (call₃, w₂)) ∧
    (call₁.cancelled = true → call₁.statusReady = false →
      ∀ ops, ∃ call₃, Proc.startBatch call₂ ops w₂ =
        some ((lastEvent cancelledStatus [] ops, call₃), w₂)) := by
  have h₁ : call₁.Coherent w₁ := Operations.coherent hbefore (.construct _ _ _ _ _ _ hw)
  have h₂ : call₂.Coherent w₂ := Operations.coherent hafter h₁
  refine ⟨fun hready => ?_, fun hcancelled hunready ops => ?_⟩
  · obtain ⟨status, hstatus⟩ := Option.isSome_iff_exists.mp (h₁.ready hready)
    have hended : call₂.Ended status call₁.initialMetadata :=
      Operations.ended hafter (p := (call₁, w₁)) ⟨hready, hstatus, rfl⟩
    refine ⟨status, hstatus, fun ops => ?_, _, h₂.cancel_idle (.inl hended.ready)⟩
    obtain ⟨call₃, hrun, -⟩ := hended.startBatch ops w₂
    exact ⟨call₃, hrun⟩
  · have hdoomed : call₂.Doomed := Operations.doomed hafter (p := (call₁, w₁))
      ⟨hcancelled, fun hready => absurd (hunready.symm.trans hready) Bool.false_ne_true⟩
    obtain ⟨call₃, hrun, -⟩ := hdoomed.startBatch ops w₂
    exact ⟨call₃, hrun⟩

/-- A unary call whose stream the server closes ends UNAVAILABLE for good, and one that is
cancelled first ends CANCELLED. -/
theorem terminalStatus_closedExchange :
    (∃ call₁ w₁ status call₂, Operations (CallObj.construct [] false true 0 65536 0,
        { env := closedExchange }) (call₁, w₁) ∧
      call₁.statusReady = true ∧ status.code = Status.unavailable ∧
      Proc.startBatch call₁ { recvMessage := true, recvStatusOnClient := true } w₁ =
        some ((some { message := some none, status := some status }, call₂), w₁)) ∧
    ∃ call₁ w₁ call₂, Operations (CallObj.construct [] false true 0 65536 0,
        { env := closedExchange }) (call₁, w₁) ∧ call₁.statusReady = false ∧
      Proc.startBatch call₁ { recvStatusOnClient := true } w₁ =
        some ((some { status := some cancelledStatus }, call₂), w₁) := by
  have hreach : World.Reachable { env := closedExchange } := ⟨closedExchange, {}, .refl⟩
  constructor
  · have hrun : (Proc.startBatch (CallObj.construct [] false true 0 65536 0)
        { sendMessage := some (some []), recvStatusOnClient := true }
        { env := closedExchange }).map (fun r => (r.1.2.statusReady, r.1.2.status.map (·.code))) =
          some (true, some Status.unavailable) := by decide +kernel
    obtain ⟨⟨⟨event, call₁⟩, w₁⟩, hbatch, heq⟩ := Option.map_eq_some_iff.mp hrun
    obtain ⟨hready, hcode⟩ := Prod.mk.inj heq
    have hops : Operations (CallObj.construct [] false true 0 65536 0,
        { env := closedExchange }) (call₁, w₁) := .single (.startBatch _ hbatch)
    obtain ⟨status, hstatus, hbatches, -⟩ := (terminalStatus hreach hops .refl).1 hready
    obtain ⟨call₂, hagain⟩ := hbatches { recvMessage := true, recvStatusOnClient := true }
    refine ⟨call₁, w₁, status, call₂, hops, hready, ?_, hagain⟩
    simp only [hstatus, Option.map_some, Option.some.injEq] at hcode
    exact hcode
  · have hcancel : cancelCall (CallObj.construct [] false true 0 65536 0)
        { env := closedExchange } =
          some ({ CallObj.construct [] false true 0 65536 0 with cancelled := true },
            { env := closedExchange }) := rfl
    have hops : Operations (CallObj.construct [] false true 0 65536 0,
        { env := closedExchange }) (_, _) := .single (.cancel hcancel)
    obtain ⟨call₂, hbatch⟩ := (terminalStatus hreach hops .refl).2 rfl rfl
      { recvStatusOnClient := true }
    exact ⟨_, _, call₂, hops, rfl, hbatch⟩

end CallObj

end GrpcLite
