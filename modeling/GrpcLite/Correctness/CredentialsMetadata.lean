import GrpcLite.Correctness.TerminalStatus
import GrpcLite.Drivers.LoadedCall

/-!
# Metadata of call credentials

The merge changes the stored metadata before steps that may throw, and a batch that
threw leaves the call ready to run again. As long as such a call is given its
metadata anew, and an open stream is not, every request carries what userland set
with the values of the plugin appended once.
-/

namespace GrpcLite

/-- The request carries what userland set and, appended once, what the plugin returned for it. -/
def SentRequest.Once (r : SentRequest) : Prop :=
  ∃ values, r.returned.getLast? = some values ∧
    r.metadata = r.userland.mergeMetadataAppendValues values

namespace LoadedCall

/-- A call with a credentials plugin on a secure channel. -/
def start (call : CallObj) : LoadedCall :=
  { call := { call with credentialsPlugin := true, ssl := true } }

/-- Every request that the library accepted carries the values of the plugin once. -/
def MergedOnce (s : LoadedCall) : Prop := ∀ r ∈ s.sent, r.submitted ≠ [] → r.Once

/-- The condition on a batch: a call that is to run again behind a batch that threw is given its
metadata anew, and one with an open stream is not. -/
structure Prepared (s : LoadedCall) (batch : LoadedBatch) : Prop where
  /-- Metadata that the plugin's values were merged into is set again before it is used. -/
  again : s.call.serverStreamingOpened = false → s.call.unaryPerformed = false →
    s.call.statusReady = false → s.call.cancelled = false →
    (batch.ops.recvStatusOnClient = true ∨ batch.ops.recvMessage = true) → s.returned ≠ [] →
    batch.ops.sendInitialMetadata.isSome = true
  /-- Metadata of a stream that may be retried stays. -/
  opened : s.call.serverStreamingOpened = true → s.call.initialMetadataReady = false →
    s.call.statusReady = false → s.call.cancelled = false → batch.ops.sendInitialMetadata = none

/-- One method call on the object, in whatever state the transport is. -/
inductive Step (s : LoadedCall) : LoadedCall → Prop
  | startBatch (batch : LoadedBatch) {event : Option Proc.BatchEvent} {s' : LoadedCall}
      {w w' : World} (hbatch : s.Prepared batch)
      (hrun : s.startBatch batch w = some ((event, s'), w')) : Step s s'
  | cancel {s' : LoadedCall} {w w' : World} (hrun : s.cancelCall w = some (s', w')) : Step s s'

/-! ## Invariant -/

/-- The stored metadata and the requests so far. -/
structure Merged (s : LoadedCall) : Prop where
  /-- There is a plugin. -/
  plugin : s.call.credentialsPlugin = true
  /-- The channel is secure. -/
  secure : s.call.ssl = true
  /-- The stored metadata is what userland set with all that the plugin returned since. -/
  metadata : s.metadata = s.returned.foldl MetadataMap.mergeMetadataAppendValues s.userland
  /-- The requests carry the values of the plugin once. -/
  sent : ∀ r ∈ s.sent, r.Once

/-- The stored metadata has the values of the plugin once. -/
def Carries (s : LoadedCall) : Prop := ∃ values, s.returned = [values]

variable {s s' : LoadedCall} {w w' : World}

/-- A change of the object alone. -/
theorem Merged.withCall (h : s.Merged) {call : CallObj}
    (hplugin : call.credentialsPlugin = s.call.credentialsPlugin) (hssl : call.ssl = s.call.ssl) :
    Merged { s with call := call } :=
  ⟨hplugin.trans h.plugin, hssl.trans h.secure, h.metadata, h.sent⟩

/-- The request that is noted carries what is stored. -/
theorem Merged.noteSent (h : s.Merged) (hcarries : s.Carries) (first : CallId) (w : World) :
    (s.noteSent first w).Merged := by
  refine ⟨h.plugin, h.secure, h.metadata, fun r hr => ?_⟩
  rcases List.mem_append.mp hr with hr | hr
  · exact h.sent r hr
  · obtain rfl := List.mem_singleton.mp hr
    obtain ⟨values, hvalues⟩ := hcarries
    refine ⟨values, ?_, ?_⟩
    · change s.returned.getLast? = some values
      rw [hvalues]
      rfl
    · change s.metadata = _
      rw [h.metadata, hvalues]
      rfl

/-- The merge in front of a request. -/
theorem Merged.merge (h : s.Merged) (hfresh : s.returned = []) {returns : MetadataMap}
    (hrun : s.mergeCallCredentialsMetadata returns w = some (some s', w')) :
    s'.Merged ∧ s'.Carries ∧ ∃ valid, s'.call = { s.call with metadataValid := valid } := by
  obtain ⟨merged, w₁, hmerge, hrun⟩ := Exec.bind_some.mp hrun
  cases merged with
  | none =>
    obtain ⟨hsame, -⟩ := Exec.pure_some.mp hrun
    cases hsame
  | some call =>
    obtain ⟨valid, rfl⟩ := (CallObj.mergeCallCredentialsMetadata_fields hmerge).2 call rfl
    dsimp only at hrun
    rw [if_pos h.plugin] at hrun
    obtain ⟨hsame, -⟩ := Exec.pure_some.mp hrun
    obtain rfl := Option.some.inj hsame
    refine ⟨⟨h.plugin, h.secure, ?_, h.sent⟩, ⟨returns, ?_⟩, valid, rfl⟩
    · change s.metadata.mergeMetadataAppendValues returns = _
      rw [h.metadata, hfresh]
      rfl
    · change s.returned ++ [returns] = _
      rw [hfresh, List.nil_append]

/-! ## Unary calls -/

/-- The outcome of a unary call leaves plugin, channel and stream. -/
theorem storeUnary_fields (call : CallObj) (outcome : Proc.UnaryAttempts) :
    (Proc.storeUnary call outcome).2.credentialsPlugin = call.credentialsPlugin ∧
      (Proc.storeUnary call outcome).2.ssl = call.ssl ∧
      (Proc.storeUnary call outcome).2.serverStreamingOpened = call.serverStreamingOpened := by
  cases outcome <;> exact ⟨rfl, rfl, rfl⟩

/-- A unary call merges the values of the plugin once. -/
theorem Merged.performCallUnary (h : s.Merged) (hfresh : s.returned = []) {returns : MetadataMap}
    {ok : Bool} (hrun : s.performCallUnary returns w = some ((ok, s'), w')) :
    s'.Merged ∧ s'.call.serverStreamingOpened = s.call.serverStreamingOpened := by
  unfold LoadedCall.performCallUnary at hrun
  have hinsecure : Proc.requiresSecureChannel s.call = false := by
    rw [Proc.requiresSecureChannel, h.secure, Bool.not_true, Bool.and_false]
  cases hpayload : s.call.requestPayload with
  | none =>
    simp only [hpayload] at hrun
    obtain ⟨hsame, -⟩ := Exec.pure_some.mp hrun
    obtain ⟨-, rfl⟩ := Prod.mk.inj hsame
    exact ⟨h, rfl⟩
  | some message =>
    simp only [hpayload, hinsecure, Bool.false_eq_true, if_false] at hrun
    obtain ⟨merged, w₁, hmerge, hrun⟩ := Exec.bind_some.mp hrun
    cases merged with
    | none =>
      obtain ⟨hsame, -⟩ := Exec.pure_some.mp hrun
      obtain ⟨-, rfl⟩ := Prod.mk.inj hsame
      exact ⟨h, rfl⟩
    | some s₁ =>
      obtain ⟨hmerged, hcarries, valid, hcall⟩ := h.merge hfresh hmerge
      obtain ⟨w₀, w₂, hget, hrun⟩ := Exec.bind_some.mp hrun
      obtain ⟨outcome, w₃, -, hrun⟩ := Exec.bind_some.mp hrun
      obtain ⟨w₄, w₅, -, hrun⟩ := Exec.bind_some.mp hrun
      obtain ⟨hsame, -⟩ := Exec.pure_some.mp hrun
      obtain ⟨-, rfl⟩ := Prod.mk.inj hsame
      have hnoted := hmerged.noteSent hcarries w₀.nextCall w₄
      obtain ⟨hplugin, hssl, hopened⟩ := storeUnary_fields
        ((s₁.noteSent w₀.nextCall w₄).call.noteAttempts w₀.nextCall w₄.nextCall) outcome
      exact ⟨hnoted.withCall hplugin hssl, hopened.trans (by rw [LoadedCall.noteSent,
        CallObj.noteAttempts, hcall])⟩

/-! ## Server streams -/

/-- An opened stream leaves plugin and channel. -/
theorem storeOpened_fields (call : CallObj) (opened : Except Failure OpenResult) :
    (Proc.storeOpened call opened).2.credentialsPlugin = call.credentialsPlugin ∧
      (Proc.storeOpened call opened).2.ssl = call.ssl := by
  rcases opened with failure | (c | ⟨code, details⟩) <;> exact ⟨rfl, rfl⟩

/-- A stream that is opened is noted. -/
theorem storeOpened_opened (call : CallObj) (opened : Except Failure OpenResult)
    (h : (Proc.storeOpened call opened).1 = true) :
    (Proc.storeOpened call opened).2.serverStreamingOpened = true := by
  rcases opened with failure | (c | ⟨code, details⟩)
  · exact absurd h Bool.false_ne_true
  · rfl
  · rfl

/-- A request with prepared metadata. -/
theorem Merged.openPrepared (h : s.Merged) (hcarries : s.Carries) {message : Bytes}
    {retryAttempt : Nat} {ok : Bool}
    (hrun : s.openPrepared message retryAttempt w = some ((ok, s'), w')) :
    s'.Merged ∧ s'.Carries ∧ (ok = true → s'.call.serverStreamingOpened = true) := by
  obtain ⟨_, w₁, -, hrun⟩ := Exec.bind_some.mp hrun
  obtain ⟨w₀, w₂, -, hrun⟩ := Exec.bind_some.mp hrun
  obtain ⟨opened, w₃, -, hrun⟩ := Exec.bind_some.mp hrun
  obtain ⟨w₄, w₅, -, hrun⟩ := Exec.bind_some.mp hrun
  obtain ⟨hsame, -⟩ := Exec.pure_some.mp hrun
  obtain ⟨rfl, rfl⟩ := Prod.mk.inj hsame
  have hdropped : Merged { s with call := { s.call with serverStreamingResource := none } } :=
    h.withCall rfl rfl
  have hnoted := hdropped.noteSent hcarries w₀.nextCall w₄
  obtain ⟨hplugin, hssl⟩ := storeOpened_fields (CallObj.noteAttempts
    { s.call with serverStreamingResource := none } w₀.nextCall w₄.nextCall) opened
  exact ⟨hnoted.withCall hplugin hssl, hcarries, storeOpened_opened _ opened⟩

/-- An attempt to open a stream, first or again. -/
theorem Merged.openCallStreamAttempt (h : s.Merged) {returns : MetadataMap} {retryAttempt : Nat}
    {prepareMetadata ok : Bool}
    (hfresh : s.call.serverStreamingOpened = false → prepareMetadata = true → s.returned = [])
    (hcarries : prepareMetadata = false → s.Carries)
    (hrun : s.openCallStreamAttempt returns retryAttempt prepareMetadata w =
      some ((ok, s'), w')) :
    s'.Merged ∧ (s' = s ∨ s'.Carries) ∧ (ok = true → s'.call.serverStreamingOpened = true) := by
  unfold LoadedCall.openCallStreamAttempt at hrun
  split at hrun
  · next hopened =>
    obtain ⟨hsame, -⟩ := Exec.pure_some.mp hrun
    obtain ⟨-, rfl⟩ := Prod.mk.inj hsame
    exact ⟨h, .inl rfl, fun _ => hopened⟩
  next hclosed =>
  have hfresh := hfresh (by simpa using hclosed)
  have hinsecure : Proc.requiresSecureChannel s.call = false := by
    rw [Proc.requiresSecureChannel, h.secure, Bool.not_true, Bool.and_false]
  -- Without a request or with a failing plugin the attempt fails before anything is stored.
  have hfails : some ((ok, s'), w') = some ((false, s), w') →
      s'.Merged ∧ (s' = s ∨ s'.Carries) ∧
        (ok = true → s'.call.serverStreamingOpened = true) := by
    intro heq
    obtain ⟨hsame, -⟩ := Prod.mk.inj (Option.some.inj heq)
    obtain ⟨rfl, rfl⟩ := Prod.mk.inj hsame
    exact ⟨h, .inl rfl, fun hok => absurd hok Bool.false_ne_true⟩
  cases hpayload : s.call.requestPayload with
  | none =>
    simp only [hpayload] at hrun
    obtain ⟨hsame, rfl⟩ := Exec.pure_some.mp hrun
    exact hfails (by rw [hsame])
  | some message =>
    cases prepareMetadata with
    | false =>
      simp only [hpayload, Bool.not_false, if_true] at hrun
      obtain ⟨hmerged, hcarries, hopened⟩ := h.openPrepared (hcarries rfl) hrun
      exact ⟨hmerged, .inr hcarries, hopened⟩
    | true =>
      simp only [hpayload, Bool.not_true, Bool.false_eq_true, if_false, hinsecure] at hrun
      obtain ⟨merged, w₁, hmerge, hrun⟩ := Exec.bind_some.mp hrun
      cases merged with
      | none =>
        obtain ⟨hsame, rfl⟩ := Exec.pure_some.mp hrun
        exact hfails (by rw [hsame])
      | some s₁ =>
        obtain ⟨hmerged, hcarries, -⟩ := h.merge (hfresh rfl) hmerge
        obtain ⟨hmerged', hcarries', hopened⟩ := hmerged.openPrepared hcarries hrun
        exact ⟨hmerged', .inr hcarries', hopened⟩

/-- What a pull needs: metadata that is still to be merged, or that an open stream was opened
with. -/
structure Opens (s : LoadedCall) : Prop where
  /-- A stream to be opened. -/
  closed : s.call.serverStreamingOpened = false → s.returned = []
  /-- A stream that may be retried. -/
  opened : s.call.serverStreamingOpened = true → s.call.initialMetadataReady = false → s.Carries

/-- What a pull leaves behind. -/
def Pulled (s : LoadedCall) (r : Option CallNext) (s' : LoadedCall) : Prop :=
  s'.Merged ∧ (s' = s ∨ s'.Carries) ∧ (r.isSome = true → s'.call.serverStreamingOpened = true)

/-- A pull from an open stream: a retry sends the metadata that the stream was opened with. -/
theorem Merged.pullOrRetry (h : s.Merged) (hopened : s.call.serverStreamingOpened = true)
    (hcarries : s.call.initialMetadataReady = false → s.Carries) {returns : MetadataMap}
    {nextRound : LoadedCall → Proc (Option CallNext × LoadedCall)}
    (hnext : ∀ s₁ r s' w w', s₁.Merged → s₁.Opens → nextRound s₁ w = some ((r, s'), w') →
      s₁.Pulled r s') {r : Option CallNext}
    (hrun : s.pullOrRetry returns nextRound w = some ((r, s'), w')) : s.Pulled r s' := by
  unfold LoadedCall.pullOrRetry at hrun
  cases hresource : s.call.serverStreamingResource with
  | none =>
    simp only [hresource] at hrun
    obtain ⟨heq, -⟩ := Exec.pure_some.mp hrun
    obtain ⟨rfl, rfl⟩ := Prod.mk.inj heq
    exact ⟨h, .inl rfl, fun hr => absurd hr Bool.false_ne_true⟩
  | some c =>
    simp only [hresource] at hrun
    obtain ⟨result, w₁, -, hrun⟩ := Exec.bind_some.mp hrun
    split at hrun
    · obtain ⟨heq, -⟩ := Exec.pure_some.mp hrun
      obtain ⟨rfl, rfl⟩ := Prod.mk.inj heq
      exact ⟨h, .inl rfl, fun _ => hopened⟩
    next hretry =>
    have hcarries : s.Carries := by
      rw [Bool.or_eq_true, not_or, Bool.not_eq_true s.call.initialMetadataReady] at hretry
      exact hcarries hretry.2
    obtain ⟨⟨again, s₁⟩, w₂, hagain, hrun⟩ := Exec.bind_some.mp hrun
    have hclosed : Merged { s with call := { s.call with serverStreamingOpened := false } } :=
      h.withCall rfl rfl
    obtain ⟨hmerged₁, hsame₁, hopened₁⟩ := hclosed.openCallStreamAttempt
      (fun _ hprepare => absurd hprepare Bool.false_ne_true) (fun _ => hcarries) hagain
    have hcarries₁ : s₁.Carries := by
      rcases hsame₁ with rfl | hcarries₁
      · exact hcarries
      · exact hcarries₁
    dsimp only at hrun
    cases again with
    | false =>
      obtain ⟨heq, -⟩ := Exec.pure_some.mp hrun
      obtain ⟨rfl, rfl⟩ := Prod.mk.inj heq
      exact ⟨hmerged₁, .inr hcarries₁, fun hr => absurd hr Bool.false_ne_true⟩
    | true =>
      have hopens₁ : s₁.Opens :=
        ⟨fun hclosed => absurd (hclosed.symm.trans (hopened₁ rfl)) Bool.false_ne_true,
          fun _ _ => hcarries₁⟩
      obtain ⟨hmerged', hsame', hopened'⟩ := hnext s₁ r s' w₂ w' hmerged₁ hopens₁ hrun
      refine ⟨hmerged', .inr ?_, hopened'⟩
      rcases hsame' with rfl | hcarries'
      · exact hcarries₁
      · exact hcarries'

/-- The loop of a pull merges the values of the plugin once, over all retries. -/
theorem Merged.nextForCallLoop (fuel : Nat) (h : s.Merged) (hopens : s.Opens)
    {returns : MetadataMap} {r : Option CallNext}
    (hrun : nextForCallLoop returns fuel s w = some ((r, s'), w')) : s.Pulled r s' := by
  induction fuel generalizing s r s' w w' with
  | zero => exact (Exec.block_some.mp hrun).elim
  | succ fuel ih =>
    obtain ⟨⟨opened, s₁⟩, w₁, hopen, hrun⟩ := Exec.bind_some.mp hrun
    obtain ⟨hmerged, hsame, hopened⟩ := h.openCallStreamAttempt
      (fun hclosed _ => hopens.closed hclosed)
      (fun hprepare => absurd hprepare.symm Bool.false_ne_true) hopen
    dsimp only at hrun
    cases opened with
    | false =>
      obtain ⟨heq, -⟩ := Exec.pure_some.mp hrun
      obtain ⟨rfl, rfl⟩ := Prod.mk.inj heq
      exact ⟨hmerged, hsame, fun hr => absurd hr Bool.false_ne_true⟩
    | true =>
      have hopened := hopened rfl
      simp only [Bool.not_true, Bool.false_eq_true, if_false] at hrun
      have hpull (hrun : s₁.pullOrRetry returns (LoadedCall.nextForCallLoop returns fuel) w₁ =
          some ((r, s'), w')) : s.Pulled r s' := by
        have hcarries : s₁.call.initialMetadataReady = false → s₁.Carries := by
          rcases hsame with rfl | hcarries
          · exact hopens.opened hopened
          · exact fun _ => hcarries
        obtain ⟨hmerged', hsame', hopened'⟩ := hmerged.pullOrRetry hopened hcarries
          (fun _ _ _ _ _ h₂ hopens₂ hrun₂ => ih h₂ hopens₂ hrun₂) hrun
        refine ⟨hmerged', ?_, hopened'⟩
        rcases hsame' with rfl | hcarries'
        · exact hsame
        · exact .inr hcarries'
      cases hready : s₁.call.statusReady with
      | false =>
        simp only [hready] at hrun
        exact hpull hrun
      | true =>
        cases hstatus : s₁.call.status with
        | none =>
          simp only [hready, hstatus] at hrun
          exact hpull hrun
        | some status =>
          simp only [hready, hstatus] at hrun
          obtain ⟨heq, -⟩ := Exec.pure_some.mp hrun
          obtain ⟨rfl, rfl⟩ := Prod.mk.inj heq
          exact ⟨hmerged, hsame, fun _ => hopened⟩

/-- So does a pull. -/
theorem Merged.serverStreamingNextForCall (h : s.Merged) (hopens : s.Opens)
    {returns : MetadataMap} {r : Option CallNext}
    (hrun : s.serverStreamingNextForCall returns w = some ((r, s'), w')) : s.Pulled r s' := by
  obtain ⟨w₀, w₁, -, hrun⟩ := Exec.bind_some.mp hrun
  exact h.nextForCallLoop _ hopens hrun

/-! ## Batches -/

/-- What holds between two method calls. -/
structure Kept (s : LoadedCall) : Prop where
  /-- The metadata and the requests. -/
  merged : s.Merged
  /-- A stream that may be retried was opened with the stored metadata. -/
  opened : s.call.serverStreamingOpened = true → s.call.initialMetadataReady = false →
    s.call.statusReady = false → s.call.cancelled = false → s.Carries

/-- What a pull gives leaves plugin and channel, and its initial metadata is ready. -/
theorem storeNext_fields (call : CallObj) (next : CallNext) :
    (Proc.storeNext call next).credentialsPlugin = call.credentialsPlugin ∧
      (Proc.storeNext call next).ssl = call.ssl ∧
      (Proc.storeNext call next).initialMetadataReady = true := by
  cases next with
  | message payload initialMetadata =>
    simp only [Proc.storeNext]
    split
    · next hready => exact ⟨rfl, rfl, hready⟩
    · exact ⟨rfl, rfl, rfl⟩
  | done status initialMetadata trailingMetadata =>
    simp only [Proc.storeNext]
    split
    · next hready => exact ⟨rfl, rfl, hready⟩
    · exact ⟨rfl, rfl, rfl⟩

/-- The object behind a pull whose result is stored. -/
theorem Merged.storeNext (h : s.Merged) (next : CallNext) :
    Kept { s with call := Proc.storeNext s.call next } := by
  obtain ⟨hplugin, hssl, hready⟩ := storeNext_fields s.call next
  exact ⟨h.withCall hplugin hssl,
    fun _ hunready => absurd (hready.symm.trans hunready) Bool.true_eq_false_eq_False⟩

/-- A pull that threw leaves the stream as it was. -/
theorem Pulled.kept {r : Option CallNext} (h : s.Pulled r s') (hopens : s.Opens) : s'.Kept := by
  obtain ⟨hmerged, rfl | hcarries, -⟩ := h
  · exact ⟨hmerged, fun hopened hunready _ _ => hopens.opened hopened hunready⟩
  · exact ⟨hmerged, fun _ _ _ _ => hcarries⟩

/-- A drain of an open stream. -/
theorem Merged.drainForStatus (fuel : Nat) (h : s.Merged) (hopens : s.Opens)
    (hopened : s.call.serverStreamingOpened = true) {returns : MetadataMap} {ok : Bool}
    (hrun : drainForStatus returns fuel s w = some ((ok, s'), w')) : s'.Kept := by
  induction fuel generalizing s w with
  | zero => exact (Exec.block_some.mp hrun).elim
  | succ fuel ih =>
    obtain ⟨⟨r, s₁⟩, w₁, hnext, hrun⟩ := Exec.bind_some.mp hrun
    have hpulled := h.serverStreamingNextForCall hopens hnext
    cases r with
    | none =>
      obtain ⟨heq, -⟩ := Exec.pure_some.mp hrun
      obtain ⟨-, rfl⟩ := Prod.mk.inj heq
      exact hpulled.kept hopens
    | some next =>
      obtain ⟨hmerged, hsame, hyields⟩ := hpulled
      have hopened₁ : s₁.call.serverStreamingOpened = true := hyields rfl
      cases next with
      | message payload initialMetadata =>
        have hopens₁ : s₁.Opens := by
          refine ⟨fun hclosed => ?_, fun _ hunready => ?_⟩
          · exact absurd (hclosed.symm.trans hopened₁) Bool.false_ne_true
          · rcases hsame with rfl | hcarries
            · exact hopens.opened hopened hunready
            · exact hcarries
        exact ih hmerged hopens₁ hopened₁ hrun
      | done status initialMetadata trailingMetadata =>
        obtain ⟨heq, -⟩ := Exec.pure_some.mp hrun
        obtain ⟨-, rfl⟩ := Prod.mk.inj heq
        exact hmerged.storeNext _

/-- A batch on a call that is neither cancelled nor finished. -/
theorem Merged.runBatch (h : s.Merged) {batch : LoadedBatch}
    (hclosed : s.call.serverStreamingOpened = false → s.call.unaryPerformed = false →
      (batch.ops.recvStatusOnClient = true ∨ batch.ops.recvMessage = true) → s.returned = [])
    (hopened : s.call.serverStreamingOpened = true → s.call.initialMetadataReady = false →
      s.Carries) {event : Option Proc.BatchEvent}
    (hrun : s.runBatch batch w = some ((event, s'), w')) : s'.Kept := by
  have hkept : s.Kept := ⟨h, fun hopen hunready _ _ => hopened hopen hunready⟩
  unfold LoadedCall.runBatch at hrun
  dsimp only at hrun
  split at hrun
  · next hstatus =>
    split at hrun
    · next hfresh =>
      rw [Bool.and_eq_true, Bool.not_eq_true', Bool.not_eq_true'] at hfresh
      obtain ⟨⟨ok, s₁⟩, w₁, hperform, hrun⟩ := Exec.bind_some.mp hrun
      obtain ⟨hmerged, hstill⟩ := h.performCallUnary
        (hclosed hfresh.2 hfresh.1 (.inl hstatus)) hperform
      have hkept₁ : s₁.Kept := ⟨hmerged, fun hopen => absurd
        ((hstill.trans hfresh.2).symm.trans hopen) Bool.false_ne_true⟩
      cases ok with
      | false =>
        obtain ⟨heq, -⟩ := Exec.pure_some.mp hrun
        obtain ⟨-, rfl⟩ := Prod.mk.inj heq
        exact hkept₁
      | true =>
        obtain ⟨heq, -⟩ := Exec.pure_some.mp hrun
        obtain ⟨-, rfl⟩ := Prod.mk.inj heq
        exact hkept₁
    split at hrun
    · next hopen =>
      rw [Bool.and_eq_true] at hopen
      obtain ⟨w₀, w₁, hget, hrun⟩ := Exec.bind_some.mp hrun
      obtain ⟨⟨ok, s₁⟩, w₂, hdrain, hrun⟩ := Exec.bind_some.mp hrun
      have hopens : s.Opens :=
        ⟨fun hc => absurd (hc.symm.trans hopen.1) Bool.false_ne_true, hopened⟩
      have hkept₁ := h.drainForStatus _ hopens hopen.1 hdrain
      cases ok with
      | false =>
        obtain ⟨heq, -⟩ := Exec.pure_some.mp hrun
        obtain ⟨-, rfl⟩ := Prod.mk.inj heq
        exact hkept₁
      | true =>
        obtain ⟨heq, -⟩ := Exec.pure_some.mp hrun
        obtain ⟨-, rfl⟩ := Prod.mk.inj heq
        exact hkept₁
    · obtain ⟨heq, -⟩ := Exec.pure_some.mp hrun
      obtain ⟨-, rfl⟩ := Prod.mk.inj heq
      exact hkept
  · split at hrun
    · next hmessage =>
      rw [Bool.and_eq_true, Bool.not_eq_true'] at hmessage
      have hopens : s.Opens := ⟨fun hc => hclosed hc hmessage.2 (.inr hmessage.1), hopened⟩
      obtain ⟨⟨r, s₁⟩, w₁, hnext, hrun⟩ := Exec.bind_some.mp hrun
      have hpulled := h.serverStreamingNextForCall hopens hnext
      cases r with
      | none =>
        obtain ⟨heq, -⟩ := Exec.pure_some.mp hrun
        obtain ⟨-, rfl⟩ := Prod.mk.inj heq
        exact hpulled.kept hopens
      | some next =>
        obtain ⟨heq, -⟩ := Exec.pure_some.mp hrun
        obtain ⟨-, rfl⟩ := Prod.mk.inj heq
        exact hpulled.1.storeNext next
    · obtain ⟨heq, -⟩ := Exec.pure_some.mp hrun
      obtain ⟨-, rfl⟩ := Prod.mk.inj heq
      exact hkept

/-- Stored operands leave everything but metadata and message. -/
theorem storeSendBatch_fields (call : CallObj) (ops : Proc.Batch) :
    (Proc.storeSendBatch call ops).2.credentialsPlugin = call.credentialsPlugin ∧
      (Proc.storeSendBatch call ops).2.ssl = call.ssl ∧
      (Proc.storeSendBatch call ops).2.serverStreamingOpened = call.serverStreamingOpened ∧
      (Proc.storeSendBatch call ops).2.initialMetadataReady = call.initialMetadataReady ∧
      (Proc.storeSendBatch call ops).2.statusReady = call.statusReady ∧
      (Proc.storeSendBatch call ops).2.cancelled = call.cancelled ∧
      (Proc.storeSendBatch call ops).2.unaryPerformed = call.unaryPerformed := by
  unfold Proc.storeSendBatch
  cases ops.sendInitialMetadata <;> rcases ops.sendMessage with _ | (_ | message) <;>
    exact ⟨rfl, rfl, rfl, rfl, rfl, rfl, rfl⟩

/-- The object of a loaded call is stored as before. -/
theorem storeSendBatch_call (s : LoadedCall) (batch : LoadedBatch) :
    (s.storeSendBatch batch).2.call = (Proc.storeSendBatch s.call batch.ops).2 := by
  unfold LoadedCall.storeSendBatch
  dsimp only
  split <;> rfl

/-- A prepared batch stores metadata where it has to and nowhere else. -/
theorem Kept.storeSendBatch (h : s.Kept) {batch : LoadedBatch} (hbatch : s.Prepared batch) :
    (s.storeSendBatch batch).2.Kept ∧
      ((s.storeSendBatch batch).2.call.serverStreamingOpened = false →
        (s.storeSendBatch batch).2.call.unaryPerformed = false →
        (s.storeSendBatch batch).2.call.statusReady = false →
        (s.storeSendBatch batch).2.call.cancelled = false →
        (batch.ops.recvStatusOnClient = true ∨ batch.ops.recvMessage = true) →
        (s.storeSendBatch batch).2.returned = []) := by
  obtain ⟨hplugin, hssl, hopened, hinitial, hstatus, hcancelled, hperformed⟩ :=
    storeSendBatch_fields s.call batch.ops
  rw [storeSendBatch_call, hopened, hstatus, hcancelled, hperformed]
  cases hsend : batch.ops.sendInitialMetadata with
  | none =>
    have hstored : (s.storeSendBatch batch).2 =
        { s with call := (Proc.storeSendBatch s.call batch.ops).2 } := by
      rw [LoadedCall.storeSendBatch, hsend]
      rfl
    rw [hstored]
    refine ⟨⟨h.merged.withCall hplugin hssl, ?_⟩, ?_⟩
    · dsimp only
      rw [hopened, hinitial, hstatus, hcancelled]
      exact h.opened
    · intro hclosed hunperformed hunready hcalm hwants
      by_contra hreturned
      have hsome := hbatch.again hclosed hunperformed hunready hcalm hwants hreturned
      rw [hsend] at hsome
      cases hsome
  | some valid =>
    have hstored : (s.storeSendBatch batch).2 =
        { s with
          call := (Proc.storeSendBatch s.call batch.ops).2, metadata := batch.metadata
          userland := batch.metadata, returned := [] } := by
      rw [LoadedCall.storeSendBatch, hsend]
      rfl
    rw [hstored]
    refine ⟨⟨⟨hplugin.trans h.merged.plugin, hssl.trans h.merged.secure, rfl, h.merged.sent⟩, ?_⟩,
      fun _ _ _ _ _ => rfl⟩
    intro hopen hunready hunfinished hcalm
    dsimp only at hopen hunready hunfinished hcalm
    rw [hopened] at hopen
    rw [hinitial] at hunready
    rw [hstatus] at hunfinished
    rw [hcancelled] at hcalm
    have hnone := hbatch.opened hopen hunready hunfinished hcalm
    rw [hsend] at hnone
    cases hnone

/-- A cancellation finishes the object. -/
theorem markCancelled_fields (call : CallObj) :
    call.markCancelled.credentialsPlugin = call.credentialsPlugin ∧
      call.markCancelled.ssl = call.ssl ∧ call.markCancelled.statusReady = true := by
  unfold CallObj.markCancelled
  split
  · next hready => exact ⟨rfl, rfl, hready⟩
  · exact ⟨rfl, rfl, rfl⟩

/-- A prepared batch. -/
theorem Kept.startBatch (h : s.Kept) {batch : LoadedBatch} (hbatch : s.Prepared batch)
    {event : Option Proc.BatchEvent} (hrun : s.startBatch batch w = some ((event, s'), w')) :
    s'.Kept := by
  obtain ⟨hkept, hfresh⟩ := h.storeSendBatch hbatch
  unfold LoadedCall.startBatch at hrun
  generalize s.storeSendBatch batch = stored at hkept hfresh hrun
  obtain ⟨ok, s₁⟩ := stored
  dsimp only at hkept hfresh hrun
  split at hrun
  · obtain ⟨heq, -⟩ := Exec.pure_some.mp hrun
    obtain ⟨-, rfl⟩ := Prod.mk.inj heq
    exact hkept
  split at hrun
  · obtain ⟨heq, -⟩ := Exec.pure_some.mp hrun
    obtain ⟨-, rfl⟩ := Prod.mk.inj heq
    obtain ⟨hplugin, hssl, hready⟩ := markCancelled_fields s₁.call
    exact ⟨hkept.merged.withCall hplugin hssl, fun _ _ hunready =>
      absurd (hready.symm.trans hunready) Bool.true_eq_false_eq_False⟩
  next hcalm =>
  split at hrun
  · obtain ⟨heq, -⟩ := Exec.pure_some.mp hrun
    obtain ⟨-, rfl⟩ := Prod.mk.inj heq
    exact hkept
  next hunready =>
  rw [Bool.not_eq_true] at hcalm hunready
  exact hkept.merged.runBatch
    (fun hclosed hunperformed hwants => hfresh hclosed hunperformed hunready hcalm hwants)
    (fun hopen hinitial => hkept.opened hopen hinitial hunready hcalm) hrun

/-- A method keeps the metadata. -/
theorem Kept.step (h : s.Kept) (hstep : s.Step s') : s'.Kept := by
  cases hstep with
  | startBatch batch hbatch hrun => exact h.startBatch hbatch hrun
  | cancel hrun =>
    obtain ⟨call, w₁, hcancel, hrun⟩ := Exec.bind_some.mp hrun
    obtain ⟨_, w₂, -, hcancel⟩ := Exec.bind_some.mp hcancel
    obtain ⟨rfl, -⟩ := Exec.pure_some.mp hcancel
    obtain ⟨rfl, -⟩ := Exec.pure_some.mp hrun
    exact ⟨h.merged.withCall rfl rfl, fun _ _ _ hcalm => absurd hcalm.symm Bool.false_ne_true⟩

/-- A new object has merged nothing. -/
theorem kept_start {call : CallObj} (hclosed : call.serverStreamingOpened = false) :
    (start call).Kept := by
  refine ⟨⟨rfl, rfl, rfl, fun r hr => absurd hr List.not_mem_nil⟩, fun hopen => ?_⟩
  exact absurd (hclosed.symm.trans hopen) Bool.false_ne_true

/-- In every run of prepared batches, through batches that throw and transparent retries, every
request that the library accepted carries what userland set with the values of the plugin appended
once. -/
theorem mergedOnce_prepared {key : Bytes} {ssl inputsValid : Bool} {maxReceiveMessageLength : Int}
    {maxResponseMetadataBytes : Nat} {deadlineUs : Int} {s : LoadedCall}
    (hrun : Relation.ReflTransGen Step (start (CallObj.construct key ssl inputsValid
      maxReceiveMessageLength maxResponseMetadataBytes deadlineUs)) s) : s.MergedOnce := by
  have hkept : s.Kept := by
    induction hrun with
    | refl => exact kept_start rfl
    | tail _ hstep ih => exact ih.step hstep
  exact fun r hr _ => hkept.merged.sent r hr

/-! ## Two batches -/

/-- What userland sets: one header. -/
def userHeader : MetadataMap := ⟨[(.name [98], .string [2])], by decide⟩

/-- What the plugin returns: one header. -/
def pluginHeader : MetadataMap := ⟨[(.name [97], .string [1])], by decide⟩

/-- The header of userland with the plugin's appended. -/
def bothHeaders : MetadataMap := userHeader.mergeMetadataAppendValues pluginHeader

/-- A connection is opened, and a request is submitted and registered on it. -/
def submission : List Answer := [
  .credentials (some true),
  .setupCall .getaddrinfo true 1 none, .setupCall .socket true 3 none,
  .setupCall .setNonblocking true 0 none, .setupCall .connect true 0 none,
  .setupCall .freeaddrinfo true 0 none, .setup true false, .sessionSend [] 0,
  .submitRequest 1, .setUserData 0, .sessionSend [] 0, .sslRead 10 0 0]

/-- The session of the first request fails behind a flood of frames, and the stream of the second
one is closed. -/
def floodedSession : Env where
  script := submission ++ [.memRecv [] (-904)] ++ submission ++
    [.memRecv [.stream 1 (.closed 8)] 10, .wantWrite false]

/-- A batch that sends the request and wants its status. -/
def firstBatch : LoadedBatch where
  ops := { sendInitialMetadata := some true, sendMessage := some (some [])
           recvStatusOnClient := true }
  metadata := userHeader
  returns := pluginHeader

/-- The call object without a key. -/
def plainCall : CallObj := CallObj.construct [] true true 0 65536 0

/-- A first batch that throws behind its submission, and a second one that sends the metadata
again: both submissions carry the value of the plugin once. -/
theorem mergedOnce_prepared_first : ∃ s₁ w₁ event s₂ w₂,
    (start plainCall).startBatch firstBatch { env := floodedSession } = some ((none, s₁), w₁) ∧
      s₁.startBatch firstBatch w₁ = some ((event, s₂), w₂) ∧
      s₂.sent = [⟨userHeader, [pluginHeader], bothHeaders, [0]⟩,
        ⟨userHeader, [pluginHeader], bothHeaders, [1]⟩] ∧ s₂.MergedOnce := by
  have hrun : (((start plainCall).startBatch firstBatch { env := floodedSession }).bind
      fun r => (r.1.2.startBatch firstBatch r.2).map fun r' =>
        (r.1.1.isNone, r.1.2.call.serverStreamingOpened, r'.1.2.sent)) =
      some (true, false, [⟨userHeader, [pluginHeader], bothHeaders, [0]⟩,
        ⟨userHeader, [pluginHeader], bothHeaders, [1]⟩]) := by
    decide +kernel
  obtain ⟨⟨⟨event₁, s₁⟩, w₁⟩, hfirst, hrest⟩ := Option.bind_eq_some_iff.mp hrun
  obtain ⟨⟨⟨event₂, s₂⟩, w₂⟩, hsecond, heq⟩ := Option.map_eq_some_iff.mp hrest
  obtain ⟨hevent, heq⟩ := Prod.mk.inj heq
  obtain ⟨hclosed, hsent⟩ := Prod.mk.inj heq
  obtain rfl := Option.isNone_iff_eq_none.mp hevent
  have hprepared₁ : (start plainCall).Prepared firstBatch :=
    ⟨fun _ _ _ _ _ hreturned => absurd rfl hreturned,
      fun hopened => absurd hopened Bool.false_ne_true⟩
  -- the second batch brings the metadata, and the first one left no stream open
  have hprepared₂ : s₁.Prepared firstBatch :=
    ⟨fun _ _ _ _ _ _ => rfl, fun hopened => absurd (hclosed.symm.trans hopened) Bool.false_ne_true⟩
  exact ⟨s₁, w₁, event₂, s₂, w₂, hfirst, hsecond, hsent, mergedOnce_prepared
    ((Relation.ReflTransGen.single (.startBatch firstBatch hprepared₁ hfirst)).tail
      (.startBatch firstBatch hprepared₂ hsecond))⟩

/-- Behind a batch that threw, a second one without metadata sends the values of the plugin
twice. -/
theorem mergedTwice : ∃ s₁ w₁ event s₂ w₂,
    (start plainCall).startBatch firstBatch { env := floodedSession } = some ((none, s₁), w₁) ∧
      s₁.startBatch { ops := { recvStatusOnClient := true }, returns := pluginHeader } w₁ =
        some ((event, s₂), w₂) ∧ ¬s₂.MergedOnce := by
  have hrun : (((start plainCall).startBatch firstBatch { env := floodedSession }).bind
      fun r => (r.1.2.startBatch
        { ops := { recvStatusOnClient := true }, returns := pluginHeader } r.2).map
          fun r' => (r.1.1.isNone, r'.1.2.sent.getLast?)) =
      some (true, some ⟨userHeader, [pluginHeader, pluginHeader],
        ⟨[(.name [98], .string [2]), (.name [97], .array [some [1], some [1]])], by decide⟩,
        [1]⟩) := by
    decide +kernel
  obtain ⟨⟨⟨event₁, s₁⟩, w₁⟩, hfirst, hrest⟩ := Option.bind_eq_some_iff.mp hrun
  obtain ⟨⟨⟨event₂, s₂⟩, w₂⟩, hsecond, heq⟩ := Option.map_eq_some_iff.mp hrest
  obtain ⟨hevent, hsent⟩ := Prod.mk.inj heq
  obtain rfl := Option.isNone_iff_eq_none.mp hevent
  refine ⟨s₁, w₁, event₂, s₂, w₂, hfirst, hsecond, fun hmerged => ?_⟩
  obtain ⟨values, hvalues, honce⟩ := hmerged _ (List.mem_of_getLast? hsent) (List.cons_ne_nil _ _)
  obtain rfl : pluginHeader = values := Option.some.inj hvalues
  exact absurd honce (by decide +kernel)

end LoadedCall

end GrpcLite
