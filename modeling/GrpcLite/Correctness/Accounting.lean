import GrpcLite.Refinement.Operations

/-!
# Owners, registrations and requests

The counters of a connection agree with its calls in every state that a run passes
through, connections are destroyed once and only without owner and cache entry, and
none is lost. Calls are released with their request detached, and nothing is done on
a dead connection.
-/

namespace GrpcLite

namespace World

/-- The counters, the lists and the calls agree, and so did every destruction. -/
structure Accounted (w : World) : Prop where
  /-- The owner counter counts the live calls that own the connection. -/
  owners : ∀ k, (w.conns k).streamOwnerCount = Nat.count (fun c => (w.calls c).live = true ∧
    (w.calls c).call.connectionOwned = true ∧ (w.calls c).call.connection = some k) w.nextCall
  /-- The stream counter is the length of the list. -/
  count : ∀ k, (w.conns k).activeStreamCount = (w.conns k).activeStreams.length
  /-- The list has no duplicates. -/
  nodup : ∀ k, (w.conns k).activeStreams.Nodup
  /-- The list holds the registered calls. -/
  registered : ∀ k c, c ∈ (w.conns k).activeStreams ↔
    (w.calls c).call.streamRegistered = true ∧ (w.calls c).call.connection = some k
  /-- A connection with an owner or a cache entry is not destroyed. -/
  alive : ∀ k, 0 < (w.conns k).streamOwnerCount ∨ w.ledger.Cached k → (w.conns k).destroyed = 0
  /-- No connection is destroyed twice. -/
  once : ∀ k, (w.conns k).destroyed ≤ 1
  /-- No connection was destroyed with an owner, a cache entry or a destruction before. -/
  destroys : ∀ r ∈ w.destroys, r.owners = 0 ∧ r.cached = false ∧ r.destroyed = 0

theorem accounted_of_sound {w : World} (h : w.Sound) : w.Accounted where
  owners := by
    intro k
    refine (h.inv.counted.owners k).trans (count_congr fun c _ => ⟨fun howns => ?_, fun hall => hall.2⟩)
    exact ⟨(h.inv.counted.owned c howns.1).2.1, howns⟩
  count := h.inv.counted.count
  nodup := h.inv.counted.nodup
  registered := h.inv.counted.mem
  alive := by
    intro k hk
    by_contra hdes
    rcases hk with hown | hcached
    · exact absurd (h.inv.housed.unowned k hdes) (Nat.ne_of_gt hown)
    · exact hdes (h.inv.alive_of_cached hcached).1
  once := h.inv.housed.once
  destroys := h.inv.logged.destroys

/-- The moves of a run pass through sound states. -/
theorem Steps.through_accounted {w w' : World} (h : Steps w w') (hs : w.Sound) :
    Relation.ReflTransGen (fun w₁ w₂ => Step w₁ w₂ ∧ w₂.Accounted) w w' := by
  induction h with
  | refl => exact .refl
  | tail hsteps hstep ih =>
    exact ih.tail ⟨hstep, accounted_of_sound ((hs.steps hsteps).step hstep)⟩

/-- In every state that a run passes through the counters agree with the calls, and between
two operations no connection is lost. -/
theorem Methods.accounted {env : Env} {config : Config} {w₀ w : World}
    (hrun : Methods { env := env, config := config } w₀) (hinside : Operations w₀ w) :
    w.Accounted ∧ (∀ k, k < w.nextConn → w.Kept k) ∧
      Relation.ReflTransGen (fun w₁ w₂ => Step w₁ w₂ ∧ w₂.Accounted)
        { env := env, config := config } w := by
  have hstart := orderly_start env config
  have hmade := Methods.made hrun hstart
  have hsteps := (Operations.orderly (hmade.operations.trans hinside) hstart).1
  have ho := (Operations.orderly hinside hmade.orderly).2
  exact ⟨accounted_of_sound ho.sound, fun k hk => ho.kept k hk id,
    Steps.through_accounted hsteps hstart.sound⟩

/-- A unary call owns its connection and gives it up again. -/
theorem accounted_closedExchange : ∃ w', Operations { env := closedExchange } w' ∧
    w'.nextConn = 1 ∧ (w'.conns 0).streamOwnerCount = 0 ∧ w'.Accounted ∧ w'.Kept 0 := by
  have hrun : (Proc.performUnary { key := [] } { env := closedExchange }).map
      (fun r => (r.2.nextConn, (r.2.conns 0).streamOwnerCount)) = some (1, 0) := by decide +kernel
  obtain ⟨⟨r, w'⟩, hperform, heq⟩ := Option.map_eq_some_iff.mp hrun
  obtain ⟨hnext, howners⟩ := Prod.mk.inj heq
  have hop : Operations { env := closedExchange } w' := .single (.unary _ hperform)
  obtain ⟨haccounted, hkept, -⟩ := Methods.accounted .refl hop
  exact ⟨w', hop, hnext, howners, haccounted, hkept 0 (hnext ▸ Nat.zero_lt_one)⟩

/-- Requests are detached before their call goes, and dead connections are left alone. -/
structure Untouched (w : World) : Prop where
  /-- Of every released call the stream was closed or reset, or its connection dead. -/
  releases : ∀ r ∈ w.releases, r.detached = true
  /-- No session function, read or write was called on a dead or destroyed connection. -/
  io : ∀ r ∈ w.ioLog, r.dead = false ∧ r.destroyed = false
  /-- The library asked for the request bytes of live calls only. -/
  sources : ∀ r ∈ w.sourceReads, r.2 = true

/-- No run leaves a request source dangling or uses a dead connection. -/
theorem Methods.untouched {env : Env} {config : Config} {w₀ w : World}
    (hrun : Methods { env := env, config := config } w₀) (hinside : Operations w₀ w) :
    w.Untouched := by
  have hmade := Methods.made hrun (orderly_start env config)
  have hlogged := (Operations.orderly hinside hmade.orderly).2.sound.inv.logged
  exact ⟨hlogged.releases, hlogged.io, hlogged.sources⟩

/-- A unary call is released behind the close of its stream. -/
theorem untouched_closedExchange : ∃ w', Operations { env := closedExchange } w' ∧
    w'.releases ≠ [] ∧ w'.ioLog ≠ [] ∧ w'.Untouched := by
  have hrun : (Proc.performUnary { key := [] } { env := closedExchange }).map
      (fun r => (r.2.releases.isEmpty, r.2.ioLog.isEmpty)) = some (false, false) := by
    decide +kernel
  obtain ⟨⟨r, w'⟩, hperform, heq⟩ := Option.map_eq_some_iff.mp hrun
  obtain ⟨hreleases, hio⟩ := Prod.mk.inj heq
  have hop : Operations { env := closedExchange } w' := .single (.unary _ hperform)
  exact ⟨w', hop, by simpa using hreleases, by simpa using hio, Methods.untouched .refl hop⟩

end World

end GrpcLite
