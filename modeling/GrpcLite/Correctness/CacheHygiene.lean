import GrpcLite.Refinement.Operations

/-!
# The persistent cache

Between two operations the cache holds usable or owned connections, each under
one key and not too many of them. A lookup gives a usable connection that is stored
under its key and carries no error detail, and it removes what it rejects before a
new connection takes the place.
-/

namespace GrpcLite

namespace World

/-- The cache is in order. -/
structure CacheKept (w : World) : Prop where
  /-- Cached connections are usable or have an owner. -/
  fit : ∀ entry ∈ w.cache, (w.conns entry.connection).usable = true ∨
    0 < (w.conns entry.connection).streamOwnerCount
  /-- No connection is stored under two keys. -/
  conns : (w.cache.map CacheEntry.connection).Nodup
  /-- No key has two entries. -/
  keys : (w.cache.map CacheEntry.key).Nodup
  /-- The cache is not too large. -/
  room : w.cache.length ≤ Proc.maxPersistentConnections
  /-- A connection outside the cache has an owner or is destroyed. -/
  kept : ∀ k, k < w.nextConn → w.Kept k

theorem cacheKept_of_orderly {w : World} (h : w.Orderly) : w.CacheKept where
  fit := fun entry hentry => h.fit entry.connection id ⟨entry, hentry, rfl⟩
  conns := h.sound.inv.housed.conns
  keys := h.sound.inv.housed.keys
  room := h.room
  kept := fun k hk => h.kept k hk id

/-- The states in which an operation looks up the connection of a request: its first state,
and for a unary call the one behind an attempt that is repeated. -/
inductive LooksUp (w : World) (req : CallRequest) : World → Prop
  /-- The first lookup. -/
  | first : LooksUp w req w
  /-- The lookup of another attempt. -/
  | again {w₁ w₂ w₃ w₄ : World} {k : ConnId} {retryAttempt : Nat} {result : UnaryResult} {u : Unit}
      (hlook : LooksUp w req w₁)
      (hget : Proc.getPersistentConnection req.key req.deadlineAbsUs req.ssl w₁ =
        some (.ok k, w₂))
      (hperform : Proc.unaryCallPerformOnConnection k req retryAttempt w₂ = some (.ok result, w₃))
      (hevict : Exec.when (result.outcome.refusedKind = .goaway)
        (Proc.removeUnusablePersistentConnection req.key k) w₃ = some (u, w₄)) :
    LooksUp w req w₄

/-- At a lookup the state is in order but for an unusable connection under the key. -/
theorem LooksUp.orderly {w w₁ : World} {req : CallRequest} (h : LooksUp w req w₁)
    (ho : w.Orderly) : w₁.Orderly ∨ Proc.Stale w₁ req.key := by
  induction h with
  | first => exact .inl ho
  | again _ hget hperform hevict ih =>
    obtain ⟨ho₂, -, hstored⟩ := Proc.getPersistentConnection_orderly hget ih
    obtain ⟨hst₂, husable⟩ := hstored _ rfl
    obtain ⟨-, ⟨hst₃, ho₃, -⟩, -⟩ :=
      Proc.unaryCallPerformOnConnection_settles hperform ho₂ hst₂ husable
    obtain ⟨-, hremove⟩ | ⟨-, rfl⟩ := Exec.when_some.mp hevict
    · exact .inl (Proc.removeUnusable_orderly hremove hst₃ ho₃).2
    · exact ho₃

/-- What a lookup does. -/
structure LookupKept (w : World) (req : CallRequest) : Prop where
  /-- It gives the connection stored under the key, usable and without error detail. -/
  given : ∀ k w', Proc.getPersistentConnection req.key req.deadlineAbsUs req.ssl w =
    some (.ok k, w') → (w'.conns k).usable = true ∧ Proc.Stored w' req.key k ∧
      (w'.conns k).lastErrorDetail = none
  /-- The preflight of the stored connection rejects it only by making it unusable. -/
  preflight : ∀ k w', Proc.Stored w req.key k →
    Proc.preflightPersistentConnection k req.deadlineAbsUs w = some (false, w') →
    (w'.conns k).usable = false
  /-- A rejected connection is gone before another one takes its key. -/
  rejected : ∀ w', Proc.adoptPersistentConnection req.key req.deadlineAbsUs w = some (none, w') →
    w'.CacheKept ∧ ∀ entry ∈ w'.cache, entry.key ≠ req.key

theorem lookupKept {w : World} {req : CallRequest}
    (ho : w.Orderly ∨ Proc.Stale w req.key) : w.LookupKept req where
  given := by
    intro k w' hget
    obtain ⟨ho', -, hstored⟩ := Proc.getPersistentConnection_orderly hget ho
    obtain ⟨hst, husable⟩ := hstored k rfl
    exact ⟨husable, hst, (ho'.idle k id husable).1⟩
  preflight := by
    intro k w' hst hpre
    have hsound : w.Sound ∧ w.Calm := by
      rcases ho with ho | ⟨k', ha, -⟩
      · exact ⟨ho.sound, ho.calm⟩
      · exact ⟨ha.sound, ha.calm⟩
    exact (Proc.preflightPersistentConnection_turn hpre hsound.1 hsound.2
      (hst.entry hsound.1).2).2.1
  rejected := by
    intro w' hadopt
    obtain ⟨ho', -, hfree, -⟩ := Proc.adoptPersistentConnection_orderly hadopt ho
    exact ⟨cacheKept_of_orderly ho', hfree rfl⟩

/-- Between two methods of the user, and between two operations inside a method, the cache is
in order, and so is every lookup that the next operation makes. -/
theorem Methods.cacheKept {env : Env} {config : Config} {w₀ w : World}
    (hrun : Methods { env := env, config := config } w₀) (hinside : Operations w₀ w) :
    w.CacheKept ∧ ∀ req w₁, w.LooksUp req w₁ → w₁.LookupKept req := by
  have ho₀ : w₀.Orderly := (Methods.made hrun (orderly_start env config)).orderly
  have ho : w.Orderly := (Operations.orderly hinside ho₀).2
  exact ⟨cacheKept_of_orderly ho, fun req w₁ hlook => lookupKept (hlook.orderly ho)⟩

/-- A unary call leaves its connection in the cache. -/
theorem cacheKept_closedExchange : ∃ w', Operations { env := closedExchange } w' ∧
    w'.cache ≠ [] ∧ w'.CacheKept ∧ w'.LookupKept { key := [] } := by
  have hrun : (Proc.performUnary { key := [] } { env := closedExchange }).map
      (fun r => r.2.cache.isEmpty) = some false := by decide +kernel
  obtain ⟨⟨r, w'⟩, hperform, hcache⟩ := Option.map_eq_some_iff.mp hrun
  have hop : Operations { env := closedExchange } w' := .single (.unary _ hperform)
  obtain ⟨hkept, hlookup⟩ := Methods.cacheKept .refl hop
  exact ⟨w', hop, by simpa using hcache, hkept, hlookup _ _ .first⟩

end World

end GrpcLite
