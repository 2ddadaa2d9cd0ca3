import GrpcLite.Refinement.Details

/-!
# Orderly states

What holds between two operations of the user: the state is sound and settled, no
connection is lost, cached connections can be used again or have an owner, usable
connections carry no error detail and have nothing to send, and every live call is
an owner or has given up its connection. During an operation this holds apart from the connection and
the call it works on.
-/

namespace GrpcLite

namespace World

/-- A call with a stream owns its connection, or it has given it up. -/
def Seated (w : World) (c : CallId) : Prop :=
  (∃ k, w.Attached c k ∧ (w.calls c).call.connectionOwned = true ∧
      0 < (w.calls c).call.streamId) ∨
    ((w.calls c).call.connection = none ∧ (w.ledger.calls c).cleared = true)

theorem Seated.same {w w' : World} {c : CallId} (h : w.Seated c) (hp : SamePlace w w' c) :
    w'.Seated c := by
  rcases h with ⟨k, hat, howned, hid⟩ | ⟨hconn, hcleared⟩
  · exact .inl ⟨k, hat.same hp, hp.owned.trans howned, lt_of_lt_of_eq hid hp.streamId.symm⟩
  · exact .inr ⟨hp.connection.trans hconn, hp.cleared.trans hcleared⟩

/-- The state is in order apart from some connections and calls. -/
structure Around (K : ConnId → Prop) (C : CallId → Prop) (w : World) : Prop where
  /-- What holds between any two moves. -/
  sound : w.Sound
  /-- Calls that know their stream closed have detached requests. -/
  settled : Ledger.Settled w.ledger
  /-- Registered streams are not cancelled. -/
  calm : w.Calm
  /-- No connection is lost. -/
  kept : ∀ k, k < w.nextConn → ¬K k → w.Kept k
  /-- Cached connections can be used again or have an owner. -/
  fit : ∀ k, ¬K k → w.Fit k
  /-- Usable connections carry no detail and have nothing to send. -/
  idle : ∀ k, ¬K k → w.Idle k
  /-- The cache is not too large. -/
  room : w.cache.length ≤ Proc.maxPersistentConnections
  /-- Live calls own their connection or have given it up. -/
  seated : ∀ c, ¬C c → (w.calls c).live = true → w.Seated c

/-- The state between two operations. -/
abbrev Orderly (w : World) : Prop := w.Around (fun _ => False) (fun _ => False)

namespace Around

variable {K : ConnId → Prop} {C : CallId → Prop} {w w' : World}

/-- The calls changed, but not their places. -/
theorem relocate (h : Around K C w) (ht : Tidy w w') (hconns : w'.conns = w.conns)
    (hcache : w'.cache = w.cache) (hnext : w'.nextConn = w.nextConn)
    (hcalls : ∀ c, ¬C c → SamePlace w w' c) : Around K C w' where
  sound := h.sound.keeps ht.keeps
  settled := ht.settled h.settled
  calm := fun c => ht.calm c (h.calm c)
  kept := fun k hk hn => (Proc.kept_of_conns hconns hcache).mpr (h.kept k (hnext ▸ hk) hn)
  fit := fun k hn => (Proc.fit_of_conns hconns hcache).mpr (h.fit k hn)
  idle := fun k hn => by
    unfold Idle
    rw [hconns]
    exact h.idle k hn
  room := hcache ▸ h.room
  seated := fun c hc hlive =>
    (h.seated c hc ((hcalls c hc).live ▸ hlive)).same (hcalls c hc)

theorem widen {K' : ConnId → Prop} {C' : CallId → Prop} (h : Around K C w) (hK : ∀ k, K k → K' k)
    (hC : ∀ c, C c → C' c) : Around K' C' w :=
  ⟨h.sound, h.settled, h.calm, fun k hk hn => h.kept k hk fun hin => hn (hK k hin),
    fun k hn => h.fit k fun hin => hn (hK k hin), fun k hn => h.idle k fun hin => hn (hK k hin),
    h.room, fun c hn => h.seated c fun hin => hn (hC c hin)⟩

/-- A change of one connection. -/
theorem move {k : ConnId} (h : Around (· = k) C w) (ht : Tidy w w') (hre : Rehouse k w w')
    (hcalls : ∀ c, ¬C c → SamePlace w w' c) : Around (· = k) C w' where
  sound := h.sound.keeps ht.keeps
  settled := ht.settled h.settled
  calm := fun c => ht.calm c (h.calm c)
  kept := fun k' hk' hne => hre.others k' hne (h.kept k' (hre.nextConn ▸ hk') hne)
  fit := fun k' hne => hre.fit k' hne (h.fit k' hne)
  idle := fun k' hne => by
    unfold Idle
    rw [hre.conns k' hne]
    exact h.idle k' hne
  room := Nat.le_trans hre.size h.room
  seated := fun c hc hlive =>
    (h.seated c hc ((hcalls c hc).live ▸ hlive)).same (hcalls c hc)

theorem turn {k : ConnId} (h : Around (· = k) C w) (ht : Turn k w w') : Around (· = k) C w' :=
  h.move ht.tidy (.drives ht.drives) fun c _ => .drives ht.drives c

/-- The connection is in order again. -/
theorem settle {k : ConnId} (h : Around (· = k) C w) (hkept : k < w.nextConn → w.Kept k)
    (hfit : w.Fit k) (hidle : w.Idle k) : Around (fun _ => False) C w where
  sound := h.sound
  settled := h.settled
  calm := h.calm
  kept := fun k' hk' _ => by
    by_cases hk : k' = k
    · subst hk
      exact hkept hk'
    · exact h.kept k' hk' hk
  fit := fun k' _ => by
    by_cases hk : k' = k
    · subst hk
      exact hfit
    · exact h.fit k' hk
  idle := fun k' _ => by
    by_cases hk : k' = k
    · subst hk
      exact hidle
    · exact h.idle k' hk
  room := h.room
  seated := h.seated

/-- The call is in order again. -/
theorem seat {c : CallId} (h : Around K (· = c) w)
    (hc : (w.calls c).live = true → w.Seated c) : Around K (fun _ => False) w where
  sound := h.sound
  settled := h.settled
  calm := h.calm
  kept := h.kept
  fit := h.fit
  idle := h.idle
  room := h.room
  seated := fun c' _ hlive => by
    by_cases he : c' = c
    · subst he
      exact hc hlive
    · exact h.seated c' he hlive

/-- The end of a call. -/
theorem gone {k : ConnId} {c : CallId} (h : Around (· = k) (· = c) w) (hg : Gone k c w w')
    (hkept : w'.Kept k) (hfit : w'.Fit k) (hidle : w'.Idle k) : w'.Orderly := by
  have hmoved := h.move hg.tidy hg.rehouse fun c' hc' => hg.others c' hc'
  refine (hmoved.settle (fun _ => hkept) hfit hidle).seat fun hlive => ?_
  exact absurd (hg.dead.symm.trans hlive) Bool.false_ne_true

end Around

/-- A connection with an owner is kept, and fit to stay in the cache. -/
theorem kept_of_owned {w : World} (hs : w.Sound) {c : CallId} {k : ConnId}
    (hconn : (w.calls c).call.connection = some k)
    (howned : (w.calls c).call.connectionOwned = true) (hp : w.Placed k) : w.Kept k ∧ w.Fit k := by
  have hpos : 0 < (w.conns k).streamOwnerCount := hs.inv.ownerCount_pos howned hconn
  exact ⟨hp.imp_right (Or.imp_left fun hdet => ⟨hdet, hpos⟩), fun _ => .inr hpos⟩

end World

end GrpcLite
