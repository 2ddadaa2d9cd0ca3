import GrpcLite.Protocol.Ledger

/-!
# The invariant of the ledger

Four groups of facts that every step keeps: the counters agree with the flags of
the calls, the streams agree with their request sources and registrations, the
cache and the destructions agree with the owners, and the logs record nothing
forbidden.
-/

namespace GrpcLite

namespace Ledger

/-! ## Counters -/

/-- The counters and the list of a connection agree with the flags of the calls. -/
structure Counted (l : Ledger) : Prop where
  /-- The counter is the length of the list. -/
  count : ∀ k, (l.conns k).activeCount = (l.conns k).active.length
  /-- The list has no duplicates. -/
  nodup : ∀ k, (l.conns k).active.Nodup
  /-- The list holds the registered calls. -/
  mem : ∀ k c, c ∈ (l.conns k).active ↔
    (l.calls c).registered = true ∧ (l.calls c).connection = some k
  /-- A registered call is an owner with a stream. -/
  registered : ∀ c, (l.calls c).registered = true →
    (l.calls c).owned = true ∧ 0 < (l.calls c).streamId
  /-- An owner is a live call that has not given up its connection. -/
  owned : ∀ c, (l.calls c).owned = true →
    c < l.nextCall ∧ (l.calls c).live = true ∧ (l.calls c).cleared = false
  /-- The owner counter counts the owners. -/
  owners : ∀ k, (l.conns k).ownerCount = Nat.count (fun c => l.Owns c k) l.nextCall

namespace Counted

variable {l l' : Ledger}

theorem congr (h : Counted l) (hnext : l'.nextCall = l.nextCall)
    (hcalls : ∀ c, (l'.calls c).link = (l.calls c).link)
    (hconns : ∀ k, (l'.conns k).active = (l.conns k).active ∧
      (l'.conns k).activeCount = (l.conns k).activeCount ∧
      (l'.conns k).ownerCount = (l.conns k).ownerCount) : Counted l' := by
  refine ⟨fun k => ?_, fun k => ?_, fun k c => ?_, fun c => ?_, fun c => ?_, fun k => ?_⟩
  · rw [(hconns k).1, (hconns k).2.1]
    exact h.count k
  · rw [(hconns k).1]
    exact h.nodup k
  · obtain ⟨-, hconn, -, hreg, -⟩ := CallView.of_link (hcalls c)
    rw [(hconns k).1, hreg, hconn]
    exact h.mem k c
  · obtain ⟨-, -, hid, hreg, hown, -⟩ := CallView.of_link (hcalls c)
    rw [hreg, hown, hid]
    exact h.registered c
  · obtain ⟨hlive, -, -, -, hown, hcl⟩ := CallView.of_link (hcalls c)
    rw [hown, hlive, hcl, hnext]
    exact h.owned c
  · rw [(hconns k).2.2, h.owners k, hnext]
    refine count_congr fun c _ => ?_
    obtain ⟨-, hconn, -, -, hown, -⟩ := CallView.of_link (hcalls c)
    rw [Owns, Owns, hown, hconn]

/-- A change of one connection that leaves its counters alone. -/
theorem setConn (h : Counted l) (k : ConnId) {f : ConnView → ConnView}
    (hf : ∀ v, (f v).active = v.active ∧ (f v).activeCount = v.activeCount ∧
      (f v).ownerCount = v.ownerCount) : Counted (l.setConn k f) := by
  refine h.congr rfl (fun _ => rfl) fun k' => ?_
  rw [setConn_conns]
  split
  · next hk =>
    rw [hk]
    exact hf _
  · exact ⟨rfl, rfl, rfl⟩

/-- A change of one call that leaves its link alone. -/
theorem setCall (h : Counted l) (c : CallId) {f : CallView → CallView}
    (hf : ∀ v, (f v).link = v.link) : Counted (l.setCall c f) := by
  refine h.congr rfl (fun c' => ?_) fun _ => ⟨rfl, rfl, rfl⟩
  rw [setCall_calls]
  split
  · next hc => rw [hc, hf]
  · rfl

/-- A call leaves the list. -/
theorem unregister (h : Counted l) {k : ConnId} {c : CallId}
    (hreg : (l.calls c).registered = true) (hconn : (l.calls c).connection = some k)
    (f : ConnView → List StreamEntry) :
    Counted ((l.setConn k fun v => { v with
      active := v.active.erase c, activeCount := v.activeCount - 1
      streams := f v }).setCall c fun v => { v with registered := false }) := by
  have hmem : c ∈ (l.conns k).active := (h.mem k c).mpr ⟨hreg, hconn⟩
  refine ⟨fun k' => ?_, fun k' => ?_, fun k' c' => ?_, fun c' => ?_, fun c' => ?_, fun k' => ?_⟩
  · rw [setCall_conns, setConn_conns]
    split
    · rw [List.length_erase_of_mem hmem, h.count k]
    · exact h.count k'
  · rw [setCall_conns, setConn_conns]
    split
    · exact (h.nodup k).erase c
    · exact h.nodup k'
  · rw [setCall_conns, setConn_conns, setCall_calls]
    by_cases hc : c' = c
    · rw [if_pos hc, hc]
      refine ⟨fun hin => ?_, fun hr => absurd hr.1 Bool.false_ne_true⟩
      split at hin
      · exact absurd hin (h.nodup k).not_mem_erase
      · next hk =>
        have hconn' := ((h.mem k' c).mp hin).2
        exact absurd (Option.some.inj (hconn.symm.trans hconn')).symm hk
    · rw [if_neg hc]
      split
      · next hk =>
        rw [hk]
        exact (List.mem_erase_of_ne hc).trans (h.mem k c')
      · exact h.mem k' c'
  · rw [setCall_calls]
    split
    · intro hr
      exact absurd hr Bool.false_ne_true
    · exact h.registered c'
  · rw [setCall_calls]
    split
    · next hc =>
      rw [hc]
      exact h.owned c
    · exact h.owned c'
  · refine Eq.trans ?_ ((h.owners k').trans (count_congr fun c' _ => ?_))
    · rw [setCall_conns, setConn_conns]
      split
      · next hk => rw [hk]
      · rfl
    · rw [Owns, Owns, setCall_calls]
      split
      · next hc => rw [hc, setConn_calls]
      · rfl

theorem drive {k : ConnId} (h : Counted l) (hs : Drive k l l') : Counted l' := by
  cases hs with
  | log | source => exact h.congr rfl (fun _ => rfl) fun _ => ⟨rfl, rfl, rfl⟩
  | die | drain | streams | receive => exact h.setConn k fun _ => ⟨rfl, rfl, rfl⟩
  | deliver streamId c bytes hdead huser =>
    refine Counted.setCall (h.setConn k fun _ => ?_) c fun _ => ?_
    · exact ⟨rfl, rfl, rfl⟩
    · rfl
  | close c hreg hconn => exact h.setCall c fun _ => rfl
  | unregister c hreg hconn =>
    exact h.unregister hreg hconn _

theorem not_registered (h : Counted l) {c : CallId} (howned : (l.calls c).owned = false) :
    (l.calls c).registered = false := by
  by_contra hreg
  rw [Bool.not_eq_false] at hreg
  exact Bool.false_ne_true (howned.symm.trans (h.registered c hreg).1)

/-- A change of a call that is not an owner and stays none. -/
theorem setCall_unowned (h : Counted l) (c : CallId) {f : CallView → CallView}
    (howned : (l.calls c).owned = false)
    (hf : (f (l.calls c)).owned = false ∧ (f (l.calls c)).registered = false) :
    Counted (l.setCall c f) := by
  refine ⟨h.count, h.nodup, fun k c' => ?_, fun c' => ?_, fun c' => ?_, fun k => ?_⟩
  · rw [setCall_conns, setCall_calls]
    split
    · next hc =>
      rw [hc, h.mem k c, h.not_registered howned, hf.2]
      simp only [Bool.false_eq_true, false_and]
    · exact h.mem k c'
  · rw [setCall_calls]
    split
    · rw [hf.2]
      exact fun hr => absurd hr Bool.false_ne_true
    · exact h.registered c'
  · rw [setCall_calls]
    split
    · rw [hf.1]
      exact fun hr => absurd hr Bool.false_ne_true
    · exact h.owned c'
  · refine (h.owners k).trans (count_congr fun c' _ => ?_)
    rw [Owns, Owns, setCall_calls]
    split
    · next hc =>
      rw [hc, howned, hf.1]
      simp only [Bool.false_eq_true, false_and]
    · rfl

theorem newCall (h : Counted l) (k : ConnId) : Counted { l with
    calls := Function.update l.calls l.nextCall { live := true, connection := some k }
    nextCall := l.nextCall + 1 } := by
  have hown : (l.calls l.nextCall).owned = false := by
    by_contra hown
    rw [Bool.not_eq_false] at hown
    exact absurd (h.owned _ hown).1 (Nat.lt_irrefl _)
  have h' : Counted (l.setCall l.nextCall fun _ => { live := true, connection := some k }) :=
    h.setCall_unowned l.nextCall hown ⟨rfl, rfl⟩
  refine ⟨h'.count, h'.nodup, h'.mem, h'.registered, fun c hc => ?_, fun k' => ?_⟩
  · obtain ⟨hlt, hrest⟩ := h'.owned c hc
    exact ⟨Nat.lt_succ_of_lt hlt, hrest⟩
  · refine (h'.owners k').trans ?_
    rw [Nat.count_succ, if_neg]
    · rfl
    · rw [Owns]
      simp only [Function.update_self, Bool.false_eq_true, false_and, not_false_eq_true]

theorem register (h : Counted l) {k : ConnId} {c : CallId} (hc : c < l.nextCall)
    (hlive : (l.calls c).live = true) (hcleared : (l.calls c).cleared = false)
    (hconn : (l.calls c).connection = some k) (howned : (l.calls c).owned = false)
    (hpos : 0 < (l.calls c).streamId) (f : ConnView → List StreamEntry) :
    Counted ((l.setConn k fun v => { v with
      streams := f v, active := c :: v.active
      activeCount := v.activeCount + 1, ownerCount := v.ownerCount + 1 }).setCall c fun v =>
        { v with registered := true, owned := true }) := by
  have hnot : c ∉ (l.conns k).active := by
    rw [h.mem k c, h.not_registered howned]
    simp only [Bool.false_eq_true, false_and, not_false_eq_true]
  refine ⟨fun k' => ?_, fun k' => ?_, fun k' c' => ?_, fun c' => ?_, fun c' => ?_, fun k' => ?_⟩
  · rw [setCall_conns, setConn_conns]
    split
    · rw [List.length_cons, h.count k]
    · exact h.count k'
  · rw [setCall_conns, setConn_conns]
    split
    · exact List.nodup_cons.mpr ⟨hnot, h.nodup k⟩
    · exact h.nodup k'
  · rw [setCall_conns, setConn_conns, setCall_calls]
    by_cases hcc : c' = c
    · rw [if_pos hcc, hcc, setConn_calls, hconn]
      split
      · next hk => simp only [List.mem_cons, true_or, hk, and_self]
      · next hk =>
        rw [h.mem k' c, hconn, h.not_registered howned]
        simp only [Bool.false_eq_true, false_and, true_and, Option.some.injEq, false_iff]
        exact fun hkk => hk hkk.symm
    · rw [if_neg hcc]
      split
      · next hk =>
        rw [hk, List.mem_cons]
        exact ⟨fun hm => (h.mem k c').mp (hm.resolve_left hcc), fun hm => .inr ((h.mem k c').mpr hm)⟩
      · exact h.mem k' c'
  · rw [setCall_calls]
    split
    · exact fun _ => ⟨rfl, hpos⟩
    · exact h.registered c'
  · rw [setCall_calls]
    split
    · next hcc =>
      rw [hcc]
      exact fun _ => ⟨hc, hlive, hcleared⟩
    · exact h.owned c'
  · rw [setCall_conns, setConn_conns]
    have hother : ∀ j, j ≠ c → (((l.setConn k fun v => { v with
        streams := f v, active := c :: v.active
        activeCount := v.activeCount + 1, ownerCount := v.ownerCount + 1 }).setCall c fun v =>
          { v with registered := true, owned := true }).Owns j k' ↔ l.Owns j k') := by
      intro j hj
      rw [Owns, Owns, setCall_calls, if_neg hj]
      rfl
    by_cases hk : k' = k
    · rw [if_pos hk, hk]
      refine Eq.trans (congrArg (· + 1) (h.owners k)) (Eq.symm (count_insert hc ?_ ?_ ?_))
      · rw [Owns, howned]
        simp only [Bool.false_eq_true, false_and, not_false_eq_true]
      · rw [Owns, setCall_calls, if_pos rfl]
        exact ⟨rfl, hconn⟩
      · exact fun j hj => hk ▸ hother j hj
    · rw [if_neg hk, h.owners k']
      refine count_congr fun j _ => ?_
      by_cases hj : j = c
      · rw [Owns, Owns, setCall_calls, if_pos hj, hj, howned]
        simp only [Bool.false_eq_true, false_and, setConn_calls, hconn, Option.some.injEq,
          true_and, false_iff]
        exact fun hkk => hk hkk.symm
      · exact (hother j hj).symm

theorem clearOwner (h : Counted l) {k : ConnId} {c : CallId} (forget : Bool)
    (hconn : (l.calls c).connection = some k) (hreg : (l.calls c).registered = false) :
    Counted ((l.setConn k fun v => { v with
      ownerCount := if (l.calls c).owned then v.ownerCount - 1 else v.ownerCount }).setCall c
        fun v => { v with
          owned := false, cleared := true, connection := if forget then none else v.connection }) := by
  by_cases howned : (l.calls c).owned = true
  · have hlt := (h.owned c howned).1
    refine ⟨fun k' => ?_, fun k' => ?_, fun k' c' => ?_, fun c' => ?_, fun c' => ?_, fun k' => ?_⟩
    · rw [setCall_conns, setConn_conns]
      split
      · exact h.count k
      · exact h.count k'
    · rw [setCall_conns, setConn_conns]
      split
      · exact h.nodup k
      · exact h.nodup k'
    · have hactive : (((l.setConn k fun v => { v with
          ownerCount := if (l.calls c).owned then v.ownerCount - 1 else v.ownerCount }).conns
            k').active) = (l.conns k').active := by
        rw [setConn_conns]
        split
        · next hk => rw [hk]
        · rfl
      rw [setCall_conns, hactive, h.mem k' c', setCall_calls]
      split
      · next hc =>
        rw [hc, setConn_calls, hreg]
        simp only [Bool.false_eq_true, false_and]
      · rfl
    · rw [setCall_calls]
      split
      · rw [setConn_calls, hreg]
        exact fun hr => absurd hr Bool.false_ne_true
      · exact h.registered c'
    · rw [setCall_calls]
      split
      · exact fun hr => absurd hr Bool.false_ne_true
      · exact h.owned c'
    · have hother : ∀ j, j ≠ c → (l.Owns j k' ↔ ((l.setConn k fun v => { v with
          ownerCount := if (l.calls c).owned then v.ownerCount - 1 else v.ownerCount }).setCall c
            fun v => { v with
              owned := false, cleared := true
              connection := if forget then none else v.connection }).Owns j k') := by
        intro j hj
        rw [Owns, Owns, setCall_calls, if_neg hj]
        rfl
      rw [setCall_conns, setConn_conns]
      by_cases hk : k' = k
      · rw [if_pos hk]
        simp only [howned, ite_true]
        have hins := count_insert (n := l.nextCall) hlt
          (p := fun j => ((l.setConn k fun v => { v with
            ownerCount := if (l.calls c).owned then v.ownerCount - 1 else v.ownerCount }).setCall c
              fun v => { v with
                owned := false, cleared := true
                connection := if forget then none else v.connection }).Owns j k')
          (q := fun j => l.Owns j k') ?_ ⟨howned, hk ▸ hconn⟩ hother
        · rw [← hk, h.owners k', hins, Nat.add_sub_cancel]
          simp only [howned, ite_true]
          rfl
        · rw [Owns, setCall_calls, if_pos rfl]
          simp only [Bool.false_eq_true, false_and, not_false_eq_true]
      · rw [if_neg hk, h.owners k']
        refine count_congr fun j _ => ?_
        by_cases hj : j = c
        · rw [Owns, Owns, setCall_calls, if_pos hj, hj, hconn]
          simp only [Option.some.injEq, Bool.false_eq_true, false_and, iff_false, not_and]
          exact fun _ hkk => hk hkk.symm
        · exact hother j hj
  · rw [Bool.not_eq_true] at howned
    refine Counted.setCall_unowned (h.setConn k fun v => ?_) c howned ?_
    · simp only [howned, Bool.false_eq_true, ite_false, and_self]
    · exact ⟨rfl, hreg⟩

/-- A connection that no call points at starts with empty counters. -/
theorem newConn (h : Counted l) (hhome : ∀ c, (l.calls c).connection ≠ some l.nextConn) :
    Counted { l with
      conns := Function.update l.conns l.nextConn {}, nextConn := l.nextConn + 1 } := by
  have hconns k : Function.update l.conns l.nextConn {} k =
      if k = l.nextConn then {} else l.conns k := Function.update_apply ..
  refine ⟨fun k => ?_, fun k => ?_, fun k c => ?_, h.registered, h.owned, fun k => ?_⟩
  · simp only [hconns]
    split
    · rfl
    · exact h.count k
  · simp only [hconns]
    split
    · exact List.nodup_nil
    · exact h.nodup k
  · simp only [hconns]
    split
    · next hk =>
      rw [hk]
      exact ⟨fun hin => absurd hin List.not_mem_nil, fun hc => absurd hc.2 (hhome c)⟩
    · exact h.mem k c
  · simp only [hconns]
    split
    · next hk =>
      rw [hk]
      exact (Nat.count_iff_forall_not.mpr fun c _ hc => hhome c hc.2).symm
    · exact h.owners k

theorem step (h : Counted l) (hhome : ∀ c, (l.calls c).connection ≠ some l.nextConn)
    (hs : Step l l') : Counted l' := by
  cases hs with
  | drive k hd => exact h.drive hd
  | newConn => exact h.newConn hhome
  | newCall k hk => exact h.newCall k
  | submit k c streamId hc hlive hcleared hconn howned hold hbytes hpos hnew =>
    refine Counted.setConn (h.setCall_unowned c howned ?_) k fun _ => ?_
    · exact ⟨howned, h.not_registered howned⟩
    · exact ⟨rfl, rfl, rfl⟩
  | submitFailed c rv hold hreg hneg =>
    refine ⟨h.count, h.nodup, fun k c' => ?_, fun c' => ?_, fun c' => ?_, fun k => ?_⟩
    · rw [setCall_conns, setCall_calls, h.mem k c']
      split
      · next hc => rw [hc]
      · rfl
    · rw [setCall_calls]
      split
      · rw [hreg]
        exact fun hr => absurd hr Bool.false_ne_true
      · exact h.registered c'
    · rw [setCall_calls]
      split
      · next hc => exact hc ▸ h.owned c
      · exact h.owned c'
    · refine (h.owners k).trans (count_congr fun c' _ => ?_)
      rw [Owns, Owns, setCall_calls]
      split
      · next hc => rw [hc]
      · rfl
  | register k c hc hlive hcleared hconn howned hpos hdes hown =>
    exact h.register hc hlive hcleared hconn howned hpos _
  | clearOwner k c forget hconn hreg hdet => exact h.clearOwner forget hconn hreg
  | release c howned hdet hcleared =>
    have h' : Counted { l with releases := l.releases ++ [⟨c, true⟩] } :=
      h.congr rfl (fun _ => rfl) fun _ => ⟨rfl, rfl, rfl⟩
    exact h'.setCall_unowned c howned ⟨howned, h.not_registered howned⟩
  | uncache | cache => exact h.congr rfl (fun _ => rfl) fun _ => ⟨rfl, rfl, rfl⟩
  | markDetached k hcache => exact h.setConn k fun _ => ⟨rfl, rfl, rfl⟩
  | destroy k hcache hown hdes =>
    have h' : Counted { l with destroys := l.destroys ++ [⟨k, 0, false, 0⟩] } :=
      h.congr rfl (fun _ => rfl) fun _ => ⟨rfl, rfl, rfl⟩
    exact h'.setConn k fun _ => ⟨rfl, rfl, rfl⟩

end Counted

end Ledger

end GrpcLite
