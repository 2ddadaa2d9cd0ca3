import GrpcLite.Correctness.CacheHygiene

/-!
# Connections without stream identifiers

A session that has used up its stream identifiers refuses every further request.
That refusal is not fatal and leaves the connection in use: cached, and neither dead
nor draining. From a state in which it is in use some lookup gives it again, and once
something else has taken it out of use none does.
-/

namespace GrpcLite

/-- `NGHTTP2_ERR_STREAM_ID_NOT_AVAILABLE`. -/
def Nghttp2.errStreamIdNotAvailable : Int := -509

namespace World

/-- The library refused the request of a call for want of a stream identifier. -/
def Refused (w : World) (c : CallId) : Prop :=
  CallInput.submitted Nghttp2.errStreamIdNotAvailable ∈ (w.calls c).inputs

/-- A request on this connection was refused for want of a stream identifier. -/
def Exhausted (w : World) (k : ConnId) : Prop :=
  ∃ c, c < w.nextCall ∧ w.Refused c ∧ (w.calls c).start.connection = some k

/-- A connection that the cache holds and that is neither dead nor draining. -/
def InUse (w : World) (k : ConnId) : Prop :=
  w.ledger.Cached k ∧ (w.conns k).usable = true

/-- The state with other answers to come. -/
def answering (w : World) (script : List Answer) : World :=
  { w with env := { w.env with script := script } }

/-- Whatever the outside world answers from here on, no lookup of a run gives the connection, and
no call is created on it. -/
def NeverGivenAgain (w : World) (k : ConnId) : Prop :=
  ∀ script w', Operations (w.answering script) w' →
    (∀ req w₁ r w₂, w'.LooksUp req w₁ →
      Proc.getPersistentConnection req.key req.deadlineAbsUs req.ssl w₁ = some (r, w₂) →
      r ≠ .ok k) ∧
    ∀ c, w.nextCall ≤ c → c < w'.nextCall → (w'.calls c).start.connection ≠ some k

/-! ## What moves keep -/

/-- A step creates connections and takes none away. -/
theorem Step.nextConn_le {w w' : World} (hs : Step w w') : w.nextConn ≤ w'.nextConn := by
  cases hs with
  | keep hk =>
    cases hk with
    | drive k hd => exact Nat.le_of_eq (Ledger.Driven.of_drives hd.ledger).nextConn.symm
    | newConn => exact Nat.le_succ _
    | _ => exact Nat.le_refl _
  | _ => exact Nat.le_refl _

/-- A run creates connections and takes none away. -/
theorem Steps.nextConn_le {w w' : World} (hs : Steps w w') : w.nextConn ≤ w'.nextConn := by
  induction hs with
  | refl => exact Nat.le_refl _
  | tail _ hs ih => exact ih.trans hs.nextConn_le

/-- What holds of every state of a run: calls were started on existing connections, and the
entries of the cache carry their key. -/
structure Labelled (w : World) : Prop where
  /-- Calls were started on existing connections. -/
  started : ∀ c, c < w.nextCall → ∀ k, (w.calls c).start.connection = some k → k < w.nextConn
  /-- Entries carry their key. -/
  entries : ∀ entry ∈ w.cache, entry.identity = entry.key

/-- Nothing is created. -/
theorem Labelled.congr {w w' : World} (h : w.Labelled) (hs : Step w w')
    (hnext : w'.nextCall = w.nextCall) (hcache : ∀ entry ∈ w'.cache, entry ∈ w.cache) :
    w'.Labelled := by
  refine ⟨fun c hc k hk => ?_, fun entry he => h.entries entry (hcache entry he)⟩
  rw [hnext] at hc
  rw [(hs.extends hc).start] at hk
  exact (h.started c hc k hk).trans_le hs.nextConn_le

/-- A step keeps that. -/
theorem Labelled.step {w w' : World} (h : w.Labelled) (hs : Step w w') : w'.Labelled := by
  cases hs with
  | keep hk =>
    have hs' : Step w _ := .keep hk
    cases hk with
    | drive k hd =>
      have hdriven := Ledger.Driven.of_drives hd.ledger
      refine h.congr hs' hdriven.nextCall fun entry he => ?_
      have hcache : _ = w.cache := hdriven.cache
      exact hcache ▸ he
    | uncache p => exact h.congr hs' rfl fun entry he => List.mem_of_mem_filter he
    | cache key k hk hcache hkey hdes hdet =>
      refine ⟨h.started, fun entry he => ?_⟩
      rcases List.mem_append.mp he with he | he
      · exact h.entries entry he
      · rw [List.mem_singleton.mp he]
    | abort | newConn | clearOwner | release | markDetached | destroy =>
      exact h.congr hs' rfl fun _ => id
  | newCall k start hk hstart =>
    refine ⟨fun c hc k' hk' => ?_, h.entries⟩
    by_cases hnew : c = w.nextCall
    · subst hnew
      simp only [Function.update_self] at hk'
      obtain ⟨hconn, -⟩ := Proc.GrpcCall.Started.fields hstart
      exact Option.some.inj (hconn.symm.trans hk') ▸ hk
    · simp only [Function.update_of_ne hnew] at hk'
      exact h.started c (Nat.lt_of_le_of_ne (Nat.le_of_lt_succ hc) hnew) k' hk'
  | logSubmit k hdead hdes => exact h.congr (.logSubmit k hdead hdes) rfl fun _ => id
  | submit k c streamId hc hlive hcleared hconn howned hold hbytes hcompleted hpos hnew =>
    exact h.congr (.submit k c streamId hc hlive hcleared hconn howned hold hbytes hcompleted hpos
      hnew) rfl fun _ => id
  | submitFailed c rv hold hreg hneg =>
    exact h.congr (.submitFailed c rv hold hreg hneg) rfl fun _ => id
  | register k c hc hlive hcleared hconn howned hpos hdes hown =>
    exact h.congr (.register k c hc hlive hcleared hconn howned hpos hdes hown) rfl fun _ => id

/-- So does a run. -/
theorem Labelled.steps {w w' : World} (h : w.Labelled) (hs : Steps w w') : w'.Labelled := by
  induction hs with
  | refl => exact h
  | tail _ hs ih => exact ih.step hs

/-- An exhausted connection exists. -/
theorem Labelled.exhausted {w : World} {k : ConnId} (h : w.Labelled) (hk : w.Exhausted k) :
    k < w.nextConn := by
  obtain ⟨c, hc, -, hstart⟩ := hk
  exact h.started c hc k hstart

/-- A connection that no lookup can give any more. -/
def Retired (w : World) (k : ConnId) : Prop :=
  (w.conns k).detachedFromCache = true ∨ (w.conns k).destroyed ≠ 0 ∨ (w.conns k).dead = true ∨
    (w.conns k).draining = true

/-- Only the connection itself counts. -/
theorem Retired.congr {w w' : World} {k : ConnId} (h : w.Retired k)
    (hconn : w'.conns k = w.conns k) : w'.Retired k := by
  unfold Retired
  rw [hconn]
  exact h

/-- A move retires connections, and brings none back. -/
theorem Retired.step {w w' : World} {k : ConnId} (h : w.Retired k) (hs : Step w w')
    (hk : k < w.nextConn) : w'.Retired k := by
  have hset {w' : World} {k' : ConnId} {conn : H2Connection}
      (hw : w'.conns = Function.update w.conns k' conn)
      (hdet : (w.conns k').detachedFromCache = true → conn.detachedFromCache = true)
      (hdes : (w.conns k').destroyed ≠ 0 → conn.destroyed ≠ 0)
      (hdead : conn.dead = (w.conns k').dead)
      (hdrain : conn.draining = (w.conns k').draining) : w'.Retired k := by
    unfold Retired
    rw [hw, Function.update_apply]
    split
    · next heq =>
      subst heq
      rw [hdead, hdrain]
      exact h.imp hdet (Or.imp_left hdes)
    · exact h
  cases hs with
  | keep hkeep =>
    cases hkeep with
    | drive k' hd =>
      have hdriven := Ledger.Driven.of_drives hd.ledger
      by_cases heq : k = k'
      · subst heq
        obtain ⟨hdet, -, hdes⟩ := hdriven.place
        exact h.imp hdet.trans (Or.imp (fun hne hzero => hne (hdes.symm.trans hzero))
          (Or.imp hdriven.dead hdriven.draining))
      · have hview := hdriven.others k heq
        have hdes := congrArg ConnView.destroyed hview
        exact h.imp (congrArg ConnView.detached hview).trans
          (Or.imp (fun hne hzero => hne (hdes.symm.trans hzero))
            (Or.imp (congrArg ConnView.dead hview).trans (congrArg ConnView.draining hview).trans))
    | newConn conn hview hflag =>
      exact h.congr (Function.update_of_ne (Nat.ne_of_lt hk) ..)
    | clearOwner k' c forget hconn hreg hdet => exact hset rfl id id rfl rfl
    | markDetached k' hcache => exact hset rfl (fun _ => rfl) id rfl rfl
    | destroy k' hcache hown hdes =>
      exact hset rfl id (fun _ => Nat.succ_ne_zero _) rfl rfl
    | abort | release | uncache | cache => exact h.congr rfl
  | newCall | logSubmit | submitFailed => exact h.congr rfl
  | submit k' c streamId hc hlive hcleared hconn howned hold hbytes hcompleted hpos hnew =>
    exact hset rfl id id rfl rfl
  | register k' c hc hlive hcleared hconn howned hpos hdes hown =>
    exact hset rfl id id rfl rfl

/-- A retired connection stays retired. -/
theorem Retired.steps {w w' : World} {k : ConnId} (h : w.Retired k) (hs : Steps w w')
    (hk : k < w.nextConn) : w'.Retired k := by
  induction hs with
  | refl => exact h
  | tail hs hlast ih => exact ih.step hlast (hk.trans_le (Steps.nextConn_le hs))

/-- Between two operations a connection is in use or retired. -/
theorem retired_of_not_inUse {w : World} {k : ConnId} (ho : w.Orderly) (hk : k < w.nextConn)
    (hout : ¬w.InUse k) : w.Retired k := by
  rcases ho.kept k hk id with hcached | ⟨hdet, -⟩ | hdes
  · have hunusable : (w.conns k).usable ≠ true := fun husable => hout ⟨hcached, husable⟩
    simp only [H2Connection.usable, ne_eq, Bool.and_eq_true, Bool.not_eq_true', not_and_or,
      Bool.not_eq_false] at hunusable
    exact .inr (.inr hunusable)
  · exact .inl hdet
  · exact .inr (.inl hdes)

/-- A lookup gives no retired connection. -/
theorem Retired.notGiven {w w' : World} {k : ConnId} {req : CallRequest}
    {r : Except SetupError ConnId} (h : w.Retired k) (hk : k < w.nextConn)
    (ho : w.Orderly ∨ Proc.Stale w req.key)
    (hget : Proc.getPersistentConnection req.key req.deadlineAbsUs req.ssl w = some (r, w')) :
    r ≠ .ok k := by
  rintro rfl
  obtain ⟨ho', hund, hstored⟩ := Proc.getPersistentConnection_orderly hget ho
  obtain ⟨hst, husable⟩ := hstored k rfl
  obtain ⟨entry, hfind, rfl⟩ := hst
  obtain ⟨-, hdes, hdet⟩ := ho'.sound.inv.housed.entry entry (List.mem_of_find?_eq_some hfind)
  simp only [H2Connection.usable, Bool.and_eq_true, Bool.not_eq_true'] at husable
  rcases h.steps (Keeps.steps hund.keeps) hk with hr | hr | hr | hr
  · exact absurd (hdet.symm.trans hr) Bool.false_ne_true
  · exact hr hdes
  · exact absurd (husable.1.symm.trans hr) Bool.false_ne_true
  · exact absurd (husable.2.symm.trans hr) Bool.false_ne_true

end World

/-! ## Lookups -/

namespace Proc

open World

/-- With nothing to read, the preflight accepts a usable connection. -/
theorem preflightPersistentConnection_quiet {w : World} {k : ConnId} (deadline : Nat)
    (husable : (w.conns k).usable = true) :
    ∃ script w', preflightPersistentConnection k deadline (w.answering script) =
      some (true, w') := by
  have hpeek : ∃ script w', preflightRead k 1 false .tlsPreflightFailed (w.answering script) =
      some (none, w') := by
    have hrun : ∃ script, (preflightRead k 1 false .tlsPreflightFailed
        (w.answering script)).map Prod.fst = some none := by
      cases hssl : (w.conns k).ssl with
      | true =>
        refine ⟨[.sslRead (-1) Ssl.errorWantRead Errno.eagain], ?_⟩
        show ((if (w.conns k).ssl = true then _ else _ : Proc (Option Int))
          ((w.answering _).log k .read)).map Prod.fst = _
        rw [if_pos hssl]
        rfl
      | false =>
        refine ⟨[.recv (-1) Errno.eagain], ?_⟩
        show ((if (w.conns k).ssl = true then _ else _ : Proc (Option Int))
          ((w.answering _).log k .read)).map Prod.fst = _
        rw [if_neg (by rw [hssl]; exact Bool.false_ne_true)]
        rfl
    obtain ⟨script, hrun⟩ := hrun
    obtain ⟨⟨r, w'⟩, hread, rfl⟩ := Option.map_eq_some_iff.mp hrun
    exact ⟨script, w', hread⟩
  obtain ⟨script, w', hread⟩ := hpeek
  have hopen : ¬(!(w.conns k).usable) = true := by rw [husable]; exact Bool.false_ne_true
  by_cases hactive : (w.conns k).activeStreamCount > 0
  · refine ⟨script, w.answering script, Exec.bind_some.mpr ⟨w.conns k, _, rfl, ?_⟩⟩
    rw [if_neg hopen, if_pos hactive]
    rfl
  · refine ⟨script, w', Exec.bind_some.mpr ⟨w.conns k, _, rfl, ?_⟩⟩
    rw [if_neg hopen, if_neg hactive]
    exact Exec.bind_some.mpr ⟨none, w', hread, rfl⟩

/-- With nothing to read, a lookup gives a connection that is in use. -/
theorem getPersistentConnection_quiet {w : World} {k : ConnId} (ho : w.Orderly) (hl : w.Labelled)
    (hin : w.InUse k) : ∃ key script w', getPersistentConnection key 0 false
      (w.answering script) = some (.ok k, w') := by
  obtain ⟨⟨entry, hmem, rfl⟩, husable⟩ := hin
  obtain ⟨script, w', hpre⟩ := preflightPersistentConnection_quiet 0 husable
  have hfind : (w.cache.find? fun e => e.key = entry.key) = some entry := by
    cases hfound : w.cache.find? fun e => e.key = entry.key with
    | none => exact absurd (decide_eq_true rfl) (List.find?_eq_none.mp hfound entry hmem)
    | some found =>
      have hsame : found.key = entry.key := by simpa using List.find?_some hfound
      rw [List.inj_on_of_nodup_map ho.sound.inv.housed.keys (List.mem_of_find?_eq_some hfound)
        hmem hsame]
  refine ⟨entry.key, script, w', Exec.bind_some.mpr ⟨some entry.connection, w', ?_, rfl⟩⟩
  refine Exec.bind_some.mpr ⟨some entry, w.answering script, ?_, ?_⟩
  · show some (w.cache.find? fun e => e.key = entry.key, _) = _
    rw [hfind]
  refine Exec.bind_some.mpr ⟨w.conns entry.connection, w.answering script, rfl, ?_⟩
  rw [husable]
  refine Exec.bind_some.mpr ⟨true, w', hpre, ?_⟩
  rw [if_neg (by decide), if_neg (not_not_intro (hl.entries entry hmem))]
  rfl

end Proc

namespace World

/-- From one lookup of an operation to the next the state moves on. -/
theorem LooksUp.steps {w w₁ : World} {req : CallRequest} (h : w.LooksUp req w₁) (ho : w.Orderly) :
    Steps w w₁ := by
  induction h with
  | first => exact .refl
  | again hlook hget hperform hevict ih =>
    obtain ⟨ho₂, hund, hstored⟩ := Proc.getPersistentConnection_orderly hget (hlook.orderly ho)
    obtain ⟨hst₂, husable⟩ := hstored _ rfl
    obtain ⟨hsteps, ⟨hst₃, ho₃, -⟩, -⟩ :=
      Proc.unaryCallPerformOnConnection_settles hperform ho₂ hst₂ husable
    have hto₃ := ih.trans ((Keeps.steps hund.keeps).trans hsteps)
    obtain ⟨-, hremove⟩ | ⟨-, rfl⟩ := Exec.when_some.mp hevict
    · exact hto₃.trans (Keeps.steps (Proc.removeUnusable_orderly hremove hst₃ ho₃).1)
    · exact hto₃

/-- The calls created on the way were given connections that lookups returned. -/
def GivenBy (w : World) (req : CallRequest) (w₁ w' : World) : Prop :=
  ∀ c, w₁.nextCall ≤ c → c < w'.nextCall → ∃ w₂ k w₃, w.LooksUp req w₂ ∧
    Proc.getPersistentConnection req.key req.deadlineAbsUs req.ssl w₂ = some (.ok k, w₃) ∧
    (w'.calls c).start.connection = some k

/-- Nothing but moves on created calls follows. -/
theorem GivenBy.keeps {w w₁ w' w'' : World} {req : CallRequest} (h : w.GivenBy req w₁ w')
    (hk : Keeps w' w'') : w.GivenBy req w₁ w'' := by
  intro c hc hc'
  rw [Keeps.nextCall hk] at hc'
  rw [(Keeps.extends hk c).start]
  exact h c hc hc'

end World

namespace Proc

open World

/-- The attempts of a unary call create calls on connections that their lookups returned. -/
theorem unaryAttempts_given {req : CallRequest} {retryAttempt left : Nat} {r : UnaryAttempts}
    {w w₁ w' : World} (h : unaryAttempts req retryAttempt left w₁ = some (r, w'))
    (hleft : retryAttempt + left = 2) (ho : w.Orderly) (hlook : w.LooksUp req w₁)
    (hlast : left = 0 → w₁.Orderly) : w.GivenBy req w₁ w' := by
  induction left generalizing w₁ retryAttempt with
  | zero =>
    obtain ⟨-, rfl⟩ := Exec.pure_some.mp h
    exact fun c hc hc' => absurd hc' (Nat.not_lt.mpr hc)
  | succ left ih =>
    obtain ⟨got, w₂, hget, h⟩ := Exec.bind_some.mp h
    obtain ⟨ho₂, hund, hstored⟩ := getPersistentConnection_orderly hget (hlook.orderly ho)
    have hnext₂ := Keeps.nextCall hund.keeps
    cases got with
    | error error =>
      obtain ⟨code, w₃, hstatus, h⟩ := Exec.bind_some.mp h
      obtain ⟨-, rfl⟩ := Exec.pure_some.mp h
      have hnext₃ := Keeps.nextCall (setupFailureStatus_orderly hstatus ho₂).1
      intro c hc hc'
      rw [hnext₃, hnext₂] at hc'
      exact absurd hc' (Nat.not_lt.mpr hc)
    | ok k =>
      obtain ⟨hst₂, husable⟩ := hstored k rfl
      obtain ⟨attempt, w₃, hperform, h⟩ := Exec.bind_some.mp h
      obtain ⟨hsteps₃, hsettles, hcreates⟩ :=
        unaryCallPerformOnConnection_settles hperform ho₂ hst₂ husable
      have hgiven : w.GivenBy req w₁ w₃ := fun c hc hc' =>
        ⟨w₁, k, w₂, hlook, hget, hcreates c (hnext₂ ▸ hc) hc'⟩
      cases attempt with
      | error failure =>
        obtain ⟨-, rfl⟩ := Exec.pure_some.mp h
        exact hgiven
      | ok result =>
        obtain ⟨hst₃, ho₃, hretry⟩ := hsettles
        simp only at h
        split at h
        · obtain ⟨-, rfl⟩ := Exec.pure_some.mp h
          exact hgiven
        · next hagain =>
          have hfirst : retryAttempt = 0 := hretry (by simpa using hagain)
          obtain ⟨_, w₄, hevict, h⟩ := Exec.bind_some.mp h
          have hlook₄ : w.LooksUp req w₄ := .again hlook hget hperform hevict
          have hkeeps₄ : Keeps w₃ w₄ := by
            obtain ⟨-, hremove⟩ | ⟨-, rfl⟩ := Exec.when_some.mp hevict
            · exact (removeUnusable_orderly hremove hst₃ ho₃).1
            · exact .refl
          have hgiven₄ := hgiven.keeps hkeeps₄
          have hrest := ih h (by omega) hlook₄ (by omega)
          obtain ⟨hsteps, -⟩ :=
            unaryAttempts_settles h (by omega) (hlook₄.orderly ho) (by omega)
          intro c hc hc'
          by_cases hold : c < w₄.nextCall
          · rw [(Steps.extends hsteps hold).start]
            exact hgiven₄ c hc hold
          · exact hrest c (Nat.not_lt.mp hold) hc'

/-- The calls of a unary request are given connections that its lookups returned. -/
theorem performUnary_given {req : CallRequest} {r : UnaryAttempts} {w w' : World}
    (h : performUnary req w = some (r, w')) (ho : w.Orderly) : w.GivenBy req w w' := by
  obtain ⟨outcome, w₁, hattempts, h⟩ := Exec.bind_some.mp h
  obtain ⟨_, w₂, hevict, h⟩ := Exec.bind_some.mp h
  obtain ⟨rfl, rfl⟩ := Exec.pure_some.mp h
  have hgiven := unaryAttempts_given hattempts rfl ho .first (by omega)
  obtain ⟨-, hsettle⟩ := unaryAttempts_settles hattempts rfl (.inl ho) (by omega)
  refine hgiven.keeps ?_
  cases outcome with
  | result k result => exact (removeUnusable_orderly hevict hsettle.1 hsettle.2).1
  | setupFailure code error =>
    obtain ⟨-, rfl⟩ := Exec.pure_some.mp hevict
    exact .refl
  | failure failure =>
    obtain ⟨-, rfl⟩ := Exec.pure_some.mp hevict
    exact .refl

/-- So is the call of a server stream. -/
theorem serverStreamingCallOpenResource_given {req : CallRequest} {retryAttempt : Nat}
    {r : Except Failure OpenResult} {w w' : World}
    (h : serverStreamingCallOpenResource req retryAttempt w = some (r, w')) (ho : w.Orderly) :
    w.GivenBy req w w' := by
  have hnone {w' : World} (hnext : w'.nextCall = w.nextCall) : w.GivenBy req w w' :=
    fun c hc hc' => absurd (hnext ▸ hc') (Nat.not_lt.mpr hc)
  unfold serverStreamingCallOpenResource at h
  split at h
  · obtain ⟨-, rfl⟩ := Exec.pure_some.mp h
    exact hnone rfl
  · split at h
    · obtain ⟨-, rfl⟩ := Exec.pure_some.mp h
      exact hnone rfl
    · obtain ⟨got, w₁, hget, h⟩ := Exec.bind_some.mp h
      obtain ⟨ho₁, hund, hstored⟩ := getPersistentConnection_orderly hget (.inl ho)
      have hnext₁ := Keeps.nextCall hund.keeps
      cases got with
      | error error =>
        obtain ⟨code, w₂, hstatus, h⟩ := Exec.bind_some.mp h
        obtain ⟨-, rfl⟩ := Exec.pure_some.mp h
        exact hnone ((Keeps.nextCall (setupFailureStatus_orderly hstatus ho₁).1).trans hnext₁)
      | ok k =>
        obtain ⟨hst₁, husable⟩ := hstored k rfl
        obtain ⟨-, -, -, hcreates⟩ := openOnConnection_orderly h ho₁ hst₁ husable
        exact fun c hc hc' => ⟨w, k, w₁, .first, hget, hcreates c (hnext₁ ▸ hc) hc'⟩

end Proc

/-! ## Streams of an exhausted connection -/

namespace World

/-- The streams of every connection and all calls but one are left alone, and so are the usable
connections of a cache with distinct keys. -/
structure Leaves (c : CallId) (w w' : World) : Prop where
  /-- The streams and the flags of the connections. -/
  conns : ∀ k, (w'.conns k).streams = (w.conns k).streams ∧
    (w'.conns k).dead = (w.conns k).dead ∧ (w'.conns k).draining = (w.conns k).draining
  /-- The other calls. -/
  calls : ∀ c', c' ≠ c → w'.calls c' = w.calls c'
  /-- The usable connections of the cache. -/
  cache : (w.cache.map CacheEntry.key).Nodup → (w'.cache.map CacheEntry.key).Nodup ∧
    ∀ k, (w.conns k).usable = true → (w'.ledger.Cached k ↔ w.ledger.Cached k)

namespace Leaves

variable {c : CallId} {w w₁ w' : World}

/-- Nothing happens. -/
theorem refl : Leaves c w w :=
  ⟨fun _ => ⟨rfl, rfl, rfl⟩, fun _ _ => rfl, fun hkeys => ⟨hkeys, fun _ _ => .rfl⟩⟩

/-- A connection is as usable as before. -/
theorem usable (h : Leaves c w w') (k : ConnId) :
    (w'.conns k).usable = (w.conns k).usable := by
  obtain ⟨-, hdead, hdrain⟩ := h.conns k
  rw [H2Connection.usable, H2Connection.usable, hdead, hdrain]

/-- One after the other. -/
theorem trans (h : Leaves c w w₁) (h' : Leaves c w₁ w') : Leaves c w w' := by
  refine ⟨fun k => ?_, fun c' hne => (h'.calls c' hne).trans (h.calls c' hne), fun hkeys => ?_⟩
  · obtain ⟨hs, hd, hr⟩ := h.conns k
    obtain ⟨hs', hd', hr'⟩ := h'.conns k
    exact ⟨hs'.trans hs, hd'.trans hd, hr'.trans hr⟩
  · obtain ⟨hkeys₁, hcache⟩ := h.cache hkeys
    obtain ⟨hkeys', hcache'⟩ := h'.cache hkeys₁
    exact ⟨hkeys', fun k hk => (hcache' k ((h.usable k).trans hk)).trans (hcache k hk)⟩

/-- A change of a connection outside its streams and its life. -/
theorem setConn {k : ConnId} {f : H2Connection → H2Connection}
    (hw : w' = w.setConn k f) (hf : (f (w.conns k)).streams = (w.conns k).streams ∧
      (f (w.conns k)).dead = (w.conns k).dead ∧
      (f (w.conns k)).draining = (w.conns k).draining) : Leaves c w w' := by
  subst hw
  refine ⟨fun k' => ?_, fun _ _ => rfl, fun hkeys => ⟨hkeys, fun _ _ => .rfl⟩⟩
  simp only [World.setConn, Function.update_apply]
  split
  · next hk => exact hk ▸ hf
  · exact ⟨rfl, rfl, rfl⟩

/-- A change of the call itself. -/
theorem setCall {tc : TrackedCall} (hconns : w'.conns = w.conns)
    (hcalls : w'.calls = Function.update w.calls c tc) (hcache : w'.cache = w.cache) :
    Leaves c w w' := by
  refine ⟨fun k => by rw [hconns]; exact ⟨rfl, rfl, rfl⟩, fun c' hne => ?_, fun hkeys => ?_⟩
  · rw [hcalls, Function.update_of_ne hne]
  · refine ⟨hcache ▸ hkeys, fun k _ => ?_⟩
    show (∃ entry ∈ w'.cache, _) ↔ _
    rw [hcache]
    rfl

/-- Such a change takes no connection out of use. -/
theorem inUse_iff (h : Leaves c w w') (hkeys : (w.cache.map CacheEntry.key).Nodup) (k : ConnId) :
    w'.InUse k ↔ w.InUse k := by
  unfold InUse
  rw [h.usable k]
  exact and_congr_left ((h.cache hkeys).2 k)

end Leaves

end World

namespace Proc

open World

/-- A refused submission changes its own call alone. -/
theorem submitRequest_leaves {k : ConnId} {c : CallId} {rv : Int} {w w' : World}
    (h : submitRequest k c w = some (rv, w')) (hneg : rv < 0) :
    Leaves c w w' ∧ w'.calls c = (w.calls c).input (.submitted rv) := by
  obtain ⟨_, w₁, hlog, h⟩ := Exec.bind_some.mp h
  obtain rfl := Exec.modify_some.mp hlog
  obtain ⟨_, w₂, hread, h⟩ := Exec.bind_some.mp h
  rw [Proc.conn, Exec.get_bind_run] at hread
  obtain ⟨-, rfl⟩ := Exec.pure_some.mp hread
  obtain ⟨answer, w₂, hask, h⟩ := Exec.bind_some.mp h
  obtain ⟨env, -, rfl⟩ := Exec.zoom_some.mp hask
  obtain ⟨_, w₃, hin, h⟩ := Exec.bind_some.mp h
  obtain ⟨_, w₄, hwhen, h⟩ := Exec.bind_some.mp h
  obtain ⟨rfl, rfl⟩ := Exec.pure_some.mp h
  obtain ⟨hpos, -⟩ | ⟨-, rfl⟩ := Exec.when_some.mp hwhen
  · omega
  · obtain rfl := Exec.modify_some.mp hin
    exact ⟨.setCall rfl rfl rfl, input_calls_self ..⟩

/-- A call without a stream has nothing to unregister. -/
theorem unregisterGrpcCallStream_none {c : CallId} {w w' : World} {u : Unit}
    (h : unregisterGrpcCallStream c w = some (u, w'))
    (hreg : (w.calls c).call.streamRegistered = false) : w' = w := by
  obtain ⟨call, w₁, hcall, h⟩ := Exec.bind_some.mp h
  rw [Proc.call, Exec.get_bind_run] at hcall
  obtain ⟨rfl, rfl⟩ := Exec.pure_some.mp hcall
  cases hconn : (w.calls c).call.connection with
  | none =>
    simp only [hconn] at h
    exact (Exec.pure_some.mp h).2.symm
  | some k =>
    simp only [hconn, hreg, Bool.not_false, Bool.true_or, if_true] at h
    exact (Exec.pure_some.mp h).2.symm

/-- The owner lets go of its connection. -/
theorem clearOwner_leaves (w : World) (k : ConnId) (c : CallId) (forget : Bool) :
    Leaves c w (w.clearOwner k c forget) :=
  Leaves.trans (.setConn rfl ⟨rfl, rfl, rfl⟩) (.setCall rfl rfl rfl)

/-- A released call. -/
theorem releaseCall_leaves {c : CallId} {w w' : World} {u : Unit}
    (h : releaseCall c w = some (u, w')) : Leaves c w w' := by
  obtain ⟨_, w₁, hlog, h⟩ := Exec.bind_some.mp h
  obtain rfl := Exec.modify_some.mp hlog
  obtain rfl := Exec.modify_some.mp h
  exact .setCall rfl rfl rfl

/-- A detached connection without owners is destroyed. -/
theorem destroyDetachedConnectionIfUnowned_leaves {k : ConnId} {c : CallId} {w w' : World}
    {u : Unit} (h : destroyDetachedConnectionIfUnowned k w = some (u, w')) : Leaves c w w' := by
  obtain ⟨conn, w₁, hconn, h⟩ := Exec.bind_some.mp h
  rw [Proc.conn, Exec.get_bind_run] at hconn
  obtain ⟨rfl, rfl⟩ := Exec.pure_some.mp hconn
  split at h
  · obtain ⟨_, w₂, hlog, h⟩ := Exec.bind_some.mp h
    obtain rfl := Exec.modify_some.mp hlog
    have hleaves : Leaves c ({ w with destroys := _ } : World) w' :=
      .setConn (Exec.modify_some.mp h) ⟨rfl, rfl, rfl⟩
    exact ⟨hleaves.conns, hleaves.calls, hleaves.cache⟩
  · rw [(Exec.pure_some.mp h).2]
    exact .refl

/-- A refused unary call leaves the streams of the connection alone. -/
theorem unaryExchange_refused {k : ConnId} {c : CallId} {r : Except Failure UnaryResult}
    {w w₁ w' : World}
    (hsubmit : submitRequest k c w = some (Nghttp2.errStreamIdNotAvailable, w₁))
    (h : unaryExchange k c w = some (r, w'))
    (hreg : (w.calls c).call.streamRegistered = false) : Leaves c w w' := by
  obtain ⟨rv, w₂, hsubmit', h⟩ := Exec.bind_some.mp h
  obtain ⟨rfl, rfl⟩ := Prod.mk.inj (Option.some.inj (hsubmit.symm.trans hsubmit'))
  obtain ⟨hleaves₁, hself⟩ := submitRequest_leaves hsubmit (by decide)
  rw [if_pos (by decide)] at h
  obtain ⟨_, w₂, hnote, h⟩ := Exec.bind_some.mp h
  obtain ⟨hfatal, -⟩ | ⟨-, rfl⟩ := Exec.when_some.mp hnote
  · exact absurd hfatal (by decide)
  have hreg₁ : (w₁.calls c).call.streamRegistered = false := by
    rw [hself]
    exact hreg
  obtain ⟨_, w₂, hclear, h⟩ := Exec.bind_some.mp h
  obtain ⟨_, w₃, hrelease, h⟩ := Exec.bind_some.mp h
  obtain ⟨_, w₄, hdestroy, h⟩ := Exec.bind_some.mp h
  obtain ⟨-, rfl⟩ := Exec.pure_some.mp h
  have hleaves₂ : Leaves c w₁ w₂ := by
    obtain ⟨call, w₅, hcall, hclear⟩ := Exec.bind_some.mp hclear
    rw [Proc.call, Exec.get_bind_run] at hcall
    obtain ⟨rfl, rfl⟩ := Exec.pure_some.mp hcall
    split at hclear
    · rw [(Exec.pure_some.mp hclear).2]
      exact .refl
    · obtain ⟨_, w₅, hunreg, howner⟩ := Exec.bind_some.mp hclear
      have hsame := unregisterGrpcCallStream_none hunreg hreg₁
      rw [releaseOwner_some howner, hsame]
      exact clearOwner_leaves ..
  exact hleaves₁.trans (hleaves₂.trans ((releaseCall_leaves hrelease).trans
    (destroyDetachedConnectionIfUnowned_leaves hdestroy)))

/-- A connection that can be used is not detached, and another one is not in use. -/
theorem detachUnlessUsable_leaves {c : CallId} {w w' : World} {u : Unit}
    (h : detachUnlessUsable c w = some (u, w')) : Leaves c w w' ∧ w'.calls = w.calls := by
  have hdetach {k : ConnId} {w w' : World} {u : Unit} (hout : (w.conns k).usable ≠ true)
      (h : detachPersistentConnectionByPtr k w = some (u, w')) :
      Leaves c w w' ∧ w'.calls = w.calls := by
    rw [detachPersistentConnectionByPtr, Exec.get_bind_run] at h
    cases hfind : w.cache.find? fun entry => entry.connection = k with
    | none =>
      rw [hfind] at h
      rw [(Exec.pure_some.mp h).2]
      exact ⟨.refl, rfl⟩
    | some entry =>
      simp only [hfind] at h
      obtain ⟨_, w₁, hfilter, h⟩ := Exec.bind_some.mp h
      obtain rfl := Exec.modify_some.mp hfilter
      have hw' := Exec.modify_some.mp h
      have hleaves : Leaves c ({ w with cache := _ } : World) w' := .setConn hw' ⟨rfl, rfl, rfl⟩
      have hcalls : w'.calls = w.calls := by
        rw [hw']
        rfl
      refine ⟨⟨hleaves.conns, hleaves.calls, fun hkeys => ?_⟩, hcalls⟩
      have hcache : w'.cache = w.cache.filter fun e => e.key ≠ entry.key := by
        rw [hw']
        rfl
      refine ⟨hcache ▸ hkeys.sublist (List.filter_sublist.map _), fun k' hk' => ?_⟩
      show (∃ e ∈ w'.cache, e.connection = k') ↔ ∃ e ∈ w.cache, e.connection = k'
      rw [hcache]
      refine exists_congr fun e => and_congr_left fun he => List.mem_filter.trans
        (and_iff_left_of_imp fun hmem => decide_eq_true fun hsame => hout ?_)
      have heq := List.inj_on_of_nodup_map hkeys hmem (List.mem_of_find?_eq_some hfind) hsame
      have hentry : entry.connection = k := by simpa using List.find?_some hfind
      rwa [← hentry, ← heq, he]
  obtain ⟨call, w₁, hcall, h⟩ := Exec.bind_some.mp h
  rw [Proc.call, Exec.get_bind_run] at hcall
  obtain ⟨rfl, rfl⟩ := Exec.pure_some.mp hcall
  cases hconn : (w.calls c).call.connection with
  | none =>
    simp only [hconn] at h
    rw [(Exec.pure_some.mp h).2]
    exact ⟨.refl, rfl⟩
  | some k =>
    simp only [hconn] at h
    obtain ⟨conn, w₁, hread, h⟩ := Exec.bind_some.mp h
    rw [Proc.conn, Exec.get_bind_run] at hread
    obtain ⟨rfl, rfl⟩ := Exec.pure_some.mp hread
    split at h
    · next hout => exact hdetach (by simpa using hout) h
    · rw [(Exec.pure_some.mp h).2]
      exact ⟨.refl, rfl⟩

/-- A refused stream leaves the other streams of the connection alone. -/
theorem openExchange_refused {k : ConnId} {c : CallId} {r : Except Failure OpenResult}
    {w w₁ w' : World}
    (hsubmit : submitRequest k c w = some (Nghttp2.errStreamIdNotAvailable, w₁))
    (h : openExchange k c w = some (r, w'))
    (hreg : (w.calls c).call.streamRegistered = false) : Leaves c w w' := by
  obtain ⟨rv, w₂, hsubmit', h⟩ := Exec.bind_some.mp h
  obtain ⟨rfl, rfl⟩ := Prod.mk.inj (Option.some.inj (hsubmit.symm.trans hsubmit'))
  obtain ⟨hleaves₁, hself⟩ := submitRequest_leaves hsubmit (by decide)
  rw [if_pos (by decide)] at h
  obtain ⟨_, w₂, hnote, h⟩ := Exec.bind_some.mp h
  obtain ⟨hfatal, -⟩ | ⟨-, rfl⟩ := Exec.when_some.mp hnote
  · exact absurd hfatal (by decide)
  have hreg₁ : (w₁.calls c).call.streamRegistered = false := by
    rw [hself]
    exact hreg
  have hclosed : abandonsStream w₁ c = false := by
    have hid : (w₁.calls c).call.streamId = Nghttp2.errStreamIdNotAvailable := by
      rw [hself]
      rfl
    unfold abandonsStream
    cases (w₁.calls c).call.connection with
    | none => rfl
    | some k => simp only [hid, Nghttp2.errStreamIdNotAvailable, gt_iff_lt, Int.reduceNeg,
        Int.reduceLT, decide_false, Bool.and_false]
  obtain ⟨_, w₂, hdestroy, h⟩ := Exec.bind_some.mp h
  obtain ⟨-, rfl⟩ := Exec.pure_some.mp h
  rw [destroyServerStreamingCallState, Exec.get_bind_run] at hdestroy
  obtain ⟨_, w₃, hwhen, hdestroy⟩ := Exec.bind_some.mp hdestroy
  obtain ⟨_, w₄, hclear, hrelease⟩ := Exec.bind_some.mp hdestroy
  obtain ⟨hopen, -⟩ | ⟨-, rfl⟩ := Exec.when_some.mp hwhen
  · exact absurd (hclosed.symm.trans hopen) Bool.false_ne_true
  refine hleaves₁.trans (Leaves.trans ?_ (releaseCall_leaves hrelease))
  obtain ⟨call, w₅, hcall, hclear⟩ := Exec.bind_some.mp hclear
  rw [Proc.call, Exec.get_bind_run] at hcall
  obtain ⟨rfl, rfl⟩ := Exec.pure_some.mp hcall
  cases hconn : (w₁.calls c).call.connection with
  | none =>
    simp only [hconn] at hclear
    rw [(Exec.pure_some.mp hclear).2]
    exact .refl
  | some k' =>
    simp only [hconn] at hclear
    obtain ⟨_, w₅, hdetach, hclear⟩ := Exec.bind_some.mp hclear
    obtain ⟨_, w₆, hunreg, hclear⟩ := Exec.bind_some.mp hclear
    obtain ⟨_, w₇, howner, hgone⟩ := Exec.bind_some.mp hclear
    obtain ⟨hleaves₅, hcalls₅⟩ := detachUnlessUsable_leaves hdetach
    have hsame := unregisterGrpcCallStream_none hunreg (by rw [hcalls₅]; exact hreg₁)
    rw [hsame] at howner
    rw [releaseOwner_some howner] at hgone
    exact hleaves₅.trans ((clearOwner_leaves ..).trans
      (destroyDetachedConnectionIfUnowned_leaves hgone))

end Proc

/-! ## Runs -/

namespace World

/-- Other answers do not disorder a state. -/
theorem Orderly.answering {w : World} (ho : w.Orderly) (script : List Answer) :
    (w.answering script).Orderly where
  sound := ⟨ho.sound.inv, ho.sound.honest, ho.sound.replayed, ho.sound.ended, ho.sound.emptied⟩
  settled := ho.settled
  calm := ho.calm
  kept := ho.kept
  fit := ho.fit
  idle := ho.idle
  room := ho.room
  seated := fun c hc hlive => (ho.seated c hc hlive).same (.of_calls rfl)

/-- An operation creates its calls on connections that its lookups gave. -/
theorem Operation.created {w w' : World} (h : Operation w w') (ho : w.Orderly) :
    ∃ req, w.GivenBy req w w' := by
  have hnone (hkeeps : Keeps w w') : ∃ req, w.GivenBy req w w' :=
    ⟨{ key := [] }, fun c hc hc' => absurd (Keeps.nextCall hkeeps ▸ hc') (Nat.not_lt.mpr hc)⟩
  cases h with
  | unary req h => exact ⟨req, Proc.performUnary_given h ho⟩
  | openStream req retryAttempt h => exact ⟨req, Proc.serverStreamingCallOpenResource_given h ho⟩
  | next c hlive h => exact hnone (Proc.serverStreamingCallNextResource_orderly h ho hlive).1
  | cancel c hlive h => exact hnone (Proc.serverStreamingCallCancelResource_orderly h ho hlive).1
  | destroy c hlive h => exact hnone (Proc.destroyServerStreamingCallState_orderly h ho hlive).1
  | close key h => exact hnone (Proc.channelClose_orderly h ho).1
  | credentials call h => exact hnone (Proc.mergeCallCredentialsMetadata_orderly h ho).1

/-- No operation gives a retired connection. -/
theorem Operation.spares {w w' : World} (h : Operation w w') (ho : w.Orderly) {k : ConnId}
    (hk : k < w.nextConn) (hout : w.Retired k) {c : CallId} (hc : w.nextCall ≤ c)
    (hc' : c < w'.nextCall) : (w'.calls c).start.connection ≠ some k := by
  obtain ⟨req, hgiven⟩ := h.created ho
  obtain ⟨w₁, k', w₂, hlook, hget, hstart⟩ := hgiven c hc hc'
  have hsteps := hlook.steps ho
  intro hk'
  refine (hout.steps hsteps hk).notGiven (hk.trans_le (Steps.nextConn_le hsteps))
    (hlook.orderly ho) hget ?_
  rw [Option.some.inj (hstart.symm.trans hk')]

/-- From a state in which a connection is out of use, no run gives it again. -/
theorem neverGivenAgain_of_not_inUse {w : World} {k : ConnId} (ho : w.Orderly)
    (hk : k < w.nextConn) (hout : ¬w.InUse k) : w.NeverGivenAgain k := by
  intro script w' hrun
  have ho₀ := ho.answering script
  have hk₀ : k < (w.answering script).nextConn := hk
  have hretired : (w.answering script).Retired k := retired_of_not_inUse ho₀ hk₀ hout
  obtain ⟨hsteps, ho'⟩ := Operations.orderly hrun ho₀
  refine ⟨fun req w₁ r w₂ hlook hget => ?_, ?_⟩
  · have hto := hsteps.trans (hlook.steps ho')
    exact (hretired.steps hto hk₀).notGiven (hk₀.trans_le (Steps.nextConn_le hto))
      (hlook.orderly ho') hget
  · clear hsteps ho'
    induction hrun with
    | refl => exact fun c hc hc' => absurd hc' (Nat.not_lt.mpr hc)
    | @tail w₁ w₂ hrun hop ih =>
      obtain ⟨hsteps₁, ho₁⟩ := Operations.orderly hrun ho₀
      intro c hc hc'
      by_cases hold : c < w₁.nextCall
      · rw [((hop.orderly ho₁).1.extends hold).start]
        exact ih c hc hold
      · exact hop.spares ho₁ (hk₀.trans_le (Steps.nextConn_le hsteps₁))
          (hretired.steps hsteps₁ hk₀) (Nat.not_lt.mp hold) hc'

/-- When an exhausted connection is used again. In every state behind the refusal it is never given
again, whatever happens, exactly when it is not in use any more; and the refusal itself
takes no connection out of use, and leaves the streams that the connection has and their calls
alone. -/
theorem Methods.exhausted_given_iff {env : Env} {config : Config} {w₀ w : World} {k : ConnId}
    (hrun : Methods { env := env, config := config } w₀) (hinside : Operations w₀ w)
    (hk : w.Exhausted k) :
    (w.NeverGivenAgain k ↔ ¬w.InUse k) ∧
    ∀ c w₁ w₂, Proc.submitRequest k c w₁ = some (Nghttp2.errStreamIdNotAvailable, w₂) →
      (w₁.calls c).call.streamRegistered = false → (w₁.cache.map CacheEntry.key).Nodup →
      (∀ r w', Proc.unaryExchange k c w₁ = some (r, w') →
        Leaves c w₁ w' ∧ ∀ k', w'.InUse k' ↔ w₁.InUse k') ∧
      ∀ r w', Proc.openExchange k c w₁ = some (r, w') →
        Leaves c w₁ w' ∧ ∀ k', w'.InUse k' ↔ w₁.InUse k' := by
  have hstart := orderly_start env config
  have hmade := Methods.made hrun hstart
  obtain ⟨hsteps, ho⟩ := Operations.orderly (hmade.operations.trans hinside) hstart
  have hempty : Labelled { env := env, config := config } :=
    ⟨fun c hc => absurd hc (Nat.not_lt_zero _), fun entry he => absurd he List.not_mem_nil⟩
  have hl : w.Labelled := hempty.steps hsteps
  refine ⟨⟨fun hnever hin => ?_, neverGivenAgain_of_not_inUse ho (hl.exhausted hk)⟩,
    fun c w₁ w₂ hsubmit hreg hkeys => ⟨fun r w' h => ?_, fun r w' h => ?_⟩⟩
  · obtain ⟨key, script, w', hget⟩ := Proc.getPersistentConnection_quiet ho hl hin
    exact (hnever script _ .refl).1 { key := key } _ _ w' .first hget rfl
  · have hleaves := Proc.unaryExchange_refused hsubmit h hreg
    exact ⟨hleaves, hleaves.inUse_iff hkeys⟩
  · have hleaves := Proc.openExchange_refused hsubmit h hreg
    exact ⟨hleaves, hleaves.inUse_iff hkeys⟩

/-- One address accepts the connection, whose session has no stream identifier left; nothing
has arrived when the connection is looked up again. -/
def exhaustedExchange : Env where
  script := [
    .setupCall .getaddrinfo true 1 none, .setupCall .socket true 3 none,
    .setupCall .setNonblocking true 0 none, .setupCall .connect true 0 none,
    .setupCall .freeaddrinfo true 0 none, .setup true false, .sessionSend [] 0,
    .submitRequest Nghttp2.errStreamIdNotAvailable, .recv (-1) Errno.eagain]

/-- A unary call is refused for want of a stream identifier, and the next lookup gives the same
connection. -/
theorem exhausted_given_again : ∃ w w', Operations { env := exhaustedExchange } w ∧ w.Exhausted 0 ∧
    Proc.getPersistentConnection [] 0 false w = some (.ok 0, w') := by
  have hrun : (Proc.performUnary { key := [] } { env := exhaustedExchange }).bind (fun r =>
      (Proc.getPersistentConnection [] 0 false r.2).map fun got =>
        (r.2.nextCall, decide (CallInput.submitted Nghttp2.errStreamIdNotAvailable ∈
          (r.2.calls 0).inputs), (r.2.calls 0).start.connection, got.1)) =
      some (1, true, some 0, .ok 0) := by decide +kernel
  obtain ⟨⟨r, w⟩, hperform, hget⟩ := Option.bind_eq_some_iff.mp hrun
  obtain ⟨⟨got, w'⟩, hget, heq⟩ := Option.map_eq_some_iff.mp hget
  simp only [Prod.mk.injEq, decide_eq_true_eq] at heq
  obtain ⟨hnext, hrefused, hstart, rfl⟩ := heq
  refine ⟨w, w', .single (.unary _ hperform), ⟨0, ?_, hrefused, hstart⟩, hget⟩
  rw [hnext]
  exact Nat.zero_lt_one

/-- The refused call leaves its connection in use, so that a later lookup can give it; behind the
close of the channel none does. -/
theorem exhausted_given_until_closed : ∃ w w', Operations { env := exhaustedExchange } w ∧
    w.Exhausted 0 ∧ ¬w.NeverGivenAgain 0 ∧ Operation w w' ∧ w'.NeverGivenAgain 0 := by
  have hrun : (Proc.performUnary { key := [] } { env := exhaustedExchange }).bind (fun r =>
      (Proc.channelClose [] r.2).map fun closed =>
        (decide (r.2.nextCall = 1 ∧ closed.2.nextCall = 1 ∧ closed.2.cache = []),
          decide (CallInput.submitted Nghttp2.errStreamIdNotAvailable ∈ (r.2.calls 0).inputs ∧
            CallInput.submitted Nghttp2.errStreamIdNotAvailable ∈ (closed.2.calls 0).inputs),
          decide ((r.2.calls 0).start.connection = some 0 ∧
            (closed.2.calls 0).start.connection = some 0),
          r.2.cache.any fun entry => decide (entry.connection = 0), (r.2.conns 0).usable)) =
      some (true, true, true, true, true) := by decide +kernel
  obtain ⟨⟨r, w⟩, hperform, hrest⟩ := Option.bind_eq_some_iff.mp hrun
  obtain ⟨⟨u, w'⟩, hclose, heq⟩ := Option.map_eq_some_iff.mp hrest
  simp only [Prod.mk.injEq, decide_eq_true_eq, List.any_eq_true] at heq
  obtain ⟨⟨hnext, hnext', hempty⟩, ⟨hrefused, hrefused'⟩, ⟨hstart, hstart'⟩, hcached, husable⟩ := heq
  have hop : Operation w w' := .close [] hclose
  have hto : Operations { env := exhaustedExchange } w := .single (.unary _ hperform)
  have hexhausted : w.Exhausted 0 := ⟨0, by rw [hnext]; exact Nat.zero_lt_one, hrefused, hstart⟩
  have hexhausted' : w'.Exhausted 0 := ⟨0, by rw [hnext']; exact Nat.zero_lt_one, hrefused', hstart'⟩
  have hin : w.InUse 0 := ⟨hcached, husable⟩
  have hout : ¬w'.InUse 0 := by
    rintro ⟨⟨entry, hmem, -⟩, -⟩
    have hmem' : entry ∈ w'.cache := hmem
    rw [hempty] at hmem'
    exact absurd hmem' List.not_mem_nil
  exact ⟨w, w', hto, hexhausted,
    fun hnever => (Methods.exhausted_given_iff .refl hto hexhausted).1.mp hnever hin, hop,
    (Methods.exhausted_given_iff .refl (hto.tail hop) hexhausted').1.mpr hout⟩

end World

end GrpcLite
