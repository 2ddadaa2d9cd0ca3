import GrpcLite.Refinement.Retries

/-!
# Stages of a call object

An object is idle, pulls its stream or has ended. A stage says which calls the object has
made for the request it is about, and what it has handed to its user. An exception
leaves the object idle again, and the calls it has made until then are given up.
-/

namespace GrpcLite

open World Proc

namespace CallObj

/-- The request is one of the object's. -/
def Asks (call : CallObj) (req : CallRequest) : Prop :=
  ∃ message valid, req = { call.channel with message := message, headersValid := valid }

/-- A call asks the request of its own fields. -/
theorem asks_request (call : CallObj) (message : Bytes) : call.Asks (call.request message) :=
  ⟨message, call.metadataValid, rfl⟩

/-- Behind the calls given up, the attempts of the object are attempts at one request. -/
structure Sent (w : World) (earlier : List CallId) (call : CallObj) (req : CallRequest)
    (current : List CallId) : Prop where
  /-- All attempts. -/
  attempts : call.attempts = earlier ++ current
  /-- The attempts at the request. -/
  attempted : w.Attempted req 0 current
  /-- The request. -/
  asks : call.Asks req

/-- The stage of an object that has handed out the messages. -/
inductive Stage (w : World) (earlier : List CallId) (call : CallObj) : List Bytes → Prop
  /-- Nothing is under way. -/
  | idle (hresource : call.serverStreamingResource = none)
      (hopened : call.serverStreamingOpened = false) (hperformed : call.unaryPerformed = false)
      (hready : call.statusReady = false) (hresponse : call.unaryResponsePayload = none)
      (hattempts : call.attempts = earlier) : Stage w earlier call []
  /-- The stream is open. Nothing but its own first message settles which request is sent. -/
  | pulling {c : CallId} {messages : List Bytes} {req : CallRequest} {current : List CallId}
      (hresource : call.serverStreamingResource = some c)
      (hopened : call.serverStreamingOpened = true) (hperformed : call.unaryPerformed = false)
      (hready : call.statusReady = false) (hresponse : call.unaryResponsePayload = none)
      (hsent : Sent w earlier call req current) (hlast : current.getLast? = some c)
      (hstreaming : (w.calls c).Streaming)
      (hcount : (w.calls c).deliveredMessages = messages.length)
      (hdelivered : (w.calls c).delivered = messages)
      (hmessage : messages = [] →
        ∃ message, call.requestPayload = some message ∧ req = call.request message) :
      Stage w earlier call messages
  /-- The status is final. -/
  | ended {messages : List Bytes} {req : CallRequest} {current : List CallId}
      (hready : call.statusReady = true) (hsent : Sent w earlier call req current)
      (hencodes : w.Encodes call.attempts messages) : Stage w earlier call messages

variable {call call' : CallObj} {w w' : World} {earlier current : List CallId}
  {messages : List Bytes} {req : CallRequest}

/-- Attempts stay on the record. -/
theorem Sent.steps (h : Sent w earlier call req current) (hs : Steps w w') :
    Sent w' earlier call req current :=
  ⟨h.attempts, h.attempted.steps hs, h.asks⟩

theorem Sent.congr (h : Sent w earlier call req current) (hattempts : call'.attempts = call.attempts)
    (hchannel : call'.channel = call.channel) : Sent w earlier call' req current :=
  ⟨hattempts.trans h.attempts, h.attempted, by rw [Asks, hchannel]; exact h.asks⟩

theorem Sent.last (h : Sent w earlier call req current) {c : CallId}
    (hlast : current.getLast? = some c) : call.attempts.getLast? = some c := by
  rw [h.attempts, List.getLast?_append, hlast]
  rfl

/-- The last attempt was created. -/
theorem Sent.created (h : Sent w earlier call req current) {c : CallId}
    (hlast : current.getLast? = some c) : c < w.nextCall := by
  rcases h.attempted.last_cases hlast with ⟨-, hcall⟩ | hcall
  · exact hcall.created
  · exact hcall.created

/-- The stage outlasts what leaves the own stream alone. -/
theorem Stage.steps (h : Stage w earlier call messages) (hs : Steps w w')
    (hkept : ∀ c ∈ call.held, (w'.calls c).settled = (w.calls c).settled) :
    Stage w' earlier call messages := by
  cases h with
  | idle hresource hopened hperformed hready hresponse hattempts =>
    exact .idle hresource hopened hperformed hready hresponse hattempts
  | pulling hresource hopened hperformed hready hresponse hsent hlast hstreaming hcount hdelivered
      hmessage =>
    have hsame := hkept _ hresource
    simp only [TrackedCall.settled, Prod.mk.injEq] at hsame
    refine .pulling hresource hopened hperformed hready hresponse (hsent.steps hs) hlast ?_
      (hsame.2.1.trans hcount) (hsame.2.2.trans hdelivered) hmessage
    rw [TrackedCall.Streaming, hsame.1]
    exact hstreaming
  | ended hready hsent hencodes => exact .ended hready (hsent.steps hs) (hencodes.steps hs)

/-- What an open stream has delivered stands in its body. -/
theorem Sent.encodes (h : Sent w earlier call req current) {c : CallId}
    (hlast : current.getLast? = some c) (hstreaming : (w.calls c).Streaming) (hin : w.InOrder)
    (hdelivered : (w.calls c).delivered = messages) : w.Encodes call.attempts messages := by
  refine .inr ⟨c, h.last hlast, h.created hlast, ?_⟩
  rw [← hdelivered]
  exact (hin c hstreaming).delivered.trans ((w.calls c).call.decoded_prefix_encoded _)

/-- What an object rests on between two steps of a method. -/
structure Footing (call : CallObj) (w : World) : Prop where
  /-- The state is in order. -/
  orderly : w.Orderly
  /-- The resource of the object exists. -/
  held : w.Holds call
  /-- Streams deliver in order. -/
  inOrder : w.InOrder
  /-- A ready status is there. -/
  ready : call.statusReady = true → call.status.isSome = true

/-- Operations leave the object on its feet. -/
theorem Footing.made (h : call.Footing w) (hmade : Made w w') (hheld : w'.Holds call')
    (hready : call'.statusReady = true → call'.status.isSome = true) : call'.Footing w' :=
  ⟨hmade.orderly, hheld, h.inOrder.steps (hmade.steps h.orderly) h.orderly.sound.replayed, hready⟩

/-! ## Opening a stream -/

/-- What a step of a pull makes of an object: behind a failure it is idle again. -/
structure Goes (earlier : List CallId) (call : CallObj) (messages : List Bytes) (ok : Bool)
    (call' : CallObj) (w' : World) : Prop where
  /-- The next step of the pull finds its footing. -/
  footing : call'.Footing w'
  /-- A pull does not touch the message of a unary call. -/
  response : call'.unaryResponsePayload = call.unaryResponsePayload
  /-- Behind a failure. -/
  failed : ok = false → messages = [] ∧ Stage w' call'.attempts call' []
  /-- Behind a success the stage is known. -/
  stage : ok = true → Stage w' earlier call' messages
  /-- Behind a success a stream is open, or none will be. -/
  opened : ok = true → call'.statusReady = true ∨ call'.serverStreamingOpened = true

/-- An attempt follows those made before. -/
theorem openPrepared_goes {message : Bytes} {retryAttempt : Nat} {before : List CallId} {ok : Bool}
    (h : Proc.openPrepared call message retryAttempt w = some ((ok, call'), w'))
    (hfoot : call.Footing w) (hattempts : call.attempts = earlier ++ before)
    (hbefore : w.Attempted (call.request message) 0 before)
    (hnext : ∀ c, w'.AttemptOf (call.request message) retryAttempt c →
      w'.Attempted (call.request message) 0 before →
      w'.Attempted (call.request message) 0 (before ++ [c]))
    (hpayload : call.requestPayload = some message) (hopened : call.serverStreamingOpened = false)
    (hperformed : call.unaryPerformed = false) (hready : call.statusReady = false)
    (hresponse : call.unaryResponsePayload = none) :
    Goes earlier call [] ok call' w' ∧ (ok = true → call'.serverStreamingOpened = true) := by
  obtain ⟨hmade, hheld⟩ := openPrepared_made h hfoot.orderly hfoot.held
  have hbefore' := hbefore.steps (hmade.steps hfoot.orderly)
  obtain ⟨_, w₁, hdrop, h⟩ := Exec.bind_some.mp h
  rw [Exec.get_bind_run] at h
  obtain ⟨opened, w₂, hopen, h⟩ := Exec.bind_some.mp h
  rw [Exec.get_bind_run] at h
  obtain ⟨hstore, rfl⟩ := Exec.pure_some.mp h
  have hattempt := serverStreamingCallOpenResource_attempt hopen
  -- what the attempt adds to those made before
  have hsent : ∃ current, w₂.Attempted (call.request message) 0 current ∧
      call.attempts ++ List.range' w₁.nextCall (w₂.nextCall - w₁.nextCall) = earlier ++ current ∧
      ∀ c, opened = .ok (.opened c) → current.getLast? = some c ∧ (w₂.calls c).Streaming ∧
        (w₂.calls c).deliveredMessages = 0 ∧ (w₂.calls c).delivered = [] := by
    rcases hattempt with ⟨hstill, hno⟩ | ⟨k, hattempt, hc⟩
    · refine ⟨before, hbefore', ?_, fun c he => absurd he (hno c)⟩
      rw [hstill.nextCall, Nat.sub_self, List.range'_zero, List.append_nil, hattempts]
    · have hcall : w₂.AttemptOf (call.request message) retryAttempt w₁.nextCall :=
        hattempt.attemptOf ⟨k, .inr rfl⟩
      refine ⟨before ++ [w₁.nextCall], hnext _ hcall hbefore', ?_, fun c he => ?_⟩
      · rw [hattempt.nextCall, Nat.add_sub_cancel_left, hattempts, List.append_assoc]
        rfl
      · obtain rfl := hc c he
        have hfresh := hattempt.fresh
        simp only [TrackedCall.settled, Prod.mk.injEq] at hfresh
        exact ⟨List.getLast?_concat, ⟨_, k, retryAttempt, hfresh.1⟩, hfresh.2.1, hfresh.2.2⟩
  obtain ⟨current, hcurrent, hall, hlast⟩ := hsent
  cases opened with
  | error failure =>
    obtain ⟨rfl, rfl⟩ := Prod.mk.inj hstore
    exact ⟨⟨hfoot.made hmade hheld hfoot.ready, rfl,
      fun _ => ⟨rfl, .idle rfl hopened hperformed hready hresponse rfl⟩,
      fun hno => absurd hno Bool.false_ne_true, fun hno => absurd hno Bool.false_ne_true⟩,
      fun hno => absurd hno Bool.false_ne_true⟩
  | ok opened =>
    cases opened with
    | opened c =>
      obtain ⟨rfl, rfl⟩ := Prod.mk.inj hstore
      obtain ⟨hcurrentLast, hstreaming, hcount, hdelivered⟩ := hlast c rfl
      refine ⟨⟨hfoot.made hmade hheld hfoot.ready, rfl, fun hno => absurd hno.symm Bool.false_ne_true,
        fun _ => ?_, fun _ => .inr rfl⟩, fun _ => rfl⟩
      exact .pulling rfl rfl hperformed hready hresponse
        ⟨hall, hcurrent, message, call.metadataValid, rfl⟩ hcurrentLast hstreaming hcount hdelivered
        fun _ => ⟨message, hpayload, rfl⟩
    | setupFailure code details =>
      obtain ⟨rfl, rfl⟩ := Prod.mk.inj hstore
      refine ⟨⟨hfoot.made hmade hheld fun _ => rfl, rfl,
        fun hno => absurd hno.symm Bool.false_ne_true, fun _ => ?_, fun _ => .inl rfl⟩, fun _ => rfl⟩
      exact .ended rfl ⟨hall, hcurrent, message, call.metadataValid, rfl⟩ (.inl rfl)

/-- The first attempt to open a stream. -/
theorem Stage.openAttempt (h : Stage w earlier call messages) (hfoot : call.Footing w)
    (hready : call.statusReady = true → call.serverStreamingOpened = true) {ok : Bool}
    (hopen : openCallStreamAttempt call 0 true w = some ((ok, call'), w')) :
    Goes earlier call messages ok call' w' := by
  unfold openCallStreamAttempt at hopen
  by_cases hopened : call.serverStreamingOpened = true
  · rw [if_pos hopened] at hopen
    obtain ⟨hsame, rfl⟩ := Exec.pure_some.mp hopen
    obtain ⟨rfl, rfl⟩ := Prod.mk.inj hsame
    exact ⟨hfoot, rfl, fun hno => absurd hno.symm Bool.false_ne_true, fun _ => h,
      fun _ => .inr hopened⟩
  rw [if_neg hopened] at hopen
  have hclosed : call.serverStreamingOpened = false := Bool.not_eq_true _ ▸ hopened
  cases h with
  | pulling _ hopened' => exact absurd hopened' hopened
  | ended hready' => exact absurd (hready hready') hopened
  | idle hresource _ hperformed hunready hresponse hattempts =>
    -- nothing has changed behind an exception
    have hidle {w₁ : World} (hfoot₁ : call.Footing w₁)
        (h : (pure (false, call) : Proc (Bool × CallObj)) w₁ = some ((ok, call'), w')) :
        Goes earlier call [] ok call' w' := by
      obtain ⟨hsame, rfl⟩ := Exec.pure_some.mp h
      obtain ⟨rfl, rfl⟩ := Prod.mk.inj hsame
      exact ⟨hfoot₁, rfl, fun _ => ⟨rfl, .idle hresource hclosed hperformed hunready hresponse rfl⟩,
        fun hno => absurd hno Bool.false_ne_true, fun hno => absurd hno Bool.false_ne_true⟩
    cases hpayload : call.requestPayload with
    | none =>
      simp only [hpayload] at hopen
      exact hidle hfoot hopen
    | some message =>
      simp only [hpayload, Bool.not_true, Bool.false_eq_true, if_false] at hopen
      split at hopen
      · obtain ⟨hsame, rfl⟩ := Exec.pure_some.mp hopen
        obtain ⟨rfl, rfl⟩ := Prod.mk.inj hsame
        refine ⟨⟨hfoot.orderly, hfoot.held, hfoot.inOrder, fun _ => rfl⟩, rfl,
          fun hno => absurd hno.symm Bool.false_ne_true, fun _ => ?_, fun _ => .inl rfl⟩
        refine .ended rfl ⟨?_, .none, asks_request call message⟩ (.inl rfl)
        rw [List.append_nil]
        exact hattempts
      obtain ⟨merged, w₁, hmerge, hopen⟩ := Exec.bind_some.mp hopen
      have hmade := Made.of_operation (.credentials call hmerge) hfoot.orderly
      obtain ⟨hcalls, hfields⟩ := mergeCallCredentialsMetadata_fields hmerge
      have hfoot₁ : call.Footing w₁ := by
        refine hfoot.made hmade (fun c hc => ?_) hfoot.ready
        rw [hcalls]
        exact hfoot.held c hc
      cases merged with
      | none => exact hidle hfoot₁ hopen
      | some call₁ =>
        obtain ⟨valid, rfl⟩ := hfields call₁ rfl
        have hbefore : call.attempts = earlier ++ [] := by
          rw [List.append_nil]
          exact hattempts
        obtain ⟨hgoes, -⟩ := openPrepared_goes hopen
          ⟨hfoot₁.orderly, hfoot₁.held, hfoot₁.inOrder, hfoot₁.ready⟩ hbefore .none
          (fun c hc _ => .last hc) hpayload hclosed hperformed hunready hresponse
        exact ⟨hgoes.footing, hgoes.response, hgoes.failed, hgoes.stage, hgoes.opened⟩

/-! ## Pulling a stream -/

/-- What a pull makes of an object, by what it gives to the wrapper. -/
structure Pulled (earlier : List CallId) (messages : List Bytes) (r : Option CallNext)
    (call' : CallObj) (w' : World) : Prop where
  /-- The next method finds its footing. -/
  footing : call'.Footing w'
  /-- No unary call was made. -/
  response : call'.unaryResponsePayload = none
  /-- An exception comes in front of the first message. -/
  threw : r = none → messages = [] ∧ Stage w' call'.attempts call' []
  /-- A message is the next one. -/
  message : ∀ payload metadata, r = some (.message payload metadata) →
    call'.statusReady = false ∧ call'.serverStreamingOpened = true ∧
      Stage w' earlier call' (messages ++ [payload])
  /-- Behind the end the messages are those of the body. -/
  done : ∀ status initial trailing, r = some (.done status initial trailing) →
    ∃ req current, Sent w' earlier call' req current ∧ w'.Encodes call'.attempts messages

/-- A pull of the driver, for an open stream. -/
theorem nextResource_goes {c : CallId} {current : List CallId} {r : NextResult}
    (hpull : serverStreamingCallNextResource c w = some (r, w')) (hfoot : call.Footing w)
    (hresource : call.serverStreamingResource = some c)
    (hsent : Sent w earlier call req current) (hlast : current.getLast? = some c)
    (hstreaming : (w.calls c).Streaming) (hcount : (w.calls c).deliveredMessages = messages.length)
    (hdelivered : (w.calls c).delivered = messages) :
    call.Footing w' ∧ Sent w' earlier call req current ∧ (w'.calls c).Streaming ∧
      (w'.calls c).deliveredMessages = (messages ++ r.payload.toList).length ∧
      (w'.calls c).delivered = messages ++ r.payload.toList ∧
      (r.retryable = true → messages = [] ∧ current = [c] ∧ w'.AttemptOf req 0 c ∧
        w'.RefusedUnprocessed c) := by
  have hlive := hfoot.held c hresource
  have hmade := Made.of_operation (.next c hlive hpull) hfoot.orderly
  have hsteps := hmade.steps hfoot.orderly
  obtain ⟨-, -, hlive'⟩ := serverStreamingCallNextResource_orderly hpull hfoot.orderly hlive
  have hdelivers := serverStreamingCallNextResource_delivers hpull
  have hpulled := hdelivers.pulled
  simp only [TrackedCall.settled, Prod.mk.injEq] at hpulled
  have hfoot' : call.Footing w' := by
    refine hfoot.made hmade (fun c' hc' => ?_) hfoot.ready
    obtain rfl : c = c' := Option.some.inj (hresource.symm.trans hc')
    exact hlive'
  refine ⟨hfoot', hsent.steps hsteps, ?_, ?_, ?_, fun hretry => ?_⟩
  · rw [TrackedCall.Streaming, hpulled.1]
    exact hstreaming
  · rw [hpulled.2.1, hcount, List.length_append]
  · rw [hpulled.2.2, hdelivered]
  · cases r with
    | message => cases hretry
    | done status initial trailing outcome =>
      -- the driver has looked at a front of the record
      have hreplayed := hfoot.orderly.sound.replayed c
      obtain ⟨inputs, hinputs, houtcome⟩ := serverStreamingCallNextResource_outcome hpull hreplayed
      change outcome.transparentRetryableUnprocessed = true at hretry
      rw [houtcome] at hretry
      obtain ⟨req', k, retryAttempt, hstart⟩ := hstreaming
      have hunborn : (w.calls c).start.Unborn := by
        rw [hstart]
        exact GrpcCall.Started.unborn (k := k) ⟨req', retryAttempt, .inr rfl⟩
      obtain ⟨hunprocessed, hfirst, hobserved⟩ := Unprocessed.of_retryable hunborn.direct
        hunborn.refused hunborn.reset
        (GrpcCall.checkStream_same _ GrpcCall.streamFlags fun _ => rfl)
        (GrpcCall.checkStream_same _ GrpcCall.touched fun _ => rfl) hretry
      rw [GrpcCall.checkStream_same _ GrpcCall.retryAttempt fun _ => rfl,
        GrpcCall.retryAttempt_applyAll] at hfirst
      have hnil : messages = [] := by
        rw [hcount, decide_eq_false_iff_not, Nat.not_lt, Nat.le_zero] at hobserved
        exact List.eq_nil_of_length_eq_zero hobserved
      have hnumber : (w'.calls c).start.retryAttempt = 0 := by rw [hpulled.1, hfirst]
      have hrefused : w'.RefusedUnprocessed c := ⟨inputs, hinputs, hpulled.1 ▸ hunprocessed⟩
      rcases (hsent.steps hsteps).attempted.last_cases hlast with ⟨hone, hcall⟩ | hcall
      · exact ⟨hnil, hone, hcall, hrefused⟩
      · have hsecond := hcall.retryAttempt_eq
        rw [hnumber] at hsecond
        cases hsecond

/-- The loop of a pull. -/
theorem Stage.nextLoop {fuel : Nat} {r : Option CallNext} (h : Stage w earlier call messages)
    (hfoot : call.Footing w)
    (hready : call.statusReady = true → call.serverStreamingOpened = true)
    (hresponse : call.unaryResponsePayload = none)
    (hnext : nextForCallLoop fuel call w = some ((r, call'), w')) :
    Pulled earlier messages r call' w' := by
  induction fuel generalizing w call with
  | zero => exact (Exec.block_some.mp hnext).elim
  | succ fuel ih =>
    obtain ⟨⟨opened, call₁⟩, w₁, hopen, hnext⟩ := Exec.bind_some.mp hnext
    have hgoes := h.openAttempt hfoot hready hopen
    have hresponse₁ := hgoes.response.trans hresponse
    -- an exception
    have hthrow {call₂ : CallObj} {w₂ : World} (hfoot₂ : call₂.Footing w₂)
        (hresponse₂ : call₂.unaryResponsePayload = none)
        (hstage : messages = [] ∧ Stage w₂ call₂.attempts call₂ [])
        (h : (pure (none, call₂) : Proc (Option CallNext × CallObj)) w₂ =
          some ((r, call'), w')) : Pulled earlier messages r call' w' := by
      obtain ⟨hsame, rfl⟩ := Exec.pure_some.mp h
      obtain ⟨rfl, rfl⟩ := Prod.mk.inj hsame
      refine ⟨hfoot₂, hresponse₂, fun _ => hstage, fun payload metadata he => ?_,
        fun status initial trailing he => ?_⟩
      · cases he
      · cases he
    -- the end
    have hend {call₂ : CallObj} {w₂ : World} {status : CallStatus}
        {initial trailing : List (Bytes × Bytes)} (hfoot₂ : call₂.Footing w₂)
        (hresponse₂ : call₂.unaryResponsePayload = none)
        (hsent : ∃ req current, Sent w₂ earlier call₂ req current ∧
          w₂.Encodes call₂.attempts messages)
        (h : (pure (some (.done status initial trailing), call₂) :
          Proc (Option CallNext × CallObj)) w₂ = some ((r, call'), w')) :
        Pulled earlier messages r call' w' := by
      obtain ⟨hsame, rfl⟩ := Exec.pure_some.mp h
      obtain ⟨rfl, rfl⟩ := Prod.mk.inj hsame
      refine ⟨hfoot₂, hresponse₂, fun he => ?_, fun payload metadata he => ?_, fun _ _ _ _ => hsent⟩
      · cases he
      · cases he
    simp only at hnext
    cases hok : opened with
    | false =>
      rw [hok] at hnext hgoes
      exact hthrow hgoes.footing hresponse₁ (hgoes.failed rfl) hnext
    | true =>
      rw [hok] at hnext hgoes
      simp only [Bool.not_true, Bool.false_eq_true, if_false] at hnext
      have hfoot₁ := hgoes.footing
      cases hgoes.stage rfl with
      | idle _ hclosed _ hunready =>
        rcases hgoes.opened rfl with hno | hno
        · exact absurd (hunready.symm.trans hno) Bool.false_ne_true
        · exact absurd (hclosed.symm.trans hno) Bool.false_ne_true
      | ended hready₁ hsent hencodes =>
        obtain ⟨status, hstatus⟩ := Option.isSome_iff_exists.mp (hfoot₁.ready hready₁)
        simp only [hready₁, hstatus] at hnext
        exact hend hfoot₁ hresponse₁ ⟨_, _, hsent, hencodes⟩ hnext
      | @pulling c _ req current hres hopened₁ hperformed₁ hready₁ _ hsent hlast hstreaming hcount
          hdelivered hmessage =>
        simp only [hready₁, hres] at hnext
        obtain ⟨result, w₂, hpull, hnext⟩ := Exec.bind_some.mp hnext
        obtain ⟨hfoot₂, hsent₂, hstreaming₂, hcount₂, hdelivered₂, hretryable⟩ :=
          nextResource_goes hpull hfoot₁ hres hsent hlast hstreaming hcount hdelivered
        split at hnext
        · cases result with
          | message payload metadata =>
            obtain ⟨hsame, rfl⟩ := Exec.pure_some.mp hnext
            obtain ⟨rfl, rfl⟩ := Prod.mk.inj hsame
            refine ⟨hfoot₂, hresponse₁, fun he => ?_, fun payload' metadata' he => ?_,
              fun status initial trailing he => ?_⟩
            · cases he
            · obtain ⟨rfl, rfl⟩ := CallNext.message.inj (Option.some.inj he)
              refine ⟨hready₁, hopened₁, .pulling hres hopened₁ hperformed₁ hready₁ hresponse₁
                hsent₂ hlast hstreaming₂ hcount₂ hdelivered₂ fun hno => ?_⟩
              exact absurd hno (List.append_ne_nil_of_right_ne_nil _ (List.cons_ne_nil _ _))
            · cases he
          | done status initial trailing outcome =>
            refine hend hfoot₂ hresponse₁ ⟨_, _, hsent₂, ?_⟩ hnext
            have hmessages := hsent₂.encodes hlast hstreaming₂ hfoot₂.inOrder hdelivered₂
            rw [NextResult.payload, Option.toList_none, List.append_nil] at hmessages
            exact hmessages
        · next hagain =>
          simp only [Bool.or_eq_true, Bool.not_eq_true', not_or, Bool.not_eq_false] at hagain
          obtain ⟨rfl, rfl, hcall, hrefused⟩ := hretryable hagain.1
          obtain ⟨message, hpayload, rfl⟩ := hmessage rfl
          obtain ⟨⟨again, call₂⟩, w₃, hretry, hnext⟩ := Exec.bind_some.mp hnext
          rw [retryCallStream, openCallStreamAttempt_prepared
            { call₁ with serverStreamingOpened := false } 1 rfl hpayload] at hretry
          have hsteps := (openPrepared_made hretry hfoot₂.orderly hfoot₂.held).1.steps hfoot₂.orderly
          obtain ⟨hgoes₂, hopened₂⟩ := openPrepared_goes hretry
            ⟨hfoot₂.orderly, hfoot₂.held, hfoot₂.inOrder, hfoot₂.ready⟩ hsent.attempts
            (.last hcall)
            (fun c' hc' _ => .again (hcall.steps hsteps) (hrefused.steps hsteps hcall.created)
              (.last hc'))
            hpayload rfl hperformed₁ hready₁ hresponse₁
          have hresponse₂ := hgoes₂.response.trans hresponse₁
          simp only at hnext
          cases hok₂ : again with
          | false =>
            rw [hok₂] at hnext hgoes₂
            exact hthrow hgoes₂.footing hresponse₂ (hgoes₂.failed rfl) hnext
          | true =>
            rw [hok₂] at hnext hgoes₂
            simp only [Bool.not_true, Bool.false_eq_true, if_false] at hnext
            exact ih (hgoes₂.stage rfl) hgoes₂.footing (fun _ => hopened₂ hok₂) hresponse₂ hnext

/-- A pull hands out the next message of the last attempt, or ends. -/
theorem Stage.next {r : Option CallNext} (h : Stage w earlier call messages)
    (hfoot : call.Footing w) (hunready : call.statusReady = false)
    (hresponse : call.unaryResponsePayload = none)
    (hnext : serverStreamingNextForCall call w = some ((r, call'), w')) :
    Pulled earlier messages r call' w' := by
  rw [serverStreamingNextForCall, Exec.get_bind_run] at hnext
  exact h.nextLoop hfoot (fun hno => absurd (hunready.symm.trans hno) Bool.false_ne_true) hresponse
    hnext

theorem Footing.congr (h : call.Footing w)
    (hresource : call'.serverStreamingResource = call.serverStreamingResource)
    (hready : call'.statusReady = true → call'.status.isSome = true) : call'.Footing w :=
  ⟨h.orderly, fun c hc => h.held c (hresource ▸ hc), h.inOrder, hready⟩

/-- The end of a stream is stored. -/
theorem Pulled.storeDone {status : CallStatus} {initial trailing : List (Bytes × Bytes)}
    {handed : List Bytes} {r : Option CallNext} (h : Pulled earlier messages r call w)
    (hr : r = some (.done status initial trailing)) (hhanded : handed <+: messages) :
    (Proc.storeNext call (.done status initial trailing)).Footing w ∧
      Stage w earlier (Proc.storeNext call (.done status initial trailing)) handed := by
  obtain ⟨req, current, hsent, hencodes⟩ := h.done status initial trailing hr
  have hfront := hencodes.front hhanded
  simp only [Proc.storeNext]
  split
  · exact ⟨h.footing.congr rfl fun _ => rfl, .ended rfl (hsent.congr rfl rfl) hfront⟩
  · exact ⟨h.footing.congr rfl fun _ => rfl, .ended rfl (hsent.congr rfl rfl) hfront⟩

/-- The drain of a batch that wants the status drops the messages that it pulls. -/
theorem Stage.drain {fuel : Nat} {ok : Bool} {handed : List Bytes}
    (h : Stage w earlier call messages) (hfoot : call.Footing w)
    (hunready : call.statusReady = false) (hresponse : call.unaryResponsePayload = none)
    (hhanded : handed <+: messages)
    (hdrain : drainForStatus fuel call w = some ((ok, call'), w')) :
    call'.Footing w' ∧ call'.unaryResponsePayload = none ∧
      (ok = false → handed = [] ∧ Stage w' call'.attempts call' []) ∧
      (ok = true → call'.statusReady = true ∧ Stage w' earlier call' handed) := by
  induction fuel generalizing w call messages with
  | zero => exact (Exec.block_some.mp hdrain).elim
  | succ fuel ih =>
    obtain ⟨⟨next, call₁⟩, w₁, hnext, hdrain⟩ := Exec.bind_some.mp hdrain
    have hpulled := h.next hfoot hunready hresponse hnext
    match next with
    | none =>
      obtain ⟨hsame, rfl⟩ := Exec.pure_some.mp hdrain
      obtain ⟨rfl, rfl⟩ := Prod.mk.inj hsame
      obtain ⟨rfl, hstage⟩ := hpulled.threw rfl
      exact ⟨hpulled.footing, hpulled.response, fun _ => ⟨List.prefix_nil.mp hhanded, hstage⟩,
        fun hno => absurd hno Bool.false_ne_true⟩
    | some (.message payload metadata) =>
      obtain ⟨hunready₁, -, hstage⟩ := hpulled.message payload metadata rfl
      exact ih hstage hpulled.footing hunready₁ hpulled.response
        (hhanded.trans (List.prefix_append _ _)) hdrain
    | some (.done status initial trailing) =>
      obtain ⟨hsame, rfl⟩ := Exec.pure_some.mp hdrain
      obtain ⟨rfl, rfl⟩ := Prod.mk.inj hsame
      obtain ⟨hfoot', hstage⟩ := hpulled.storeDone rfl hhanded
      refine ⟨hfoot', ?_, fun hno => absurd hno.symm Bool.false_ne_true, fun _ => ⟨rfl, hstage⟩⟩
      simp only [Proc.storeNext]
      split
      · exact hpulled.response
      · exact hpulled.response

/-! ## Unary calls -/

/-- Performing a unary call. -/
theorem Stage.performUnary (h : Stage w earlier call messages) (hfoot : call.Footing w)
    (hclosed : call.serverStreamingOpened = false) (hunready : call.statusReady = false) {ok : Bool}
    (hperform : performCallUnary call w = some ((ok, call'), w')) :
    messages = [] ∧ call'.Footing w' ∧ (ok = false → Stage w' call'.attempts call' []) ∧
      (ok = true → call'.statusReady = true ∧ ∃ req current, Sent w' earlier call' req current ∧
        w'.Encodes call'.attempts call'.unaryResponsePayload.toList) := by
  have hmade := performCallUnary_made hperform hfoot.orderly
  cases h with
  | pulling _ hopened => exact absurd (hclosed.symm.trans hopened) Bool.false_ne_true
  | ended hready => exact absurd (hunready.symm.trans hready) Bool.false_ne_true
  | idle hresource _ hperformed _ hresponse hattempts =>
  refine ⟨rfl, ?_⟩
  have hheld {call₁ : CallObj} {w₁ : World} (hnone : call₁.serverStreamingResource = none) :
      w₁.Holds call₁ := fun c hc => absurd (hnone.symm.trans hc) (Option.some_ne_none c).symm
  -- nothing has changed behind an exception
  have hidle {w₁ : World} (h : (pure (false, call) : Proc (Bool × CallObj)) w₁ =
      some ((ok, call'), w')) :
      call'.Footing w' ∧ (ok = false → Stage w' call'.attempts call' []) ∧
        (ok = true → call'.statusReady = true ∧ ∃ req current, Sent w' earlier call' req current ∧
          w'.Encodes call'.attempts call'.unaryResponsePayload.toList) := by
    obtain ⟨hsame, rfl⟩ := Exec.pure_some.mp h
    obtain ⟨rfl, rfl⟩ := Prod.mk.inj hsame
    exact ⟨hfoot.made hmade (hheld hresource) hfoot.ready,
      fun _ => .idle hresource hclosed hperformed hunready hresponse rfl,
      fun hno => absurd hno Bool.false_ne_true⟩
  have hsteps := hmade.steps hfoot.orderly
  unfold performCallUnary at hperform
  cases hpayload : call.requestPayload with
  | none =>
    simp only [hpayload] at hperform
    exact hidle hperform
  | some message =>
    simp only [hpayload] at hperform
    split at hperform
    · obtain ⟨hsame, rfl⟩ := Exec.pure_some.mp hperform
      obtain ⟨rfl, rfl⟩ := Prod.mk.inj hsame
      refine ⟨hfoot.made hmade (hheld hresource) fun _ => rfl,
        fun hno => absurd hno.symm Bool.false_ne_true, fun _ => ⟨rfl, _, [], ⟨?_, .none,
          asks_request call message⟩, .inl ?_⟩⟩
      · rw [List.append_nil]
        exact hattempts
      · change call.unaryResponsePayload.toList = []
        rw [hresponse]
        rfl
    obtain ⟨merged, w₁, hmerge, hperform⟩ := Exec.bind_some.mp hperform
    have hmade₁ := Made.of_operation (.credentials call hmerge) hfoot.orderly
    obtain ⟨-, hfields⟩ := mergeCallCredentialsMetadata_fields hmerge
    cases merged with
    | none => exact hidle hperform
    | some call₁ =>
      obtain ⟨valid, rfl⟩ := hfields call₁ rfl
      simp only at hperform
      rw [Exec.get_bind_run] at hperform
      obtain ⟨outcome, w₂, hattempt, hperform⟩ := Exec.bind_some.mp hperform
      rw [Exec.get_bind_run] at hperform
      obtain ⟨hstore, rfl⟩ := Exec.pure_some.mp hperform
      obtain ⟨hattempted, hencodes⟩ := performUnary_attempted hattempt hmade₁.orderly
      have hall : call.attempts ++ List.range' w₁.nextCall (w₂.nextCall - w₁.nextCall) =
          earlier ++ List.range' w₁.nextCall (w₂.nextCall - w₁.nextCall) := by rw [hattempts]
      cases outcome with
      | setupFailure code error =>
        obtain ⟨rfl, rfl⟩ := Prod.mk.inj hstore
        exact ⟨hfoot.made hmade (hheld hresource) fun _ => rfl,
          fun hno => absurd hno.symm Bool.false_ne_true,
          fun _ => ⟨rfl, _, _, ⟨hall, hattempted, message, valid, rfl⟩, .inl rfl⟩⟩
      | failure failure =>
        obtain ⟨rfl, rfl⟩ := Prod.mk.inj hstore
        exact ⟨hfoot.made hmade (hheld hresource) hfoot.ready,
          fun _ => .idle hresource hclosed hperformed hunready hresponse rfl,
          fun hno => absurd hno Bool.false_ne_true⟩
      | result k result =>
        obtain ⟨rfl, rfl⟩ := Prod.mk.inj hstore
        refine ⟨hfoot.made hmade (hheld hresource) fun _ => rfl,
          fun hno => absurd hno.symm Bool.false_ne_true,
          fun _ => ⟨rfl, _, _, ⟨hall, hattempted, message, valid, rfl⟩, ?_⟩⟩
        change w₂.Encodes (call.attempts ++ _)
          (if result.status.code = Status.ok then result.body else none).toList
        by_cases hok : result.status.code = Status.ok
        · rw [if_pos hok]
          rw [hall]
          exact (hencodes k result rfl hok).append earlier
        · rw [if_neg hok]
          exact .inl rfl

/-! ## Batches -/

end CallObj

/-- The messages that a batch hands out. -/
def Proc.BatchEvent.messages (event : Option BatchEvent) : List Bytes :=
  event.toList.flatMap fun event => event.message.join.toList

theorem Proc.messages_batchEvent (call : CallObj) (ops : Batch) (message : Option Bytes) :
    BatchEvent.messages (some (batchEvent call ops message)) =
      if ops.recvMessage then message.toList else [] := by
  simp only [BatchEvent.messages, batchEvent, Option.toList_some, List.flatMap_singleton]
  split <;> rfl

namespace CallObj

variable {call call' : CallObj} {w w' : World} {earlier : List CallId} {messages : List Bytes}

/-- An object between two methods: a stream is open only behind its first message. -/
structure Rests (w : World) (earlier : List CallId) (call : CallObj) (messages : List Bytes) :
    Prop where
  /-- The object has its footing. -/
  footing : call.Footing w
  /-- The stage. -/
  stage : Stage w earlier call messages
  /-- An open stream has returned a message. -/
  begun : call.statusReady = false → call.serverStreamingOpened = true → messages ≠ []

/-- A finished object rests. -/
theorem Rests.of_ended (hfoot : call.Footing w) (hready : call.statusReady = true)
    (hstage : Stage w earlier call messages) : Rests w earlier call messages :=
  ⟨hfoot, hstage, fun hno => absurd (hready.symm.trans hno) (by decide)⟩

/-- Behind an exception the object is idle. -/
theorem Rests.of_idle (hfoot : call.Footing w) (hstage : Stage w call.attempts call []) :
    Rests w call.attempts call [] := by
  refine ⟨hfoot, hstage, fun hunready hopened => ?_⟩
  cases hstage with
  | idle _ hclosed => exact absurd (hclosed.symm.trans hopened) Bool.false_ne_true
  | pulling _ _ _ _ _ hsent hlast =>
    have hnil : _ = [] := List.append_right_eq_self.mp hsent.attempts.symm
    rw [hnil] at hlast
    cases hlast
  | ended hready => exact absurd (hunready.symm.trans hready) Bool.false_ne_true

/-- A change of what the stage does not look at. Behind its first message that includes the
stored request. -/
theorem Stage.congr (h : Stage w earlier call messages)
    (hbegun : call.statusReady = false → call.serverStreamingOpened = true → messages ≠ [])
    (hresource : call'.serverStreamingResource = call.serverStreamingResource)
    (hopened : call'.serverStreamingOpened = call.serverStreamingOpened)
    (hperformed : call'.unaryPerformed = call.unaryPerformed)
    (hready : call'.statusReady = call.statusReady)
    (hresponse : call.unaryResponsePayload = none → call'.unaryResponsePayload = none)
    (hattempts : call'.attempts = call.attempts) (hchannel : call'.channel = call.channel) :
    Stage w earlier call' messages := by
  cases h with
  | idle hres hclosed hidle hunready hnone hall =>
    exact .idle (hresource.trans hres) (hopened.trans hclosed) (hperformed.trans hidle)
      (hready.trans hunready) (hresponse hnone) (hattempts.trans hall)
  | pulling hres hopen hidle hunready hnone hsent hlast hstreaming hcount hdelivered =>
    exact .pulling (hresource.trans hres) (hopened.trans hopen) (hperformed.trans hidle)
      (hready.trans hunready) (hresponse hnone) (hsent.congr hattempts hchannel) hlast hstreaming
      hcount hdelivered fun hnil => absurd hnil (hbegun hunready hopen)
  | ended hfinal hsent hencodes =>
    exact .ended (hready.trans hfinal) (hsent.congr hattempts hchannel) (hattempts ▸ hencodes)

/-- A batch on an object that is neither cancelled nor finished hands out the next messages, or it
throws in front of the first one. -/
theorem Rests.runBatch (h : Rests w earlier call messages) (hunready : call.statusReady = false)
    {ops : Batch} {event : Option BatchEvent}
    (hrun : Proc.runBatch call ops w = some ((event, call'), w')) :
    ∃ earlier', Rests w' earlier' call' (messages ++ BatchEvent.messages event) ∧
      (event.isSome = true → earlier' = earlier) := by
  have hresponse : call.unaryResponsePayload = none := by
    cases h.stage with
    | idle _ _ _ _ hresponse => exact hresponse
    | pulling _ _ _ _ hresponse => exact hresponse
    | ended hready => exact absurd (hunready.symm.trans hready) Bool.false_ne_true
  -- an exception
  have hthrow {call₁ : CallObj} {w₁ : World} (hfoot : call₁.Footing w₁)
      (hstage : messages = [] ∧ Stage w₁ call₁.attempts call₁ [])
      (h : (pure (none, call₁) : Proc (Option BatchEvent × CallObj)) w₁ =
        some ((event, call'), w')) :
      ∃ earlier', Rests w' earlier' call' (messages ++ BatchEvent.messages event) ∧
        (event.isSome = true → earlier' = earlier) := by
    obtain ⟨hsame, rfl⟩ := Exec.pure_some.mp h
    obtain ⟨rfl, rfl⟩ := Prod.mk.inj hsame
    obtain ⟨rfl, hstage⟩ := hstage
    exact ⟨call₁.attempts, .of_idle hfoot hstage, fun hno => absurd hno Bool.false_ne_true⟩
  -- a batch that hands out nothing
  have hnothing {call₁ : CallObj} {w₁ : World} {message : Option Bytes}
      (hnone : ops.recvMessage = true → message = none) (hrests : Rests w₁ earlier call₁ messages)
      (h : (pure (some (batchEvent call₁ ops message), call₁) :
        Proc (Option BatchEvent × CallObj)) w₁ = some ((event, call'), w')) :
      ∃ earlier', Rests w' earlier' call' (messages ++ BatchEvent.messages event) ∧
        (event.isSome = true → earlier' = earlier) := by
    obtain ⟨hsame, rfl⟩ := Exec.pure_some.mp h
    obtain ⟨rfl, rfl⟩ := Prod.mk.inj hsame
    refine ⟨earlier, ?_, fun _ => rfl⟩
    rw [messages_batchEvent]
    split
    · next hrecv =>
      rw [hnone hrecv, Option.toList_none, List.append_nil]
      exact hrests
    · rw [List.append_nil]
      exact hrests
  unfold Proc.runBatch at hrun
  split at hrun
  · by_cases hnew : (!call.unaryPerformed && !call.serverStreamingOpened) = true
    · rw [if_pos hnew] at hrun
      simp only [Bool.and_eq_true, Bool.not_eq_true'] at hnew
      obtain ⟨⟨ok, call₁⟩, w₁, hperform, hrun⟩ := Exec.bind_some.mp hrun
      obtain ⟨rfl, hfoot₁, hfailed, hdone⟩ :=
        h.stage.performUnary h.footing hnew.2 hunready hperform
      cases ok with
      | false => exact hthrow hfoot₁ ⟨rfl, hfailed rfl⟩ hrun
      | true =>
        obtain ⟨hready₁, req, current, hsent, hencodes⟩ := hdone rfl
        obtain ⟨hsame, rfl⟩ := Exec.pure_some.mp hrun
        obtain ⟨rfl, rfl⟩ := Prod.mk.inj hsame
        refine ⟨earlier, .of_ended hfoot₁ hready₁ (.ended hready₁ hsent (hencodes.front ?_)),
          fun _ => rfl⟩
        rw [List.nil_append, messages_batchEvent]
        split
        · exact List.prefix_rfl
        · exact List.nil_prefix
    rw [if_neg hnew] at hrun
    by_cases hopen : (call.serverStreamingOpened && !call.statusReady) = true
    · rw [if_pos hopen, Exec.get_bind_run] at hrun
      obtain ⟨⟨ok, call₁⟩, w₁, hdrain, hrun⟩ := Exec.bind_some.mp hrun
      obtain ⟨hfoot₁, hresponse₁, hfailed, hdone⟩ :=
        h.stage.drain h.footing hunready hresponse List.prefix_rfl hdrain
      cases ok with
      | false => exact hthrow hfoot₁ (hfailed rfl) hrun
      | true =>
        obtain ⟨hready₁, hstage₁⟩ := hdone rfl
        refine hnothing (fun _ => ?_) (.of_ended hfoot₁ hready₁ hstage₁) hrun
        rw [hresponse₁, ite_self]
    · rw [if_neg hopen] at hrun
      exact hnothing (fun _ => hresponse) h hrun
  by_cases hpull : (ops.recvMessage && !call.unaryPerformed) = true
  · rw [if_pos hpull] at hrun
    simp only [Bool.and_eq_true] at hpull
    obtain ⟨⟨next, call₁⟩, w₁, hnext, hrun⟩ := Exec.bind_some.mp hrun
    have hpulled := h.stage.next h.footing hunready hresponse hnext
    match next with
    | none => exact hthrow hpulled.footing (hpulled.threw rfl) hrun
    | some (.message payload metadata) =>
      obtain ⟨hunready₁, hopened₁, hstage₁⟩ := hpulled.message payload metadata rfl
      obtain ⟨hsame, rfl⟩ := Exec.pure_some.mp hrun
      obtain ⟨rfl, rfl⟩ := Prod.mk.inj hsame
      refine ⟨earlier, ?_, fun _ => rfl⟩
      rw [messages_batchEvent, if_pos hpull.1]
      have hmore : messages ++ [payload] ≠ [] :=
        List.append_ne_nil_of_right_ne_nil _ (List.cons_ne_nil _ _)
      have hrests : Rests w₁ earlier (Proc.storeNext call₁ (.message payload metadata))
          (messages ++ [payload]) := by
        simp only [Proc.storeNext]
        split
        · exact ⟨hpulled.footing, hstage₁, fun _ _ => hmore⟩
        · exact ⟨hpulled.footing.congr rfl hpulled.footing.ready,
            hstage₁.congr (fun _ _ => hmore) rfl rfl rfl rfl id rfl rfl, fun _ _ => hmore⟩
      exact hrests
    | some (.done status initial trailing) =>
      obtain ⟨hfoot₁, hstage₁⟩ := hpulled.storeDone rfl List.prefix_rfl
      refine hnothing (fun _ => rfl) (.of_ended hfoot₁ ?_ hstage₁) hrun
      rfl
  · rw [if_neg hpull] at hrun
    refine hnothing (fun hrecv => ?_) h hrun
    rw [hresponse, ite_self]

/-- `Call::startBatch` hands out the next messages, or it throws; the calls given up grow only
behind an exception. -/
theorem Rests.startBatch (h : Rests w earlier call messages) {ops : Batch}
    {event : Option BatchEvent}
    (hbatch : Proc.startBatch call ops w = some ((event, call'), w')) :
    ∃ earlier', Rests w' earlier' call' (messages ++ BatchEvent.messages event) ∧
      (event.isSome = true → earlier' = earlier) := by
  obtain ⟨hok, -⟩ := storeSendBatch_kept call ops
  have hstored : Rests w earlier (storeSendBatch call ops).2 messages := by
    unfold storeSendBatch
    cases ops.sendInitialMetadata <;> rcases ops.sendMessage with _ | _ | _ <;>
      exact ⟨h.footing.congr rfl h.footing.ready,
        h.stage.congr h.begun rfl rfl rfl rfl (by simp) rfl rfl, h.begun⟩
  rw [Proc.startBatch] at hbatch
  rcases hstore : storeSendBatch call ops with ⟨stored, call₀⟩
  rw [hstore] at hbatch hstored
  simp only at hbatch hstored
  have hquiet {call₁ : CallObj} (hrests : Rests w earlier call₁ messages)
      (h : (pure (some (batchEvent call₁ ops none), call₁) :
        Proc (Option BatchEvent × CallObj)) w = some ((event, call'), w')) :
      ∃ earlier', Rests w' earlier' call' (messages ++ BatchEvent.messages event) ∧
        (event.isSome = true → earlier' = earlier) := by
    obtain ⟨hsame, rfl⟩ := Exec.pure_some.mp h
    obtain ⟨rfl, rfl⟩ := Prod.mk.inj hsame
    refine ⟨earlier, ?_, fun _ => rfl⟩
    rw [messages_batchEvent, Option.toList_none, ite_self, List.append_nil]
    exact hrests
  split at hbatch
  · obtain ⟨hsame, rfl⟩ := Exec.pure_some.mp hbatch
    obtain ⟨rfl, rfl⟩ := Prod.mk.inj hsame
    refine ⟨earlier, ?_, fun _ => rfl⟩
    rw [BatchEvent.messages, Option.toList_none, List.flatMap_nil, List.append_nil]
    exact hstored
  split at hbatch
  · refine hquiet ?_ hbatch
    unfold markCancelled
    split
    · exact hstored
    · next hunready =>
      have hunready : call₀.statusReady = false := Bool.not_eq_true _ ▸ hunready
      refine .of_ended (hstored.footing.congr rfl fun _ => rfl) rfl ?_
      cases hstored.stage with
      | idle _ _ _ _ _ hall =>
        refine .ended rfl (?_ : Sent w earlier _ (call₀.request []) []) (.inl rfl)
        refine ⟨?_, .none, [], call₀.metadataValid, rfl⟩
        rw [List.append_nil]
        exact hall
      | pulling _ _ _ _ _ hsent hlast hstreaming _ hdelivered =>
        exact .ended rfl (hsent.congr rfl rfl)
          (hsent.encodes hlast hstreaming hstored.footing.inOrder hdelivered)
      | ended hready => exact absurd (hunready.symm.trans hready) Bool.false_ne_true
  split at hbatch
  · exact hquiet hstored hbatch
  · next hunready => exact hstored.runBatch (Bool.not_eq_true _ ▸ hunready) hbatch

/-- What leaves the own stream alone. -/
theorem Rests.made (h : Rests w earlier call messages) (hmade : Made w w')
    (hkept : ∀ c ∈ call.held, (w'.calls c).settled = (w.calls c).settled ∧
      (w'.calls c).live = (w.calls c).live) : Rests w' earlier call messages := by
  refine ⟨h.footing.made hmade (fun c hc => ?_) h.footing.ready,
    h.stage.steps (hmade.steps h.footing.orderly) fun c hc => (hkept c hc).1, h.begun⟩
  rw [(hkept c hc).2]
  exact h.footing.held c hc

/-- A cancellation leaves what was handed out as it is. -/
theorem Rests.cancel (h : Rests w earlier call messages)
    (hcancel : cancelCall call w = some (call', w')) : Rests w' earlier call' messages := by
  have hmade := cancelCall_made hcancel h.footing.orderly h.footing.held
  obtain ⟨_, w₁, hresource, hcancel⟩ := Exec.bind_some.mp hcancel
  obtain ⟨rfl, rfl⟩ := Exec.pure_some.mp hcancel
  have hstill : w.Still ∅ w₁ := cancelResource_still call _ _ _ hresource
  have hrests := h.made hmade fun c _ => ⟨hstill.settled c, hstill.live c (Set.notMem_empty c)⟩
  exact ⟨hrests.footing.congr rfl hrests.footing.ready,
    hrests.stage.congr hrests.begun rfl rfl rfl rfl id rfl rfl, hrests.begun⟩

/-- Credentials do not disturb a rest. -/
theorem Rests.setCredentials (h : Rests w earlier call messages) (plugin : Bool) :
    Rests w earlier (Proc.setCredentials call plugin) messages :=
  ⟨h.footing.congr rfl h.footing.ready, h.stage.congr h.begun rfl rfl rfl rfl id rfl rfl, h.begun⟩

/-- A new object. -/
theorem Rests.construct (key : Bytes) (ssl inputsValid : Bool) (maxReceiveMessageLength : Int)
    (maxResponseMetadataBytes : Nat) (deadlineUs : Int) (ho : w.Orderly) (hin : w.InOrder) :
    Rests w [] (CallObj.construct key ssl inputsValid maxReceiveMessageLength
      maxResponseMetadataBytes deadlineUs) [] := by
  refine ⟨⟨ho, fun c hc => ?_, hin, fun hready => ?_⟩, .idle rfl rfl rfl rfl rfl rfl,
    fun _ hopened => ?_⟩
  · cases hc
  · cases hready
  · cases hopened

/-- What is known of the object between two methods. -/
theorem Rests.accounts (h : Rests w earlier call messages) :
    w.Encodes call.attempts messages ∧
      ∃ req current, call.Asks req ∧ call.attempts = earlier ++ current ∧
        w.Attempted req 0 current := by
  cases h.stage with
  | idle _ _ _ _ _ hall =>
    exact ⟨.inl rfl, _, [], asks_request call [], by rw [List.append_nil]; exact hall, .none⟩
  | pulling _ _ _ _ _ hsent hlast hstreaming _ hdelivered =>
    exact ⟨hsent.encodes hlast hstreaming h.footing.inOrder hdelivered, _, _, hsent.asks,
      hsent.attempts, hsent.attempted⟩
  | ended _ hsent hencodes => exact ⟨hencodes, _, _, hsent.asks, hsent.attempts, hsent.attempted⟩

end CallObj

end GrpcLite
