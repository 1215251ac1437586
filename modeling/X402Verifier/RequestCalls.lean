import X402Verifier.DecisionRun
import X402Verifier.StreamReplies
import X402Verifier.Told

/-!
# What an actor calls, and is told to pay

Every call an actor makes is accounted for by a message it was sent (`MayCall`): a request leads to
the calls of its own path and policy (`Asks`), and the other entry points to theirs. Between the phases
of a stream the payment that waits is on the terms of the request it came with (`Local.Awaits`). And
whoever is asked to pay is asked for the terms of a request it sent (`Told.Quotes`).

`calls_are_asked_for` and `challenges_are_asked_for` are about every run; what else is said of the
calls and challenges of a run follows from them by cases.
-/

namespace X402Verifier

open RustStd Interaction

variable [Platform]

/-- The calls a request may lead to, at its path and under the policy it came with. -/
inductive Asks (svc : Service) (path : String) (policy : Option String) : Op → Prop
  | nowEpochSecs : Asks svc path policy .nowEpochSecs
  | consume (token : String) : Asks svc path policy (.consume token policy)
  | claimPayment (id : String) : Asks svc path policy (.claimPayment id
      (replayTtl (svc.config.policyFor path policy).payment.maxTimeoutSeconds))
  | releasePayment (id : String) : Asks svc path policy (.releasePayment id)
  | createSession (payer : String) : Asks svc path policy (.createSession payer policy
      (svc.config.policyFor path policy).paidTier.quota
      (svc.config.policyFor path policy).paidTier.durationSecs)
  | check (ip : IpAddr) : Asks svc path policy (.check (svc.config.policyFor path policy).label ip
      (svc.config.policyFor path policy).freeTier.maxRequests
      (svc.config.policyFor path policy).freeTier.windowSecs)
  | breakerState : Asks svc path policy (.breakerState (breakerPolicy policy))
  | breakerRecord (failed : Bool) : Asks svc path policy (.breakerRecord (breakerPolicy policy) failed)
  | verify (payload : PaymentPayload) : Asks svc path policy (.verify payload
      (.fromConfig (svc.config.policyFor path policy).payment))
  | settle (payload : PaymentPayload) : Asks svc path policy (.settle payload
      (.fromConfig (svc.config.policyFor path policy).payment))

/-- A message asks for the path, under the policy the gateway matched. -/
inductive AsksFor : Message → String → Option String → Prop
  | check (request : CheckRequest) :
      AsksFor (.check request) ((request.http.map (·.path)).getD "")
        (request.contextExtensions.get? policyContextKey)
  | stream (attributes : Attributes) (headers : Option (List HeaderValue)) (elapsedMs : String) :
      AsksFor (.processing ⟨attributes, .requestHeaders headers⟩ elapsedMs)
        (((headerMap headers).get? ":path").getD "") (policyFromAttributes attributes)

/-- The calls an actor may make that was sent these messages. -/
inductive MayCall (svc : Service) (sent : Message → Prop) : Op → Prop
  | request {msg : Message} {path : String} {policy : Option String} {op : Op} (hsent : sent msg)
      (asksFor : AsksFor msg path policy) (asks : Asks svc path policy op) : MayCall svc sent op
  | postVerify {request : FacilitatorRequest} (hsent : sent (.postVerify request)) :
      MayCall svc sent (.verify request.paymentPayload request.paymentRequirements)
  | postClaim {request : FacilitatorRequest} (hsent : sent (.postSettle request)) (id : String) :
      MayCall svc sent
        (.claimPayment id (replayTtl request.paymentRequirements.maxTimeoutSeconds))
  | postSettle {request : FacilitatorRequest} (hsent : sent (.postSettle request)) :
      MayCall svc sent (.settle request.paymentPayload request.paymentRequirements)
  | postRelease {request : FacilitatorRequest} (hsent : sent (.postSettle request)) (id : String) :
      MayCall svc sent (.releasePayment id)
  | cleanupExpired (hsent : sent .tick) : MayCall svc sent .cleanupExpired
  | cleanupIdle (hsent : sent .tick) : MayCall svc sent .cleanupIdle

/-- A payment that waits in a stream is on the terms of the request it came with. -/
def Local.Awaits (svc : Service) (sent : Message → Prop) : Local → Prop
  | .stream st => ∀ pending, st.pending = some pending →
      ∃ msg, sent msg ∧ AsksFor msg st.path st.policy ∧
        pending.requirements = .fromConfig (svc.config.policyFor st.path st.policy).payment
  | _ => True

/-- The challenges an actor is told. -/
def Told.challenges : Told → List String
  | .processed reply => sentUnder headerPaymentRequired reply.sets
  | .checked (.ok headers _ responseHeadersToAdd _) =>
    sentUnder headerPaymentRequired (headers ++ responseHeadersToAdd)
  | .checked (.denied _ headers _ _) => sentUnder headerPaymentRequired headers
  | .verified _ | .settled _ => []

/-- They are such challenges. -/
def Told.Quotes (quote : PaymentRequired → Prop) (told : Told) : Prop :=
  ∀ text ∈ told.challenges, ∃ challenge, quote challenge ∧ text = encodeHeader challenge.toJson

/-- A challenge on the terms of a request. -/
def ChallengeOf (svc : Service) (path : String) (policy : Option String)
    (challenge : PaymentRequired) : Prop :=
  ∃ resourceUrl error, challenge = (svc.termsFor path policy resourceUrl).challenge error

/-- A challenge on the terms of a request among these messages. -/
def ChallengeAsked (svc : Service) (sent : Message → Prop) (challenge : PaymentRequired) : Prop :=
  ∃ msg path policy, sent msg ∧ AsksFor msg path policy ∧ ChallengeOf svc path policy challenge

/-! ## A decision -/

/-- The payment it leaves is on the terms of its request, or the challenge is. -/
def Decision.OnTerms (svc : Service) (path : String) (policy : Option String) : Decision → Prop
  | .allow _ _ _ _ pending _ => ∀ p, pending = some p →
      p.requirements = .fromConfig (svc.config.policyFor path policy).payment
  | .deny challenge _ _ => ChallengeOf svc path policy challenge

section Decide

variable {svc : Service} {path : String} {policy : Option String} {trace : List (Event Op.Ret)}

omit [Platform] in
theorem asks_of_calledOn {resourceUrl : String} {op : Op}
    (h : CalledOn (svc.termsFor path policy resourceUrl) policy op) : Asks svc path policy op := by
  cases h <;> constructor

theorem onTerms_of_keepsTo {resourceUrl : String} {d : Decision}
    (h : d.KeepsTo (svc.termsFor path policy resourceUrl)) : d.OnTerms svc path policy := by
  cases d with
  | allow => exact h
  | deny challenge receipt meter =>
    obtain ⟨error, rfl⟩ := h
    exact ⟨resourceUrl, error, rfl⟩

omit [Platform] in
theorem MintCalls.asks {receipt : SettlementResponse} {calls : List (Event Op.Ret)}
    {token : Option String}
    (h : MintCalls receipt policy (svc.config.policyFor path policy).paidTier calls token) :
    ∀ e ∈ calls, Asks svc path policy e.1 := by
  cases h with
  | nobody => exact List.forall_mem_nil _
  | minted | failed => exact List.forall_mem_singleton.mpr (.createSession _)

/-- **A decision.** It makes the calls of its own terms, and is on them. -/
theorem asks_decide {headers : HeaderView} {clientIp : Option IpAddr} {resourceUrl : String}
    {settlePolicy : SettlePolicy} :
    (svc.decide headers clientIp path policy resourceUrl settlePolicy).Follows
      (.trace (Asks svc path policy)) (fun _ d => d.OnTerms svc path policy) trace :=
  (calls_decide svc headers clientIp path policy resourceUrl settlePolicy).follows_trace
    fun _ _ h => ⟨fun e he => asks_of_calledOn (h.calledOn.1 e he), onTerms_of_keepsTo h.calledOn.2⟩

end Decide

/-! ## Challenges -/

section Challenges

theorem quotes_of_challenges {quote : PaymentRequired → Prop} {told : Told}
    (h : told.challenges = []) : told.Quotes quote := by
  intro text htext
  rw [h] at htext
  cases htext

omit [Platform] in
@[simp] theorem challenges_processed (reply : ProcessingResponse) :
    (Told.processed reply).challenges = sentUnder headerPaymentRequired reply.sets := rfl

omit [Platform] in
theorem challenge_meter (meter : Meter) (toHeader : String × String → HeaderValueOption)
    (htoHeader : ∀ e, (toHeader e).key = e.1) :
    sentUnder headerPaymentRequired (meter.headers.map toHeader) = [] :=
  sentUnder_meter meter toHeader htoHeader _ (by simp [framingNames])

theorem challenge_meterHeaders (st : StreamState) :
    sentUnder headerPaymentRequired st.meterHeaders = [] := challenge_meter st.meter _ fun _ => rfl

omit [Platform] in
theorem challenge_other {key : String} (value : String) (h : key ≠ headerPaymentRequired) :
    sentUnder headerPaymentRequired [header key value] = [] := by
  simp [sentUnder_cons, h]

theorem challenge_measured (st : StreamState) (timing : String) :
    sentUnder headerPaymentRequired (st.meterHeaders ++ [header headerServerTiming timing]) = [] := by
  rw [sentUnder_append, challenge_meterHeaders, challenge_other timing (by decide), List.append_nil]

omit [Platform] in
theorem sentUnder_filter_eq_nil {name : String} {headers : List HeaderValueOption}
    (h : sentUnder name headers = []) (p : HeaderValueOption → Bool) :
    sentUnder name (headers.filter p) = [] := by
  have hsublist : (sentUnder name (headers.filter p)).Sublist (sentUnder name headers) :=
    (List.filter_sublist.filter _).map _
  exact List.sublist_nil.mp (h ▸ hsublist)

theorem challenges_settlementUnavailable (path : String) :
    (Told.processed (settlementUnavailable path)).challenges = [] := by
  unfold settlementUnavailable
  cases startsWith path "/sui.rpc.v2." || startsWith path "/grpc." <;>
    simp [ProcessingResponse.sets, sentUnder_cons, headerPaymentRequired]

omit [Platform] in
theorem challenges_allowReply (tier : Tier) (payer : Option String) (meter : Meter)
    (view : HeaderView) : (Told.processed (allowReply tier payer meter view)).challenges = [] := by
  rw [challenges_processed, allowReply, ProcessingResponse.sets, setHeaders_continueWith]
  simp [sentUnder_cons, headerTier, headerPayer, headerPaymentRequired]

theorem challenges_denyReply (challenge : PaymentRequired) (receipt : Option SettlementResponse)
    (meter : Meter) (decideMs : String) :
    (Told.processed (denyReply challenge receipt meter decideMs)).challenges =
      [encodeHeader challenge.toJson] := by
  obtain ⟨r, hreply, hframed⟩ := framed_denyReply_iff challenge receipt meter decideMs false
  rw [hreply]
  exact (hframed.mpr rfl).2.2.1

theorem challenges_unsettledReply (st : StreamState) :
    (Told.processed st.unsettledReply).challenges = [] := by
  rw [challenges_processed, StreamState.unsettledReply, sets_continueWith]
  exact challenge_measured st _

theorem challenges_unpaidReply (st : StreamState) (receipt : SettlementResponse) (settleMs : String) :
    (Told.processed (st.unpaidReply receipt settleMs)).challenges = [] := by
  rw [challenges_processed, StreamState.unpaidReply, sets_continueWith, List.append_cons,
    sentUnder_append, challenge_measured, challenge_other _ (by decide), List.append_nil]

theorem challenges_settledReply (st : StreamState) (settlement : SettlementResponse)
    (token : Option String) (tier : PaidTierConfig) (settleMs : String) :
    (Told.processed (st.settledReply settlement token tier settleMs)).challenges = [] := by
  unfold StreamState.settledReply
  dsimp only
  rw [challenges_processed, sets_continueWith, sentUnder_append, challenge_other _ (by decide),
    List.append_nil]
  cases token with
  | none => exact challenge_measured st _
  | some token =>
    rw [sentUnder_append, challenge_meter _ _ fun _ => rfl, List.append_nil]
    refine sentUnder_filter_eq_nil ?_ _
    rw [sentUnder_append, challenge_measured, challenge_other token (by decide), List.append_nil]

theorem quotes_decisionToResponse {decision : Decision} {path : String} {policy : Option String}
    {svc : Service} {clientIp : Option IpAddr} {grpc : Bool} (h : decision.OnTerms svc path policy) :
    (Told.checked (decisionToResponse decision clientIp grpc)).Quotes (ChallengeOf svc path policy) := by
  cases decision with
  | allow tier payer token settlement pending meter =>
    refine quotes_of_challenges ?_
    have hmeter := challenge_meter meter (fun entry => authoritative entry.1 entry.2) fun _ => rfl
    have hkey : ∀ key value, (authoritative key value).key = key := fun _ _ => rfl
    rw [headerPaymentRequired] at hmeter
    cases token <;> cases settlement <;>
      simp [Told.challenges, decisionToResponse, sentUnder_cons, hmeter, hkey, headerTier,
        headerPayer, headerPaymentRequired, headerPaymentSession, headerPaymentResponse]
  | deny challenge receipt meter =>
    obtain ⟨r, hreply, hframed⟩ := framed_decisionToResponse challenge receipt meter clientIp grpc
    have hchallenges : (Told.checked (decisionToResponse (.deny challenge receipt meter) clientIp
        grpc)).challenges = [encodeHeader challenge.toJson] := by
      cases hresponse : decisionToResponse (.deny challenge receipt meter) clientIp grpc with
      | ok headers removed added metadata =>
        rw [hresponse] at hreply
        cases hreply
      | denied status headers body message =>
        rw [hresponse] at hreply
        cases hreply
        exact hframed.2.2.1
    intro text htext
    rw [hchallenges, List.mem_singleton] at htext
    exact ⟨challenge, h, htext⟩

end Challenges

/-! ## A message -/

section Tell

variable {svc : Service} {sent : Message → Prop} {trace : List (Event Op.Ret)}

theorem ChallengeOf.asked {msg : Message} {path : String} {policy : Option String} (hsent : sent msg)
    (hasksFor : AsksFor msg path policy) {told : Told} (h : told.Quotes (ChallengeOf svc path policy)) :
    told.Quotes (ChallengeAsked svc sent) := fun text htext => by
  obtain ⟨challenge, hchallenge, heq⟩ := h text htext
  exact ⟨challenge, ⟨msg, path, policy, hsent, hasksFor, hchallenge⟩, heq⟩

/-- What holds of a reply on a stream and the state it leaves. -/
def Local.Answered (svc : Service) (sent : Message → Prop) (out : ProcessingResponse × StreamState) :
    Prop :=
  (Local.stream out.2).Awaits svc sent ∧ (Told.processed out.1).Quotes (ChallengeAsked svc sent)

theorem mayCall_handleRequestHeaders {st : StreamState} {attributes : Attributes}
    {headers : Option (List HeaderValue)} {clientIp : Option IpAddr} {elapsedMs : String}
    (hsent : sent (.processing ⟨attributes, .requestHeaders headers⟩ elapsedMs))
    (hst : (Local.stream st).Awaits svc sent) :
    (svc.handleRequestHeaders st headers clientIp (policyFromAttributes attributes)
      elapsedMs).Follows (.trace (MayCall svc sent)) (fun _ => Local.Answered svc sent) trace := by
  have hasksFor := AsksFor.stream attributes headers elapsedMs
  refine .perform (.request hsent hasksFor .breakerState) fun breaker _ => ?_
  split
  · exact ⟨hst, quotes_of_challenges (challenges_settlementUnavailable _)⟩
  · refine (asks_decide.allowing fun op => .request hsent hasksFor).bind fun trace d hd => ?_
    cases d with
    | allow tier payer token settlement pending meter =>
      exact ⟨fun pending hpending => ⟨_, hsent, hasksFor, hd pending hpending⟩,
        quotes_of_challenges (challenges_allowReply ..)⟩
    | deny challenge receipt meter =>
      refine ⟨hst, ChallengeOf.asked hsent hasksFor fun text htext => ?_⟩
      rw [challenges_denyReply, List.mem_singleton] at htext
      exact ⟨challenge, hd, htext⟩

theorem mayCall_handleResponseHeaders {st : StreamState} (headers : Option (List HeaderValue))
    (settleMs : String) (hst : (Local.stream st).Awaits svc sent) :
    (svc.handleResponseHeaders st headers settleMs).Follows (.trace (MayCall svc sent))
      (fun _ => Local.Answered svc sent) trace := by
  refine (calls_handleResponseHeaders svc st headers settleMs).follows_trace fun calls out h => ?_
  have hdone : (Local.stream { st with pending := none }).Awaits svc sent :=
    fun _ hnone => by cases hnone
  cases h with
  | idle =>
    exact ⟨List.forall_mem_nil _, hst, quotes_of_challenges (challenges_unsettledReply st)⟩
  | failed holds failed released =>
    -- The message is the one of the request phase: this one says nothing of path or policy.
    obtain ⟨msg, hsent, hasksFor, hterms⟩ := hst _ holds
    refine ⟨?_, hdone, quotes_of_challenges (challenges_unsettledReply { st with pending := none })⟩
    cases released with
    | unkeyed => exact List.forall_mem_nil _
    | released =>
      exact List.forall_mem_singleton.mpr (.request hsent hasksFor (.releasePayment _))
  | @delivered pending _ _ holds delivered settled =>
    obtain ⟨msg, hsent, hasksFor, hterms⟩ := hst _ holds
    have hsettle : MayCall svc sent (.settle pending.payload pending.requirements) :=
      .request hsent hasksFor (hterms ▸ .settle pending.payload)
    cases settled with
    | unpaid e =>
      refine ⟨List.forall_mem_cons.mpr ⟨hsettle, List.forall_mem_singleton.mpr ?_⟩, hdone,
        quotes_of_challenges (challenges_unpaidReply ..)⟩
      exact .request hsent hasksFor (.breakerRecord true)
    | paid receipt minted =>
      refine ⟨List.forall_mem_cons.mpr ⟨hsettle, List.forall_mem_cons.mpr ⟨?_, fun e he => ?_⟩⟩,
        hdone, quotes_of_challenges (challenges_settledReply ..)⟩
      · exact .request hsent hasksFor (.breakerRecord false)
      · exact .request hsent hasksFor (minted.asks e he)

theorem mayCall_process {st : StreamState} {message : ProcessingRequest} {elapsedMs : String}
    (hsent : sent (.processing message elapsedMs)) (hst : (Local.stream st).Awaits svc sent) :
    (svc.process st message elapsedMs).Follows (.trace (MayCall svc sent))
      (fun _ => Local.Answered svc sent) trace := by
  obtain ⟨attributes, phase⟩ := message
  cases phase with
  | requestHeaders headers => exact mayCall_handleRequestHeaders hsent hst
  | responseHeaders headers => exact mayCall_handleResponseHeaders headers elapsedMs hst
  | other => exact ⟨hst, quotes_of_challenges rfl⟩

omit [Platform] in
theorem mayCall_apiVerify {request : FacilitatorRequest} (hsent : sent (.postVerify request)) :
    (apiVerify request).Follows (.trace (MayCall svc sent)) (fun _ _ => True) trace := by
  refine (calls_apiVerify request).follows_trace fun calls out h => ⟨?_, trivial⟩
  cases h with
  | malformed => exact List.forall_mem_nil _
  | accepted | refused => exact List.forall_mem_singleton.mpr (.postVerify hsent)

theorem RequestedCalls.mayCall {request : FacilitatorRequest} (hsent : sent (.postSettle request))
    {calls : List (Event Op.Ret)} {refused : Option FacilitatorError}
    (h : RequestedCalls request calls refused) : ∀ e ∈ calls, MayCall svc sent e.1 := by
  cases h with
  | unkeyed => exact List.forall_mem_nil _
  | answered => exact List.forall_mem_singleton.mpr (.postClaim hsent _)

theorem mayCall_apiSettle {request : FacilitatorRequest} (hsent : sent (.postSettle request)) :
    (svc.apiSettle request).Follows (.trace (MayCall svc sent)) (fun _ _ => True) trace := by
  refine (calls_apiSettle svc request).follows_trace fun calls out h => ⟨?_, trivial⟩
  cases h with
  | malformed => exact List.forall_mem_nil _
  | refused claimed => exact claimed.mayCall hsent
  | settled claimed receipt =>
    exact List.forall_mem_append.mpr
      ⟨claimed.mayCall hsent, List.forall_mem_singleton.mpr (.postSettle hsent)⟩
  | unsettled claimed e released =>
    refine List.forall_mem_append.mpr
      ⟨claimed.mayCall hsent, List.forall_mem_cons.mpr ⟨.postSettle hsent, ?_⟩⟩
    cases released with
    | unkeyed => exact List.forall_mem_nil _
    | released => exact List.forall_mem_singleton.mpr (.postRelease hsent _)

theorem mayCall_check {request : CheckRequest} (hsent : sent (.check request)) :
    (svc.check request).Follows (.trace (MayCall svc sent))
      (fun _ response => (Told.checked response).Quotes (ChallengeAsked svc sent)) trace := by
  have hasksFor := AsksFor.check request
  exact (asks_decide.allowing fun op => .request hsent hasksFor).bind fun _ _ hd =>
    ChallengeOf.asked hsent hasksFor (quotes_decisionToResponse hd)

/-- **One message.** -/
theorem mayCall_tell {l : Local} {msg : Message} (hsent : sent msg) (hl : l.Awaits svc sent) :
    (svc.tell l msg).Follows (.trace (MayCall svc sent))
      (fun _ answer => answer.1.Awaits svc sent ∧
        ∀ told ∈ answer.2, told.Quotes (ChallengeAsked svc sent)) trace := by
  unfold Service.tell
  split
  · exact (mayCall_process hsent fun _ hnone => by cases hnone).bind fun _ _ h =>
      ⟨h.1, by simpa using h.2⟩
  · exact (mayCall_process hsent hl).bind fun _ _ h => ⟨h.1, by simpa using h.2⟩
  · exact ⟨trivial, nofun⟩
  · exact (mayCall_check hsent).bind fun _ _ h => ⟨trivial, by simpa using h⟩
  · exact (mayCall_apiVerify hsent).bind_any fun _ _ =>
      ⟨trivial, by simpa using quotes_of_challenges rfl⟩
  · exact (mayCall_apiSettle hsent).bind_any fun _ _ =>
      ⟨trivial, by simpa using quotes_of_challenges rfl⟩
  · exact ⟨.cleanupExpired hsent, fun _ _ => ⟨.cleanupIdle hsent, fun _ _ => ⟨trivial, nofun⟩⟩⟩
  · exact ⟨hl, nofun⟩

end Tell

/-! ## A run -/

/-- What an actor waits for is on the terms of its requests, and so is what it was told. -/
def Caller.OnTerms (svc : Service) (sent : Message → Prop) (caller : Caller) : Prop :=
  caller.state.Awaits svc sent ∧ ∀ told ∈ caller.told, told.Quotes (ChallengeAsked svc sent)

theorem front_on_terms (svc : Service) (shared : AppState) (acts : List SystemAction) :
    let sent (a : Nat) (msg : Message) : Prop := .deliver a msg ∈ acts
    (∀ a, Machine.CallsOnly (MayCall svc (sent a)) (Caller.OnTerms svc (sent a))
        ((svc.front.run (frontStart shared) acts).task a)) ∧
      ∀ entry ∈ (svc.front.run (frontStart shared) acts).log,
        MayCall svc (sent entry.1) entry.2.1 := by
  intro sent
  have hmsgs : ∀ (a : Nat) msg, .deliver a msg ∈ acts →
      ∀ caller, Caller.OnTerms svc (sent a) caller →
      (svc.front.handle caller msg).Follows (.trace (MayCall svc (sent a)))
        (fun _ caller => Caller.OnTerms svc (sent a) caller) [] := by
    intro a msg hsent caller ⟨hawaits, htold⟩
    have htell : (svc.tell caller.state msg).Follows (.trace (MayCall svc (sent a)))
        (fun _ answer => answer.1.Awaits svc (sent a) ∧
          ∀ told ∈ answer.2, told.Quotes (ChallengeAsked svc (sent a))) [] :=
      mayCall_tell hsent hawaits
    refine htell.bind fun _ answer hanswer => ⟨hanswer.1, fun told hmem => ?_⟩
    rcases List.mem_append.mp hmem with hmem | hmem
    · exact hanswer.2 told (Option.mem_toList.mp hmem)
    · exact htold told hmem
  exact Machine.run_callsOnly hmsgs (fun _ => Machine.callsOnly_idle ⟨trivial, nofun⟩)
    fun _ hentry => absurd hentry List.not_mem_nil

/-- **The calls of a run.** Each is accounted for by a message its actor was sent. -/
theorem calls_are_asked_for (svc : Service) (shared : AppState) (acts : List SystemAction) :
    ∀ entry ∈ (svc.machine.run (SystemState.start shared) acts).log,
      MayCall svc (fun msg => .deliver entry.1 msg ∈ acts) entry.2.1 := by
  have hlog : (svc.machine.run (SystemState.start shared) acts).log =
      (svc.front.run (frontStart shared) acts).log :=
    congrArg Machine.State.log (svc.front_run (frontStart shared) acts)
  rw [hlog]
  exact (front_on_terms svc shared acts).2

/-- **The challenges of a run.** Each is on the terms of a request its actor sent. -/
theorem challenges_are_asked_for (svc : Service) (shared : AppState) (acts : List SystemAction)
    {a : Nat} {caller : Caller}
    (hcaller : (svc.front.run (frontStart shared) acts).task a = .idle caller) :
    ∀ told ∈ caller.told, told.Quotes (ChallengeAsked svc fun msg => .deliver a msg ∈ acts) :=
  (hcaller ▸ (front_on_terms svc shared acts).1 a).idle.2

end X402Verifier
