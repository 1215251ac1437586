import X402Verifier.OnChain
import X402Verifier.RefusalRelease
import X402Verifier.SessionPriority
import X402Verifier.StreamSettlement

/-!
# Immediate and deferred settlement

ext_authz settles a payment inside `decide`; ext_proc only verifies it there, and settles it after
the upstream has answered. Both claim the payment in the same way and both settle by verifying
first, so against one chain the second comes to the same sale as the first: the same payer and
receipt, a session of the same terms, and the same replay cache (`settlement_paths_agree`). Only the
session's id is new each time.
-/

namespace X402Verifier

open RustStd Interaction

variable [Platform]

/-! ## Settlement verifies first -/

/-- What settles also verifies, with the payer its receipt names. -/
theorem verify_of_settle {f : Facilitator} {payload : PaymentPayload}
    {requirements : PaymentRequirements} {node : Fullnode} {receipt : SettlementResponse}
    (h : ((f.settle payload requirements).run.eval node).1 = .ok receipt) :
    ∃ payer, receipt.payer = some payer ∧
      ((f.verify payload requirements).run.eval node).1 = .ok payer := by
  obtain ⟨n, hsettle⟩ := Prog.exists_returns.mpr h
  obtain ⟨sui, hterms, hsettle⟩ := returns_liftExcept_bind.mp hsettle
  cases hmode : f.mode with
  | stubAcceptAll =>
    simp only [hmode] at hsettle
    obtain ⟨rfl, -⟩ := Prog.returns_pure.mp hsettle
    refine ⟨_, rfl, Prog.exists_returns.mp ⟨0, returns_liftExcept_bind.mpr ⟨sui, hterms, ?_⟩⟩⟩
    simp only [hmode]
    exact Prog.returns_pure.mpr ⟨rfl, rfl⟩
  | suiGrpc =>
    cases hclient : f.sui with
    | none =>
      simp only [hmode, hclient] at hsettle
      exact absurd hsettle Prog.not_returns_throw
    | some client =>
      simp only [hmode, hclient] at hsettle
      obtain ⟨verified, m, k, hverified, hrest, -⟩ := Prog.returns_bind.mp hsettle
      obtain ⟨digest, m', k', -, hreturn, -⟩ := Prog.returns_bind.mp hrest
      obtain ⟨rfl, -⟩ := Prog.returns_pure.mp hreturn
      refine ⟨_, rfl, Prog.exists_returns.mp ⟨m + 0, returns_liftExcept_bind.mpr ⟨sui, hterms, ?_⟩⟩⟩
      simp only [hmode, hclient]
      exact Prog.returns_bind.mpr ⟨verified, m, 0, hverified, Prog.returns_pure.mpr ⟨rfl, rfl⟩, rfl⟩

/-! ## Sessions bought -/

/-- The sessions these calls created: whose, under which policy, and their quota and duration. -/
def sessionCalls? (calls : List (Event Op.Ret)) : List (String × Option String × Nat × Nat) :=
  calls.filterMap fun e =>
    match e.1 with
    | .createSession payer policy quota ttlSecs => some (payer, policy, quota, ttlSecs)
    | _ => none

omit [Platform] in
theorem sessionCalls?_append (calls calls' : List (Event Op.Ret)) :
    sessionCalls? (calls ++ calls') = sessionCalls? calls ++ sessionCalls? calls' :=
  List.filterMap_append

/-- One of these calls settled a payment. -/
def SettledIn (calls : List (Event Op.Ret)) : Prop :=
  ∃ payload requirements receipt, ⟨.settle payload requirements, .ok receipt⟩ ∈ calls

/-- Redis answers, and does not refuse this expiry. -/
def RedisEnv.persists (env : RedisEnv) (ttlSecs : Nat) : Bool :=
  env.fate = .answered && (pastExpiry ttlSecs || validExpiry ttlSecs env.serverNow)

/-- The store keeps a new session of this duration. -/
def SessionStore.persists (s : SessionStore) (env : StoreEnv) (ttlSecs : Nat) : Bool :=
  match s with
  | .memory _ => true
  | .redis _ => env.redis.persists ttlSecs

theorem isSome_createSession (s : SessionStore) (env : StoreEnv) (payer : String)
    (policy : Option String) (quota ttlSecs : Nat) :
    (s.createSession env payer policy quota ttlSecs).1.toOption.isSome = s.persists env ttlSecs := by
  cases s with
  | memory m => rfl
  | redis r =>
    simp only [SessionStore.createSession, RedisSessionStore.createSession, SessionStore.persists,
      RedisEnv.persists, Prod.map_fst, id_eq]
    cases hfate : env.redis.fate with
    | answered =>
      simp only [RedisFate.apply, RedisSessionStore.createPipeline, decide_true, Bool.true_and]
      cases pastExpiry ttlSecs with
      | true => rfl
      | false => cases validExpiry ttlSecs env.redis.serverNow <;> rfl
    | unreached e => rfl
    | replyLost e => rfl

theorem exec_persists (svc : Service) (e : Env) (s : AppState) (op : Op) (env : StoreEnv)
    (ttlSecs : Nat) :
    (svc.exec e s op).2.sessions.persists env ttlSecs = s.sessions.persists env ttlSecs := by
  cases op with
  | consume token policy =>
    show (s.sessions.consume e.store token policy).2.persists env ttlSecs = _
    cases s.sessions <;> simp only [SessionStore.consume, Prod.map_snd, SessionStore.persists]
  | claimPayment id ttlSecs' =>
    show (s.sessions.claimPayment e.store id ttlSecs').2.persists env ttlSecs = _
    cases s.sessions <;> simp only [SessionStore.claimPayment, Prod.map_snd, SessionStore.persists]
  | releasePayment id =>
    show (s.sessions.releasePayment e.store id).persists env ttlSecs = _
    cases s.sessions <;> rfl
  | createSession payer policy quota ttlSecs' =>
    show (s.sessions.createSession e.store payer policy quota ttlSecs').2.persists env ttlSecs = _
    cases s.sessions <;> simp only [SessionStore.createSession, Prod.map_snd, SessionStore.persists]
  | cleanupExpired =>
    show (s.sessions.cleanupExpired e.store).2.persists env ttlSecs = _
    cases s.sessions <;>
      simp only [SessionStore.cleanupExpired, Prod.map_snd, SessionStore.persists]
  | _ => rfl

theorem run_persists {α : Type} (svc : Service) (p : Handler α) (env : Nat → Env) (s : AppState)
    (e : StoreEnv) (ttlSecs : Nat) :
    (svc.alone p env s).state.sessions.persists e ttlSecs = s.sessions.persists e ttlSecs := by
  induction p generalizing env s with
  | pure a => rfl
  | call op k ih =>
    rw [Service.alone, Prog.run_call_state]
    exact (ih _ _ _).trans (exec_persists svc (env 0) s op e ttlSecs)

omit [Platform] in
/-- Calls that charge nobody create no session and settle nothing. -/
theorem sessionCalls?_of_uncharged {calls : List (Event Op.Ret)}
    (h : ∀ e ∈ calls, e.1.charges = false) : sessionCalls? calls = [] := by
  refine List.filterMap_eq_nil_iff.mpr fun e he => ?_
  obtain ⟨op, r⟩ := e
  have hop := h _ he
  cases op <;> first | rfl | cases hop

omit [Platform] in
theorem sessionCalls?_append_of_uncharged {pre : List (Event Op.Ret)}
    (h : ∀ e ∈ pre, e.1.charges = false) (calls : List (Event Op.Ret)) :
    sessionCalls? (pre ++ calls) = sessionCalls? calls := by
  rw [sessionCalls?_append, sessionCalls?_of_uncharged h, List.nil_append]

omit [Platform] in
theorem not_settledIn_of_uncharged {calls : List (Event Op.Ret)}
    (h : ∀ e ∈ calls, e.1.charges = false) : ¬ SettledIn calls := by
  rintro ⟨payload, requirements, receipt, hmem⟩
  cases h _ hmem

section Payment

variable (svc : Service) (terms : Terms) (policy : Option String) (payload : PaymentPayload)
  (env : Nat → Env) (s : AppState)

/-- The state after a settlement, as the fullnode saw it. -/
def Service.settledState (svc : Service) (payload : PaymentPayload)
    (requirements : PaymentRequirements) (node : Fullnode) (s : AppState) : AppState :=
  (svc.exec ⟨{ now := 0 }, node⟩ s (.settle payload requirements)).2

variable {receipt : SettlementResponse} {payer : String} {e : FacilitatorError}

/-- Immediate: the payment settles, and its session is asked for. -/
theorem run_settlePresented_ok
    (hsettle : ((svc.facilitator.settle payload terms.requirements).run.eval (env 0).node).1 =
      .ok receipt) (hpayer : receipt.payer = some payer) :
    let tier := terms.resolved.paidTier
    let minted := s.minted (env 1).store payer policy tier
    let token := minted.1.toOption
    svc.alone (svc.settlePresented terms policy payload) env s =
      { value := .allow .paid (some payer) token (some (withGrant receipt token tier)) none
          (grantMeter token tier)
        state := { svc.settledState payload terms.requirements (env 0).node s with
          sessions := minted.2 }
        events := [⟨.settle payload terms.requirements, .ok receipt⟩,
          ⟨.createSession payer policy tier.quota tier.durationSecs, minted.1⟩] } := by
  have hexec : svc.exec (env 0) s (.settle payload terms.requirements) =
      (.ok receipt, svc.settledState payload terms.requirements (env 0).node s) :=
    Prod.ext hsettle rfl
  rw [settlePresented_eq]
  refine (alone_call (.settle payload terms.requirements)
    (svc.settledDecision terms policy) hexec).trans ?_
  rw [Service.settledDecision, alone_bind, run_mintSession policy _ svc hpayer, hpayer]
  rfl

theorem run_settlePresented_error
    (hsettle : ((svc.facilitator.settle payload terms.requirements).run.eval (env 0).node).1 =
      .error e) :
    svc.alone (svc.settlePresented terms policy payload) env s =
      { value := svc.rejectPayment terms e
        state := svc.settledState payload terms.requirements (env 0).node s
        events := [⟨.settle payload terms.requirements, .error e⟩] } := by
  have hexec : svc.exec (env 0) s (.settle payload terms.requirements) =
      (.error e, svc.settledState payload terms.requirements (env 0).node s) :=
    Prod.ext hsettle rfl
  rw [settlePresented_eq]
  exact alone_call (.settle payload terms.requirements) (svc.settledDecision terms policy) hexec

/-- Deferred: the payment is verified, and nothing is changed. -/
theorem run_verifyPresented {verified : Except FacilitatorError String}
    (hverify : ((svc.facilitator.verify payload terms.requirements).run.eval (env 0).node).1 =
      verified) :
    svc.alone (svc.verifyPresented terms payload) env s =
      { value := svc.verifiedDecision terms payload verified
        state := s
        events := [⟨.verify payload terms.requirements, verified⟩] } := by
  rw [← hverify, verifyPresented_eq]
  rfl

variable (st : StreamState) (settleMs : String)

/-- What the response phase does once the settlement is answered. -/
def Service.replySettled (svc : Service) (st : StreamState) (settleMs : String) :
    Except FacilitatorError SettlementResponse → Handler ProcessingResponse
  | .ok receipt =>
    let tier := (svc.config.policyFor st.path st.policy).paidTier
    .call (.breakerRecord (breakerPolicy st.policy) false) fun _ =>
      (mintSession receipt st.policy tier).bind fun token =>
        .pure (st.settledReply receipt token tier settleMs)
  | .error e => .call (.breakerRecord (breakerPolicy st.policy) true) fun _ =>
    .pure (st.unpaidReply (svc.facilitator.failureReceipt e.code) settleMs)

theorem settlePending_eq (pending : PendingPayment) :
    svc.settlePending st pending settleMs =
      .call (.settle pending.payload pending.requirements) (svc.replySettled st settleMs) := by
  refine congrArg (Prog.call _) (funext fun settled : Except FacilitatorError SettlementResponse => ?_)
  cases settled <;> rfl

/-- The state once the breaker has been told. -/
def Service.recordedState (svc : Service) (st : StreamState) (failed : Bool) (env : Env)
    (s : AppState) : AppState := (svc.exec env s (.breakerRecord (breakerPolicy st.policy) failed)).2

/-- The response phase: the payment settles, and its session is asked for. -/
theorem run_settlePending_ok
    (hsettle : ((svc.facilitator.settle payload terms.requirements).run.eval (env 0).node).1 =
      .ok receipt) (hpayer : receipt.payer = some payer) :
    let tier := (svc.config.policyFor st.path st.policy).paidTier
    let minted := s.minted (env 2).store payer st.policy tier
    svc.alone (svc.settlePending st (terms.pendingPayment payload) settleMs) env s =
      { value := st.settledReply receipt minted.1.toOption tier settleMs
        state := { svc.recordedState st false (env 1)
            (svc.settledState payload terms.requirements (env 0).node s) with
          sessions := minted.2 }
        events := [⟨.settle payload terms.requirements, .ok receipt⟩,
          ⟨.breakerRecord (breakerPolicy st.policy) false, ()⟩,
          ⟨.createSession payer st.policy tier.quota tier.durationSecs, minted.1⟩] } := by
  have hexec : svc.exec (env 0) s (.settle payload terms.requirements) =
      (.ok receipt, svc.settledState payload terms.requirements (env 0).node s) :=
    Prod.ext hsettle rfl
  rw [settlePending_eq]
  refine (alone_call (.settle payload terms.requirements) (svc.replySettled st settleMs) hexec).trans ?_
  rw [Service.replySettled]
  dsimp only
  rw [alone_call (.breakerRecord (breakerPolicy st.policy) false) _ rfl, alone_bind,
    run_mintSession st.policy _ svc hpayer]
  rfl

theorem run_settlePending_error
    (hsettle : ((svc.facilitator.settle payload terms.requirements).run.eval (env 0).node).1 =
      .error e) :
    svc.alone (svc.settlePending st (terms.pendingPayment payload) settleMs) env s =
      { value := st.unpaidReply (svc.facilitator.failureReceipt e.code) settleMs
        state := svc.recordedState st true (env 1)
          (svc.settledState payload terms.requirements (env 0).node s)
        events := [⟨.settle payload terms.requirements, .error e⟩,
          ⟨.breakerRecord (breakerPolicy st.policy) true, ()⟩] } := by
  have hexec : svc.exec (env 0) s (.settle payload terms.requirements) =
      (.error e, svc.settledState payload terms.requirements (env 0).node s) :=
    Prod.ext hsettle rfl
  rw [settlePending_eq]
  exact alone_call (.settle payload terms.requirements) (svc.replySettled st settleMs) hexec

end Payment

/-! ## Deciding -/

section Decide

variable (svc : Service) (terms : Terms) (policy : Option String) (settlePolicy : SettlePolicy)
  (env : Nat → Env) (s : AppState)

/-- A payment is claimed, and then verified or settled. -/
theorem run_decidePayment (payload : PaymentPayload) :
    svc.alone (svc.decidePayment terms policy settlePolicy (.ok payload)) env s =
      let claim := svc.alone (claimPresented payload terms.requirements) env s
      let rest := svc.alone (svc.decideClaimed terms policy settlePolicy payload claim.value)
        (fun n => env (n + claim.events.length)) claim.state
      { rest with events := claim.events ++ rest.events } := by
  rw [← alone_bind]
  refine congrArg (fun f => svc.alone (Prog.bind _ f) env s) (funext fun refused => ?_)
  cases refused with
  | some e => rfl
  | none => cases settlePolicy <;> rfl

variable {headers : HeaderView} (clientIp : Option IpAddr) (path : String) (resourceUrl : String)

/-- A request whose session is not honored: what was asked of the session comes first, whichever way
its payment is to be settled. -/
theorem run_decide_unsessioned (hsession : honored (presentedToken headers) policy env s = false) :
    ∃ s₀ pre, (∀ e ∈ pre, e.1.charges = false) ∧
      s₀.sessions.replay = s.sessions.replay ∧
      (∀ e ttlSecs, s₀.sessions.persists e ttlSecs = s.sessions.persists e ttlSecs) ∧
      ∀ settlePolicy, svc.alone
          (svc.decide headers clientIp path policy resourceUrl settlePolicy) env s =
        let rest := svc.alone
          (svc.decideUnsessioned headers clientIp path policy resourceUrl settlePolicy)
          (fun n => env (n + List.length pre)) s₀
        { rest with events := pre ++ rest.events } := by
  cases htoken : presentedToken headers with
  | none =>
    refine ⟨s, [], fun _ he => absurd he List.not_mem_nil, rfl, fun _ _ => rfl, fun settlePolicy => ?_⟩
    rw [decide_of_no_token svc clientIp path resourceUrl settlePolicy htoken]
    simp only [List.length_nil, Nat.add_zero, List.nil_append]
  | some token =>
    obtain ⟨⟨outcome, sessions⟩, hconsume⟩ :
      ∃ r : SessionOutcome × SessionStore, s.sessions.consume (env 0).store token policy = r :=
      ⟨_, rfl⟩
    have hstate : (svc.exec (env 0) s (.consume token policy)).2 =
        { s with sessions := sessions } := by rw [exec_consume, hconsume]
    cases outcome with
    | accepted payer remaining quota expiresAt =>
      rw [htoken] at hsession
      simp [honored, hconsume] at hsession
    | rejected reason =>
      refine ⟨{ s with sessions := sessions },
        [⟨.consume token policy, SessionOutcome.rejected reason⟩], ?_, ?_, ?_, fun settlePolicy => ?_⟩
      · intro e he
        rw [List.mem_singleton.mp he]
        rfl
      · rw [← hstate, svc.exec_replay _ _ rfl]
      · intro e ttlSecs
        rw [← hstate, exec_persists]
      · exact run_decide_of_rejected svc clientIp path resourceUrl settlePolicy htoken hconsume

end Decide

/-! ## The request phase -/

/-- What the request phase makes of a decision. -/
def StreamState.decided (st : StreamState) (headers : Option (List HeaderValue))
    (policy : Option String) (decideMs : String) : Decision → ProcessingResponse × StreamState
  | .allow tier payer _ _ pending meter =>
    (allowReply tier payer meter ⟨some (headerMap headers)⟩,
      { pending := pending, policy := policy, path := ((headerMap headers).get? ":path").getD ""
        meter := meter, decideMs := decideMs })
  | .deny challenge receipt meter => (denyReply challenge receipt meter decideMs, st)

/-- A run with another breaker. -/
theorem run_processDecision_breaker (svc : Service) (headers : Option (List HeaderValue))
    (clientIp : Option IpAddr) (policy : Option String) (env : Nat → Env) (s : AppState)
    (b : SettlementBreaker) :
    let out := svc.alone (svc.processDecision headers clientIp policy) env s
    svc.alone (svc.processDecision headers clientIp policy) env { s with breaker := b } =
      { out with state := { out.state with breaker := b } } := by
  refine (decides_decide svc _ clientIp _ policy _ .deferred []).run_frame
    (g := fun s : AppState => { s with breaker := b }) (fun e s op hop => ?_) env s
  obtain ⟨hsame, hstate⟩ := exec_breaker_irrelevant svc policy hop e s b
  exact Prod.ext hsame.symm hstate

/-- Behind a closed breaker, the decision is made as it is without one. -/
theorem run_handleRequestHeaders_closed (svc : Service) (st : StreamState)
    (headers : Option (List HeaderValue)) (clientIp : Option IpAddr) (policy : Option String)
    (decideMs : String) (env : Nat → Env) (s : AppState)
    (hclosed : gateState policy (env 0).store.now s.breaker = .closed) :
    let b := (s.breaker.stateAt (breakerPolicy policy) (env 0).store.now).2
    let out := svc.alone (svc.processDecision headers clientIp policy) (fun n => env (n + 1)) s
    svc.alone (svc.handleRequestHeaders st headers clientIp policy decideMs) env s =
      { value := st.decided headers policy decideMs out.value
        state := { out.state with breaker := b }
        events := ⟨.breakerState (breakerPolicy policy), BreakerState.closed⟩ :: out.events } := by
  intro b out
  have hexec : svc.exec (env 0) s (.breakerState (breakerPolicy policy)) =
      (BreakerState.closed, { s with breaker := b }) := Prod.ext hclosed rfl
  rw [handleRequestHeaders_eq, alone_call _ _ hexec]
  dsimp only
  rw [if_neg (by simp [BreakerState.acceptsPayment]), alone_bind, run_processDecision_breaker]
  show Prog.Outcome.mk _ _ _ = _
  cases out.value <;> simp [StreamState.decided, out]

/-! ## The response phase -/

section Response

variable (svc : Service) (st : StreamState) {upstream : Option (List HeaderValue)}
  (settleMs : String) (env : Nat → Env) (s : AppState)

theorem run_handleResponseHeaders_none (hpending : st.pending = none) :
    svc.alone (svc.handleResponseHeaders st upstream settleMs) env s =
      { value := (st.unsettledReply, st), state := s, events := [] } := by
  rw [Service.handleResponseHeaders, hpending]
  rfl

/-- After a 2xx, what is pending is settled. -/
theorem run_handleResponseHeaders_success {pending : PendingPayment}
    (hpending : st.pending = some pending)
    (hsuccess : isSuccess (((headerMap upstream).get? ":status").getD "") = true) :
    let st' := { st with pending := none }
    let out := svc.alone (svc.settlePending st' pending settleMs) env s
    svc.alone (svc.handleResponseHeaders st upstream settleMs) env s =
      { value := (out.value, st'), state := out.state, events := out.events } := by
  intro st' out
  have hhandler : svc.handleResponseHeaders st upstream settleMs =
      (svc.settlePending st' pending settleMs).bind fun reply => .pure (reply, st') := by
    rw [Service.handleResponseHeaders, hpending]
    simp only [hsuccess, not_true_eq_false, if_false]
    rfl
  rw [hhandler, alone_bind]
  simp [out]

/-- The headers of a settled reply, when the request phase metered nothing. -/
theorem settledReply_of_unmetered (hmeter : st.meter = .unknown) (receipt : SettlementResponse)
    (token : Option String) (tier : PaidTierConfig) :
    st.settledReply receipt token tier settleMs = .responseHeaders (continueWith
      ([header headerServerTiming
          (serverTiming [("x402-decide", st.decideMs), ("x402-settle", settleMs)])] ++
        (token.map (header headerPaymentSession)).toList ++
        ((grantMeter token tier).headers.map fun (name, value) => header name value) ++
        [header headerPaymentResponse (encodeHeader (withGrant receipt token tier).toJson)])) := by
  have hnone : st.meterHeaders = [] := by rw [StreamState.meterHeaders, hmeter]; rfl
  unfold StreamState.settledReply
  rw [hnone]
  cases token with
  | none => rfl
  | some token =>
    have hkept : [header headerServerTiming (serverTiming [("x402-decide", st.decideMs),
          ("x402-settle", settleMs)]), header headerPaymentSession token].filter
          (fun h => ¬ startsWith h.key "x-x402-free-") =
        [header headerServerTiming (serverTiming [("x402-decide", st.decideMs),
          ("x402-settle", settleMs)]), header headerPaymentSession token] := by
      refine List.filter_eq_self.mpr fun h hmem => ?_
      simp only [List.mem_cons, List.not_mem_nil, or_false] at hmem
      rcases hmem with rfl | rfl
      · show decide (¬ startsWith headerServerTiming "x-x402-free-") = true
        decide
      · show decide (¬ startsWith headerPaymentSession "x-x402-free-") = true
        decide
    simp only [List.nil_append, List.singleton_append, hkept]
    rfl

end Response

/-! ## Both paths -/

/-- What is known of an immediate run that sold nothing. -/
structure Unsold (replay : ReplayCache) (out : Prog.Outcome Op.Ret AppState Decision) : Prop where
  refused : out.value.refused = true
  unsessioned : sessionCalls? out.events = []
  unsettled : ¬ SettledIn out.events
  replay : out.state.sessions.replay = replay

/-- What both paths do with a payment, by what the chain says. -/
inductive PathsOf (svc : Service) (terms : Terms) (policy : Option String) (node : Fullnode)
    (env : Nat → Env) (s : SessionStore) (replay : ReplayCache) :
    Prog.Outcome Op.Ret AppState Decision → Decision → Prop
  | refused {out : Prog.Outcome Op.Ret AppState Decision} {challenge : PaymentRequired}
      {receipt : Option SettlementResponse} {meter : Meter} (unsold : Unsold replay out) :
      PathsOf svc terms policy node env s replay out (.deny challenge receipt meter)
  | failed {out : Prog.Outcome Op.Ret AppState Decision} {payload : PaymentPayload}
      {payer : String} {e : FacilitatorError} (unsold : Unsold replay out)
      (failed : ((svc.facilitator.settle payload terms.requirements).run.eval node).1 = .error e) :
      PathsOf svc terms policy node env s replay out (svc.verifiedDecision terms payload (.ok payer))
  | sold {out : Prog.Outcome Op.Ret AppState Decision} {payload : PaymentPayload} {payer : String}
      {receipt : SettlementResponse} {token : Option String}
      (settled : ((svc.facilitator.settle payload terms.requirements).run.eval node).1 = .ok receipt)
      (paid : receipt.payer = some payer) (broadcast : SettledIn out.events)
      (sessioned : token.isSome =
        s.persists (env (out.events.length - 1)).store terms.resolved.paidTier.durationSecs)
      (allowed : out.value = .allow .paid (some payer) token
        (some (withGrant receipt token terms.resolved.paidTier)) none
        (grantMeter token terms.resolved.paidTier))
      (bought : sessionCalls? out.events = [(payer, policy, terms.resolved.paidTier.quota,
        terms.resolved.paidTier.durationSecs)])
      (replayed : out.state.sessions.replay = replay) :
      PathsOf svc terms policy node env s replay out (svc.verifiedDecision terms payload (.ok payer))

section Paths

variable (svc : Service) (terms : Terms) (policy : Option String) {node : Fullnode}
  {env : Nat → Env} (hnode : ∀ n, (env n).node = node) (s : AppState)

include hnode

/-- A claimed payment. -/
theorem pathsOf_claimed (payload : PaymentPayload) :
    let claim := svc.alone (claimPresented payload terms.requirements) env s
    let rest (settlePolicy : SettlePolicy) := svc.alone
      (svc.decideClaimed terms policy settlePolicy payload none)
      (fun n => env (n + claim.events.length)) claim.state
    PathsOf svc terms policy node env s.sessions (rest .deferred).state.sessions.replay
      { rest .immediate with events := claim.events ++ (rest .immediate).events }
      (rest .deferred).value := by
  intro claim rest
  have hclaim : ∀ e ∈ claim.events, e.1.charges = false :=
    ((calls_claimPresented payload terms.requirements).run env s).uncharged
  have hunsettled := not_settledIn_of_uncharged hclaim
  have hverified : rest .deferred = _ := run_verifyPresented svc terms payload _ _ rfl
  obtain ⟨settled, hsettled⟩ :
    ∃ r, ((svc.facilitator.settle payload terms.requirements).run.eval node).1 = r := ⟨_, rfl⟩
  -- One fullnode answers both paths, so its answer to the settlement decides both.
  cases settled with
  | error e =>
    have hrejected : rest .immediate = _ := run_settlePresented_error svc terms policy payload
      (fun n => env (n + claim.events.length)) claim.state (by rw [hnode]; exact hsettled)
    have hunsold : Unsold claim.state.sessions.replay
        { rest .immediate with events := claim.events ++ (rest .immediate).events } := by
      rw [hrejected]
      refine ⟨rfl, ?_, ?_, rfl⟩
      · rw [sessionCalls?_append_of_uncharged hclaim]
        rfl
      · rintro ⟨payload', requirements, receipt, hmem⟩
        obtain hmem | hmem := List.mem_append.mp hmem
        · exact hunsettled ⟨payload', requirements, receipt, hmem⟩
        · cases List.mem_singleton.mp hmem
    rw [hverified]
    -- What does not settle is refused by the request phase, or fails in the response phase.
    cases ((svc.facilitator.verify payload terms.requirements).run.eval
        (env (0 + claim.events.length)).node).1 with
    | error e' => exact .refused hunsold
    | ok payer => exact .failed hunsold hsettled
  | ok receipt =>
    obtain ⟨payer, hpayer, hverify⟩ := verify_of_settle hsettled
    have hsold : rest .immediate = _ := run_settlePresented_ok svc terms policy payload
      (fun n => env (n + claim.events.length)) claim.state (by rw [hnode]; exact hsettled) hpayer
    rw [hverified, hsold, hnode, hverify]
    refine .sold hsettled hpayer ?_ ?_ rfl ?_ ?_
    · exact ⟨payload, terms.requirements, receipt, List.mem_append_right _ (.head _)⟩
    · rw [isSome_createSession, run_persists]
      have hlast : 1 + claim.events.length = claim.events.length + 2 - 1 := by omega
      simp only [List.length_append, List.length_cons, List.length_nil, hlast]
    · rw [sessionCalls?_append_of_uncharged hclaim]
      rfl
    · exact SessionStore.replay_createSession payer policy _

/-- A payment, however it was presented. -/
theorem pathsOf_decidePayment (decoded : Except HeaderDecodeError PaymentPayload) :
    let decided (settlePolicy : SettlePolicy) :=
      svc.alone (svc.decidePayment terms policy settlePolicy decoded) env s
    PathsOf svc terms policy node env s.sessions (decided .deferred).state.sessions.replay
      (decided .immediate) (decided .deferred).value := by
  intro decided
  cases decoded with
  | error e =>
    exact .refused ⟨rfl, rfl, by rintro ⟨payload, requirements, receipt, ⟨⟩⟩, rfl⟩
  | ok payload =>
    have hdecided : ∀ settlePolicy, decided settlePolicy = _ :=
      fun settlePolicy => run_decidePayment svc terms policy settlePolicy env s payload
    rw [hdecided, hdecided]
    have hclaim : ∀ e ∈ (svc.alone (claimPresented payload terms.requirements) env s).events,
        e.1.charges = false := ((calls_claimPresented payload terms.requirements).run env s).uncharged
    have hpaths := pathsOf_claimed svc terms policy hnode s payload
    revert hclaim hpaths
    generalize hc : svc.alone (claimPresented payload terms.requirements) env s = claim
    obtain ⟨refused, state, events⟩ := claim
    intro hclaim hpaths
    cases refused with
    | none => exact hpaths
    | some e =>
      refine .refused ⟨rfl, ?_, ?_, rfl⟩
      · show sessionCalls? (events ++ []) = []
        rw [sessionCalls?_append_of_uncharged hclaim]
        rfl
      · show ¬ SettledIn (events ++ [])
        exact not_settledIn_of_uncharged (by simpa using hclaim)

end Paths

/-! ## The same sale -/

/-- The decision on one path and the two replies on the other are one sale: of the same payer, with
the same receipt and meter but for the session's token. -/
inductive SameSale (headers : Option (List HeaderValue)) (tier : PaidTierConfig)
    (decideMs settleMs : String) : Decision → ProcessingResponse → ProcessingResponse → Prop
  | mk {payer : String} {receipt : SettlementResponse} (token token' : Option String)
      (paid : receipt.payer = some payer) (sessioned : token.isSome = token'.isSome) :
      SameSale headers tier decideMs settleMs
        (.allow .paid (some payer) token (some (withGrant receipt token tier)) none
          (grantMeter token tier))
        (allowReply .paid (some payer) .unknown ⟨some (headerMap headers)⟩)
        (.responseHeaders (continueWith
          ([header headerServerTiming
              (serverTiming [("x402-decide", decideMs), ("x402-settle", settleMs)])] ++
            (token'.map (header headerPaymentSession)).toList ++
            ((grantMeter token' tier).headers.map fun (name, value) => header name value) ++
            [header headerPaymentResponse (encodeHeader (withGrant receipt token' tier).toJson)])))

/-- What an immediate run sold, the reply and the response of the other path sell too, if both stores
keep a session. -/
structure SoldAlike (headers : Option (List HeaderValue)) (tier : PaidTierConfig)
    (decideMs settleMs : String) (alike : Prop) (sold : Prog.Outcome Op.Ret AppState Decision)
    (reply : ProcessingResponse)
    (response : Prog.Outcome Op.Ret AppState (ProcessingResponse × StreamState)) : Prop where
  same : alike → sold.value.refused = false →
    SameSale headers tier decideMs settleMs sold.value reply response.value.1
  bought : sessionCalls? sold.events = sessionCalls? response.events
  unsold : ¬ SettledIn sold.events ∨ ¬ SettledIn response.events → sessionCalls? sold.events = []
  replay : sold.state.sessions.replay = response.state.sessions.replay

section Respond

variable {headers upstream : Option (List HeaderValue)} {policy : Option String}
  {decideMs settleMs : String} {sold : Prog.Outcome Op.Ret AppState Decision} {replay : ReplayCache}

omit [Platform] in
theorem SettledIn.append_right {calls : List (Event Op.Ret)} (pre : List (Event Op.Ret))
    (h : SettledIn calls) : SettledIn (pre ++ calls) := by
  obtain ⟨payload, requirements, receipt, hmem⟩ := h
  exact ⟨payload, requirements, receipt, List.mem_append_right pre hmem⟩

theorem Unsold.soldAlike (unsold : Unsold replay sold) {tier : PaidTierConfig} {alike : Prop}
    {reply : ProcessingResponse}
    {response : Prog.Outcome Op.Ret AppState (ProcessingResponse × StreamState)}
    (hnone : sessionCalls? response.events = [])
    (hreplay : response.state.sessions.replay = replay) :
    SoldAlike headers tier decideMs settleMs alike sold reply response where
  same := fun _ hallowed => absurd (hallowed.symm.trans unsold.refused) (by decide)
  bought := unsold.unsessioned.trans hnone.symm
  unsold := fun _ => unsold.unsessioned
  replay := unsold.replay.trans hreplay.symm

theorem PathsOf.settledIn {svc : Service} {terms : Terms} {node : Fullnode} {env : Nat → Env}
    {s : SessionStore} {decision : Decision}
    (h : PathsOf svc terms policy node env s replay sold decision)
    (hallowed : sold.value.refused = false) : SettledIn sold.events := by
  cases h with
  | refused unsold => exact absurd (hallowed.symm.trans unsold.refused) (by decide)
  | failed unsold => exact absurd (hallowed.symm.trans unsold.refused) (by decide)
  | sold settled paid broadcast => exact broadcast

/-- After a 2xx the response phase concludes what the request phase left, as the immediate run did. -/
theorem PathsOf.soldAlike {svc : Service} {resourceUrl : String} {env later : Nat → Env}
    {s : SessionStore} {decision : Decision} (decideMs settleMs : String) (state : AppState) :
    let path := ((headerMap headers).get? ":path").getD ""
    let tier := (svc.config.policyFor path policy).paidTier
    let request := ({} : StreamState).decided headers policy decideMs decision
    let response := svc.alone (svc.handleResponseHeaders request.2 upstream settleMs) later state
    PathsOf svc (svc.termsFor path policy resourceUrl) policy (later 0).node env s replay sold
      decision →
    isSuccess (((headerMap upstream).get? ":status").getD "") = true →
    state.sessions.replay = replay →
    SoldAlike headers tier decideMs settleMs
      (s.persists (env (sold.events.length - 1)).store tier.durationSecs =
        state.sessions.persists (later 2).store tier.durationSecs) sold request.1 response := by
  intro path tier request response hpaths hsuccess hreplay
  -- What was refused leaves nothing pending; what is pending settles or fails as it did at once.
  cases hpaths with
  | @refused challenge receipt meter unsold =>
    have hresponse : response = _ :=
      run_handleResponseHeaders_none svc request.2 settleMs later state rfl
    exact unsold.soldAlike (by rw [hresponse]; rfl) (by rw [hresponse]; exact hreplay)
  | @failed payload payer e unsold failed =>
    have hresponse : response = _ :=
      run_handleResponseHeaders_success svc request.2 settleMs later state rfl hsuccess
    rw [run_settlePending_error svc _ payload later state _ settleMs failed] at hresponse
    exact unsold.soldAlike (by rw [hresponse]; rfl) (by rw [hresponse]; exact hreplay)
  | @sold payload payer receipt token settled paid broadcast sessioned allowed bought replayed =>
    have hresponse : response = _ :=
      run_handleResponseHeaders_success svc request.2 settleMs later state rfl hsuccess
    rw [run_settlePending_ok svc _ payload later state _ settleMs settled paid] at hresponse
    have hsettled : SettledIn response.events := by
      rw [hresponse]
      exact ⟨_, _, _, .head _⟩
    have hreply := (congrArg (fun out => Prod.fst (Prog.Outcome.value out)) hresponse).trans
      (settledReply_of_unmetered _ settleMs rfl receipt _ tier)
    exact {
      same := fun halike _ => by
        dsimp only at hreply
        rw [allowed, hreply]
        refine .mk token _ paid ?_
        rw [sessioned, isSome_createSession]
        exact halike
      bought := by
        rw [bought, hresponse]
        rfl
      unsold := fun hunsettled => absurd hunsettled (by simp [broadcast, hsettled])
      replay := by
        rw [replayed, hresponse]
        exact hreplay.symm.trans (SessionStore.replay_createSession payer policy _).symm }

end Respond

/-- **Immediate and deferred settlement agree.** On the same payment, against one chain, what the one
sells the other sells too; they buy the same sessions, neither buys any unless both settle, and they
leave the same replay cache. -/
theorem settlement_paths_agree (svc : Service) (headers upstream : Option (List HeaderValue))
    (clientIp : Option IpAddr) (policy : Option String) (decideMs settleMs : String)
    (env later : Nat → Env) (s : AppState) (decoded : Except HeaderDecodeError PaymentPayload)
    (hpayment : presentedPayment ⟨some (headerMap headers)⟩ = some decoded)
    (hsession : honored (presentedToken ⟨some (headerMap headers)⟩) policy (fun n => env (n + 1)) s =
      false)
    (hclosed : gateState policy (env 0).store.now s.breaker = .closed)
    (hsuccess : isSuccess (((headerMap upstream).get? ":status").getD "") = true)
    (horacle : ∀ n m, (env n).node = (later m).node) :
    let path := ((headerMap headers).get? ":path").getD ""
    let tier := (svc.config.policyFor path policy).paidTier
    let immediate := svc.alone (svc.decide ⟨some (headerMap headers)⟩ clientIp path policy
      (resourceUrl (headerMap headers) path) .immediate) (fun n => env (n + 1)) s
    let request := svc.alone (svc.handleRequestHeaders {} headers clientIp policy decideMs) env s
    let response := svc.alone (svc.handleResponseHeaders request.value.2 upstream settleMs) later
      request.state
    (s.sessions.persists (env immediate.events.length).store tier.durationSecs =
        s.sessions.persists (later 2).store tier.durationSecs →
      immediate.value.refused = false →
      SameSale headers tier decideMs settleMs immediate.value request.value.1 response.value.1) ∧
    sessionCalls? immediate.events = sessionCalls? (request.events ++ response.events) ∧
    (¬ SettledIn immediate.events ∨ ¬ SettledIn (request.events ++ response.events) →
      sessionCalls? immediate.events = [] ∧ sessionCalls? (request.events ++ response.events) = []) ∧
    immediate.state.sessions.replay = response.state.sessions.replay := by
  intro path tier immediate request response
  -- Both runs begin with the same session step, whose calls are `pre`.
  obtain ⟨s₀, pre, hpre, -, hpersists, hrun⟩ := run_decide_unsessioned svc policy
    (fun n => env (n + 1)) s clientIp path (resourceUrl (headerMap headers) path) hsession
  have hdecide : ∀ settlePolicy, svc.decideUnsessioned ⟨some (headerMap headers)⟩ clientIp path
      policy (resourceUrl (headerMap headers) path) settlePolicy = svc.decidePayment
      (svc.termsFor path policy (resourceUrl (headerMap headers) path)) policy settlePolicy decoded := by
    intro settlePolicy
    rw [Service.decideUnsessioned, hpayment]
  have hpaths := @pathsOf_decidePayment _ svc
    (svc.termsFor path policy (resourceUrl (headerMap headers) path)) policy _
    (fun n => env (n + pre.length + 1)) (fun n => horacle _ 0) s₀ decoded
  have himmediate : immediate = _ := hrun .immediate
  have hrequest : request = _ := run_handleRequestHeaders_closed svc {} headers clientIp policy
    decideMs env s hclosed
  have hcalls : ∀ e ∈ request.events, e.1.charges = false :=
    ((uncharged_handleRequestHeaders svc {} headers clientIp policy decideMs []).run env s).2
  rw [hdecide] at himmediate
  rw [show svc.alone (svc.processDecision headers clientIp policy) (fun n => env (n + 1)) s = _
    from hrun .deferred, hdecide] at hrequest
  have hkeeps := run_persists svc (svc.decidePayment (svc.termsFor path policy
    (resourceUrl (headerMap headers) path)) policy .deferred decoded)
    (fun n => env (n + pre.length + 1)) s₀
  dsimp only at himmediate hrequest hpaths
  -- From here on only the two runs of `decidePayment` matter.
  generalize svc.alone (svc.decidePayment _ policy .immediate decoded) _ s₀ = sold at *
  generalize svc.alone (svc.decidePayment _ policy .deferred decoded) _ s₀ = verified at *
  have hsessions : request.state.sessions = verified.state.sessions := by rw [hrequest]
  have hreply : request.value = ({} : StreamState).decided headers policy decideMs verified.value := by
    rw [hrequest]
  have halike := hpaths.soldAlike decideMs settleMs request.state hsuccess
    (congrArg SessionStore.replay hsessions)
  rw [← hreply, hsessions, hkeeps] at halike
  -- Neither the session step nor the request phase buys anything.
  have hdeferred : sessionCalls? (request.events ++ response.events) =
      sessionCalls? response.events := sessionCalls?_append_of_uncharged hcalls _
  have hbought : sessionCalls? immediate.events = sessionCalls? sold.events := by
    rw [himmediate, sessionCalls?_append_of_uncharged hpre]
  have hvalue : immediate.value = sold.value := by rw [himmediate]
  have hreplay : immediate.state.sessions.replay = sold.state.sessions.replay := by rw [himmediate]
  have hsettled : SettledIn sold.events → SettledIn immediate.events := by
    rw [himmediate]
    exact SettledIn.append_right pre
  rw [hdeferred, hbought, hvalue, hreplay]
  refine ⟨fun hpersist hallowed => halike.same ?_ hallowed, halike.bought, fun hunsettled => ?_,
    halike.replay⟩
  -- The session is created by the last call of the immediate run.
  · obtain ⟨payload, requirements, receipt, hmem⟩ := hpaths.settledIn hallowed
    have hpos := List.length_pos_of_mem hmem
    have hlast : sold.events.length - 1 + pre.length + 1 = immediate.events.length := by
      rw [himmediate, List.length_append]
      omega
    rw [hlast, hpersists, hpersists]
    exact hpersist
  · have hnone := halike.unsold (hunsettled.imp (mt hsettled) (mt (SettledIn.append_right _)))
    exact ⟨hnone, halike.bought ▸ hnone⟩

/-- An upstream that answers 200. -/
def okUpstream : Option (List HeaderValue) := some [{ key := ":status", value := "200" }]

omit [Platform] in
theorem settlement_paths_agree_example :
    let _ : Platform := paymentPlatform "1000"
    let svc := Service.ofConfig (exampleConfig .stubAcceptAll)
    let headers := paymentRequest "1000" []
    let env : Nat → Env := fun _ => exampleEnv 1000
    let s := AppState.ofConfig (exampleConfig .stubAcceptAll) []
    let immediate := svc.alone (svc.decide ⟨some (headerMap headers)⟩ none "" none
      (resourceUrl (headerMap headers) "") .immediate) env s
    let request := svc.alone (svc.handleRequestHeaders {} headers none none "0.0") env s
    let response := svc.alone (svc.handleResponseHeaders request.value.2 okUpstream "0.0")
      (fun _ => exampleEnv 1030) request.state
    (immediate.value.refused = false →
      SameSale headers (exampleConfig .stubAcceptAll).paidTier "0.0" "0.0" immediate.value
        request.value.1 response.value.1) ∧
    sessionCalls? immediate.events = sessionCalls? (request.events ++ response.events) ∧
    immediate.state.sessions.replay = response.state.sessions.replay := by
  intro _ svc headers env s
  have hne : utf8 (paymentText "1000") ≠ [] := by decide +kernel
  have htoken := presentedToken_paymentRequest "1000" [] hne (by decide +kernel)
  have hpath : ((headerMap headers).get? ":path").getD "" = "" := by decide +kernel
  have h := settlement_paths_agree svc headers okUpstream none none "0.0" "0.0" env
    (fun _ => exampleEnv 1030) s (.ok (payloadAccepting "1000"))
    (presentedPayment_paymentRequest "1000" [] hne)
    (by rw [htoken]; rfl) freshBreaker_closed (by decide +kernel) (fun _ _ => rfl)
  rw [hpath] at h
  exact ⟨h.1 rfl, h.2.1, h.2.2.2⟩

end X402Verifier
