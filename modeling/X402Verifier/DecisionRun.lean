import X402Verifier.DecisionCalls

/-!
# `decide`, run alone

What each step of `decide` does to the shared state when no other request comes in between: its
answer, the state it leaves and the calls it has made. A session that is honored ends the decision,
and a token that is not leaves it to the payment or the free tier (`decideUnsessioned`).
-/

namespace X402Verifier

open RustStd Interaction

variable [Platform]

/-- Run a handler with nobody in between. -/
abbrev Service.alone {α : Type} (svc : Service) (p : Handler α) (env : Nat → Env) (s : AppState) :
    Prog.Outcome Op.Ret AppState α := p.run svc.exec env s

theorem alone_call {α : Type} {svc : Service} {env : Nat → Env} {s s' : AppState} (op : Op)
    {r : op.Ret} (k : op.Ret → Handler α) (hexec : svc.exec (env 0) s op = (r, s')) :
    svc.alone (.call op k) env s =
      let rest := svc.alone (k r) (fun n => env (n + 1)) s'
      { rest with events := ⟨op, r⟩ :: rest.events } := by
  rw [Service.alone, Prog.run_call, hexec]

theorem alone_bind {α β : Type} {svc : Service} (p : Handler α) (f : α → Handler β)
    (env : Nat → Env) (s : AppState) :
    svc.alone (p.bind f) env s =
      let first := svc.alone p env s
      let second := svc.alone (f first.value) (fun n => env (n + first.events.length)) first.state
      { second with events := first.events ++ second.events } := Prog.run_bind p f env s

/-- The token echoed in a payment's extensions. -/
def echoedToken (headers : HeaderView) : Option String :=
  match presentedPayment headers with
  | some (.ok payload) => sessionTokenFromExtensions payload.extensions
  | _ => none

theorem presentedToken_eq (headers : HeaderView) :
    presentedToken headers = (echoedToken headers).or (headers.get headerPaymentSession) := rfl

/-- What `decide` does of a request whose session is not honored. -/
def Service.decideUnsessioned (svc : Service) (headers : HeaderView) (clientIp : Option IpAddr)
    (path : String) (policy : Option String) (resourceUrl : String) (settlePolicy : SettlePolicy) :
    Handler Decision :=
  match presentedPayment headers with
  | some decoded => svc.decidePayment (svc.termsFor path policy resourceUrl) policy settlePolicy decoded
  | none => (svc.termsFor path policy resourceUrl).decideFree clientIp

/-! ## The calls it may make -/

/-- The operations a decision under `policy` may call. -/
inductive InDecision (policy : Option String) : Op → Prop
  | nowEpochSecs : InDecision policy .nowEpochSecs
  | consume (token : String) : InDecision policy (.consume token policy)
  | claimPayment (id : String) (ttlSecs : Nat) : InDecision policy (.claimPayment id ttlSecs)
  | verify (payload : PaymentPayload) (requirements : PaymentRequirements) :
      InDecision policy (.verify payload requirements)
  | settle (payload : PaymentPayload) (requirements : PaymentRequirements) :
      InDecision policy (.settle payload requirements)
  | createSession (payer : String) (quota ttlSecs : Nat) :
      InDecision policy (.createSession payer policy quota ttlSecs)
  | check (label : String) (ip : IpAddr) (maxRequests windowSecs : Nat) :
      InDecision policy (.check label ip maxRequests windowSecs)

/-- A handler that calls nothing else. -/
abbrev Decides {α : Type} (policy : Option String) (p : Handler α) : Prop :=
  ∀ trace, p.Follows (.trace (InDecision policy)) (fun _ _ => True) trace

omit [Platform] in
theorem inDecision_of_calledOn {terms : Terms} {policy : Option String} {op : Op}
    (h : CalledOn terms policy op) : InDecision policy op := by
  cases h <;> constructor

/-- **The calls of a decision.** -/
theorem decides_decide (svc : Service) (headers : HeaderView) (clientIp : Option IpAddr)
    (path : String) (policy : Option String) (resourceUrl : String) (settlePolicy : SettlePolicy) :
    Decides policy (svc.decide headers clientIp path policy resourceUrl settlePolicy) :=
  fun _ => (calls_decide svc headers clientIp path policy resourceUrl settlePolicy).follows_trace
    fun _ _ h => ⟨fun e he => inDecision_of_calledOn (h.calledOn.1 e he), trivial⟩

/-! ## Claim, verification and settlement -/

/-- What is left to do once a claim is answered. -/
def claimRefusal (requirements : PaymentRequirements) :
    PaymentClaim → Handler (Option FacilitatorError)
  | .fresh => .pure none
  | .replay firstSeen => .call .nowEpochSecs fun now : Nat =>
    .pure (some (replayError requirements.maxTimeoutSeconds firstSeen now))
  | .backend => .pure (some .replayCacheUnavailable)

theorem claimPresented_of_id {payload : PaymentPayload} {id : String}
    (hid : paymentId payload = some id) (requirements : PaymentRequirements) :
    claimPresented payload requirements =
      .call (.claimPayment id (replayTtl requirements.maxTimeoutSeconds))
        (claimRefusal requirements) := by
  rw [claimPresented, hid]
  refine congrArg (Prog.call _) (funext fun claim : PaymentClaim => ?_)
  cases claim <;> rfl

/-- The payment as the response phase finds it. -/
def Terms.pendingPayment (terms : Terms) (payload : PaymentPayload) : PendingPayment :=
  .of payload terms.requirements

/-- What verification decides. -/
def Service.verifiedDecision (svc : Service) (terms : Terms) (payload : PaymentPayload) :
    Except FacilitatorError String → Decision
  | .ok payer => .allow .paid (some payer) none none (some (terms.pendingPayment payload)) .unknown
  | .error e => svc.rejectPayment terms e

theorem verifyPresented_eq (svc : Service) (terms : Terms) (payload : PaymentPayload) :
    svc.verifyPresented terms payload = .call (.verify payload terms.requirements)
      fun verified : Except FacilitatorError String =>
        .pure (svc.verifiedDecision terms payload verified) := by
  refine congrArg (Prog.call _) (funext fun verified : Except FacilitatorError String => ?_)
  cases verified <;> rfl

/-- What is left to do once a settlement is answered. -/
def Service.settledDecision (svc : Service) (terms : Terms) (policy : Option String) :
    Except FacilitatorError SettlementResponse → Handler Decision
  | .ok receipt => (mintSession receipt policy terms.resolved.paidTier).bind fun token =>
    .pure (.allow .paid receipt.payer token (some (withGrant receipt token terms.resolved.paidTier))
      none (grantMeter token terms.resolved.paidTier))
  | .error e => .pure (svc.rejectPayment terms e)

theorem settlePresented_eq (svc : Service) (terms : Terms) (policy : Option String)
    (payload : PaymentPayload) :
    svc.settlePresented terms policy payload =
      .call (.settle payload terms.requirements) (svc.settledDecision terms policy) := by
  refine congrArg (Prog.call _) (funext fun settled : Except FacilitatorError SettlementResponse => ?_)
  cases settled <;> rfl

/-- What is left to do once the claim is taken, or refused. -/
def Service.decideClaimed (svc : Service) (terms : Terms) (policy : Option String)
    (settlePolicy : SettlePolicy) (payload : PaymentPayload) :
    Option FacilitatorError → Handler Decision
  | some e => .pure (svc.rejectPayment terms e)
  | none =>
    match settlePolicy with
    | .deferred => svc.verifyPresented terms payload
    | .immediate => svc.settlePresented terms policy payload

theorem decidePayment_of_id (svc : Service) (terms : Terms) (policy : Option String)
    (settlePolicy : SettlePolicy) {payload : PaymentPayload} {id : String}
    (hid : paymentId payload = some id) :
    svc.decidePayment terms policy settlePolicy (.ok payload) =
      .call (.claimPayment id (replayTtl terms.requirements.maxTimeoutSeconds)) fun claim =>
        (claimRefusal terms.requirements claim).bind
          (svc.decideClaimed terms policy settlePolicy payload) := by
  show (claimPresented payload terms.requirements).bind _ = _
  rw [claimPresented_of_id hid]
  refine congrArg (Prog.call _) (funext fun claim : PaymentClaim => ?_)
  cases claim <;> rfl

section Minting

variable {receipt : SettlementResponse} (policy : Option String) (tier : PaidTierConfig)

omit [Platform] in
theorem mintSession_of_no_payer (hpayer : receipt.payer = none) :
    mintSession receipt policy tier = .pure none := by
  rw [mintSession, hpayer]
  rfl

omit [Platform] in
theorem mintSession_of_payer {payer : String} (hpayer : receipt.payer = some payer) :
    mintSession receipt policy tier =
      .call (.createSession payer policy tier.quota tier.durationSecs)
        fun token : Except StoreError String => .pure token.toOption := by
  rw [mintSession, hpayer]
  refine congrArg (Prog.call _) (funext fun token : Except StoreError String => ?_)
  cases token <;> rfl

/-- What the store answers when it is asked for the session. -/
abbrev AppState.minted (s : AppState) (env : StoreEnv) (payer : String) (policy : Option String)
    (tier : PaidTierConfig) : Except StoreError String × SessionStore :=
  s.sessions.createSession env payer policy tier.quota tier.durationSecs

theorem run_mintSession (svc : Service) {payer : String} (hpayer : receipt.payer = some payer)
    (env : Nat → Env) (s : AppState) :
    let minted := s.minted (env 0).store payer policy tier
    svc.alone (mintSession receipt policy tier) env s =
      { value := minted.1.toOption
        state := { s with sessions := minted.2 }
        events := [⟨.createSession payer policy tier.quota tier.durationSecs, minted.1⟩] } := by
  rw [mintSession_of_payer policy tier hpayer]
  rfl

end Minting

/-! ## The free tier -/

/-- What the limiter's answer decides. -/
def Terms.freeDecision (terms : Terms) (allowance : Allowance) : Decision :=
  let meter : Meter := .free allowance.remaining allowance.limit allowance.resetSecs
  if allowance.allowed then .allow .free none none none none meter
  else .deny (terms.challenge "free tier rate limit exceeded; pay to unlock a higher limit") none meter

/-- With an address the free tier is one call of the limiter. -/
theorem decideFree_some (terms : Terms) (ip : IpAddr) :
    terms.decideFree (some ip) =
      .call (.check terms.resolved.label ip terms.resolved.freeTier.maxRequests
        terms.resolved.freeTier.windowSecs) fun allowance => .pure (terms.freeDecision allowance) := by
  have hbranch : ∀ allowance : Allowance, (Prog.pure (terms.freeDecision allowance) : Handler Decision) =
      if allowance.allowed then
        .pure (.allow .free none none none none
          (.free allowance.remaining allowance.limit allowance.resetSecs))
      else
        .pure (.deny (terms.challenge "free tier rate limit exceeded; pay to unlock a higher limit")
          none (.free allowance.remaining allowance.limit allowance.resetSecs)) := by
    intro allowance
    unfold Terms.freeDecision
    split <;> rfl
  exact congrArg (Prog.call _) (funext fun allowance => (hbranch allowance).symm)

/-! ## The session -/

theorem exec_consume (svc : Service) (env : Env) (s : AppState) (token : String)
    (policy : Option String) :
    svc.exec env s (.consume token policy) =
      ((s.sessions.consume env.store token policy).1,
        { s with sessions := (s.sessions.consume env.store token policy).2 }) := rfl

section Session

variable (svc : Service) {headers : HeaderView} {token : String} (clientIp : Option IpAddr)
  (path : String) {policy : Option String} (resourceUrl : String) (settlePolicy : SettlePolicy)
  {env : Nat → Env} {s : AppState} {sessions : SessionStore}

theorem decide_of_no_token (htoken : presentedToken headers = none) :
    svc.decide headers clientIp path policy resourceUrl settlePolicy =
      svc.decideUnsessioned headers clientIp path policy resourceUrl settlePolicy := by
  rw [Service.decide, htoken]
  rfl

theorem run_decide_of_accepted {payer : String} {remaining quota expiresAt : Nat}
    (htoken : presentedToken headers = some token)
    (hconsume : s.sessions.consume (env 0).store token policy =
      (.accepted payer remaining quota expiresAt, sessions)) :
    svc.alone (svc.decide headers clientIp path policy resourceUrl settlePolicy) env s =
      { value := .allow .paid (some payer) none none none
          (.session remaining quota (expiresAt - (env 1).store.now))
        state := { s with sessions := sessions }
        events := [⟨.consume token policy, SessionOutcome.accepted payer remaining quota expiresAt⟩,
          ⟨.nowEpochSecs, (env 1).store.now⟩] } := by
  have hexec : svc.exec (env 0) s (.consume token policy) =
      (SessionOutcome.accepted payer remaining quota expiresAt, { s with sessions := sessions }) := by
    rw [exec_consume, hconsume]
  simp only [Service.decide, honorSession, htoken, call, Prog.bind_eq, Prog.perform_bind,
    Prog.call_bind, Service.alone]
  rw [Prog.run_call, hexec]
  rfl

theorem run_decide_of_rejected {reason : SessionRejection}
    (htoken : presentedToken headers = some token)
    (hconsume : s.sessions.consume (env 0).store token policy = (.rejected reason, sessions)) :
    svc.alone (svc.decide headers clientIp path policy resourceUrl settlePolicy) env s =
      let rest := svc.alone
        (svc.decideUnsessioned headers clientIp path policy resourceUrl settlePolicy)
        (fun n => env (n + 1)) { s with sessions := sessions }
      { rest with
        events := ⟨.consume token policy, SessionOutcome.rejected reason⟩ :: rest.events } := by
  have hexec : svc.exec (env 0) s (.consume token policy) =
      (SessionOutcome.rejected reason, { s with sessions := sessions }) := by
    rw [exec_consume, hconsume]
  simp only [Service.decide, honorSession, htoken, call, Prog.bind_eq, Prog.perform_bind,
    Prog.call_bind, Service.alone]
  rw [Prog.run_call, hexec]
  rfl

end Session

end X402Verifier
