import X402Verifier.DecisionRun
import X402Verifier.RateLimitMeter
import X402Verifier.RefusalRelease

/-!
# What a decision is charged to

On the memory stores, `decide` ends in one of seven ways (`ChargedTo`). An allowed request has moved
one meter by one: the session it presented, or else the claim on its payment, or else the free
tier's counter of its address. A refused one has moved no quota and no counter. Whatever is
not named there is unchanged, but for the session that an immediate settlement mints.

The counters of an address are read as a check at that second reads them: a check rolls them to its
window, whether it counts the request or not.
-/

namespace X402Verifier

open RustStd Interaction

/-- The stores of the memory backend. -/
structure Stores where
  sessions : MemorySessionStore
  limiter : MemoryRateLimiter

/-- A shared state over these stores. -/
abbrev Stores.state (m : Stores) (breaker : SettlementBreaker) (broadcast : List Bytes) : AppState :=
  ⟨.memory m.sessions, .memory m.limiter, breaker, broadcast⟩

/-! ## Meters -/

/-- One request is taken off this session, and nothing else happens. -/
inductive MemorySessionStore.Spends (s : MemorySessionStore) (id : String) :
    MemorySessionStore → Prop
  | one {session : Session} {left : Nat} (held : s.sessions.get? id = some session)
      (granted : session.quotaRemaining = left + 1) :
      s.Spends id
        { s with sessions := s.sessions.insert id { session with quotaRemaining := left } }

/-- This payment is claimed, unclaimed before or past its time, and nothing else happens. -/
inductive MemorySessionStore.Claims (s : MemorySessionStore) (id : String) (ttlSecs : Nat) :
    MemorySessionStore → Prop
  | one {now : Nat}
      (unclaimed : ∀ firstSeen, s.seenPayments.get? id = some firstSeen → ttlSecs ≤ now - firstSeen) :
      s.Claims id ttlSecs { s with seenPayments := s.seenPayments.insert id now }

/-- The counter of this client goes up by `n`, and nothing else happens. -/
structure MemoryRateLimiter.Counts [Platform] (l : MemoryRateLimiter) (n : Nat) (label : String)
    (ip : IpAddr) (windowSecs now : Nat) (l' : MemoryRateLimiter) : Prop where
  others : ∀ key, key ≠ keyFor label ip → l'.windows.get? key = l.windows.get? key
  counted : l'.countersAt label ip windowSecs now =
    { l.countersAt label ip windowSecs now with
      current := (l.countersAt label ip windowSecs now).current + n }

variable [Platform]

theorem counts_checkAt (l : MemoryRateLimiter) (label : String) (ip : IpAddr)
    (maxRequests windowSecs now : Nat) :
    l.Counts (if (l.checkAt label ip maxRequests windowSecs now).1.allowed then 1 else 0) label ip
      windowSecs now (l.checkAt label ip maxRequests windowSecs now).2 := by
  have hcounts : ∀ (n : Nat) (l' : MemoryRateLimiter),
      l'.windows = l.windows.insert (keyFor label ip)
        { l.countersAt label ip windowSecs now with
          current := (l.countersAt label ip windowSecs now).current + n } →
      l.Counts n label ip windowSecs now l' := by
    intro n l' hl'
    constructor
    · intro key hkey
      rw [hl', Table.get?_insert_ne _ _ hkey]
    · exact MemoryRateLimiter.countersAt_insert l l' _ (by rw [hl', Table.get?_insert_self])
  by_cases hfull : (maxRequests : Rat) ≤ l.estimateAt label ip windowSecs now
  · rw [show l.checkAt label ip maxRequests windowSecs now = _ from if_pos hfull]
    exact hcounts 0 _ rfl
  · rw [show l.checkAt label ip maxRequests windowSecs now = _ from if_neg hfull]
    exact hcounts 1 _ rfl

omit [Platform] in
/-- A claim is fresh and recorded, or the payment was seen before and nothing changes. -/
theorem claimPaymentAt_cases (s : MemorySessionStore) (id : String) (ttlSecs now : Nat) :
    (∃ s', s.claimPaymentAt id ttlSecs now = (.fresh, s') ∧ s.Claims id ttlSecs s') ∨
      ∃ firstSeen, s.claimPaymentAt id ttlSecs now = (.replay firstSeen, s) := by
  unfold MemorySessionStore.claimPaymentAt
  cases hseen : s.seenPayments.get? id with
  | none => exact .inl ⟨_, rfl, .one fun firstSeen h => nomatch hseen.symm.trans h⟩
  | some firstSeen =>
    by_cases hlapsed : ttlSecs ≤ now - firstSeen
    · refine .inl ⟨_, if_pos hlapsed, .one fun firstSeen' h => ?_⟩
      cases hseen.symm.trans h
      exact hlapsed
    · exact .inr ⟨firstSeen, if_neg hlapsed⟩

/-! ## Charges -/

/-- What a decision on the memory stores has been charged to. -/
inductive ChargedTo (headers : HeaderView) (clientIp : Option IpAddr) (terms : Terms)
    (policy : Option String) (sessionHonored : Bool) (m : Stores) : Decision → Stores → Prop
  | session {token payer : String} {now : Nat} {claims : TokenClaims}
      {sessions : MemorySessionStore} (meter : Meter) (honored : sessionHonored = true)
      (presented : presentedToken headers = some token)
      (named : m.sessions.codec.verify token now = .ok claims)
      (spent : m.sessions.Spends claims.sessionId sessions) :
      ChargedTo headers clientIp terms policy sessionHonored m
        (.allow .paid (some payer) none none none meter) { m with sessions := sessions }
  | verified {payload : PaymentPayload} {id payer : String} {sessions : MemorySessionStore}
      (pending : PendingPayment) (unsessioned : sessionHonored = false)
      (presented : presentedPayment headers = some (.ok payload))
      (keyed : paymentId payload = some id)
      (claimed : m.sessions.Claims id (replayTtl terms.requirements.maxTimeoutSeconds) sessions) :
      ChargedTo headers clientIp terms policy sessionHonored m
        (.allow .paid (some payer) none none (some pending) .unknown) { m with sessions := sessions }
  | settled {payload : PaymentPayload} {id : String} {sessions : MemorySessionStore}
      (settlement : SettlementResponse) (unsessioned : sessionHonored = false)
      (presented : presentedPayment headers = some (.ok payload))
      (keyed : paymentId payload = some id)
      (claimed : m.sessions.Claims id (replayTtl terms.requirements.maxTimeoutSeconds) sessions) :
      ChargedTo headers clientIp terms policy sessionHonored m
        (.allow .paid none none (some settlement) none .unknown) { m with sessions := sessions }
  | minted {payload : PaymentPayload} {id payer token : String} {now : Nat} {raw : Bytes}
      {claimedSessions sessions : MemorySessionStore} (settlement : SettlementResponse)
      (meter : Meter) (unsessioned : sessionHonored = false)
      (presented : presentedPayment headers = some (.ok payload))
      (keyed : paymentId payload = some id)
      (claimed : m.sessions.Claims id (replayTtl terms.requirements.maxTimeoutSeconds)
        claimedSessions)
      (created : claimedSessions.createSessionAt payer policy terms.resolved.paidTier.quota
        terms.resolved.paidTier.durationSecs now raw = (token, sessions)) :
      ChargedTo headers clientIp terms policy sessionHonored m
        (.allow .paid (some payer) (some token) (some settlement) none meter)
        { m with sessions := sessions }
  | free {ip : IpAddr} {now : Nat} {limiter : MemoryRateLimiter} (meter : Meter)
      (unsessioned : sessionHonored = false) (unpaid : presentedPayment headers = none)
      (address : clientIp = some ip)
      (counted : m.limiter.Counts 1 terms.resolved.label ip terms.resolved.freeTier.windowSecs now
        limiter) :
      ChargedTo headers clientIp terms policy sessionHonored m
        (.allow .free none none none none meter) { m with limiter := limiter }
  | refusedPayment {decoded : Except HeaderDecodeError PaymentPayload}
      {sessions : MemorySessionStore} (challenge : PaymentRequired) (receipt : SettlementResponse)
      (unsessioned : sessionHonored = false) (presented : presentedPayment headers = some decoded)
      (kept : sessions = m.sessions ∨ ∃ payload id, decoded = .ok payload ∧
        paymentId payload = some id ∧
        m.sessions.Claims id (replayTtl terms.requirements.maxTimeoutSeconds) sessions) :
      ChargedTo headers clientIp terms policy sessionHonored m
        (.deny challenge (some receipt) .unknown) { m with sessions := sessions }
  | refusedFree {limiter : MemoryRateLimiter} (challenge : PaymentRequired) (meter : Meter)
      (unsessioned : sessionHonored = false) (unpaid : presentedPayment headers = none)
      (uncounted : limiter = m.limiter ∨ ∃ ip now, clientIp = some ip ∧
        m.limiter.Counts 0 terms.resolved.label ip terms.resolved.freeTier.windowSecs now limiter) :
      ChargedTo headers clientIp terms policy sessionHonored m
        (.deny challenge none meter) { m with limiter := limiter }

/-- A refusal moves no quota, and carries a receipt just when a payment was presented. -/
theorem ChargedTo.of_deny {headers : HeaderView} {clientIp : Option IpAddr} {terms : Terms}
    {policy : Option String} {sessionHonored : Bool} {m after : Stores}
    {challenge : PaymentRequired} {receipt : Option SettlementResponse} {meter : Meter}
    (h : ChargedTo headers clientIp terms policy sessionHonored m (.deny challenge receipt meter)
      after) :
    after.sessions.sessions = m.sessions.sessions ∧
      receipt.isSome = (presentedPayment headers).isSome := by
  cases h with
  | refusedPayment challenge receipt unsessioned presented kept =>
    refine ⟨?_, by rw [presented]; rfl⟩
    rcases kept with rfl | ⟨payload, id, -, -, claimed⟩
    · rfl
    · cases claimed
      rfl
  | refusedFree challenge meter unsessioned unpaid uncounted => exact ⟨rfl, by rw [unpaid]; rfl⟩

/-- What a run on the memory stores has been charged to. -/
def ChargedRun (headers : HeaderView) (clientIp : Option IpAddr) (terms : Terms)
    (policy : Option String) (sessionHonored : Bool) (m : Stores) (breaker : SettlementBreaker)
    (out : Prog.Outcome Op.Ret AppState Decision) : Prop :=
  ∃ after broadcast, out.state = after.state breaker broadcast ∧
    ChargedTo headers clientIp terms policy sessionHonored m out.value after

theorem ChargedRun.call {svc : Service} {headers : HeaderView} {clientIp : Option IpAddr}
    {terms : Terms} {policy : Option String} {sessionHonored : Bool} {m : Stores}
    {breaker : SettlementBreaker} {env : Nat → Env} {s s' : AppState} (op : Op) {r : op.Ret}
    {k : op.Ret → Handler Decision} (hexec : svc.exec (env 0) s op = (r, s'))
    (h : ChargedRun headers clientIp terms policy sessionHonored m breaker
      (svc.alone (k r) (fun n => env (n + 1)) s')) :
    ChargedRun headers clientIp terms policy sessionHonored m breaker
      (svc.alone (.call op k) env s) := by
  obtain ⟨after, broadcast, hstate, hcharged⟩ := h
  refine ⟨after, broadcast, ?_, ?_⟩
  · rw [Service.alone, Prog.run_call_state, hexec]
    exact hstate
  · rw [Service.alone, Prog.run_call_value, hexec]
    exact hcharged

/-! ## The steps of a decision -/

section Steps

variable (svc : Service) {headers : HeaderView} (clientIp : Option IpAddr) (terms : Terms)
  (policy : Option String) (m : Stores) (breaker : SettlementBreaker)

/-- A payment of this id has been claimed, and the claim stands before what is left to do. -/
structure ClaimedFor (headers : HeaderView) (terms : Terms) (m : Stores) (payload : PaymentPayload)
    (id : String) (sessions : MemorySessionStore) : Prop where
  presented : presentedPayment headers = some (.ok payload)
  keyed : paymentId payload = some id
  claimed : m.sessions.Claims id (replayTtl terms.requirements.maxTimeoutSeconds) sessions

variable {m} {payload : PaymentPayload} {id : String} {sessions : MemorySessionStore}
  (hclaimed : ClaimedFor headers terms m payload id sessions)

include hclaimed

theorem charged_rejectPayment (e : FacilitatorError) :
    ChargedTo headers clientIp terms policy false m (svc.rejectPayment terms e)
      { m with sessions := sessions } :=
  .refusedPayment _ _ rfl hclaimed.presented
    (.inr ⟨payload, id, rfl, hclaimed.keyed, hclaimed.claimed⟩)

theorem charged_verifyPresented (env : Nat → Env) (broadcast : List Bytes) :
    ChargedRun headers clientIp terms policy false m breaker
      (svc.alone (svc.verifyPresented terms payload) env
        (Stores.state { m with sessions := sessions } breaker broadcast)) := by
  rw [verifyPresented_eq]
  refine .call (.verify payload terms.requirements) rfl ⟨_, broadcast, rfl, ?_⟩
  show ChargedTo headers clientIp terms policy false m (svc.verifiedDecision terms payload
    ((svc.facilitator.verify payload terms.requirements).run.eval (env 0).node).1) _
  cases ((svc.facilitator.verify payload terms.requirements).run.eval (env 0).node).1 with
  | error e => exact charged_rejectPayment svc clientIp terms policy hclaimed e
  | ok payer => exact .verified _ rfl hclaimed.presented hclaimed.keyed hclaimed.claimed

theorem charged_settlePresented (env : Nat → Env) (broadcast : List Bytes) :
    ChargedRun headers clientIp terms policy false m breaker
      (svc.alone (svc.settlePresented terms policy payload) env
        (Stores.state { m with sessions := sessions } breaker broadcast)) := by
  rw [settlePresented_eq]
  refine .call (.settle payload terms.requirements) rfl ?_
  show ChargedRun headers clientIp terms policy false m breaker (svc.alone
    (svc.settledDecision terms policy
      ((svc.facilitator.settle payload terms.requirements).run.eval (env 0).node).1) _
    (Stores.state { m with sessions := sessions } breaker _))
  cases ((svc.facilitator.settle payload terms.requirements).run.eval (env 0).node).1 with
  | error e => exact ⟨_, _, rfl, charged_rejectPayment svc clientIp terms policy hclaimed e⟩
  | ok receipt =>
    obtain ⟨presented, keyed, claimed⟩ := hclaimed
    rw [Service.settledDecision]
    cases hpayer : receipt.payer with
    | none =>
      rw [mintSession_of_no_payer policy _ hpayer]
      exact ⟨_, _, rfl, .settled _ rfl presented keyed claimed⟩
    | some payer =>
      rw [mintSession_of_payer policy _ hpayer]
      let created := sessions.createSessionAt payer policy terms.resolved.paidTier.quota
        terms.resolved.paidTier.durationSecs (env 1).store.now (env 1).store.raw
      refine .call (.createSession payer policy _ _) rfl ⟨⟨created.2, m.limiter⟩, _, rfl, ?_⟩
      exact .minted _ _ rfl presented keyed claimed rfl

omit hclaimed in
/-- A payment: it is claimed, and then verified or settled. -/
theorem charged_decidePayment (settlePolicy : SettlePolicy)
    {decoded : Except HeaderDecodeError PaymentPayload}
    (hpresented : presentedPayment headers = some decoded)
    (hkeyed : ∀ payload, decoded = .ok payload → (paymentId payload).isSome = true)
    (env : Nat → Env) (broadcast : List Bytes) :
    ChargedRun headers clientIp terms policy false m breaker
      (svc.alone (svc.decidePayment terms policy settlePolicy decoded) env
        (m.state breaker broadcast)) := by
  cases decoded with
  | error e => exact ⟨m, broadcast, rfl, .refusedPayment _ _ rfl hpresented (.inl rfl)⟩
  | ok payload =>
    obtain ⟨id, hid⟩ := Option.isSome_iff_exists.mp (hkeyed payload rfl)
    rw [decidePayment_of_id svc terms policy settlePolicy hid]
    have hclaim := claimPaymentAt_cases m.sessions id
      (replayTtl terms.requirements.maxTimeoutSeconds) (env 0).store.now
    rcases hclaim with ⟨sessions, hfresh, hclaims⟩ | ⟨firstSeen, hreplay⟩
    · have hexec : svc.exec (env 0) (m.state breaker broadcast)
          (.claimPayment id (replayTtl terms.requirements.maxTimeoutSeconds)) =
          (PaymentClaim.fresh, Stores.state { m with sessions := sessions } breaker broadcast) := by
        simp only [Service.exec, SessionStore.claimPayment, hfresh]
        rfl
      refine .call _ hexec ?_
      have hclaimed : ClaimedFor headers terms m payload id sessions := ⟨hpresented, hid, hclaims⟩
      cases settlePolicy with
      | deferred => exact charged_verifyPresented svc clientIp terms policy breaker hclaimed _ _
      | immediate => exact charged_settlePresented svc clientIp terms policy breaker hclaimed _ _
    · have hexec : svc.exec (env 0) (m.state breaker broadcast)
          (.claimPayment id (replayTtl terms.requirements.maxTimeoutSeconds)) =
          (PaymentClaim.replay firstSeen, m.state breaker broadcast) := by
        simp only [Service.exec, SessionStore.claimPayment, hreplay]
        rfl
      refine .call _ hexec (.call .nowEpochSecs rfl ⟨m, broadcast, rfl, ?_⟩)
      exact .refusedPayment _ _ rfl hpresented (.inl rfl)

omit hclaimed in
/-- The free tier: one check. -/
theorem charged_decideFree (hunpaid : presentedPayment headers = none) (env : Nat → Env)
    (broadcast : List Bytes) :
    ChargedRun headers clientIp terms policy false m breaker
      (svc.alone (terms.decideFree clientIp) env (m.state breaker broadcast)) := by
  cases clientIp with
  | none => exact ⟨m, broadcast, rfl, .refusedFree _ _ rfl hunpaid (.inl rfl)⟩
  | some ip =>
    rw [decideFree_some]
    have hcounts := counts_checkAt m.limiter terms.resolved.label ip
      terms.resolved.freeTier.maxRequests terms.resolved.freeTier.windowSecs (env 0).store.now
    obtain ⟨⟨allowance, limiter⟩, hcheck⟩ : ∃ p, m.limiter.checkAt terms.resolved.label ip
      terms.resolved.freeTier.maxRequests terms.resolved.freeTier.windowSecs (env 0).store.now = p :=
      ⟨_, rfl⟩
    rw [hcheck] at hcounts
    have hexec : svc.exec (env 0) (m.state breaker broadcast)
        (.check terms.resolved.label ip terms.resolved.freeTier.maxRequests
          terms.resolved.freeTier.windowSecs) =
        (allowance, Stores.state { m with limiter := limiter } breaker broadcast) := by
      simp only [Service.exec, RateLimiter.check, hcheck]
      rfl
    refine .call _ hexec ⟨{ m with limiter := limiter }, broadcast, rfl, ?_⟩
    show ChargedTo headers (some ip) terms policy false m (terms.freeDecision allowance) _
    rw [Terms.freeDecision]
    cases hallowed : allowance.allowed with
    | true => exact .free _ rfl hunpaid rfl (by simpa [hallowed] using hcounts)
    | false =>
      exact .refusedFree _ _ rfl hunpaid (.inr ⟨ip, _, rfl, by simpa [hallowed] using hcounts⟩)

end Steps

theorem charged_decideUnsessioned (svc : Service) {headers : HeaderView}
    (clientIp : Option IpAddr) (path : String) (policy : Option String) (resourceUrl : String)
    (settlePolicy : SettlePolicy)
    (hkeyed : ∀ payload, presentedPayment headers = some (.ok payload) →
      (paymentId payload).isSome = true)
    (m : Stores) (breaker : SettlementBreaker) (env : Nat → Env) (broadcast : List Bytes) :
    ChargedRun headers clientIp (svc.termsFor path policy resourceUrl) policy false m breaker
      (svc.alone (svc.decideUnsessioned headers clientIp path policy resourceUrl settlePolicy) env
        (m.state breaker broadcast)) := by
  unfold Service.decideUnsessioned
  cases hpresented : presentedPayment headers with
  | some decoded =>
    refine charged_decidePayment svc clientIp _ policy breaker settlePolicy hpresented ?_ env _
    intro payload hdecoded
    exact hkeyed payload (by rw [hpresented, hdecoded])
  | none => exact charged_decideFree svc clientIp _ policy breaker hpresented env broadcast

theorem consume_memory {s s' : MemorySessionStore} {env : StoreEnv} {token : String}
    {policy : Option String} {outcome : SessionOutcome}
    (h : s.consumeAt token policy env.now = (outcome, s')) :
    (SessionStore.memory s).consume env token policy = (outcome, .memory s') := by
  rw [SessionStore.consume, h]
  rfl

/-- **One meter, by one.** -/
theorem decide_moves_one_meter (svc : Service) (headers : HeaderView) (clientIp : Option IpAddr)
    (path : String) (policy : Option String) (resourceUrl : String) (settlePolicy : SettlePolicy)
    (hkeyed : ∀ payload, presentedPayment headers = some (.ok payload) →
      (paymentId payload).isSome = true)
    (env : Nat → Env) (m : Stores) (breaker : SettlementBreaker) (broadcast : List Bytes) :
    let before := m.state breaker broadcast
    let out := svc.alone
      (svc.decide headers clientIp path policy resourceUrl settlePolicy) env before
    ∃ after broadcast', out.state = after.state breaker broadcast' ∧
      ChargedTo headers clientIp (svc.termsFor path policy resourceUrl) policy
        (honored (presentedToken headers) policy env before) m out.value after ∧
      ∀ challenge receipt meter, out.value = .deny challenge receipt meter →
        after.sessions.sessions = m.sessions.sessions ∧
          receipt.isSome = (presentedPayment headers).isSome := by
  intro before out
  suffices h : ChargedRun headers clientIp (svc.termsFor path policy resourceUrl) policy
      (honored (presentedToken headers) policy env before) m breaker out by
    obtain ⟨after, broadcast', hstate, hcharged⟩ := h
    refine ⟨after, broadcast', hstate, hcharged, fun challenge receipt meter hdeny => ?_⟩
    exact (hdeny ▸ hcharged).of_deny
  have hunsessioned := fun env => charged_decideUnsessioned svc clientIp path policy resourceUrl
    settlePolicy hkeyed m breaker env broadcast
  cases htoken : presentedToken headers with
  | none =>
    show ChargedRun _ _ _ _ _ _ _ (svc.alone _ _ _)
    rw [decide_of_no_token svc clientIp path resourceUrl settlePolicy htoken]
    exact hunsessioned env
  | some token =>
    rcases m.sessions.consumeAt_cases token policy (env 0).store.now with
      ⟨reason, hrejected⟩ | ⟨claims, session, left, hverify, hget, -, -, hleft, haccepted⟩
    · have hconsume : before.sessions.consume (env 0).store token policy =
          (.rejected reason, .memory m.sessions) := consume_memory hrejected
      have hhonored : honored (some token) policy env before = false := by
        simp [honored, hconsume]
      show ChargedRun _ _ _ _ _ _ _ (svc.alone _ _ _)
      rw [hhonored, run_decide_of_rejected svc clientIp path resourceUrl settlePolicy htoken hconsume]
      exact hunsessioned fun n => env (n + 1)
    -- An accepted token is the one exit that spends a session; the others are `hunsessioned`.
    · have hspends : m.sessions.Spends claims.sessionId _ := .one hget hleft
      generalize MemorySessionStore.mk _ _ _ _ = sessions at haccepted hspends
      have hconsume : before.sessions.consume (env 0).store token policy =
          (.accepted session.payer left session.quota session.expiresAt, .memory sessions) :=
        consume_memory haccepted
      have hhonored : honored (some token) policy env before = true := by
        simp [honored, hconsume]
      show ChargedRun _ _ _ _ _ _ _ (svc.alone _ _ _)
      rw [hhonored, run_decide_of_accepted svc clientIp path resourceUrl settlePolicy htoken hconsume]
      exact ⟨⟨sessions, m.limiter⟩, broadcast, rfl, .session _ rfl htoken hverify hspends⟩

/-- The stores `main` starts with, on the example configuration. -/
def exampleStores : Stores :=
  ⟨.ofConfig (exampleConfig .stubAcceptAll) [], {}⟩

omit [Platform] in
theorem decide_moves_one_meter_example :
    let _ : Platform := paymentPlatform "1000"
    let svc := Service.ofConfig (exampleConfig .stubAcceptAll)
    let before := exampleStores.state {} []
    let out := svc.alone (svc.decide (paymentHeaders "1000") none "/" none "/" .immediate)
      (fun _ => exampleEnv 1000) before
    ∃ after broadcast', out.state = after.state {} broadcast' ∧
      ChargedTo (paymentHeaders "1000") none (svc.termsFor "/" none "/") none
        (honored (presentedToken (paymentHeaders "1000")) none (fun _ => exampleEnv 1000) before)
        exampleStores out.value after ∧
      ∀ challenge receipt meter, out.value = .deny challenge receipt meter →
        after.sessions.sessions = exampleStores.sessions.sessions ∧
          receipt.isSome = (presentedPayment (paymentHeaders "1000")).isSome := by
  intro _ svc
  have hpayment : presentedPayment (paymentHeaders "1000") =
      some (.ok (payloadAccepting "1000")) :=
    presentedPayment_paymentHeaders "1000" (by decide +kernel)
  refine decide_moves_one_meter svc (paymentHeaders "1000") none "/" none "/" .immediate
    (fun payload hpayload => ?_) (fun _ => exampleEnv 1000) exampleStores {} []
  cases hpayment.symm.trans hpayload
  decide +kernel

end X402Verifier
