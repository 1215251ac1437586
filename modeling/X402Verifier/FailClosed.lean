import X402Verifier.DecisionRun
import X402Verifier.PaymentIdentity
import X402Verifier.RefusalRelease

/-!
# Failing closed

`decide` goes through three tiers, and a store that fails in one of them leaves the request to the
next, or refuses it. Whatever the stores answer, a request is allowed only by an operation of its own
branch that succeeded (`AuthorisedBy`). The branch without a store call, a payment that has no id, is
not reached in `sui-grpc` mode: a payment without an id is not accepted there.

The stores encode a failed call each in its own way, and each of these is a refusal
(`refused_of_failed_call`). A session that cannot be minted leaves its settled request allowed, this
once.
-/

namespace X402Verifier

open RustStd Interaction

variable [Platform]

/-! ## What allows a request -/

/-- The operation that authorises a decision, among the calls that were made. -/
inductive AuthorisedBy (headers : HeaderView) (clientIp : Option IpAddr) (terms : Terms)
    (policy : Option String) (calls : List (Event Op.Ret)) : Decision → Prop
  | session {token payer : String} {remaining quota expiresAt : Nat} (meter : Meter)
      (presented : presentedToken headers = some token)
      (accepted : ⟨.consume token policy,
        SessionOutcome.accepted payer remaining quota expiresAt⟩ ∈ calls) :
      AuthorisedBy headers clientIp terms policy calls
        (.allow .paid (some payer) none none none meter)
  | verified {payload : PaymentPayload} {id payer : String} (pending : PendingPayment)
      (presented : presentedPayment headers = some (.ok payload))
      (keyed : paymentId payload = some id)
      (claimed : ⟨.claimPayment id (replayTtl terms.requirements.maxTimeoutSeconds),
        PaymentClaim.fresh⟩ ∈ calls)
      (verified : ⟨.verify payload terms.requirements, .ok payer⟩ ∈ calls) :
      AuthorisedBy headers clientIp terms policy calls
        (.allow .paid (some payer) none none (some pending) .unknown)
  | settled {payload : PaymentPayload} {id : String} {receipt : SettlementResponse}
      {payer : Option String} (token : Option String) (settlement : SettlementResponse)
      (meter : Meter) (presented : presentedPayment headers = some (.ok payload))
      (keyed : paymentId payload = some id) (paid : receipt.payer = payer)
      (claimed : ⟨.claimPayment id (replayTtl terms.requirements.maxTimeoutSeconds),
        PaymentClaim.fresh⟩ ∈ calls)
      (settled : ⟨.settle payload terms.requirements, .ok receipt⟩ ∈ calls)
      (minted : ∀ t, token = some t → ∃ payer,
        ⟨.createSession payer policy terms.resolved.paidTier.quota
          terms.resolved.paidTier.durationSecs, .ok t⟩ ∈ calls) :
      AuthorisedBy headers clientIp terms policy calls
        (.allow .paid payer token (some settlement) none meter)
  | free {ip : IpAddr} {allowance : Allowance} (meter : Meter)
      (unpaid : presentedPayment headers = none) (address : clientIp = some ip)
      (admitted : ⟨.check terms.resolved.label ip terms.resolved.freeTier.maxRequests
        terms.resolved.freeTier.windowSecs, allowance⟩ ∈ calls)
      (allowed : allowance.allowed = true) :
      AuthorisedBy headers clientIp terms policy calls (.allow .free none none none none meter)

/-- A session that could not be minted was for a settled payment, and the request is allowed this
once, without a token. -/
def LeavesUnsessioned (terms : Terms) (policy : Option String) (calls : List (Event Op.Ret))
    (d : Decision) : Prop :=
  ∀ payer quota ttlSecs e, ⟨.createSession payer policy quota ttlSecs, .error e⟩ ∈ calls →
    ∃ payload receipt, ⟨.settle payload terms.requirements, .ok receipt⟩ ∈ calls ∧
      d = .allow .paid (some payer) none (some receipt) none .unknown

/-- The decision is a refusal, or it has been authorised. -/
structure FailsClosed (headers : HeaderView) (clientIp : Option IpAddr) (terms : Terms)
    (policy : Option String) (out : Decision × List (Event Op.Ret)) : Prop where
  authorised : out.1.refused = true ∨ AuthorisedBy headers clientIp terms policy out.2 out.1
  unsessioned : LeavesUnsessioned terms policy out.2 out.1

/-! ## The facilitator's answers -/

/-- Verification and settlement are the facilitator's, against any fullnode. -/
def Service.Examines (svc : Service) (answer : Answers) : Prop :=
  ∀ n payload requirements,
    (∃ node, answer n (.verify payload requirements) =
      ((svc.facilitator.verify payload requirements).run.eval node).1) ∧
    ∃ node, answer n (.settle payload requirements) =
      ((svc.facilitator.settle payload requirements).run.eval node).1

/-- The stores answer what they like, and the facilitator asks these fullnodes. -/
def Service.answering (svc : Service) (store : Answers) (node : Nat → Fullnode) : Answers :=
  fun n op => match op with
    | .verify payload requirements =>
      ((svc.facilitator.verify payload requirements).run.eval (node n)).1
    | .settle payload requirements =>
      ((svc.facilitator.settle payload requirements).run.eval (node n)).1
    | op => store n op

theorem examines_answering (svc : Service) (store : Answers) (node : Nat → Fullnode) :
    svc.Examines (svc.answering store node) :=
  fun n _ _ => ⟨⟨node n, rfl⟩, ⟨node n, rfl⟩⟩

/-- One of these calls has found the payment good. -/
def ExaminedIn (calls : List (Event Op.Ret)) (terms : Terms) (payload : PaymentPayload) : Prop :=
  (∃ payer, ⟨.verify payload terms.requirements, Except.ok payer⟩ ∈ calls) ∨
    ∃ receipt, ⟨.settle payload terms.requirements, Except.ok receipt⟩ ∈ calls

/-- **What was examined has an id.** -/
theorem isSome_of_examinedIn {svc : Service} (hmode : svc.facilitator.mode = .suiGrpc)
    {answer : Answers} (hexamines : svc.Examines answer) {α : Type} {prog : Handler α}
    {terms : Terms} {payload : PaymentPayload} (h : ExaminedIn (prog.eval answer).2 terms payload) :
    (paymentId payload).isSome = true := by
  have hdecodes : svc.facilitator.TransactionDecodes payload terms.requirements := by
    intro hstub
    rw [hmode] at hstub
    cases hstub
  have haccepted := (accepts_has_id_iff svc.facilitator payload terms.requirements).mpr hdecodes
  obtain ⟨payer, hmem⟩ | ⟨receipt, hmem⟩ := h
  · obtain ⟨n, hn⟩ := Prog.exists_answer_of_mem_eval hmem
    obtain ⟨⟨node, hverify⟩, -⟩ := hexamines n payload terms.requirements
    exact haccepted node (.inl ⟨payer, hverify.symm.trans hn.symm⟩)
  · obtain ⟨n, hn⟩ := Prog.exists_answer_of_mem_eval hmem
    obtain ⟨-, node, hsettle⟩ := hexamines n payload terms.requirements
    exact haccepted node (.inr ⟨receipt, hsettle.symm.trans hn.symm⟩)

/-! ## The ways through -/

section Ways

variable {svc : Service} {headers : HeaderView} {clientIp : Option IpAddr} {terms : Terms}
  {policy : Option String} {settlePolicy : SettlePolicy} {calls : List (Event Op.Ret)} {d : Decision}

/-- **Who is allowed.** A payment is claimed before it is examined, and what was examined has an id to
be claimed by. -/
theorem Service.DecideCalls.authorised
    (h : svc.DecideCalls headers clientIp terms policy settlePolicy calls d)
    (hkeyed : ∀ payload, ExaminedIn calls terms payload → (paymentId payload).isSome = true) :
    d.refused = true ∨ AuthorisedBy headers clientIp terms policy calls d := by
  cases h with
  | session honored =>
    cases honored with
    | accepted presented => exact .inr (.session _ presented (.head _))
  | @payment before paymentCalls _ _ passed presented paid =>
    cases paid with
    | malformed => exact .inl rfl
    | refused => exact .inl rfl
    | unverified => exact .inl rfl
    | unsettled => exact .inl rfl
    | @verified payload claim claimed payer =>
      have hverified : ⟨.verify payload terms.requirements, .ok payer⟩ ∈
          before ++ (claim ++ [⟨.verify payload terms.requirements, .ok payer⟩]) :=
        List.mem_append_right _ (List.mem_append_right _ (.head _))
      obtain ⟨id, hid⟩ := Option.isSome_iff_exists.mp (hkeyed payload (.inl ⟨payer, hverified⟩))
      refine .inr (.verified _ presented hid ?_ hverified)
      exact List.mem_append_right _ (List.mem_append_left _ (claimed.claimed hid))
    | @settled payload claim mint token claimed receipt minted =>
      have hsettled : ⟨.settle payload terms.requirements, .ok receipt⟩ ∈
          before ++ (claim ++ ⟨.settle payload terms.requirements, .ok receipt⟩ :: mint) :=
        List.mem_append_right _ (List.mem_append_right _ (.head _))
      obtain ⟨id, hid⟩ := Option.isSome_iff_exists.mp (hkeyed payload (.inr ⟨receipt, hsettled⟩))
      refine .inr (.settled token _ _ presented hid rfl ?_ hsettled fun t ht => ?_)
      · exact List.mem_append_right _ (List.mem_append_left _ (claimed.claimed hid))
      · cases minted with
        | nobody => cases ht
        | failed => cases ht
        | minted paid token =>
          cases ht
          exact ⟨_, List.mem_append_right _ (List.mem_append_right _ (.tail _ (.head _)))⟩
  | free passed unpaid served =>
    cases served with
    | unaddressed => exact .inl rfl
    | exceeded => exact .inl rfl
    | admitted admitted =>
      exact .inr (.free _ unpaid rfl (List.mem_append_right _ (.head _)) admitted)

omit [Platform] in
theorem PassCalls.mints_nothing {token : Option String} (h : PassCalls token policy calls)
    {payer : String} {quota ttlSecs : Nat} {minted : Except StoreError String} :
    ⟨.createSession payer policy quota ttlSecs, minted⟩ ∉ calls := by
  intro hmem
  cases h with
  | absent => cases hmem
  | rejected => cases List.mem_singleton.mp hmem

theorem ClaimCalls.mints_nothing {payload : PaymentPayload} {requirements : PaymentRequirements}
    {refused : Option FacilitatorError} (h : ClaimCalls payload requirements calls refused)
    {payer : String} {quota ttlSecs : Nat} {minted : Except StoreError String} :
    ⟨.createSession payer policy quota ttlSecs, minted⟩ ∉ calls := by
  intro hmem
  cases h with
  | unkeyed => cases hmem
  | fresh | backend => cases List.mem_singleton.mp hmem
  | replay =>
    obtain hmem | hmem := List.mem_cons.mp hmem
    · cases hmem
    · cases List.mem_singleton.mp hmem

theorem Service.PaymentCalls.unsessioned {decoded : Except HeaderDecodeError PaymentPayload}
    (h : svc.PaymentCalls terms policy settlePolicy decoded calls d) :
    LeavesUnsessioned terms policy calls d := by
  intro payer quota ttlSecs e hfailed
  cases h with
  | malformed => cases hfailed
  | refused _ claimed => exact absurd hfailed claimed.mints_nothing
  | unverified claimed | verified claimed | unsettled claimed =>
    cases List.mem_singleton.mp ((List.mem_append.mp hfailed).resolve_left claimed.mints_nothing)
  | @settled payload claim mint token claimed receipt minted =>
    have hmint := (List.mem_append.mp hfailed).resolve_left claimed.mints_nothing
    obtain hmint | hmint := List.mem_cons.mp hmint
    · cases hmint
    · cases minted with
      | nobody => cases hmint
      | minted => cases List.mem_singleton.mp hmint
      | failed paid e =>
        cases List.mem_singleton.mp hmint
        refine ⟨payload, receipt, List.mem_append_right _ (.head _), ?_⟩
        rw [paid]
        rfl

theorem Service.DecideCalls.unsessioned
    (h : svc.DecideCalls headers clientIp terms policy settlePolicy calls d) :
    LeavesUnsessioned terms policy calls d := by
  intro payer quota ttlSecs e hfailed
  cases h with
  | session honored =>
    cases honored
    obtain hfailed | hfailed := List.mem_cons.mp hfailed
    · cases hfailed
    · cases List.mem_singleton.mp hfailed
  | payment passed presented paid =>
    have hpaid := (List.mem_append.mp hfailed).resolve_left passed.mints_nothing
    obtain ⟨payload, receipt, hsettled, hd⟩ := paid.unsessioned payer quota ttlSecs e hpaid
    exact ⟨payload, receipt, List.mem_append_right _ hsettled, hd⟩
  | free passed unpaid served =>
    have hserved := (List.mem_append.mp hfailed).resolve_left passed.mints_nothing
    cases served with
    | unaddressed => cases hserved
    | admitted | exceeded => cases List.mem_singleton.mp hserved

end Ways

/-- **A decision fails closed.** -/
theorem failsClosed_decide {svc : Service} (hmode : svc.facilitator.mode = .suiGrpc)
    {answer : Answers} (hexamines : svc.Examines answer) (headers : HeaderView)
    (clientIp : Option IpAddr) (path : String) (policy : Option String) (resourceUrl : String)
    (settlePolicy : SettlePolicy) :
    FailsClosed headers clientIp (svc.termsFor path policy resourceUrl) policy
      ((svc.decide headers clientIp path policy resourceUrl settlePolicy).eval answer) := by
  have hcalls := calls_decide svc headers clientIp path policy resourceUrl settlePolicy answer
  exact ⟨hcalls.authorised fun payload => isSome_of_examinedIn hmode hexamines,
    hcalls.unsessioned⟩

/-! ## A store that fails -/

/-- The answer does not authorise what the operation is asked for. -/
def Op.Refuses : (op : Op) → op.Ret → Prop
  | .consume .., (outcome : SessionOutcome) => ∃ reason, outcome = .rejected reason
  | .claimPayment .., (claim : PaymentClaim) => claim = .backend
  | .createSession .., (token : Except StoreError String) => ∃ e, token = .error e
  | .check .., (allowance : Allowance) => allowance.allowed = false
  | _, _ => True

omit [Platform] in
theorem RedisFate.apply_failed {α σ : Type} {fate : RedisFate} (hfate : fate ≠ .answered)
    (before : σ) (reply : Except String α × σ) : ∃ e s, fate.apply before reply = (.error e, s) := by
  cases fate with
  | answered => exact absurd rfl hfate
  | unreached e => exact ⟨e, before, rfl⟩
  | replyLost e => exact ⟨e, reply.2, rfl⟩

/-- **A failed call refuses.** -/
theorem refused_of_failed_call (svc : Service) {env : Env} {s : AppState}
    (hfate : env.store.redis.fate ≠ .answered) {sessions : RedisSessionStore}
    (hsessions : s.sessions = .redis sessions) {limiter : RedisRateLimiter}
    (hlimiter : s.limiter = .redis limiter) (op : Op) : op.Refuses (svc.exec env s op).1 := by
  cases op with
  | consume token policy =>
    simp only [Op.Refuses, exec_consume, hsessions, SessionStore.consume, RedisSessionStore.consume,
      Prod.map_fst, id_eq]
    cases sessions.codec.verify token env.store.now with
    | error reason => exact ⟨reason, rfl⟩
    | ok claims =>
      dsimp only
      -- Whether Redis was not reached or its reply was lost, the caller sees an error.
      obtain ⟨e, s', hfailed⟩ := RedisFate.apply_failed hfate sessions
        (sessions.spendScript (RedisSessionStore.key claims.sessionId) (policy.getD "")
          env.store.redis.serverNow)
      rw [hfailed]
      exact ⟨.backend, rfl⟩
  | claimPayment id ttlSecs =>
    obtain ⟨e, s', hfailed⟩ := RedisFate.apply_failed hfate sessions
      (sessions.claimScript (RedisSessionStore.replayKey id) env.store.now ttlSecs
        env.store.redis.serverNow)
    simp only [Op.Refuses, Service.exec, hsessions, SessionStore.claimPayment,
      RedisSessionStore.claimPayment, hfailed, Prod.map_fst, id_eq]
  | createSession payer policy quota ttlSecs =>
    obtain ⟨e, s', hfailed⟩ := RedisFate.apply_failed hfate sessions
      (sessions.createPipeline (RedisSessionStore.key (newSessionId env.store.raw))
        ⟨payer, quota, quota, policy.getD ""⟩ ttlSecs env.store.redis.serverNow)
    simp only [Op.Refuses, Service.exec, hsessions, SessionStore.createSession,
      RedisSessionStore.createSession, hfailed, Prod.map_fst, id_eq]
    exact ⟨_, rfl⟩
  | check policy ip maxRequests windowSecs =>
    simp only [Op.Refuses, Service.exec, hlimiter, RateLimiter.check, RedisRateLimiter.checkAt,
      Prod.map_fst, id_eq]
    generalize hscript : limiter.checkScript _ _ _ _ _ _ = reply
    obtain ⟨e, s', hfailed⟩ := RedisFate.apply_failed hfate limiter reply
    rw [hfailed]
  | _ => trivial

/-- Both stores are Redis, and the step's call fails. -/
def StoreFails (env : Env) (s : AppState) : Prop :=
  env.store.redis.fate ≠ .answered ∧ (∃ sessions, s.sessions = .redis sessions) ∧
    ∃ limiter, s.limiter = .redis limiter

/-- **The gateway fails closed.** Whatever the stores answer, a request is allowed by the operation
that authorises it; a store call that fails authorises nothing. -/
theorem fails_closed (svc : Service) (hmode : svc.facilitator.mode = .suiGrpc) :
    (∀ (store : Answers) (node : Nat → Fullnode) (headers : HeaderView) (clientIp : Option IpAddr)
      (path : String) (policy : Option String) (resourceUrl : String) (settlePolicy : SettlePolicy),
      FailsClosed headers clientIp (svc.termsFor path policy resourceUrl) policy
        ((svc.decide headers clientIp path policy resourceUrl settlePolicy).eval
          (svc.answering store node))) ∧
    ∀ (env : Env) (s : AppState) (op : Op), StoreFails env s → op.Refuses (svc.exec env s op).1 := by
  constructor
  · intro store node headers clientIp path policy resourceUrl settlePolicy
    exact failsClosed_decide hmode (examines_answering svc store node) headers clientIp path policy
      resourceUrl settlePolicy
  · rintro env s op ⟨hfate, ⟨sessions, hsessions⟩, limiter, hlimiter⟩
    exact refused_of_failed_call svc hfate hsessions hlimiter op

def redisState : AppState := ⟨.redis { codec := ⟨[]⟩ }, .redis {}, {}, []⟩

/-- Redis is not reached. -/
def cutOff : Env := ⟨{ now := 1000, redis := ⟨1000, .unreached "connection refused"⟩ }, emptyNode⟩

omit [Platform] in
theorem fails_closed_example :
    let _ : Platform := paymentPlatform "1000"
    let svc := Service.ofConfig (exampleConfig .suiGrpc)
    FailsClosed (paymentHeaders "1000") (some exampleAddress) (svc.termsFor "/" none "/") none
      ((svc.decide (paymentHeaders "1000") (some exampleAddress) "/" none "/" .deferred).eval
        (svc.answering (fun _ op => (svc.exec cutOff redisState op).1) fun _ => emptyNode)) ∧
    Op.Refuses (.claimPayment exampleId 600)
      (svc.exec cutOff redisState (.claimPayment exampleId 600)).1 := by
  intro _ svc
  have h := fails_closed svc rfl
  refine ⟨h.1 (fun _ op => (svc.exec cutOff redisState op).1) (fun _ => emptyNode) _ _ _ _ _ _, ?_⟩
  exact h.2 cutOff redisState _ ⟨nofun, ⟨_, rfl⟩, _, rfl⟩

end X402Verifier
