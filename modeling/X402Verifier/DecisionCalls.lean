import X402Verifier.Auth

/-!
# What a decision calls

The ways through `decide`, each with the calls it makes, what they are answered, and what is decided
(`Service.DecideCalls`): a session that is honored; or, after a session step that honored nothing, a
payment or the free tier.

`calls_decide` walks through the handlers once. What else is said of the calls of a decision, or of a
decision by its calls, follows from it by cases, under any protocol (`Prog.Yields.follows`).
-/

namespace X402Verifier

open RustStd Interaction

variable [Platform]

/-! ## The ways through -/

/-- A session that is honored. -/
inductive HonorCalls (token policy : Option String) : List (Event Op.Ret) → Decision → Prop
  | accepted {text : String} (presented : token = some text) (payer : String)
      (remaining quota expiresAt now : Nat) :
      HonorCalls token policy
        [⟨.consume text policy, SessionOutcome.accepted payer remaining quota expiresAt⟩,
          ⟨.nowEpochSecs, now⟩]
        (.allow .paid (some payer) none none none (.session remaining quota (expiresAt - now)))

/-- A session step that honors nothing. -/
inductive PassCalls (token policy : Option String) : List (Event Op.Ret) → Prop
  | absent (absent : token = none) : PassCalls token policy []
  | rejected {text : String} (presented : token = some text) (reason : SessionRejection) :
      PassCalls token policy [⟨.consume text policy, SessionOutcome.rejected reason⟩]

/-- The claim of a payment, and why it is refused. -/
inductive ClaimCalls (payload : PaymentPayload) (requirements : PaymentRequirements) :
    List (Event Op.Ret) → Option FacilitatorError → Prop
  | unkeyed (unkeyed : paymentId payload = none) : ClaimCalls payload requirements [] none
  | fresh {id : String} (keyed : paymentId payload = some id) :
      ClaimCalls payload requirements
        [⟨.claimPayment id (replayTtl requirements.maxTimeoutSeconds), PaymentClaim.fresh⟩] none
  | replay {id : String} (keyed : paymentId payload = some id) (firstSeen now : Nat) :
      ClaimCalls payload requirements
        [⟨.claimPayment id (replayTtl requirements.maxTimeoutSeconds),
            PaymentClaim.replay firstSeen⟩,
          ⟨.nowEpochSecs, now⟩]
        (some (replayError requirements.maxTimeoutSeconds firstSeen now))
  | backend {id : String} (keyed : paymentId payload = some id) :
      ClaimCalls payload requirements
        [⟨.claimPayment id (replayTtl requirements.maxTimeoutSeconds), PaymentClaim.backend⟩]
        (some .replayCacheUnavailable)

/-- The session a settled payment buys. -/
inductive MintCalls (receipt : SettlementResponse) (policy : Option String) (tier : PaidTierConfig) :
    List (Event Op.Ret) → Option String → Prop
  | nobody (payer : receipt.payer = none) : MintCalls receipt policy tier [] none
  | minted {payer : String} (paid : receipt.payer = some payer) (token : String) :
      MintCalls receipt policy tier
        [⟨.createSession payer policy tier.quota tier.durationSecs, .ok token⟩] (some token)
  | failed {payer : String} (paid : receipt.payer = some payer) (e : StoreError) :
      MintCalls receipt policy tier
        [⟨.createSession payer policy tier.quota tier.durationSecs, .error e⟩] none

/-- The meter of a session that was just minted. -/
def grantMeter (token : Option String) (tier : PaidTierConfig) : Meter :=
  if token.isSome then .session tier.quota tier.quota tier.durationSecs else .unknown

/-- A payment that was presented. -/
inductive Service.PaymentCalls (svc : Service) (terms : Terms) (policy : Option String) :
    SettlePolicy → Except HeaderDecodeError PaymentPayload → List (Event Op.Ret) → Decision → Prop
  | malformed (settlePolicy : SettlePolicy) (e : HeaderDecodeError) :
      svc.PaymentCalls terms policy settlePolicy (.error e) []
        (svc.refusePayment terms ("malformed payment-signature header: " ++ e.display)
          "invalid_payload")
  | refused (settlePolicy : SettlePolicy) {payload : PaymentPayload} {claim : List (Event Op.Ret)}
      {e : FacilitatorError} (claimed : ClaimCalls payload terms.requirements claim (some e)) :
      svc.PaymentCalls terms policy settlePolicy (.ok payload) claim (svc.rejectPayment terms e)
  | unverified {payload : PaymentPayload} {claim : List (Event Op.Ret)}
      (claimed : ClaimCalls payload terms.requirements claim none) (e : FacilitatorError) :
      svc.PaymentCalls terms policy .deferred (.ok payload)
        (claim ++ [⟨.verify payload terms.requirements, .error e⟩]) (svc.rejectPayment terms e)
  | verified {payload : PaymentPayload} {claim : List (Event Op.Ret)}
      (claimed : ClaimCalls payload terms.requirements claim none) (payer : String) :
      svc.PaymentCalls terms policy .deferred (.ok payload)
        (claim ++ [⟨.verify payload terms.requirements, .ok payer⟩])
        (.allow .paid (some payer) none none (some (.of payload terms.requirements)) .unknown)
  | unsettled {payload : PaymentPayload} {claim : List (Event Op.Ret)}
      (claimed : ClaimCalls payload terms.requirements claim none) (e : FacilitatorError) :
      svc.PaymentCalls terms policy .immediate (.ok payload)
        (claim ++ [⟨.settle payload terms.requirements, .error e⟩]) (svc.rejectPayment terms e)
  | settled {payload : PaymentPayload} {claim mint : List (Event Op.Ret)} {token : Option String}
      (claimed : ClaimCalls payload terms.requirements claim none) (receipt : SettlementResponse)
      (minted : MintCalls receipt policy terms.resolved.paidTier mint token) :
      svc.PaymentCalls terms policy .immediate (.ok payload)
        (claim ++ ⟨.settle payload terms.requirements, .ok receipt⟩ :: mint)
        (.allow .paid receipt.payer token (some (withGrant receipt token terms.resolved.paidTier)) none
          (grantMeter token terms.resolved.paidTier))

/-- The free tier. -/
inductive Terms.FreeCalls (terms : Terms) :
    Option IpAddr → List (Event Op.Ret) → Decision → Prop
  | unaddressed :
      terms.FreeCalls none []
        (.deny (terms.challenge "client address unavailable; free tier cannot be metered") none
          .unknown)
  | admitted {ip : IpAddr} {allowance : Allowance} (admitted : allowance.allowed = true) :
      terms.FreeCalls (some ip)
        [⟨.check terms.resolved.label ip terms.resolved.freeTier.maxRequests
          terms.resolved.freeTier.windowSecs, allowance⟩]
        (.allow .free none none none none
          (.free allowance.remaining allowance.limit allowance.resetSecs))
  | exceeded {ip : IpAddr} {allowance : Allowance} (exceeded : allowance.allowed = false) :
      terms.FreeCalls (some ip)
        [⟨.check terms.resolved.label ip terms.resolved.freeTier.maxRequests
          terms.resolved.freeTier.windowSecs, allowance⟩]
        (.deny (terms.challenge "free tier rate limit exceeded; pay to unlock a higher limit") none
          (.free allowance.remaining allowance.limit allowance.resetSecs))

/-- A decision. -/
inductive Service.DecideCalls (svc : Service) (headers : HeaderView) (clientIp : Option IpAddr)
    (terms : Terms) (policy : Option String) (settlePolicy : SettlePolicy) :
    List (Event Op.Ret) → Decision → Prop
  | session {calls : List (Event Op.Ret)} {d : Decision}
      (honored : HonorCalls (presentedToken headers) policy calls d) :
      svc.DecideCalls headers clientIp terms policy settlePolicy calls d
  | payment {before calls : List (Event Op.Ret)} {d : Decision}
      {decoded : Except HeaderDecodeError PaymentPayload}
      (passed : PassCalls (presentedToken headers) policy before)
      (presented : presentedPayment headers = some decoded)
      (paid : svc.PaymentCalls terms policy settlePolicy decoded calls d) :
      svc.DecideCalls headers clientIp terms policy settlePolicy (before ++ calls) d
  | free {before calls : List (Event Op.Ret)} {d : Decision}
      (passed : PassCalls (presentedToken headers) policy before)
      (unpaid : presentedPayment headers = none) (served : terms.FreeCalls clientIp calls d) :
      svc.DecideCalls headers clientIp terms policy settlePolicy (before ++ calls) d

/-! ## One walk -/

theorem calls_honorSession (token policy : Option String) :
    (honorSession token policy).Yields fun calls d =>
      d.elim (PassCalls token policy calls) (HonorCalls token policy calls) := by
  cases token with
  | none => exact .pure (.absent rfl)
  | some token =>
    refine .perform fun outcome => ?_
    cases outcome with
    | rejected reason => exact .pure (.rejected rfl reason)
    | accepted payer remaining quota expiresAt =>
      exact .perform fun now => .pure (.accepted rfl payer remaining quota expiresAt now)

theorem calls_claimPresented (payload : PaymentPayload) (requirements : PaymentRequirements) :
    (claimPresented payload requirements).Yields (ClaimCalls payload requirements) := by
  unfold claimPresented
  cases hid : paymentId payload with
  | none => exact .pure (.unkeyed hid)
  | some id =>
    refine .perform fun claim => ?_
    cases claim with
    | fresh => exact .pure (.fresh hid)
    | replay firstSeen => exact .perform fun now => .pure (.replay hid firstSeen now)
    | backend => exact .pure (.backend hid)

omit [Platform] in
theorem calls_mintSession (receipt : SettlementResponse) (policy : Option String)
    (tier : PaidTierConfig) :
    (mintSession receipt policy tier).Yields (MintCalls receipt policy tier) := by
  unfold mintSession
  cases hpayer : receipt.payer with
  | none => exact .pure (.nobody hpayer)
  | some payer =>
    refine .perform fun minted => ?_
    cases minted with
    | ok token => exact .pure (.minted hpayer token)
    | error e => exact .pure (.failed hpayer e)

theorem calls_decidePayment (svc : Service) (terms : Terms) (policy : Option String)
    (settlePolicy : SettlePolicy) (decoded : Except HeaderDecodeError PaymentPayload) :
    (svc.decidePayment terms policy settlePolicy decoded).Yields
      (svc.PaymentCalls terms policy settlePolicy decoded) := by
  cases decoded with
  | error e => exact .pure (.malformed settlePolicy e)
  | ok payload =>
    refine (calls_claimPresented payload terms.requirements).bind fun claim refused hclaim => ?_
    cases refused with
    | some e =>
      refine .pure ?_
      rw [List.append_nil]
      exact .refused settlePolicy hclaim
    | none =>
      cases settlePolicy with
      | deferred =>
        refine .perform fun verified => ?_
        cases verified with
        | error e => exact .pure (.unverified hclaim e)
        | ok payer => exact .pure (.verified hclaim payer)
      | immediate =>
        refine .perform fun settled => ?_
        cases settled with
        | error e => exact .pure (.unsettled hclaim e)
        | ok receipt =>
          refine (calls_mintSession receipt policy terms.resolved.paidTier).bind
            fun mint token hmint => .pure ?_
          rw [List.append_nil]
          exact .settled hclaim receipt hmint

theorem calls_decideFree (terms : Terms) (clientIp : Option IpAddr) :
    (terms.decideFree clientIp).Yields (terms.FreeCalls clientIp) := by
  cases clientIp with
  | none => exact .pure .unaddressed
  | some ip =>
    refine .perform fun allowance => ?_
    dsimp only
    split_ifs with hallowed
    · exact .pure (.admitted hallowed)
    · exact .pure (.exceeded (Bool.eq_false_iff.mpr hallowed))

/-- **The ways through `decide`.** -/
theorem calls_decide (svc : Service) (headers : HeaderView) (clientIp : Option IpAddr)
    (path : String) (policy : Option String) (resourceUrl : String) (settlePolicy : SettlePolicy) :
    (svc.decide headers clientIp path policy resourceUrl settlePolicy).Yields
      (svc.DecideCalls headers clientIp (svc.termsFor path policy resourceUrl) policy
        settlePolicy) := by
  refine (calls_honorSession (presentedToken headers) policy).bind fun before d hbefore => ?_
  cases d with
  | some d =>
    refine .pure ?_
    rw [List.append_nil]
    exact .session hbefore
  | none =>
    dsimp only
    cases hpayment : presentedPayment headers with
    | some decoded =>
      exact fun answer => .payment hbefore hpayment
        (calls_decidePayment svc _ policy settlePolicy decoded answer)
    | none => exact fun answer => .free hbefore hpayment (calls_decideFree _ clientIp answer)

/-- A payment that is not refused at its claim has been claimed, if it has an id. -/
theorem ClaimCalls.claimed {payload : PaymentPayload} {requirements : PaymentRequirements}
    {calls : List (Event Op.Ret)} (h : ClaimCalls payload requirements calls none) {id : String}
    (hid : paymentId payload = some id) :
    ⟨.claimPayment id (replayTtl requirements.maxTimeoutSeconds), PaymentClaim.fresh⟩ ∈ calls := by
  cases h with
  | unkeyed unkeyed => cases unkeyed.symm.trans hid
  | fresh keyed =>
    cases keyed.symm.trans hid
    exact .head _

/-! ## Besides a payment -/

/-- The operations that the session step and the free tier call. -/
inductive NotPaying : Op → Prop
  | nowEpochSecs : NotPaying .nowEpochSecs
  | consume (token : String) (policy : Option String) : NotPaying (.consume token policy)
  | check (label : String) (ip : IpAddr) (maxRequests windowSecs : Nat) :
      NotPaying (.check label ip maxRequests windowSecs)

section NotPaying

variable {token policy : Option String} {calls : List (Event Op.Ret)} {d : Decision}

theorem HonorCalls.notPaying (h : HonorCalls token policy calls d) :
    (∀ e ∈ calls, NotPaying e.1) ∧ d.pending = none := by
  cases h with
  | accepted =>
    exact ⟨List.forall_mem_cons.mpr ⟨.consume _ _, List.forall_mem_singleton.mpr .nowEpochSecs⟩, rfl⟩

omit [Platform] in
theorem PassCalls.notPaying (h : PassCalls token policy calls) : ∀ e ∈ calls, NotPaying e.1 := by
  cases h with
  | absent => exact List.forall_mem_nil _
  | rejected => exact List.forall_mem_singleton.mpr (.consume _ _)

theorem Terms.FreeCalls.notPaying {terms : Terms} {clientIp : Option IpAddr}
    (h : terms.FreeCalls clientIp calls d) :
    (∀ e ∈ calls, NotPaying e.1) ∧ d.pending = none := by
  cases h with
  | unaddressed => exact ⟨List.forall_mem_nil _, rfl⟩
  | admitted | exceeded => exact ⟨List.forall_mem_singleton.mpr (.check ..), rfl⟩

/-- **A decision does what its payment step does**, under a protocol that the session step and the
free tier leave where it was. -/
theorem Service.DecideCalls.keeps {Q : Type} {P : Protocol Op Op.Ret Q} (post : Q → Decision → Prop)
    {q : Q} {svc : Service} {headers : HeaderView} {clientIp : Option IpAddr} {terms : Terms}
    {settlePolicy : SettlePolicy}
    (hother : ∀ e : Event Op.Ret, NotPaying e.1 → P.may q e.1 ∧ P.next q e.1 e.2 = q)
    (hunpaid : ∀ d : Decision, d.pending = none → post q d)
    (hpaid : ∀ decoded calls d, svc.PaymentCalls terms policy settlePolicy decoded calls d →
      P.Accepts q calls ∧ post (P.after q calls) d)
    (h : svc.DecideCalls headers clientIp terms policy settlePolicy calls d) :
    P.Accepts q calls ∧ post (P.after q calls) d := by
  cases h with
  | session honored =>
    obtain ⟨hcalls, hpending⟩ := honored.notPaying
    obtain ⟨haccepts, hafter⟩ := P.accepts_of_next_eq fun e he => hother e (hcalls e he)
    rw [hafter]
    exact ⟨haccepts, hunpaid d hpending⟩
  | payment passed presented paid =>
    obtain ⟨haccepts, hafter⟩ := P.accepts_of_next_eq fun e he => hother e (passed.notPaying e he)
    rw [Protocol.accepts_append, Protocol.after_append, hafter]
    obtain ⟨hpaying, hpost⟩ := hpaid _ _ _ paid
    exact ⟨⟨haccepts, hpaying⟩, hpost⟩
  | free passed unpaid served =>
    obtain ⟨hcalls, hpending⟩ := served.notPaying
    obtain ⟨haccepts, hafter⟩ := P.accepts_of_next_eq fun e he => hother e (passed.notPaying e he)
    obtain ⟨hserved, hkept⟩ := P.accepts_of_next_eq fun e he => hother e (hcalls e he)
    rw [Protocol.accepts_append, Protocol.after_append, hafter, hkept]
    exact ⟨⟨haccepts, hserved⟩, hunpaid d hpending⟩

end NotPaying

/-! ## On which terms -/

/-- The operations that a request sold on these terms may call for its decision. -/
inductive CalledOn (terms : Terms) (policy : Option String) : Op → Prop
  | nowEpochSecs : CalledOn terms policy .nowEpochSecs
  | consume (token : String) : CalledOn terms policy (.consume token policy)
  | claimPayment (id : String) :
      CalledOn terms policy (.claimPayment id (replayTtl terms.requirements.maxTimeoutSeconds))
  | verify (payload : PaymentPayload) :
      CalledOn terms policy (.verify payload terms.requirements)
  | settle (payload : PaymentPayload) :
      CalledOn terms policy (.settle payload terms.requirements)
  | createSession (payer : String) :
      CalledOn terms policy (.createSession payer policy terms.resolved.paidTier.quota
        terms.resolved.paidTier.durationSecs)
  | check (ip : IpAddr) :
      CalledOn terms policy (.check terms.resolved.label ip terms.resolved.freeTier.maxRequests
        terms.resolved.freeTier.windowSecs)

/-- The payment a decision leaves pending is on these terms, and so is the challenge it refuses
with. -/
def Decision.KeepsTo (terms : Terms) : Decision → Prop
  | .allow _ _ _ _ pending _ => ∀ p, pending = some p → p.requirements = terms.requirements
  | .deny challenge _ _ => ∃ error, challenge = terms.challenge error

section CalledOn

variable {terms : Terms} {policy : Option String} {calls : List (Event Op.Ret)} {d : Decision}

theorem HonorCalls.calledOn {token : Option String} (h : HonorCalls token policy calls d) :
    ∀ e ∈ calls, CalledOn terms policy e.1 := by
  cases h with
  | accepted =>
    exact List.forall_mem_cons.mpr ⟨.consume _, List.forall_mem_singleton.mpr .nowEpochSecs⟩

omit [Platform] in
theorem PassCalls.calledOn {token : Option String} (h : PassCalls token policy calls) :
    ∀ e ∈ calls, CalledOn terms policy e.1 := by
  cases h with
  | absent => exact List.forall_mem_nil _
  | rejected => exact List.forall_mem_singleton.mpr (.consume _)

theorem ClaimCalls.calledOn {payload : PaymentPayload} {refused : Option FacilitatorError}
    (h : ClaimCalls payload terms.requirements calls refused) :
    ∀ e ∈ calls, CalledOn terms policy e.1 := by
  cases h with
  | unkeyed => exact List.forall_mem_nil _
  | fresh | backend => exact List.forall_mem_singleton.mpr (.claimPayment _)
  | replay =>
    exact List.forall_mem_cons.mpr ⟨.claimPayment _, List.forall_mem_singleton.mpr .nowEpochSecs⟩

omit [Platform] in
theorem MintCalls.calledOn {receipt : SettlementResponse} {token : Option String}
    (h : MintCalls receipt policy terms.resolved.paidTier calls token) :
    ∀ e ∈ calls, CalledOn terms policy e.1 := by
  cases h with
  | nobody => exact List.forall_mem_nil _
  | minted | failed => exact List.forall_mem_singleton.mpr (.createSession _)

theorem Service.PaymentCalls.calledOn {svc : Service} {settlePolicy : SettlePolicy}
    {decoded : Except HeaderDecodeError PaymentPayload}
    (h : svc.PaymentCalls terms policy settlePolicy decoded calls d) :
    (∀ e ∈ calls, CalledOn terms policy e.1) ∧ d.KeepsTo terms := by
  cases h with
  | malformed => exact ⟨List.forall_mem_nil _, _, rfl⟩
  | refused settlePolicy claimed => exact ⟨claimed.calledOn, _, rfl⟩
  | unverified claimed e =>
    exact ⟨List.forall_mem_append.mpr ⟨claimed.calledOn, List.forall_mem_singleton.mpr (.verify _)⟩,
      _, rfl⟩
  | verified claimed payer =>
    refine ⟨List.forall_mem_append.mpr ⟨claimed.calledOn,
      List.forall_mem_singleton.mpr (.verify _)⟩, ?_⟩
    rintro _ ⟨⟩
    rfl
  | unsettled claimed e =>
    exact ⟨List.forall_mem_append.mpr ⟨claimed.calledOn, List.forall_mem_singleton.mpr (.settle _)⟩,
      _, rfl⟩
  | settled claimed receipt minted =>
    exact ⟨List.forall_mem_append.mpr ⟨claimed.calledOn,
      List.forall_mem_cons.mpr ⟨.settle _, minted.calledOn⟩⟩, fun _ h => by cases h⟩

theorem Terms.FreeCalls.calledOn {clientIp : Option IpAddr} (h : terms.FreeCalls clientIp calls d)
    (policy : Option String) : (∀ e ∈ calls, CalledOn terms policy e.1) ∧ d.KeepsTo terms := by
  cases h with
  | unaddressed => exact ⟨List.forall_mem_nil _, _, rfl⟩
  | admitted => exact ⟨List.forall_mem_singleton.mpr (.check _), fun _ h => by cases h⟩
  | exceeded => exact ⟨List.forall_mem_singleton.mpr (.check _), _, rfl⟩

/-- **A decision is on its terms.** -/
theorem Service.DecideCalls.calledOn {svc : Service} {headers : HeaderView}
    {clientIp : Option IpAddr} {settlePolicy : SettlePolicy}
    (h : svc.DecideCalls headers clientIp terms policy settlePolicy calls d) :
    (∀ e ∈ calls, CalledOn terms policy e.1) ∧ d.KeepsTo terms := by
  cases h with
  | session honored =>
    refine ⟨honored.calledOn, ?_⟩
    cases honored
    exact fun _ h => by cases h
  | payment passed presented paid =>
    exact ⟨List.forall_mem_append.mpr ⟨passed.calledOn, paid.calledOn.1⟩, paid.calledOn.2⟩
  | free passed unpaid served =>
    exact ⟨List.forall_mem_append.mpr ⟨passed.calledOn, (served.calledOn policy).1⟩,
      (served.calledOn policy).2⟩

end CalledOn

end X402Verifier
