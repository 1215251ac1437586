import X402Verifier.MessageCalls
import X402Verifier.System

/-!
# How one actor treats a payment's claim

Fix a payment id. Three kinds of request take its claim and treat it differently when they fail: a
stream releases it when the upstream fails, `/settle` when settlement does, and ext_authz never.

What they have in common is that whoever has the claim settles the payment or releases it. A protocol
with these rules (`ClaimRules`) is followed by the handlers, whatever the operations answer.

One such protocol is `claimProtocol`: an actor settles or releases the payment only while it *holds*
the claim, which is from a fresh answer until it releases or settles, and it mints a session only for
a settlement that has just returned a receipt (`follows_handle`).
-/

namespace X402Verifier

open RustStd Interaction

variable [Platform] {id : String}

/-! ## Working under a claim -/

/-- The operations that are not about a payment's claim. -/
def Op.sparesClaims : Op → Bool
  | .claimPayment .. | .releasePayment _ | .settle .. | .createSession .. => false
  | _ => true

omit [Platform] in
theorem NotPaying.sparesClaims {op : Op} (h : NotPaying op) : op.sparesClaims = true := by
  cases h <;> rfl

/-- A protocol under which whoever has the claim of a payment may settle or release it. -/
structure ClaimRules {Q : Type} (id : String) (P : Protocol Op Op.Ret Q) (has : Q → Prop) :
    Prop where
  spares : ∀ q (e : Event Op.Ret), e.1.sparesClaims = true → P.may q e.1 ∧ P.next q e.1 e.2 = q
  claims : ∀ q id' ttlSecs (claim : PaymentClaim),
    P.may q (.claimPayment id' ttlSecs) ∧
      (has q → has (P.next q (.claimPayment id' ttlSecs) claim)) ∧
      (claim = .fresh → id' = id → has (P.next q (.claimPayment id' ttlSecs) claim))
  settles : ∀ q payload requirements, (paymentId payload = some id → has q) →
    P.may q (.settle payload requirements)
  /-- A receipt may be followed by its session. -/
  mints : ∀ q payload requirements (receipt : SettlementResponse) payer policy quota ttlSecs,
    P.may (P.next q (.settle payload requirements) (.ok receipt))
      (.createSession payer policy quota ttlSecs)
  releases : ∀ q id', (id' = id → has q) → P.may q (.releasePayment id')

section Rules

variable {Q : Type} {P : Protocol Op Op.Ret Q} {has : Q → Prop}

/-- The claim of a pending payment is had. -/
def PendingHas (id : String) (has : Q → Prop) (pending : Option PendingPayment) (q : Q) : Prop :=
  ∀ p, pending = some p → p.paymentId = some id → has q

/-- What a decision means for the claim: nothing is given up, and of a payment left pending it is
had. -/
def KeepsClaim (id : String) (has : Q → Prop) (q q' : Q) (d : Decision) : Prop :=
  (has q → has q') ∧ PendingHas id has d.pending q'

theorem keepsClaim_of_pending_eq_none {q : Q} {d : Decision} (h : d.pending = none) :
    KeepsClaim id has q q d :=
  ⟨fun hq => hq, by simp [PendingHas, h]⟩

namespace ClaimRules

variable (rules : ClaimRules id P has) {calls : List (Event Op.Ret)} {policy : Option String}

include rules

theorem claimCalls {payload : PaymentPayload} {requirements : PaymentRequirements}
    {refused : Option FacilitatorError} (h : ClaimCalls payload requirements calls refused) (q : Q) :
    let q' := P.after q calls
    P.Accepts q calls ∧ (has q → has q') ∧
      (refused = none → paymentId payload = some id → has q') := by
  cases h with
  | unkeyed unkeyed => exact ⟨trivial, fun hq => hq, fun _ hid => by cases unkeyed.symm.trans hid⟩
  | @fresh id' keyed =>
    obtain ⟨hmay, hkept, hhas⟩ := rules.claims q id' (replayTtl requirements.maxTimeoutSeconds) .fresh
    exact ⟨⟨hmay, trivial⟩, hkept, fun _ hid => hhas rfl (Option.some.inj (keyed.symm.trans hid))⟩
  | @replay id' keyed firstSeen now =>
    obtain ⟨hmay, hkept, -⟩ :=
      rules.claims q id' (replayTtl requirements.maxTimeoutSeconds) (.replay firstSeen)
    obtain ⟨hnow, hnext⟩ := rules.spares
      (P.next q (.claimPayment id' (replayTtl requirements.maxTimeoutSeconds))
        (PaymentClaim.replay firstSeen)) ⟨.nowEpochSecs, now⟩ rfl
    rw [Protocol.after_cons, Protocol.after_cons, Protocol.after_nil, hnext]
    exact ⟨⟨hmay, hnow, trivial⟩, hkept, by simp⟩
  | @backend id' keyed =>
    obtain ⟨hmay, hkept, -⟩ :=
      rules.claims q id' (replayTtl requirements.maxTimeoutSeconds) .backend
    exact ⟨⟨hmay, trivial⟩, hkept, by simp⟩

theorem mintCalls {receipt : SettlementResponse} {tier : PaidTierConfig} {token : Option String}
    (h : MintCalls receipt policy tier calls token) (q : Q) (payload : PaymentPayload)
    (requirements : PaymentRequirements) :
    P.Accepts (P.next q (.settle payload requirements) (.ok receipt)) calls := by
  cases h with
  | nobody => trivial
  | minted | failed => exact ⟨rules.mints _ _ _ _ _ _ _ _, trivial⟩

/-- A payment whose verification is left to settle later. -/
theorem deferredCalls {svc : Service} {terms : Terms}
    {decoded : Except HeaderDecodeError PaymentPayload} {d : Decision}
    (h : svc.PaymentCalls terms policy .deferred decoded calls d) (q : Q) :
    P.Accepts q calls ∧ KeepsClaim id has q (P.after q calls) d := by
  cases h with
  | malformed => exact ⟨trivial, keepsClaim_of_pending_eq_none rfl⟩
  | refused _ claimed =>
    obtain ⟨haccepts, hkept, -⟩ := rules.claimCalls claimed q
    exact ⟨haccepts, hkept, by simp [PendingHas, Service.rejectPayment, Service.refusePayment,
      Decision.pending]⟩
  | @unverified payload claim claimed e =>
    obtain ⟨haccepts, hkept, -⟩ := rules.claimCalls claimed q
    obtain ⟨hverify, hnext⟩ := rules.spares (P.after q claim)
      ⟨.verify payload terms.requirements, .error e⟩ rfl
    rw [Protocol.accepts_append, Protocol.after_append, Protocol.after_cons, hnext]
    exact ⟨⟨haccepts, hverify, trivial⟩, hkept, by simp [PendingHas, Service.rejectPayment,
      Service.refusePayment, Decision.pending]⟩
  | @verified payload claim claimed payer =>
    obtain ⟨haccepts, hkept, hhas⟩ := rules.claimCalls claimed q
    obtain ⟨hverify, hnext⟩ := rules.spares (P.after q claim)
      ⟨.verify payload terms.requirements, .ok payer⟩ rfl
    rw [Protocol.accepts_append, Protocol.after_append, Protocol.after_cons, hnext]
    refine ⟨⟨haccepts, hverify, trivial⟩, hkept, ?_⟩
    rintro _ ⟨rfl⟩ hid
    exact hhas rfl hid

/-- A payment is settled at once only when its claim has been taken. -/
theorem immediateCalls {svc : Service} {terms : Terms}
    {decoded : Except HeaderDecodeError PaymentPayload} {d : Decision}
    (h : svc.PaymentCalls terms policy .immediate decoded calls d) (q : Q) : P.Accepts q calls := by
  cases h with
  | malformed => trivial
  | refused _ claimed => exact (rules.claimCalls claimed q).1
  | unsettled claimed e =>
    obtain ⟨haccepts, -, hhas⟩ := rules.claimCalls claimed q
    exact Protocol.accepts_append.mpr ⟨haccepts, rules.settles _ _ _ (hhas rfl), trivial⟩
  | settled claimed receipt minted =>
    obtain ⟨haccepts, -, hhas⟩ := rules.claimCalls claimed q
    exact Protocol.accepts_append.mpr
      ⟨haccepts, rules.settles _ _ _ (hhas rfl), rules.mintCalls minted _ _ _⟩

theorem follows_decide_deferred (svc : Service) (headers : HeaderView) (clientIp : Option IpAddr)
    (path : String) (policy : Option String) (resourceUrl : String) (q : Q) :
    (svc.decide headers clientIp path policy resourceUrl .deferred).Follows P
      (KeepsClaim id has q) q :=
  (calls_decide svc headers clientIp path policy resourceUrl .deferred).follows
    fun _ _ h => h.keeps (KeepsClaim id has q) (fun e he => rules.spares q e he.sparesClaims)
      (fun _ hd => keepsClaim_of_pending_eq_none hd) fun _ _ _ paid => rules.deferredCalls paid q

theorem follows_check (svc : Service) (request : CheckRequest) (q : Q) :
    (svc.check request).Follows P (fun _ _ => True) q := by
  have hdecide : ∀ headers clientIp path policy resourceUrl,
      (svc.decide headers clientIp path policy resourceUrl .immediate).Follows P
        (fun _ _ => True) q := fun headers clientIp path policy resourceUrl =>
    (calls_decide svc headers clientIp path policy resourceUrl .immediate).follows
      fun _ _ h => h.keeps (fun _ _ => True) (fun e he => rules.spares q e he.sparesClaims)
        (fun _ _ => trivial) fun _ _ _ paid => ⟨rules.immediateCalls paid q, trivial⟩
  exact (hdecide _ _ _ _ _).bind fun _ _ _ => trivial

theorem follows_handleRequestHeaders (svc : Service) (st : StreamState)
    (headers : Option (List HeaderValue)) (clientIp : Option IpAddr) (policy : Option String)
    (decideMs : String) {q : Q} (h : PendingHas id has st.pending q) :
    (svc.handleRequestHeaders st headers clientIp policy decideMs).Follows P
      (fun q' reply => PendingHas id has reply.2.pending q') q := by
  rw [handleRequestHeaders_eq]
  refine ⟨(rules.spares q ⟨.breakerState _, .closed⟩ rfl).1, fun breaker _ => ?_⟩
  rw [(rules.spares q ⟨.breakerState (breakerPolicy policy), breaker⟩ rfl).2]
  dsimp only
  split
  · exact h
  · refine (rules.follows_decide_deferred svc _ clientIp _ policy _ q).bind fun q' d hd => ?_
    cases d with
    | allow tier payer token settlement pending meter => exact hd.2
    | deny challenge receipt meter => exact fun p hp hid => hd.1 (h p hp hid)

theorem releaseCalls {id? : Option String} (h : ReleaseCalls id? calls) {q : Q}
    (hhas : id? = some id → has q) : P.Accepts q calls := by
  cases h with
  | unkeyed => trivial
  | released keyed => exact ⟨rules.releases _ _ fun hid => hhas (by rw [keyed, hid]), trivial⟩

theorem settleCalls {svc : Service} {st : StreamState} {pending : PendingPayment}
    {settleMs : String} {reply : ProcessingResponse}
    (h : svc.SettleCalls st pending settleMs calls reply) {q : Q}
    (hhas : pending.paymentId = some id → has q) : P.Accepts q calls := by
  have hsettle := rules.settles q pending.payload pending.requirements
    fun hid => hhas (pending.keyed.trans hid)
  cases h with
  | unpaid e =>
    exact ⟨hsettle, (rules.spares _ ⟨.breakerRecord (breakerPolicy st.policy) true, ()⟩ rfl).1, trivial⟩
  | paid receipt minted =>
    obtain ⟨hrecord, hnext⟩ := rules.spares
      (P.next q (.settle pending.payload pending.requirements) (.ok receipt))
      ⟨.breakerRecord (breakerPolicy st.policy) false, ()⟩ rfl
    rw [Protocol.accepts_cons, Protocol.accepts_cons, hnext]
    exact ⟨hsettle, hrecord, rules.mintCalls minted _ _ _⟩

theorem follows_handleResponseHeaders (svc : Service) (st : StreamState)
    (headers : Option (List HeaderValue)) (settleMs : String) {q : Q}
    (h : PendingHas id has st.pending q) :
    (svc.handleResponseHeaders st headers settleMs).Follows P
      (fun q' reply => PendingHas id has reply.2.pending q') q := by
  refine (calls_handleResponseHeaders svc st headers settleMs).follows fun calls out hcalls => ?_
  cases hcalls with
  | idle => exact ⟨trivial, h⟩
  | failed holds failed released =>
    exact ⟨rules.releaseCalls released (h _ holds), by simp [PendingHas]⟩
  | delivered holds delivered settled =>
    exact ⟨rules.settleCalls settled (h _ holds), by simp [PendingHas]⟩

/-- **One message of a stream.** -/
theorem follows_process (svc : Service) (st : StreamState) (message : ProcessingRequest)
    (elapsedMs : String) {q : Q} (h : PendingHas id has st.pending q) :
    (svc.process st message elapsedMs).Follows P
      (fun q' reply => PendingHas id has reply.2.pending q') q := by
  unfold Service.process
  cases message.phase with
  | requestHeaders headers => exact rules.follows_handleRequestHeaders svc st headers _ _ elapsedMs h
  | responseHeaders headers => exact rules.follows_handleResponseHeaders svc st headers elapsedMs h
  | other => exact h

theorem follows_apiVerify (request : FacilitatorRequest) (q : Q) :
    (apiVerify request).Follows P (fun _ _ => True) q := by
  refine (calls_apiVerify request).follows fun calls out h => ⟨?_, trivial⟩
  cases h with
  | malformed => trivial
  | accepted payer => exact ⟨(rules.spares q ⟨.verify _ _, .ok payer⟩ rfl).1, trivial⟩
  | refused e => exact ⟨(rules.spares q ⟨.verify _ _, .error e⟩ rfl).1, trivial⟩

theorem requestedCalls {request : FacilitatorRequest} {refused : Option FacilitatorError}
    (h : RequestedCalls request calls refused) (q : Q) :
    P.Accepts q calls ∧
      (refused = none → paymentId request.paymentPayload = some id → has (P.after q calls)) := by
  cases h with
  | unkeyed unkeyed => exact ⟨trivial, fun _ hid => by cases unkeyed.symm.trans hid⟩
  | @answered id' keyed claim refused fresh =>
    obtain ⟨hmay, -, hhas⟩ :=
      rules.claims q id' (replayTtl request.paymentRequirements.maxTimeoutSeconds) claim
    exact ⟨⟨hmay, trivial⟩, fun hnone hid =>
      hhas (fresh.mp hnone) (Option.some.inj (keyed.symm.trans hid))⟩

/-- A `/settle` request also releases the payment after a settlement that failed. -/
theorem follows_apiSettle (svc : Service) (request : FacilitatorRequest) (q : Q)
    (hretracts : ∀ q payload requirements (e : FacilitatorError) id',
      paymentId payload = some id' → (id' = id → has q) →
        P.may (P.next q (.settle payload requirements) (.error e)) (.releasePayment id')) :
    (svc.apiSettle request).Follows P (fun _ _ => True) q := by
  refine (calls_apiSettle svc request).follows fun calls out h => ⟨?_, trivial⟩
  cases h with
  | malformed => trivial
  | refused claimed => exact (rules.requestedCalls claimed q).1
  | settled claimed receipt =>
    obtain ⟨haccepts, hhas⟩ := rules.requestedCalls claimed q
    exact Protocol.accepts_append.mpr ⟨haccepts, rules.settles _ _ _ (hhas rfl), trivial⟩
  | unsettled claimed e released =>
    obtain ⟨haccepts, hhas⟩ := rules.requestedCalls claimed q
    refine Protocol.accepts_append.mpr ⟨haccepts, rules.settles _ _ _ (hhas rfl), ?_⟩
    cases released with
    | unkeyed => trivial
    | released keyed =>
      exact ⟨hretracts _ _ _ e _ keyed fun hid => hhas rfl (by rw [keyed, hid]), trivial⟩

end ClaimRules

end Rules

/-! ## The protocol of one actor -/

/-- What an actor may do with the payment: whether it holds the claim, and the payment of its last
settlement while that has not been given a session. -/
structure Standing where
  holds : Bool := false
  unminted : Option (Option String) := none

def claimProtocol (id : String) : Protocol Op Op.Ret Standing where
  may q
    | .settle payload _ => paymentId payload = some id → q.holds = true
    | .releasePayment id' => id' = id → q.holds = true
    | .createSession .. => q.unminted ≠ none
    | _ => True
  assumes _ _ _ := True
  next q
    | .claimPayment id' _, .fresh => if id' = id then { q with holds := true } else q
    | .releasePayment id', _ => if id' = id then { q with holds := false } else q
    | .settle payload _, .ok _ =>
      { holds := if paymentId payload = some id then false else q.holds
        unminted := some (paymentId payload) }
    | .settle _ _, .error _ => { q with unminted := none }
    | .createSession .., _ => { q with unminted := none }
    | _, _ => q

/-- An idle stream with a pending payment holds its claim. -/
def HoldsPending (id : String) (q : Standing) : Local → Prop
  | .stream st => ∀ p, st.pending = some p → p.paymentId = some id → q.holds = true
  | _ => True

theorem claimRules (id : String) : ClaimRules id (claimProtocol id) (·.holds = true) where
  spares := by
    rintro q ⟨op, r⟩ h
    cases op <;> first | exact ⟨trivial, rfl⟩ | cases h
  claims := by
    intro q id' ttlSecs claim
    refine ⟨trivial, ?_⟩
    cases claim with
    | fresh => by_cases hid : id' = id <;> simp [claimProtocol, hid]
    | replay firstSeen => exact ⟨fun hq => hq, by simp⟩
    | backend => exact ⟨fun hq => hq, by simp⟩
  settles := fun q payload requirements h => h
  mints := by simp [claimProtocol]
  releases := fun q id' h => h

/-! ## The handlers -/

theorem follows_onStream (svc : Service) (st : StreamState) (message : ProcessingRequest)
    (elapsedMs : String) (q : Standing) (h : HoldsPending id q (.stream st)) :
    (svc.onStream st message elapsedMs).Follows (claimProtocol id) (HoldsPending id) q :=
  ((claimRules id).follows_process svc st message elapsedMs h).bind fun _ ⟨_, _⟩ hreply => hreply

/-- **Every handler follows the protocol.** -/
theorem follows_handle (svc : Service) (l : Local) (msg : Message) (q : Standing)
    (h : HoldsPending id q l) :
    (svc.handle l msg).Follows (claimProtocol id) (HoldsPending id) q := by
  cases l with
  | fresh =>
    cases msg with
    | processing message elapsedMs =>
      exact follows_onStream svc {} message elapsedMs q (by simp [HoldsPending])
    | hangUp => trivial
    | check request => exact ((claimRules id).follows_check svc request q).bind fun _ _ _ => trivial
    | postVerify request => exact ((claimRules id).follows_apiVerify request q).bind fun _ _ _ => trivial
    | postSettle request =>
      -- The claim is still held: the settlement that was refused did not use it up.
      exact ((claimRules id).follows_apiSettle svc request q fun _ _ _ _ _ _ hheld => hheld).bind
        fun _ _ _ => trivial
    | tick => exact ⟨trivial, fun _ _ => ⟨trivial, fun _ _ => trivial⟩⟩
  | stream st =>
    cases msg with
    | processing message elapsedMs => exact follows_onStream svc st message elapsedMs q h
    | hangUp => trivial
    | _ => exact h
  | finished => cases msg <;> trivial

end X402Verifier
