import X402Verifier.DecisionCalls
import X402Verifier.ExtProc
import X402Verifier.FacilitatorApi

/-!
# What a response and a facilitator request call

The ways through the response phase of a stream (`Service.ResponseCalls`), `/verify` (`VerifyCalls`)
and `/settle` (`Service.ApiSettleCalls`), as `Service.DecideCalls` has them for a decision.
-/

namespace X402Verifier

open RustStd Interaction

variable [Platform]

/-! ## The ways through -/

/-- The release of a payment, if it has an id. -/
inductive ReleaseCalls (id : Option String) : List (Event Op.Ret) → Prop
  | unkeyed (unkeyed : id = none) : ReleaseCalls id []
  | released {id' : String} (keyed : id = some id') : ReleaseCalls id [⟨.releasePayment id', ()⟩]

/-- The settlement of a pending payment. -/
inductive Service.SettleCalls (svc : Service) (st : StreamState) (pending : PendingPayment)
    (settleMs : String) : List (Event Op.Ret) → ProcessingResponse → Prop
  | unpaid (e : FacilitatorError) :
      svc.SettleCalls st pending settleMs
        [⟨.settle pending.payload pending.requirements, .error e⟩,
          ⟨.breakerRecord (breakerPolicy st.policy) true, ()⟩]
        (st.unpaidReply (svc.facilitator.failureReceipt e.code) settleMs)
  | paid {mint : List (Event Op.Ret)} {token : Option String} (receipt : SettlementResponse)
      (minted : MintCalls receipt st.policy (svc.config.policyFor st.path st.policy).paidTier mint
        token) :
      svc.SettleCalls st pending settleMs
        (⟨.settle pending.payload pending.requirements, .ok receipt⟩ ::
          ⟨.breakerRecord (breakerPolicy st.policy) false, ()⟩ :: mint)
        (st.settledReply receipt token (svc.config.policyFor st.path st.policy).paidTier settleMs)

/-- The response phase. -/
inductive Service.ResponseCalls (svc : Service) (st : StreamState)
    (headers : Option (List HeaderValue)) (settleMs : String) :
    List (Event Op.Ret) → ProcessingResponse × StreamState → Prop
  | idle (idle : st.pending = none) :
      svc.ResponseCalls st headers settleMs [] (st.unsettledReply, st)
  | failed {pending : PendingPayment} {release : List (Event Op.Ret)}
      (holds : st.pending = some pending)
      (failed : isSuccess (((headerMap headers).get? ":status").getD "") = false)
      (released : ReleaseCalls pending.paymentId release) :
      svc.ResponseCalls st headers settleMs release
        (StreamState.unsettledReply { st with pending := none }, { st with pending := none })
  | delivered {pending : PendingPayment} {calls : List (Event Op.Ret)} {reply : ProcessingResponse}
      (holds : st.pending = some pending)
      (delivered : isSuccess (((headerMap headers).get? ":status").getD "") = true)
      (settled : svc.SettleCalls { st with pending := none } pending settleMs calls reply) :
      svc.ResponseCalls st headers settleMs calls (reply, { st with pending := none })

/-- `POST /verify`. -/
inductive VerifyCalls (request : FacilitatorRequest) :
    List (Event Op.Ret) → Except BadRequest VerifyResponse → Prop
  | malformed {bad : BadRequest} (malformed : checkVersion request = .error bad) :
      VerifyCalls request [] (.error bad)
  | accepted (payer : String) :
      VerifyCalls request [⟨.verify request.paymentPayload request.paymentRequirements, .ok payer⟩]
        (.ok { isValid := true, payer := some payer })
  | refused (e : FacilitatorError) :
      VerifyCalls request [⟨.verify request.paymentPayload request.paymentRequirements, .error e⟩]
        (.ok { isValid := false, invalidReason := some e.code })

/-- The claim of a `/settle` request, and why it is refused. -/
inductive RequestedCalls (request : FacilitatorRequest) :
    List (Event Op.Ret) → Option FacilitatorError → Prop
  | unkeyed (unkeyed : paymentId request.paymentPayload = none) : RequestedCalls request [] none
  | answered {id : String} (keyed : paymentId request.paymentPayload = some id)
      (claim : PaymentClaim) {refused : Option FacilitatorError}
      (fresh : refused = none ↔ claim = .fresh) :
      RequestedCalls request
        [⟨.claimPayment id (replayTtl request.paymentRequirements.maxTimeoutSeconds), claim⟩] refused

/-- `POST /settle`. -/
inductive Service.ApiSettleCalls (svc : Service) (request : FacilitatorRequest) :
    List (Event Op.Ret) → Except BadRequest SettlementResponse → Prop
  | malformed {bad : BadRequest} (malformed : checkVersion request = .error bad) :
      svc.ApiSettleCalls request [] (.error bad)
  | refused {claim : List (Event Op.Ret)} {e : FacilitatorError}
      (claimed : RequestedCalls request claim (some e)) :
      svc.ApiSettleCalls request claim (.ok (svc.facilitator.failureReceipt e.code))
  | settled {claim : List (Event Op.Ret)} (claimed : RequestedCalls request claim none)
      (receipt : SettlementResponse) :
      svc.ApiSettleCalls request
        (claim ++ [⟨.settle request.paymentPayload request.paymentRequirements, .ok receipt⟩])
        (.ok receipt)
  | unsettled {claim release : List (Event Op.Ret)} (claimed : RequestedCalls request claim none)
      (e : FacilitatorError) (released : ReleaseCalls (paymentId request.paymentPayload) release) :
      svc.ApiSettleCalls request
        (claim ++
          ⟨.settle request.paymentPayload request.paymentRequirements, .error e⟩ :: release)
        (.ok (svc.facilitator.failureReceipt e.code))

/-! ## One walk each -/

theorem calls_releasePending (pending : PendingPayment) :
    (releasePending pending).Yields fun calls _ => ReleaseCalls pending.paymentId calls := by
  unfold releasePending
  cases hid : pending.paymentId with
  | none => exact .pure (.unkeyed rfl)
  | some id => exact .perform fun _ => .pure (.released rfl)

theorem calls_settlePending (svc : Service) (st : StreamState) (pending : PendingPayment)
    (settleMs : String) :
    (svc.settlePending st pending settleMs).Yields (svc.SettleCalls st pending settleMs) := by
  refine .perform fun settled => ?_
  cases settled with
  | error e => exact .perform fun _ => .pure (.unpaid e)
  | ok receipt =>
    refine .perform fun _ => (calls_mintSession receipt st.policy _).bind fun mint token hmint =>
      .pure ?_
    rw [List.append_nil]
    exact .paid receipt hmint

theorem calls_handleResponseHeaders (svc : Service) (st : StreamState)
    (headers : Option (List HeaderValue)) (settleMs : String) :
    (svc.handleResponseHeaders st headers settleMs).Yields
      (svc.ResponseCalls st headers settleMs) := by
  unfold Service.handleResponseHeaders
  cases hp : st.pending with
  | none => exact .pure (.idle hp)
  | some pending =>
    dsimp only
    split_ifs with hdelivered
    · refine (calls_settlePending svc _ pending settleMs).bind fun calls reply hsettled => .pure ?_
      rw [List.append_nil]
      exact .delivered hp hdelivered hsettled
    · refine (calls_releasePending pending).bind fun release _ hrelease => .pure ?_
      rw [List.append_nil]
      exact .failed hp (Bool.eq_false_iff.mpr hdelivered) hrelease

omit [Platform] in
theorem calls_apiVerify (request : FacilitatorRequest) :
    (apiVerify request).Yields (VerifyCalls request) := by
  unfold apiVerify
  cases hversion : checkVersion request with
  | error bad => exact .pure (.malformed hversion)
  | ok _ =>
    refine .perform fun verified => ?_
    cases verified with
    | ok payer => exact .pure (.accepted payer)
    | error e => exact .pure (.refused e)

theorem calls_claimRequested (request : FacilitatorRequest) :
    (claimRequested request).Yields (RequestedCalls request) := by
  unfold claimRequested
  cases hid : paymentId request.paymentPayload with
  | none => exact .pure (.unkeyed hid)
  | some id =>
    refine .perform fun claim => ?_
    cases claim <;> exact .pure (.answered hid _ (by simp))

theorem calls_releaseRequested (request : FacilitatorRequest) :
    (releaseRequested request).Yields fun calls _ =>
      ReleaseCalls (paymentId request.paymentPayload) calls := by
  unfold releaseRequested
  cases hid : paymentId request.paymentPayload with
  | none => exact .pure (.unkeyed rfl)
  | some id => exact .perform fun _ => .pure (.released rfl)

theorem calls_apiSettle (svc : Service) (request : FacilitatorRequest) :
    (svc.apiSettle request).Yields (svc.ApiSettleCalls request) := by
  unfold Service.apiSettle
  cases hversion : checkVersion request with
  | error bad => exact .pure (.malformed hversion)
  | ok _ =>
    refine (calls_claimRequested request).bind fun claim refused hclaim => ?_
    cases refused with
    | some e =>
      refine .pure ?_
      rw [List.append_nil]
      exact .refused hclaim
    | none =>
      refine .perform fun settled => ?_
      cases settled with
      | ok receipt => exact .pure (.settled hclaim receipt)
      | error e =>
        refine (calls_releaseRequested request).bind fun release _ hrelease => .pure ?_
        rw [List.append_nil]
        exact .unsettled hclaim e hrelease

end X402Verifier
