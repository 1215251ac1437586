import X402Verifier.Auth

/-!
# The facilitator HTTP interface

`facilitator_api.rs`: `POST /verify` and `POST /settle`. Both share the gateway's facilitator and
replay cache.
-/

namespace X402Verifier

open RustStd Interaction

structure FacilitatorRequest where
  x402Version : Nat
  paymentPayload : PaymentPayload
  paymentRequirements : PaymentRequirements

structure VerifyResponse where
  isValid : Bool
  invalidReason : Option String := none
  payer : Option String := none
  deriving DecidableEq

/-- A request whose envelope is wrong: the error code, and a detail. -/
structure BadRequest where
  code : String
  detail : String
  deriving DecidableEq

def checkVersion (request : FacilitatorRequest) : Except BadRequest Unit :=
  if request.x402Version ≠ x402Version then
    .error ⟨"invalid_x402_version",
      "request declares x402Version " ++ toString request.x402Version ++
        ", this facilitator speaks " ++ toString x402Version⟩
  else .ok ()

variable [Platform]

/-- `POST /verify`: validate an authorization without executing it, and without claiming it. -/
def apiVerify (request : FacilitatorRequest) :
    Handler (Except BadRequest VerifyResponse) :=
  match checkVersion request with
  | .error bad => pure (.error bad)
  | .ok () => do
    match ← call (.verify request.paymentPayload request.paymentRequirements) with
    | .ok (payer : String) => pure (.ok { isValid := true, payer := some payer })
    | .error e => pure (.ok { isValid := false, invalidReason := some (FacilitatorError.code e) })

/-- Claim the payment of a `/settle` request; a refusal is the error it answers with. -/
def claimRequested (request : FacilitatorRequest) : Handler (Option FacilitatorError) :=
  match paymentId request.paymentPayload with
  | none => pure none
  | some id => do
    match ← call (.claimPayment id (replayTtl request.paymentRequirements.maxTimeoutSeconds)) with
    | .fresh => pure none
    | .replay firstSeen => pure (some (.replay firstSeen))
    | .backend => pure (some .replayCacheUnavailable)

def releaseRequested (request : FacilitatorRequest) : Handler Unit :=
  match paymentId request.paymentPayload with
  | none => pure ()
  | some id => call (.releasePayment id)

def Service.apiSettle (svc : Service) (request : FacilitatorRequest) :
    Handler (Except BadRequest SettlementResponse) :=
  match checkVersion request with
  | .error bad => pure (.error bad)
  | .ok () => do
    match ← claimRequested request with
    | some error => pure (.ok (svc.facilitator.failureReceipt error.code))
    | none =>
      match ← call (.settle request.paymentPayload request.paymentRequirements) with
      | .ok (receipt : SettlementResponse) => pure (.ok receipt)
      | .error e =>
        releaseRequested request
        pure (.ok (svc.facilitator.failureReceipt (FacilitatorError.code e)))

end X402Verifier
