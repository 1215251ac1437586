import X402Verifier.RustStd.Result
import X402Verifier.Sui

/-!
# The facilitator

The second half of `x402.rs`: the checks every payment passes in both modes (`checkTerms`), and
verification and settlement on top of them. In stub mode nothing touches the chain; in `sui-grpc`
mode `SuiVerifier` does.
-/

namespace X402Verifier

open RustStd Interaction

/-- Verifies and settles payments. `sui` is present only in `sui-grpc` mode. -/
structure Facilitator where
  mode : VerificationMode
  network : String
  sui : Option SuiVerifier
  deriving DecidableEq

namespace Facilitator

/-- The facilitator `main` builds, once its connection is up. -/
def ofConfig (config : Config) : Facilitator :=
  { mode := config.verificationMode
    network := config.payment.network
    sui := match config.verificationMode with
      | .stubAcceptAll => none
      | .suiGrpc => some ⟨config.payment.network⟩ }

def failureReceipt (f : Facilitator) (code : String) : SettlementResponse :=
  { success := false
    errorReason := some code
    transaction := ""
    network := f.network }

def successReceipt (f : Facilitator) (payer transaction amount : String) : SettlementResponse :=
  { success := true
    payer := some payer
    transaction := transaction
    network := f.network
    amount := some amount }

/-- Checks shared by verify and settle: the client accepted exactly the terms that were
advertised, on this facilitator's network, and the payload is a well-formed Sui payload. -/
def checkTerms (f : Facilitator) (payload : PaymentPayload) (requirements : PaymentRequirements) :
    Except FacilitatorError SuiExactPayload :=
  if requirements.network ≠ f.network then
    .error (.networkMismatch requirements.network f.network)
  else if payload.x402Version ≠ x402Version then
    .error (.versionMismatch payload.x402Version x402Version)
  else if payload.accepted.scheme ≠ requirements.scheme then
    .error (.schemeMismatch payload.accepted.scheme requirements.scheme)
  else if payload.accepted.network ≠ requirements.network then
    .error (.networkMismatch payload.accepted.network requirements.network)
  else if payload.accepted.amount ≠ requirements.amount then
    .error (.amountMismatch payload.accepted.amount requirements.amount)
  else if payload.accepted.asset ≠ requirements.asset then
    .error (.assetMismatch payload.accepted.asset requirements.asset)
  else if payload.accepted.payTo ≠ requirements.payTo then
    .error (.recipientMismatch payload.accepted.payTo requirements.payTo)
  else
    match SuiExactPayload.fromValue payload.payload with
    | .error e => .error (.malformedPayload requirements.scheme e)
    | .ok sui =>
      if isBlank sui.transaction then .error .emptyTransaction
      else if isBlank sui.signature then .error .missingSignature
      else .ok sui

/-- Everything a payment passes before the mode matters. -/
structure TermsAgree (f : Facilitator) (payload : PaymentPayload)
    (requirements : PaymentRequirements) (sui : SuiExactPayload) : Prop where
  ownNetwork : requirements.network = f.network
  version : payload.x402Version = x402Version
  scheme : payload.accepted.scheme = requirements.scheme
  network : payload.accepted.network = requirements.network
  amount : payload.accepted.amount = requirements.amount
  asset : payload.accepted.asset = requirements.asset
  payTo : payload.accepted.payTo = requirements.payTo
  payload : SuiExactPayload.fromValue payload.payload = .ok sui
  transaction : isBlank sui.transaction = false
  signature : isBlank sui.signature = false

theorem checkTerms_eq_ok {f : Facilitator} {payload : PaymentPayload}
    {requirements : PaymentRequirements} {sui : SuiExactPayload} :
    f.checkTerms payload requirements = .ok sui ↔ f.TermsAgree payload requirements sui := by
  simp only [checkTerms, Except.check_eq_ok, ne_eq, not_not]
  cases hsui : SuiExactPayload.fromValue payload.payload with
  | error e =>
    constructor
    · rintro ⟨-, -, -, -, -, -, -, h⟩
      cases h
    · intro h
      cases hsui.symm.trans h.payload
  | ok presented =>
    simp only [Except.check_eq_ok, Except.ok.injEq, Bool.not_eq_true]
    constructor
    · rintro ⟨ownNetwork, version, scheme, network, amount, asset, payTo, transaction, signature,
        rfl⟩
      exact ⟨ownNetwork, version, scheme, network, amount, asset, payTo, hsui, transaction,
        signature⟩
    · intro h
      obtain rfl := Except.ok.inj (hsui.symm.trans h.payload)
      exact ⟨h.ownNetwork, h.version, h.scheme, h.network, h.amount, h.asset, h.payTo,
        h.transaction, h.signature, rfl⟩

variable [Platform]

/-- Validate a payment authorization without executing it. Returns the payer. -/
def verify (f : Facilitator) (payload : PaymentPayload) (requirements : PaymentRequirements) :
    Chain String := do
  let sui ← liftExcept (f.checkTerms payload requirements)
  match f.mode, f.sui with
  | .stubAcceptAll, _ => pure (stubPayer sui.transaction)
  | .suiGrpc, some _ => do
    let verified ← SuiVerifier.verify sui requirements
    pure verified.payer
  | .suiGrpc, none =>
    throw (.rpc "sui-grpc mode selected but no fullnode client was built")

/-- Execute a verified payment. Verification runs again before the broadcast. -/
def settle (f : Facilitator) (payload : PaymentPayload) (requirements : PaymentRequirements) :
    Chain SettlementResponse := do
  let sui ← liftExcept (f.checkTerms payload requirements)
  match f.mode, f.sui with
  | .stubAcceptAll, _ =>
    pure (f.successReceipt (stubPayer sui.transaction) "stub-not-settled-on-chain"
      requirements.amount)
  | .suiGrpc, some _ => do
    let verified ← SuiVerifier.verify sui requirements
    let digest ← SuiVerifier.settle sui
    pure (f.successReceipt verified.payer digest requirements.amount)
  | .suiGrpc, none =>
    throw (.rpc "sui-grpc mode selected but no fullnode client was built")

/-- Settlement verifies first, so the two are one call. -/
def verifyAndSettle (f : Facilitator) (payload : PaymentPayload)
    (requirements : PaymentRequirements) : Chain SettlementResponse :=
  f.settle payload requirements

end Facilitator

end X402Verifier
