import X402Verifier.Config

/-!
# Wire types and payment identity

The first half of `x402.rs`: the x402 v2 objects with their JSON form, the header codec, the
session extension, the reasons a payment is refused (`FacilitatorError`, with its code and its
text), and the two values derived from the transaction bytes, `paymentId` and `stubPayer`.

`serde` writes an absent `Option` field by leaving it out; `Json.fields` does the same.
-/

namespace X402Verifier

open RustStd

/-- Protocol version this service speaks. -/
def x402Version : Nat := 2

def headerPaymentSignature : String := "payment-signature"

def headerPaymentSession : String := "x-payment-session"

def headerPaymentRequired : String := "PAYMENT-REQUIRED"

def headerPaymentResponse : String := "PAYMENT-RESPONSE"

/-! ## Objects -/

structure ResourceInfo where
  url : String
  description : Option String := none
  mimeType : Option String := none
  serviceName : Option String := none
  tags : Option (List String) := none
  iconUrl : Option String := none

structure PaymentRequirements where
  scheme : String
  network : String
  amount : String
  asset : String
  payTo : String
  maxTimeoutSeconds : Nat
  extra : Option Json := none

/-- Body of a `402 Payment Required` challenge. -/
structure PaymentRequired where
  x402Version : Nat
  error : Option String
  resource : ResourceInfo
  accepts : List PaymentRequirements
  extensions : Option Json := none

/-- Sui-specific body of an `exact`-scheme payment. -/
structure SuiExactPayload where
  signature : String
  transaction : String
  deriving DecidableEq

structure PaymentPayload where
  x402Version : Nat
  resource : Option ResourceInfo := none
  accepted : PaymentRequirements
  payload : Json
  extensions : Option Json := none

structure SettlementResponse where
  success : Bool
  errorReason : Option String := none
  payer : Option String := none
  transaction : String
  network : String
  amount : Option String := none
  extensions : Option Json := none

def PaymentRequirements.fromConfig (payment : PaymentConfig) : PaymentRequirements :=
  { scheme := payment.scheme
    network := payment.network
    amount := payment.amount
    asset := payment.asset
    payTo := payment.payTo
    maxTimeoutSeconds := payment.maxTimeoutSeconds
    extra := payment.gasStation.map fun url => .obj [("gasStation", .str url)] }

def PaymentRequired.new (error : String) (resource : ResourceInfo)
    (accepts : List PaymentRequirements) : PaymentRequired :=
  { x402Version := X402Verifier.x402Version
    error := some error
    resource := resource
    accepts := accepts }

/-! ## JSON form -/

/-- An object from the fields that are present. -/
def Json.fields (fs : List (Option (String × Json))) : Json := .obj (fs.filterMap id)

/-- A field that is always written. -/
def Json.always (name : String) (v : Json) : Option (String × Json) := some (name, v)

/-- A field left out when absent. -/
def Json.ifSome {α : Type} (name : String) (o : Option α) (f : α → Json) :
    Option (String × Json) := o.map fun a => (name, f a)

open Json in
def ResourceInfo.toJson (r : ResourceInfo) : Json :=
  fields [always "url" (.str r.url), ifSome "description" r.description .str,
    ifSome "mimeType" r.mimeType .str, ifSome "serviceName" r.serviceName .str,
    ifSome "tags" r.tags fun tags => .arr (tags.map .str), ifSome "iconUrl" r.iconUrl .str]

open Json in
def PaymentRequirements.toJson (r : PaymentRequirements) : Json :=
  fields [always "scheme" (.str r.scheme), always "network" (.str r.network),
    always "amount" (.str r.amount), always "asset" (.str r.asset), always "payTo" (.str r.payTo),
    always "maxTimeoutSeconds" (.nat r.maxTimeoutSeconds), ifSome "extra" r.extra id]

open Json in
def PaymentRequired.toJson (r : PaymentRequired) : Json :=
  fields [always "x402Version" (.nat r.x402Version), ifSome "error" r.error .str,
    always "resource" r.resource.toJson, always "accepts" (.arr (r.accepts.map (·.toJson))),
    ifSome "extensions" r.extensions id]

open Json in
def SettlementResponse.toJson (r : SettlementResponse) : Json :=
  fields [always "success" (.bool r.success), ifSome "errorReason" r.errorReason .str,
    ifSome "payer" r.payer .str, always "transaction" (.str r.transaction),
    always "network" (.str r.network), ifSome "amount" r.amount .str,
    ifSome "extensions" r.extensions id]

open Json in
def ResourceInfo.fromJson (j : Json) : Except String ResourceInfo :=
  let t : Struct := ⟨"ResourceInfo", 6⟩
  j.closed t trailing do
    .ok { url := ← j.required t 0 "url" readString
          description := ← j.optional t 1 "description" readString
          mimeType := ← j.optional t 2 "mimeType" readString
          serviceName := ← j.optional t 3 "serviceName" readString
          tags := ← j.optional t 4 "tags" readStrings
          iconUrl := ← j.optional t 5 "iconUrl" readString }

open Json in
def PaymentRequirements.fromJson (j : Json) : Except String PaymentRequirements :=
  let t : Struct := ⟨"PaymentRequirements", 7⟩
  j.closed t trailing do
    .ok { scheme := ← j.required t 0 "scheme" readString
          network := ← j.required t 1 "network" readString
          amount := ← j.required t 2 "amount" readString
          asset := ← j.required t 3 "asset" readString
          payTo := ← j.required t 4 "payTo" readString
          maxTimeoutSeconds := ← j.required t 5 "maxTimeoutSeconds" (readUnsigned "u64" u64Bound)
          extra := ← j.optional t 6 "extra" readValue }

open Json in
def PaymentPayload.fromJson (j : Json) : Except String PaymentPayload :=
  let t : Struct := ⟨"PaymentPayload", 5⟩
  j.closed t trailing do
    .ok { x402Version := ← j.required t 0 "x402Version" (readUnsigned "u32" u32Bound)
          resource := ← j.optional t 1 "resource" ResourceInfo.fromJson
          accepted := ← j.required t 2 "accepted" PaymentRequirements.fromJson
          payload := ← j.required t 3 "payload" readValue
          extensions := ← j.optional t 4 "extensions" readValue }

/-- `serde_json::from_value::<SuiExactPayload>`. -/
def SuiExactPayload.fromValue (j : Json) : Except String SuiExactPayload :=
  let t : Json.Struct := ⟨"SuiExactPayload", 2⟩
  j.closed t Json.fewerElements do
    .ok { signature := ← j.required t 0 "signature" Json.readString
          transaction := ← j.required t 1 "transaction" Json.readString }

/-! ## Session extension -/

def sessionExtension : String := "sui-x402-verifier.session.v1"

/-- Advertise the session extension in a challenge. -/
def sessionExtensionAdvertisement (quota durationSecs : Nat) (header : String) : Json :=
  .obj [(sessionExtension, .obj [
    ("info", .obj [
      ("description", .str ("A settled payment mints a reusable session token" ++
        "                                 covering many requests, returned in the" ++
        "                                 PAYMENT-RESPONSE extensions and presented on" ++
        "                                 subsequent requests.")),
      ("durationSeconds", .nat durationSecs),
      ("header", .str header),
      ("quota", .nat quota)]),
    ("schema", .obj [
      ("$schema", .str "https://json-schema.org/draft/2020-12/schema"),
      ("properties", .obj [
        ("durationSeconds", .obj [("minimum", .nat 0), ("type", .str "integer")]),
        ("quota", .obj [("minimum", .nat 0), ("type", .str "integer")]),
        ("token", .obj [
          ("description", .str ("Opaque session token. Present it on later" ++
            "                                         requests to reuse the paid tier.")),
          ("type", .str "string")])]),
      ("required", .arr [.str "token"]),
      ("type", .str "object")])])]

/-- Carry a freshly minted session token back in a receipt. -/
def sessionExtensionGrant (token : String) (quota durationSecs : Nat) : Json :=
  .obj [(sessionExtension, .obj [
    ("info", .obj [("durationSeconds", .nat durationSecs), ("quota", .nat quota),
      ("token", .str token)])])]

/-- Pull a session token out of a client's echoed `extensions`. -/
def sessionTokenFromExtensions (extensions : Option Json) : Option String := do
  let ext ← (← extensions).get? sessionExtension
  let token ← (← ext.get? "info").get? "token"
  token.asStr?

/-! ## Refusals -/

/-- Reasons a payment can be refused. -/
inductive FacilitatorError where
  | versionMismatch (got expected : Nat)
  | schemeMismatch (got expected : String)
  | networkMismatch (got expected : String)
  | chainMismatch (reported configured : String)
  | amountMismatch (got expected : String)
  | assetMismatch (got expected : String)
  | recipientMismatch (got expected : String)
  | malformedPayload (scheme detail : String)
  | emptyTransaction
  | missingSignature
  | replay (firstSeen : Nat)
  | replayCacheUnavailable
  | rpc (detail : String)
  | invalidSignature (detail : String)
  | simulationFailed (detail : String)
  | staleInput (objectId : String) (pinned : Nat) (current : Option Nat)
  | settlementFailed (detail : String)
  | invalidRequirements (detail : String)
  | amountNotCredited (expected credited payTo asset : String)
  | authorizationExpired (firstSeen window : Nat)
  deriving DecidableEq

def FacilitatorError.code : FacilitatorError → String
  | .versionMismatch .. => "invalid_x402_version"
  | .schemeMismatch .. => "invalid_scheme"
  | .networkMismatch .. => "invalid_network"
  | .chainMismatch .. => "invalid_network"
  | .amountMismatch .. | .assetMismatch .. | .recipientMismatch .. =>
    "invalid_payment_requirements"
  | .malformedPayload .. | .emptyTransaction | .missingSignature => "invalid_payload"
  | .replay .. => "invalid_transaction_state"
  | .replayCacheUnavailable | .rpc .. => "unexpected_verify_error"
  | .invalidSignature .. => "invalid_payload"
  | .simulationFailed .. | .staleInput .. => "invalid_transaction_state"
  | .settlementFailed .. => "unexpected_settle_error"
  | .invalidRequirements .. | .amountNotCredited .. => "invalid_payment_requirements"
  | .authorizationExpired .. => "invalid_transaction_state"

/-- `{:?}` of an `Option<u64>`. -/
def debugOptNat : Option Nat → String
  | none => "None"
  | some n => "Some(" ++ toString n ++ ")"

open Platform in
def FacilitatorError.display [Platform] : FacilitatorError → String
  | .versionMismatch got expected =>
    "unsupported x402 version " ++ toString got ++ ", expected " ++ toString expected
  | .schemeMismatch got expected =>
    "scheme mismatch: payment is " ++ debugStr got ++ ", resource requires " ++ debugStr expected
  | .networkMismatch got expected =>
    "network mismatch: payment is " ++ debugStr got ++ ", resource requires " ++ debugStr expected
  | .chainMismatch reported configured =>
    "the fullnode reports it is serving " ++ debugStr reported ++ ", but sui_chain says " ++
      debugStr configured
  | .amountMismatch got expected =>
    "amount mismatch: payment offers " ++ debugStr got ++ ", resource costs " ++ debugStr expected
  | .assetMismatch got expected =>
    "asset mismatch: payment is in " ++ debugStr got ++ ", resource requires " ++ debugStr expected
  | .recipientMismatch got expected =>
    "recipient mismatch: payment pays " ++ debugStr got ++ ", resource requires " ++
      debugStr expected
  | .malformedPayload scheme detail =>
    "payment payload is not a valid " ++ scheme ++ " payload: " ++ detail
  | .emptyTransaction => "payment payload is missing the transaction"
  | .missingSignature => "payment payload carries no signature"
  | .replay firstSeen =>
    "this payment has already been used (first seen " ++ toString firstSeen ++ ")"
  | .replayCacheUnavailable => "the replay cache is unavailable; refusing the payment"
  | .rpc detail => "could not reach the Sui fullnode: " ++ detail
  | .invalidSignature detail => "signature is not valid over the transaction: " ++ detail
  | .simulationFailed detail => "transaction would not execute: " ++ detail
  | .staleInput objectId pinned current =>
    "input object " ++ objectId ++ " is pinned at version " ++ toString pinned ++
      " but the chain is at " ++ debugOptNat current ++
      ";          the payment authorization is no longer executable"
  | .settlementFailed detail => "settlement failed on chain: " ++ detail
  | .invalidRequirements detail => "payment requirements are unusable: " ++ detail
  | .amountNotCredited expected credited payTo asset =>
    "transaction credits " ++ payTo ++ " with " ++ credited ++ " of " ++ asset ++
      ", but the resource costs exactly " ++ expected
  | .authorizationExpired firstSeen window =>
    "the payment authorization has expired (first seen " ++ toString firstSeen ++ ", window " ++
      toString window ++ "s)"

/-! ## Headers and identity -/

/-- Errors produced while decoding a base64(JSON) header. -/
inductive HeaderDecodeError where
  | base64 (e : String)
  | json (e : String)
  deriving DecidableEq

def HeaderDecodeError.display : HeaderDecodeError → String
  | .base64 e => "header is not valid base64: " ++ e
  | .json e => "header is not valid JSON: " ++ e

section

variable [Platform]

open Platform

/-- Encode a value as base64(JSON). Serializing these types does not fail. -/
def encodeHeader (v : Json) : String := b64Encode (utf8 (jsonToString v))

/-- `decode_header::<PaymentPayload>`. -/
def decodeHeader (raw : String) : Except HeaderDecodeError PaymentPayload :=
  match b64Decode (trim raw) with
  | .error e => .error (.base64 e)
  | .ok bytes =>
    match jsonFromSlice bytes with
    | .error e => .error (.json e)
    | .ok tree =>
      match PaymentPayload.fromJson tree with
      | .error e => .error (.json (jsonErrorAt bytes e))
      | .ok payload => .ok payload

/-- Stable identifier for a payment: the hash of the decoded transaction bytes. -/
def paymentId (payload : PaymentPayload) : Option String :=
  match SuiExactPayload.fromValue payload.payload with
  | .error _ => none
  | .ok sui =>
    match b64Decode (trim sui.transaction) with
    | .error _ => none
    | .ok bytes => some (hexEncode (sha256 bytes))

theorem paymentId_of_transaction {payload : PaymentPayload} {sui : SuiExactPayload} {bytes : Bytes}
    (hsui : SuiExactPayload.fromValue payload.payload = .ok sui)
    (hbytes : b64Decode (trim sui.transaction) = .ok bytes) :
    paymentId payload = some (hexEncode (sha256 bytes)) := by
  simp only [paymentId, hsui, hbytes]

/-- Deterministic placeholder payer for stub mode. Text that is not base64 is hashed as it is. -/
def stubPayer (transactionB64 : String) : String :=
  let canonical := match b64Decode (trim transactionB64) with
    | .ok bytes => bytes
    | .error _ => utf8 (trim transactionB64)
  "0x" ++ hexEncode (sha256 canonical)

end

end X402Verifier
