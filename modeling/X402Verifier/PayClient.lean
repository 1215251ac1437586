import X402Verifier.Auth

/-!
# The client

The part of `payclient.rs` that reads a challenge and answers it: the client's own mirrors of the
wire types (`Wire`), which read fewer fields than the server writes, and `buildPaymentHeader`, which
writes its payment as JSON by hand.

The key, the fullnode the transaction is built on and the parser of addresses are a `Wallet`.
-/

namespace X402Verifier

open RustStd

/-- `Vec<T>`. -/
def Json.readVec {α : Type} (read : Json → Except String α) : Json → Except String (List α)
  | .arr items => items.mapM read
  | j => .error (j.invalidType "a sequence")

/-! ## The mirrors -/

namespace Wire

structure ResourceInfo where
  url : String

structure PaymentRequirements where
  scheme : String
  network : String
  amount : String
  asset : String
  payTo : String
  maxTimeoutSeconds : Nat
  extra : Option Json := none

structure PaymentRequired where
  resource : ResourceInfo
  accepts : List PaymentRequirements

open Json in
def ResourceInfo.fromJson (j : Json) : Except String ResourceInfo :=
  let t : Struct := ⟨"ResourceInfo", 1⟩
  j.closed t trailing do
    .ok { url := ← j.required t 0 "url" readString }

open Json in
def PaymentRequirements.fromJson (j : Json) : Except String PaymentRequirements :=
  let t : Struct := ⟨"PaymentRequirements", 7⟩
  j.closed t trailing do
    .ok { scheme := ← j.required t 0 "scheme" readString
          network := ← j.required t 1 "network" readString
          amount := ← j.required t 2 "amount" readString
          asset := ← j.required t 3 "asset" readString
          payTo := ← j.required t 4 "payTo" readString
          maxTimeoutSeconds := ← j.required t 5 "maxTimeoutSeconds" (readUnsigned "u64" u64Bound)
          extra := ← j.optional t 6 "extra" readValue }

open Json in
def PaymentRequired.fromJson (j : Json) : Except String PaymentRequired :=
  let t : Struct := ⟨"PaymentRequired", 2⟩
  j.closed t trailing do
    .ok { resource := ← j.required t 0 "resource" ResourceInfo.fromJson
          accepts := ← j.required t 1 "accepts" (readVec PaymentRequirements.fromJson) }

end Wire

def advertisedGasStation (terms : Wire.PaymentRequirements) : Option String := do
  (← (← terms.extra).get? "gasStation").asStr?

/-! ## Paying -/

/-- What the client builds a payment with. An address is its bytes, and so is a transaction. -/
structure Wallet where
  /-- `Address`'s `FromStr`. -/
  parseAddress : String → Except String Bytes
  /-- `build_payment`, from the payee, the asset, the amount and the gas station. -/
  buildPayment : Bytes → String → Nat → Option String → Except Messages Bytes
  /-- `sign_transaction`. -/
  signTransaction : Bytes → Except Messages Bytes

variable [Platform]

open Platform

def readChallenge (raw : String) : Option Wire.PaymentRequired := do
  let bytes ← (b64Decode (trim raw)).toOption
  let tree ← (jsonFromSlice bytes).toOption
  (Wire.PaymentRequired.fromJson tree).toOption

/-- The payment, echoing the terms it accepts. `json!` keeps its keys in order. -/
def paymentJson (resourceUrl : String) (terms : Wire.PaymentRequirements)
    (signature transaction : Bytes) : Json :=
  .obj
    [("accepted", .obj
        [("amount", .str terms.amount), ("asset", .str terms.asset),
          ("maxTimeoutSeconds", .nat terms.maxTimeoutSeconds), ("network", .str terms.network),
          ("payTo", .str terms.payTo), ("scheme", .str terms.scheme)]),
      ("payload", .obj
        [("signature", .str (b64Encode signature)), ("transaction", .str (b64Encode transaction))]),
      ("resource", .obj [("url", .str resourceUrl)]),
      ("x402Version", .nat 2)]

/-- Build the `PAYMENT-SIGNATURE` header for a set of terms. -/
def buildPaymentHeader (wallet : Wallet) (resourceUrl : String)
    (terms : Wire.PaymentRequirements) : Except Messages String := do
  let amount ← withContext ("amount " ++ debugStr terms.amount ++ " is not an integer") <|
    match parseUnsigned u64Bound terms.amount with
    | some amount => .ok amount
    | none => .error [parseIntError u64Bound terms.amount]
  let payee ← withContext ("payTo " ++ debugStr terms.payTo ++ " is not a Sui address") <|
    match wallet.parseAddress terms.payTo with
    | .ok payee => .ok payee
    | .error e => .error [e]
  let transaction ← withContext
    ("building the payment transaction for " ++ toString amount ++ " of " ++ terms.asset) <|
    wallet.buildPayment payee terms.asset amount (advertisedGasStation terms)
  let signature ← withContext "signing the payment" (wallet.signTransaction transaction)
  .ok (encodeHeader (paymentJson resourceUrl terms signature transaction))

end X402Verifier
