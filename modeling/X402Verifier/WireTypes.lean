import X402Verifier.FacilitatorApi
import X402Verifier.PayClient

/-!
# The wire types, both ways

The rest of the wire types' JSON form: each type that is written here is also read, by the tests and
by other implementations, and each that is read is written by a client. `encode_header` and
`decode_header` are generic in the type; `decodeHeaderAs` is the latter at a reader.
-/

namespace X402Verifier

open RustStd

/-- `bool`. -/
def Json.readBool : Json → Except String Bool
  | .bool b => .ok b
  | j => .error (j.invalidType "a boolean")

/-! ## Writing -/

open Json in
def PaymentPayload.toJson (p : PaymentPayload) : Json :=
  fields [always "x402Version" (.nat p.x402Version), ifSome "resource" p.resource (·.toJson),
    always "accepted" p.accepted.toJson, always "payload" p.payload,
    ifSome "extensions" p.extensions id]

open Json in
def VerifyResponse.toJson (r : VerifyResponse) : Json :=
  fields [always "isValid" (.bool r.isValid), ifSome "invalidReason" r.invalidReason .str,
    ifSome "payer" r.payer .str]

open Json in
def FacilitatorRequest.toJson (r : FacilitatorRequest) : Json :=
  fields [always "x402Version" (.nat r.x402Version),
    always "paymentPayload" r.paymentPayload.toJson,
    always "paymentRequirements" r.paymentRequirements.toJson]

/-! ## Reading -/

open Json in
def PaymentRequired.fromJson (j : Json) : Except String PaymentRequired :=
  let t : Struct := ⟨"PaymentRequired", 5⟩
  j.closed t trailing do
    .ok { x402Version := ← j.required t 0 "x402Version" (readUnsigned "u32" u32Bound)
          error := ← j.optional t 1 "error" readString
          resource := ← j.required t 2 "resource" ResourceInfo.fromJson
          accepts := ← j.required t 3 "accepts" (readVec PaymentRequirements.fromJson)
          extensions := ← j.optional t 4 "extensions" readValue }

open Json in
def SettlementResponse.fromJson (j : Json) : Except String SettlementResponse :=
  let t : Struct := ⟨"SettlementResponse", 7⟩
  j.closed t trailing do
    .ok { success := ← j.required t 0 "success" readBool
          errorReason := ← j.optional t 1 "errorReason" readString
          payer := ← j.optional t 2 "payer" readString
          transaction := ← j.required t 3 "transaction" readString
          network := ← j.required t 4 "network" readString
          amount := ← j.optional t 5 "amount" readString
          extensions := ← j.optional t 6 "extensions" readValue }

open Json in
def VerifyResponse.fromJson (j : Json) : Except String VerifyResponse :=
  let t : Struct := ⟨"VerifyResponse", 3⟩
  j.closed t trailing do
    .ok { isValid := ← j.required t 0 "isValid" readBool
          invalidReason := ← j.optional t 1 "invalidReason" readString
          payer := ← j.optional t 2 "payer" readString }

open Json in
def FacilitatorRequest.fromJson (j : Json) : Except String FacilitatorRequest :=
  let t : Struct := ⟨"FacilitatorRequest", 3⟩
  j.closed t trailing do
    .ok { x402Version := ← j.required t 0 "x402Version" (readUnsigned "u32" u32Bound)
          paymentPayload := ← j.required t 1 "paymentPayload" PaymentPayload.fromJson
          paymentRequirements :=
            ← j.required t 2 "paymentRequirements" PaymentRequirements.fromJson }

/-! ## Headers -/

variable [Platform]

open Platform

/-- `decode_header` at the type this reads. -/
def decodeHeaderAs {α : Type} (fromJson : Json → Except String α) (raw : String) :
    Except HeaderDecodeError α :=
  match b64Decode (trim raw) with
  | .error e => .error (.base64 e)
  | .ok bytes =>
    match jsonFromSlice bytes with
    | .error e => .error (.json e)
    | .ok tree =>
      match fromJson tree with
      | .error e => .error (.json (jsonErrorAt bytes e))
      | .ok value => .ok value

theorem decodeHeader_eq (raw : String) :
    decodeHeader raw = decodeHeaderAs PaymentPayload.fromJson raw := by
  unfold decodeHeader decodeHeaderAs
  cases b64Decode (trim raw) with
  | error e => rfl
  | ok bytes =>
    cases htree : jsonFromSlice bytes with
    | error e => simp only [htree]
    | ok tree => cases hvalue : PaymentPayload.fromJson tree <;> simp only [htree, hvalue]

theorem decodeHeaderAs_eq_ok {α : Type} {fromJson : Json → Except String α} {raw : String}
    {value : α} : decodeHeaderAs fromJson raw = .ok value ↔ ∃ bytes tree,
      b64Decode (trim raw) = .ok bytes ∧ jsonFromSlice bytes = .ok tree ∧
        fromJson tree = .ok value := by
  unfold decodeHeaderAs
  cases b64Decode (trim raw) with
  | error e => simp
  | ok bytes =>
    cases htree : jsonFromSlice bytes with
    | error e => simp [htree]
    | ok tree => cases hvalue : fromJson tree <;> simp [htree, hvalue]

end X402Verifier
