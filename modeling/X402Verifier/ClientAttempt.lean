import X402Verifier.IdentityHeaders
import X402Verifier.WireTypes

/-!
# One attempt of the client

`payclient::send`: what the client reads off a response. Everything but the status and the body comes
from headers, and what cannot be read is absent. A duration is kept as its text; how long the
attempt itself took is a stopwatch's reading, and left out.
-/

namespace X402Verifier

open RustStd

/-! ## Requests and responses -/

/-- A request as the client sends it, with the payment it may carry. -/
structure HttpCall where
  method : String
  url : String
  headers : RawHeaders
  body : String
  payment : Option String := none
  deriving DecidableEq

/-- A response. Header names keep the case they were sent in. -/
structure HttpResponse where
  status : Nat
  headers : RawHeaders
  body : String
  deriving DecidableEq

/-- A character `HeaderValue::to_str` accepts: visible ASCII, a space or a tab. -/
def isHeaderText (c : Char) : Bool := c == '\t' || (32 ≤ c.toNat && c.toNat < 127)

/-- The first value under a name, when it is text. -/
def HttpResponse.header (r : HttpResponse) (name : String) : Option String :=
  (valuesOf name r.headers).head?.filter fun value => value.toList.all isHeaderText

def HttpResponse.number (r : HttpResponse) (name : String) : Option Nat :=
  (r.header name).bind fun value => parseUnsigned u64Bound (trim value)

/-! ## Durations -/

def isDigits (s : List Char) : Bool := (! s.isEmpty) && s.all Char.isDigit

def dropSign : List Char → List Char
  | '+' :: rest => rest
  | '-' :: rest => rest
  | s => s

/-- Is this text an `f64`? -/
def isF64 (s : String) : Bool :=
  let body := (dropSign s.toList).map Char.toLower
  let (mantissa, exponent) := match breakAt ['e'] body with
    | some (before, after) => (before, isDigits (dropSign after))
    | none => (body, true)
  let (whole, fraction) := match breakAt ['.'] mantissa with
    | some (before, after) => (before, after)
    | none => (mantissa, [])
  let digits := whole ++ fraction
  body == "inf".toList || body == "infinity".toList || body == "nan".toList ||
    (exponent && isDigits digits)

/-- Parse a `Server-Timing` value into names and milliseconds. A metric that cannot be read is
dropped. -/
def parseServerTiming (raw : String) : List (String × String) :=
  (split raw ',').filterMap fun metric =>
    match split metric ';' with
    | [] => none
    | name :: params =>
      (params.findSome? fun p => (stripPrefix (trim p) "dur=").filter isF64).map fun dur =>
        (trim name, dur)

/-! ## The attempt -/

/-- The fields of a receipt the client keeps. -/
structure Wire.SettlementResponse where
  success : Bool
  errorReason : Option String := none
  transaction : String
  network : String
  deriving DecidableEq

open Json in
def Wire.SettlementResponse.fromJson (j : Json) : Except String Wire.SettlementResponse :=
  let t : Struct := ⟨"SettlementResponse", 4⟩
  j.closed t trailing do
    .ok { success := ← j.required t 0 "success" readBool
          errorReason := ← j.optional t 1 "errorReason" readString
          transaction := ← j.required t 2 "transaction" readString
          network := ← j.required t 3 "network" readString }

/-- What the gateway reported is left. Absent is not measured, which is not zero. -/
structure ClientMeter where
  tier : Option String := none
  freeRemaining : Option Nat := none
  freeLimit : Option Nat := none
  freeReset : Option Nat := none
  sessionRemaining : Option Nat := none
  sessionQuota : Option Nat := none
  sessionExpires : Option Nat := none
  deriving DecidableEq

def HttpResponse.meter (r : HttpResponse) : ClientMeter :=
  { tier := r.header "x-x402-tier"
    freeRemaining := r.number "x-x402-free-remaining"
    freeLimit := r.number "x-x402-free-limit"
    freeReset := r.number "x-x402-free-reset"
    sessionRemaining := r.number "x-x402-session-remaining"
    sessionQuota := r.number "x-x402-session-quota"
    sessionExpires := r.number "x-x402-session-expires" }

/-- What one HTTP attempt told us. -/
structure Attempt where
  status : Nat
  body : String
  paymentRequired : Option Wire.PaymentRequired
  paymentResponse : Option Wire.SettlementResponse
  session : Option String
  meter : ClientMeter
  serverTiming : List (String × String)
  upstreamMs : Option String

variable [Platform]

open Platform

/-- The receipt of a `payment-response` header, if it can be read. -/
def readReceipt (raw : String) : Option Wire.SettlementResponse := do
  let bytes ← (b64Decode (trim raw)).toOption
  let tree ← (jsonFromSlice bytes).toOption
  (Wire.SettlementResponse.fromJson tree).toOption

/-- What `send` reads off a response. -/
def Attempt.ofResponse (r : HttpResponse) : Attempt :=
  { status := r.status
    body := r.body
    paymentRequired := (r.header "payment-required").bind readChallenge
    paymentResponse := (r.header "payment-response").bind readReceipt
    session := r.header "x-payment-session"
    meter := r.meter
    serverTiming := ((r.header "server-timing").map parseServerTiming).getD []
    upstreamMs := ((r.header "x-envoy-upstream-service-time").map trim).filter isF64 }

end X402Verifier
