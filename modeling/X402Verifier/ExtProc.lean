import X402Verifier.Auth

/-!
# The ext_proc filter

`ext_proc.rs`: one stream for each HTTP request. The request phase verifies a payment and leaves it
in the stream's state; the response phase settles it, but only after a 2xx from the upstream.

How long a phase took is read off a stopwatch and only ever printed; each handler takes that text
as an argument.
-/

namespace X402Verifier

open RustStd Interaction

variable [Platform]

/-- Everything the response phase needs from the request phase. -/
structure StreamState where
  pending : Option PendingPayment := none
  policy : Option String := none
  path : String := ""
  meter : Meter := .unknown
  decideMs : String := "0.0"

/-! ## Envoy's messages -/

/-- A header as Envoy sends it, in one of two fields. `rawValue` is its text with invalid UTF-8
replaced. -/
structure HeaderValue where
  key : String
  value : String := ""
  rawValue : String := ""
  deriving DecidableEq

inductive AttributeValue where
  | string (s : String)
  | other
  deriving DecidableEq

/-- Attributes by the filter they were requested for, in the map's order. -/
abbrev Attributes : Type := Table String (Table String AttributeValue)

/-- The phase a message is about. Bodies and trailers are `other`. -/
inductive Phase where
  | requestHeaders (headers : Option (List HeaderValue))
  | responseHeaders (headers : Option (List HeaderValue))
  | other

structure ProcessingRequest where
  attributes : Attributes := ∅
  phase : Phase

/-- Headers to set and to remove before the message continues. -/
structure HeaderMutation where
  setHeaders : List HeaderValueOption
  removeHeaders : List String
  deriving DecidableEq

structure ImmediateResponse where
  status : Nat
  headers : List HeaderValueOption
  body : String
  deriving DecidableEq

inductive ProcessingResponse where
  | requestHeaders (mutation : Option HeaderMutation)
  | responseHeaders (mutation : Option HeaderMutation)
  | immediateResponse (response : ImmediateResponse)
  | default
  deriving DecidableEq

/-- A header of a mutation overwrites one that is already there. -/
def header (key value : String) : HeaderValueOption := authoritative key value

/-- A `CONTINUE` response, removing headers and setting others. -/
def continueWithRemovals (headers : List HeaderValueOption) (remove : List String) :
    Option HeaderMutation :=
  if headers.isEmpty ∧ remove.isEmpty then none
  else some { setHeaders := headers, removeHeaders := remove }

def continueWith (headers : List HeaderValueOption) : Option HeaderMutation :=
  continueWithRemovals headers []

/-! ## Reading a message -/

def HeaderValue.text (h : HeaderValue) : String := if h.rawValue.isEmpty then h.value else h.rawValue

/-- The headers as a map. Names are lowercased, and the last of a repeated name stays. -/
def headerMap (headers : Option (List HeaderValue)) : Table String String :=
  (headers.getD []).foldl (fun map h => map.insert (toAsciiLowercase h.key) h.text) ∅

/-- Build the absolute URL of the requested resource, as the client addresses it. -/
def resourceUrl (map : Table String String) (path : String) : String :=
  let authority := ((map.get? "x-forwarded-host").or (map.get? ":authority")).getD ""
  if authority.isEmpty then path
  else
    let scheme := ((map.get? "x-forwarded-proto").or (map.get? ":scheme")).filter (¬ ·.isEmpty)
    scheme.getD "https" ++ "://" ++ authority ++ path

/-- The first string under `key` in any of the attribute groups. -/
def Attributes.findString (attributes : Attributes) (key : String) : Option String :=
  attributes.toPairs.findSome? fun (_, fields) =>
    match fields.get? key with
    | some (.string s) => some s
    | _ => none

/-- What precedes the last `c`, or all of a text without one. -/
def beforeLast (c : Char) (s : List Char) : List Char :=
  if c ∈ s then ((s.reverse.dropWhile (· ≠ c)).drop 1).reverse else s

/-- Split `host:port` from the right and parse the host, without its brackets. -/
def parseHost (address : String) : Option IpAddr :=
  let host := beforeLast ':' address.toList
  let inner := ((host.dropWhile (· == '[')).reverse.dropWhile (· == ']')).reverse
  parseIpAddr (String.ofList inner)

def clientIpFromAttributes (attributes : Attributes) : Option IpAddr :=
  (attributes.findString "source.address").bind parseHost

/-- Pull `x402_policy`'s string value out of Envoy's TextFormat metadata dump. -/
def parsePolicyFromTextFormat (text : String) : Option String := do
  let afterKey ← secondPiece "key: \"x402_policy\"" text.toList
  let afterMarker ← secondPiece "string_value:" afterKey
  let (_, rest) ← breakAt ['"'] afterMarker
  let (value, _) ← breakAt ['"'] rest
  if value.isEmpty then none else some (String.ofList value)

def policyFromAttributes (attributes : Attributes) : Option String :=
  (attributes.findString "xds.route_metadata").bind parsePolicyFromTextFormat

/-- Was the upstream response a success? Only a 2xx justifies charging. -/
def isSuccess (status : String) : Bool :=
  (parseUnsigned u16Bound status).any fun code => 200 ≤ code && code < 300

/-! ## Replies -/

def headerServerTiming : String := "server-timing"

/-- Format phase timings as a `Server-Timing` value. -/
def serverTiming (phases : List (String × String)) : String :=
  ", ".intercalate (phases.map fun (name, ms) => name ++ ";dur=" ++ ms)

/-- How long a paid gRPC stream may run, as a `grpc-timeout` value. -/
def grpcTimeoutFor (meter : Meter) (view : HeaderView) : Option String :=
  match meter with
  | .session _ _ expiresInSecs =>
    if isGrpcRequest view then some (toString (max expiresInSecs 1) ++ "S") else none
  | _ => none

def settlementUnavailable (path : String) : ProcessingResponse :=
  let grpc := startsWith path "/sui.rpc.v2." || startsWith path "/grpc."
  let body := Json.obj
    [("error", .str "settlement_unavailable"),
      ("message", .str ("Payments are temporarily refused because settlement is failing. " ++
        "The free tier is unaffected. Try again shortly."))]
  .immediateResponse
    { status := if grpc then 200 else 503
      headers :=
        [header "retry-after" "30",
          header "content-type" (if grpc then "application/grpc" else "application/json")] ++
        if grpc then
          [header "grpc-status" "14", header "grpc-message" "settlement%20unavailable"]
        else []
      body := Platform.jsonToString body }

def allowReply (tier : Tier) (payer : Option String) (meter : Meter) (view : HeaderView) :
    ProcessingResponse :=
  .requestHeaders (continueWithRemovals
    ([header headerTier tier.asStr] ++ (payer.map (header headerPayer)).toList ++
      ((grpcTimeoutFor meter view).map (header "grpc-timeout")).toList)
    [headerPaymentSignature, headerPaymentSession])

def denyReply (challenge : PaymentRequired) (receipt : Option SettlementResponse) (meter : Meter)
    (decideMs : String) : ProcessingResponse :=
  .immediateResponse
    { status := 402
      headers :=
        [header headerPaymentRequired (encodeHeader challenge.toJson)] ++
          (receipt.map fun r => header headerPaymentResponse (encodeHeader r.toJson)).toList ++
          (meter.headers.map fun (name, value) => header name value) ++
          [header headerServerTiming (serverTiming [("x402-decide", decideMs)]),
            header "content-type" "application/json"]
      body := Platform.jsonToString challenge.toJson }

/-- The request phase's meter as response headers. -/
def StreamState.meterHeaders (st : StreamState) : List HeaderValueOption :=
  st.meter.headers.map fun (name, value) => header name value

/-- The reply of a response phase that settles nothing. -/
def StreamState.unsettledReply (st : StreamState) : ProcessingResponse :=
  .responseHeaders (continueWith
    (st.meterHeaders ++ [header headerServerTiming (serverTiming [("x402-decide", st.decideMs)])]))

/-- The reply after a settlement, with the session it bought. -/
def StreamState.settledReply (st : StreamState) (settlement : SettlementResponse)
    (token : Option String) (tier : PaidTierConfig) (settleMs : String) : ProcessingResponse :=
  let measured := st.meterHeaders ++
    [header headerServerTiming
      (serverTiming [("x402-decide", st.decideMs), ("x402-settle", settleMs)])]
  let headers := match token with
    | none => measured
    | some token =>
      ((measured ++ [header headerPaymentSession token]).filter fun h =>
        ¬ startsWith h.key "x-x402-free-") ++
        ((Meter.session tier.quota tier.quota tier.durationSecs).headers.map fun (name, value) =>
          header name value)
  .responseHeaders (continueWith
    (headers ++
      [header headerPaymentResponse (encodeHeader (withGrant settlement token tier).toJson)]))

/-- The reply after a settlement that failed. The resource has been delivered. -/
def StreamState.unpaidReply (st : StreamState) (receipt : SettlementResponse) (settleMs : String) :
    ProcessingResponse :=
  .responseHeaders (continueWith
    (st.meterHeaders ++
      [header headerServerTiming
        (serverTiming [("x402-decide", st.decideMs), ("x402-settle", settleMs)]),
        header headerPaymentResponse (encodeHeader receipt.toJson)]))

/-! ## The two phases -/

/-- The policy a breaker window is kept under. -/
def breakerPolicy (policy : Option String) : String := policy.getD defaultPolicyLabel

/-- Request phase: decide the tier, and verify (but do not charge) any payment. -/
def Service.handleRequestHeaders (svc : Service) (st : StreamState)
    (headers : Option (List HeaderValue)) (clientIp : Option IpAddr) (policy : Option String)
    (decideMs : String) : Handler (ProcessingResponse × StreamState) := do
  let map := headerMap headers
  let view : HeaderView := ⟨some map⟩
  let path := (map.get? ":path").getD ""
  let breaker : BreakerState ← call (.breakerState (breakerPolicy policy))
  if ¬ breaker.acceptsPayment ∧ (view.get headerPaymentSignature).isSome then
    pure (settlementUnavailable path, st)
  else
    match ← svc.decide view clientIp path policy (resourceUrl map path) .deferred with
    | .allow tier payer _ _ pending meter =>
      pure (allowReply tier payer meter view,
        { pending := pending, policy := policy, path := path, meter := meter,
          decideMs := decideMs })
    | .deny challenge receipt meter => pure (denyReply challenge receipt meter decideMs, st)

/-- What the request phase decides. -/
def Service.processDecision (svc : Service) (headers : Option (List HeaderValue))
    (clientIp : Option IpAddr) (policy : Option String) : Handler Decision :=
  let map := headerMap headers
  let path := (map.get? ":path").getD ""
  svc.decide ⟨some map⟩ clientIp path policy (resourceUrl map path) .deferred

theorem processDecision_of_payment (svc : Service) {headers : Option (List HeaderValue)}
    (clientIp : Option IpAddr) (policy : Option String)
    {decoded : Except HeaderDecodeError PaymentPayload}
    (htoken : presentedToken ⟨some (headerMap headers)⟩ = none)
    (hpayment : presentedPayment ⟨some (headerMap headers)⟩ = some decoded) :
    let path := ((headerMap headers).get? ":path").getD ""
    svc.processDecision headers clientIp policy =
      svc.decidePayment (svc.termsFor path policy (resourceUrl (headerMap headers) path)) policy
        .deferred decoded := decide_of_payment svc htoken hpayment

/-- The request phase: the breaker is asked, then the decision is made and turned into a reply. -/
theorem handleRequestHeaders_eq (svc : Service) (st : StreamState)
    (headers : Option (List HeaderValue)) (clientIp : Option IpAddr) (policy : Option String)
    (decideMs : String) :
    svc.handleRequestHeaders st headers clientIp policy decideMs =
      Prog.call (.breakerState (breakerPolicy policy)) fun breaker =>
        let view : HeaderView := ⟨some (headerMap headers)⟩
        let path := ((headerMap headers).get? ":path").getD ""
        if ¬ BreakerState.acceptsPayment breaker ∧ (view.get headerPaymentSignature).isSome then
          .pure (settlementUnavailable path, st)
        else
          (svc.processDecision headers clientIp policy).bind fun
            | .allow tier payer _ _ pending meter =>
              .pure (allowReply tier payer meter view,
                { pending := pending, policy := policy, path := path, meter := meter,
                  decideMs := decideMs })
            | .deny challenge receipt meter =>
              .pure (denyReply challenge receipt meter decideMs, st) := by
  rfl

/-- Settle a payment whose upstream delivered, tell the breaker, and mint the session. -/
def Service.settlePending (svc : Service) (st : StreamState) (pending : PendingPayment)
    (settleMs : String) : Handler ProcessingResponse := do
  let resolved := svc.config.policyFor st.path st.policy
  match ← call (.settle pending.payload pending.requirements) with
  | .ok (settlement : SettlementResponse) =>
    let () ← call (.breakerRecord (breakerPolicy st.policy) false)
    let token ← mintSession settlement st.policy resolved.paidTier
    pure (st.settledReply settlement token resolved.paidTier settleMs)
  | .error e =>
    let () ← call (.breakerRecord (breakerPolicy st.policy) true)
    pure (st.unpaidReply (svc.facilitator.failureReceipt (FacilitatorError.code e)) settleMs)

/-- Free the claim of a payment that was verified but never spent. -/
def releasePending (pending : PendingPayment) : Handler Unit :=
  match pending.paymentId with
  | none => pure ()
  | some id => call (.releasePayment id)

/-- Response phase: settle, but only if the upstream actually delivered. -/
def Service.handleResponseHeaders (svc : Service) (st : StreamState)
    (headers : Option (List HeaderValue)) (settleMs : String) :
    Handler (ProcessingResponse × StreamState) :=
  match st.pending with
  | none => pure (st.unsettledReply, st)
  | some pending => do
    let st := { st with pending := none }
    if ¬ isSuccess (((headerMap headers).get? ":status").getD "") then
      releasePending pending
      pure (st.unsettledReply, st)
    else
      let reply ← svc.settlePending st pending settleMs
      pure (reply, st)

def Service.process (svc : Service) (st : StreamState) (message : ProcessingRequest)
    (elapsedMs : String) : Handler (ProcessingResponse × StreamState) :=
  let clientIp := clientIpFromAttributes message.attributes
  let policy := policyFromAttributes message.attributes
  match message.phase with
  | .requestHeaders headers => svc.handleRequestHeaders st headers clientIp policy elapsedMs
  | .responseHeaders headers => svc.handleResponseHeaders st headers elapsedMs
  | .other => pure (.default, st)

end X402Verifier
