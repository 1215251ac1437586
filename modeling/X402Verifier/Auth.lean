import X402Verifier.Gateway

/-!
# The tier policy and the ext_authz filter

`auth.rs`: `decide` resolves one request to a tier. A session token comes first, then a payment,
then the anonymous free tier; each is a function of its own here, in that order. `settlePolicy`
says whether a payment is settled on the spot (ext_authz) or only verified (ext_proc).

`decisionToResponse` is what ext_authz sends Envoy, and `check` the whole request.
-/

namespace X402Verifier

open RustStd Interaction

def headerTier : String := "x-x402-tier"

def headerPayer : String := "x-x402-payer"

/-- When settlement happens relative to serving the request. -/
inductive SettlePolicy where
  | immediate
  | deferred
  deriving DecidableEq

/-- Which tier a request resolved to. -/
inductive Tier where
  | free
  | paid
  deriving DecidableEq

def Tier.asStr : Tier → String
  | .free => "free"
  | .paid => "paid"

/-- What the requester has left. -/
inductive Meter where
  | free (remaining limit resetSecs : Nat)
  | session (remaining quota expiresInSecs : Nat)
  | unknown
  deriving DecidableEq

/-- The meter as response headers. An unknown meter has none. -/
def Meter.headers : Meter → List (String × String)
  | .free remaining limit resetSecs =>
    [("x-x402-free-remaining", toString remaining),
      ("x-x402-free-limit", toString limit),
      ("x-x402-free-reset", toString resetSecs)]
  | .session remaining quota expiresInSecs =>
    [("x-x402-session-remaining", toString remaining),
      ("x-x402-session-quota", toString quota),
      ("x-x402-session-expires", toString expiresInSecs)]
  | .unknown => []

/-! ## Request headers -/

/-- View over the request headers Envoy supplied. -/
structure HeaderView where
  inner : Option (Table String String)

/-- Fetch a header value, ignoring blank ones. The exact name is tried first, then any spelling of
it. -/
def HeaderView.get (view : HeaderView) (name : String) : Option String := do
  let map ← view.inner
  let value ← (map.get? name).or
    ((map.toPairs.find? fun (key, _) => eqIgnoreAsciiCase key name).map (·.2))
  if isBlank value then none else some value

theorem HeaderView.get_insert_ne (map : Table String String) {key name : String} (value : String)
    (hne : eqIgnoreAsciiCase key name = false) :
    HeaderView.get ⟨some (map.insert key value)⟩ name = HeaderView.get ⟨some map⟩ name := by
  have hname : name ≠ key := by
    rintro rfl
    simp [eqIgnoreAsciiCase] at hne
  have hfind : (map.insert key value).toPairs.find? (fun e => eqIgnoreAsciiCase e.1 name) =
      map.toPairs.find? fun e => eqIgnoreAsciiCase e.1 name := by
    rw [Table.toPairs_insert, List.find?_cons_of_neg (by simp [hne]), List.find?_filter]
    congr 1
    funext e
    by_cases he : e.1 = key <;> simp [he, hne]
  simp [HeaderView.get, Table.get?_insert_ne _ _ hname, hfind]

theorem HeaderView.get_insert_self (map : Table String String) (name : String) {value : String}
    (h : isBlank value = false) : HeaderView.get ⟨some (map.insert name value)⟩ name = some value := by
  simp [HeaderView.get, h]

/-- Does this request come from a gRPC client? -/
def isGrpcRequest (headers : HeaderView) : Bool :=
  (headers.get "content-type").any fun contentType => startsWith contentType "application/grpc"

/-- How long a payment stays claimed, given the advertised timeout. -/
def replayTtl (maxTimeoutSeconds : Nat) : Nat := max (saturatingMul maxTimeoutSeconds 10) 300

variable [Platform]

/-! ## Decisions -/

/-- A payment that verified but has not been settled yet, under its replay-cache key. -/
structure PendingPayment where
  payload : PaymentPayload
  requirements : PaymentRequirements
  paymentId : Option String
  keyed : paymentId = X402Verifier.paymentId payload

/-- The payment under its own key. -/
abbrev PendingPayment.of (payload : PaymentPayload) (requirements : PaymentRequirements) :
    PendingPayment :=
  ⟨payload, requirements, X402Verifier.paymentId payload, rfl⟩

/-- The authorization outcome, independent of Envoy's types. -/
inductive Decision where
  | allow (tier : Tier) (payer sessionToken : Option String)
      (settlement : Option SettlementResponse) (pending : Option PendingPayment) (meter : Meter)
  | deny (challenge : PaymentRequired) (receipt : Option SettlementResponse) (meter : Meter)

/-- What one request is sold on: resolved once, and used by every branch. -/
structure Terms where
  resolved : ResolvedPolicy
  requirements : PaymentRequirements
  resource : ResourceInfo

def Service.termsFor (svc : Service) (path : String) (policy : Option String)
    (resourceUrl : String) : Terms :=
  let resolved := svc.config.policyFor path policy
  let payment := resolved.payment
  { resolved := resolved
    requirements := .fromConfig payment
    resource :=
      { url := resourceUrl
        description := some payment.description
        mimeType := some "application/json"
        serviceName := payment.serviceName
        tags := if payment.tags.isEmpty then none else some payment.tags
        iconUrl := payment.iconUrl } }

/-- The challenge of a refusal, advertising that a payment buys a session. -/
def Terms.challenge (terms : Terms) (error : String) : PaymentRequired :=
  { PaymentRequired.new error terms.resource [terms.requirements] with
    extensions := some (sessionExtensionAdvertisement terms.resolved.paidTier.quota
      terms.resolved.paidTier.durationSecs headerPaymentSession) }

def Service.refusePayment (svc : Service) (terms : Terms) (error code : String) : Decision :=
  .deny (terms.challenge error) (some (svc.facilitator.failureReceipt code)) .unknown

def Service.rejectPayment (svc : Service) (terms : Terms) (e : FacilitatorError) : Decision :=
  svc.refusePayment terms ("payment rejected: " ++ e.display) e.code

/-! ## The steps of `decide` -/

/-- The payment header, decoded when there is one. -/
def presentedPayment (headers : HeaderView) : Option (Except HeaderDecodeError PaymentPayload) :=
  (headers.get headerPaymentSignature).map decodeHeader

/-- The session token: echoed in a payment's extensions, or in the raw header. -/
def presentedToken (headers : HeaderView) : Option String :=
  let echoed := match presentedPayment headers with
    | some (.ok payload) => sessionTokenFromExtensions payload.extensions
    | _ => none
  echoed.or (headers.get headerPaymentSession)

/-- Step 1: serve the request from a session, if its token is honored. -/
def honorSession (token policy : Option String) : Handler (Option Decision) :=
  match token with
  | none => pure none
  | some token => do
    match ← call (.consume token policy) with
    | .accepted payer remaining quota expiresAt =>
      let now : Nat ← call .nowEpochSecs
      pure (some (.allow .paid (some payer) none none none
        (.session remaining quota (expiresAt - now))))
    | .rejected _ => pure none

/-- Why a second sighting is refused: inside the advertised window it is a replay, past it the
authorization has expired. -/
def replayError (maxTimeoutSeconds firstSeen now : Nat) : FacilitatorError :=
  if maxTimeoutSeconds < now - firstSeen then .authorizationExpired firstSeen maxTimeoutSeconds
  else .replay firstSeen

/-- Claim a payment before doing anything with it. A payment without an id is not claimed. -/
def claimPresented (payload : PaymentPayload) (requirements : PaymentRequirements) :
    Handler (Option FacilitatorError) :=
  match paymentId payload with
  | none => pure none
  | some id => do
    match ← call (.claimPayment id (replayTtl requirements.maxTimeoutSeconds)) with
    | .fresh => pure none
    | .replay firstSeen =>
      let now : Nat ← call .nowEpochSecs
      pure (some (replayError requirements.maxTimeoutSeconds firstSeen now))
    | .backend => pure (some .replayCacheUnavailable)

/-- Deferred: verify only, and hand the payment to the response phase. -/
def Service.verifyPresented (svc : Service) (terms : Terms) (payload : PaymentPayload) :
    Handler Decision := do
  match ← call (.verify payload terms.requirements) with
  | .ok (payer : String) =>
    let pending : PendingPayment :=
      { payload := payload, requirements := terms.requirements, paymentId := paymentId payload,
        keyed := rfl }
    pure (.allow .paid (some payer) none none (some pending) .unknown)
  | .error e => pure (svc.rejectPayment terms e)

/-- Mint the session a settled payment bought. Without a payer there is nothing to bind it to, and
a store that fails leaves the request unsessioned. -/
def mintSession (receipt : SettlementResponse) (policy : Option String) (tier : PaidTierConfig) :
    Handler (Option String) :=
  match receipt.payer with
  | none => pure none
  | some payer => do
    match ← call (.createSession payer policy tier.quota tier.durationSecs) with
    | .ok (token : String) => pure (some token)
    | .error _ => pure none

/-- The receipt with its session, when one was minted. -/
def withGrant (receipt : SettlementResponse) (token : Option String) (tier : PaidTierConfig) :
    SettlementResponse :=
  match token with
  | none => receipt
  | some token =>
    { receipt with extensions := some (sessionExtensionGrant token tier.quota tier.durationSecs) }

/-- Immediate: settle now, and mint the session. -/
def Service.settlePresented (svc : Service) (terms : Terms) (policy : Option String)
    (payload : PaymentPayload) : Handler Decision := do
  match ← call (.settle payload terms.requirements) with
  | .ok (settlement : SettlementResponse) =>
    let tier := terms.resolved.paidTier
    let token ← mintSession settlement policy tier
    let meter : Meter :=
      if token.isSome then .session tier.quota tier.quota tier.durationSecs else .unknown
    pure (.allow .paid settlement.payer token (some (withGrant settlement token tier)) none meter)
  | .error e => pure (svc.rejectPayment terms e)

/-- Step 2: a payment was presented. -/
def Service.decidePayment (svc : Service) (terms : Terms) (policy : Option String)
    (settlePolicy : SettlePolicy) (decoded : Except HeaderDecodeError PaymentPayload) :
    Handler Decision :=
  match decoded with
  | .error e =>
    pure (svc.refusePayment terms ("malformed payment-signature header: " ++ e.display)
      "invalid_payload")
  | .ok payload => do
    match ← claimPresented payload terms.requirements with
    | some error => pure (svc.rejectPayment terms error)
    | none =>
      match settlePolicy with
      | .deferred => svc.verifyPresented terms payload
      | .immediate => svc.settlePresented terms policy payload

/-- Step 3: the anonymous free tier. -/
def Terms.decideFree (terms : Terms) (clientIp : Option IpAddr) : Handler Decision :=
  match clientIp with
  | none =>
    pure (.deny (terms.challenge "client address unavailable; free tier cannot be metered") none
      .unknown)
  | some ip => do
    let allowance : Allowance ← call (.check terms.resolved.label ip
      terms.resolved.freeTier.maxRequests terms.resolved.freeTier.windowSecs)
    let meter : Meter := .free allowance.remaining allowance.limit allowance.resetSecs
    if allowance.allowed then pure (.allow .free none none none none meter)
    else
      pure (.deny
        (terms.challenge "free tier rate limit exceeded; pay to unlock a higher limit") none meter)

/-- Apply the tier policy to one request. -/
def Service.decide (svc : Service) (headers : HeaderView) (clientIp : Option IpAddr)
    (path : String) (policy : Option String) (resourceUrl : String)
    (settlePolicy : SettlePolicy) : Handler Decision := do
  let terms := svc.termsFor path policy resourceUrl
  match ← honorSession (presentedToken headers) policy with
  | some decision => pure decision
  | none =>
    match presentedPayment headers with
    | some decoded => svc.decidePayment terms policy settlePolicy decoded
    | none => terms.decideFree clientIp

theorem decide_of_payment (svc : Service) {headers : HeaderView} {clientIp : Option IpAddr}
    {path : String} {policy : Option String} {resourceUrl : String} {settlePolicy : SettlePolicy}
    {decoded : Except HeaderDecodeError PaymentPayload} (htoken : presentedToken headers = none)
    (hpayment : presentedPayment headers = some decoded) :
    svc.decide headers clientIp path policy resourceUrl settlePolicy =
      svc.decidePayment (svc.termsFor path policy resourceUrl) policy settlePolicy decoded := by
  simp [Service.decide, honorSession, htoken, hpayment]

/-- The payment a decision leaves for the response phase. -/
def Decision.pending : Decision → Option PendingPayment
  | .allow _ _ _ _ pending _ => pending
  | .deny .. => none

/-! ## The ext_authz filter -/

/-- How Envoy applies a header that may already be there. -/
inductive AppendAction where
  | unspecified
  | overwriteIfExistsOrAdd
  deriving DecidableEq

/-- A header to set. Empty values are not kept on any of them. -/
structure HeaderValueOption where
  key : String
  value : String
  appendAction : AppendAction
  deriving DecidableEq

/-- A header this service asserts about identity overwrites the client's. -/
def authoritative (key value : String) : HeaderValueOption :=
  ⟨key, value, .overwriteIfExistsOrAdd⟩

/-- A header of a denial. -/
def plain (key value : String) : HeaderValueOption := ⟨key, value, .unspecified⟩

inductive CheckResponse where
  | ok (headers : List HeaderValueOption) (headersToRemove : List String)
      (responseHeadersToAdd : List HeaderValueOption) (dynamicMetadata : List (String × String))
  | denied (status : Nat) (headers : List HeaderValueOption) (body message : String)
  deriving DecidableEq

def grpcStatusResourceExhausted : String := "8"

def upperHexByte (b : UInt8) : List Char :=
  let digit (n : Nat) : Char := Char.ofNat (if n < 10 then 48 + n else 55 + n)
  [digit (b.toNat / 16), digit (b.toNat % 16)]

/-- Percent-encode a `grpc-message` value. -/
def grpcMessage (reason : String) : String :=
  String.ofList <| (utf8 reason).flatMap fun b =>
    if 0x20 ≤ b ∧ b ≤ 0x7E ∧ b ≠ 0x25 then [Char.ofNat b.toNat] else '%' :: upperHexByte b

/-- Dynamic metadata Envoy's ratelimit filter can read descriptors from, in key order. -/
def rateLimitMetadata (tier : Tier) (payer : Option String) (clientIp : Option IpAddr) :
    List (String × String) :=
  let payer := payer.map fun payer => ("payer", payer)
  let ip := clientIp.map fun ip => ("source_ip", ipAddrToString ip)
  payer.toList ++ ip.toList ++ [("tier", tier.asStr)]

/-- Convert a decision into the response Envoy expects. `grpc` selects how a denial is framed. -/
def decisionToResponse (decision : Decision) (clientIp : Option IpAddr) (grpc : Bool) :
    CheckResponse :=
  match decision with
  | .allow tier payer sessionToken settlement _ meter =>
    let token := sessionToken.map (authoritative headerPaymentSession)
    let receipt := settlement.map fun s =>
      authoritative headerPaymentResponse (encodeHeader s.toJson)
    .ok [authoritative headerTier tier.asStr, authoritative headerPayer (payer.getD "")]
      [headerPaymentSignature, headerPaymentSession]
      (token.toList ++ receipt.toList ++
        meter.headers.map fun (name, value) => authoritative name value)
      (rateLimitMetadata tier payer clientIp)
  | .deny challenge receipt meter =>
    let receipt := receipt.map fun r => plain headerPaymentResponse (encodeHeader r.toJson)
    let common := receipt.toList ++ [plain headerPaymentRequired (encodeHeader challenge.toJson)] ++
      meter.headers.map fun (name, value) => plain name value
    let message := challenge.error.getD ""
    if grpc then
      .denied 200
        (common ++ [plain "content-type" "application/grpc",
          plain "grpc-status" grpcStatusResourceExhausted,
          plain "grpc-message" (grpcMessage message)])
        "" message
    else
      .denied 402 (common ++ [plain "content-type" "application/json"])
        (Platform.jsonToString challenge.toJson) message

structure HttpRequest where
  host : String
  path : String
  scheme : String
  headers : Table String String

/-- What a `CheckRequest` carries that the service reads. -/
structure CheckRequest where
  http : Option HttpRequest
  clientAddress : Option String
  contextExtensions : Table String String

def policyContextKey : String := "x402_policy"

/-- Reconstruct the full URL of the requested resource. -/
def HttpRequest.resourceUrl (http : HttpRequest) : String :=
  if http.host.isEmpty then http.path
  else
    let scheme := if http.scheme.isEmpty then "https" else http.scheme
    scheme ++ "://" ++ http.host ++ http.path

def Service.check (svc : Service) (request : CheckRequest) : Handler CheckResponse := do
  let headers : HeaderView := ⟨request.http.map (·.headers)⟩
  let clientIp := request.clientAddress.bind parseIpAddr
  let path := (request.http.map (·.path)).getD ""
  let resourceUrl := (request.http.map (·.resourceUrl)).getD ""
  let policy := request.contextExtensions.get? policyContextKey
  let decision ← svc.decide headers clientIp path policy resourceUrl .immediate
  pure (decisionToResponse decision clientIp (isGrpcRequest headers))

theorem check_of_payment (svc : Service) {request : CheckRequest}
    {decoded : Except HeaderDecodeError PaymentPayload}
    (htoken : presentedToken ⟨request.http.map (·.headers)⟩ = none)
    (hpayment : presentedPayment ⟨request.http.map (·.headers)⟩ = some decoded) :
    let path := (request.http.map (·.path)).getD ""
    let policy := request.contextExtensions.get? policyContextKey
    svc.check request =
      (svc.decidePayment
        (svc.termsFor path policy ((request.http.map (·.resourceUrl)).getD "")) policy .immediate
        decoded).bind fun decision =>
          .pure (decisionToResponse decision (request.clientAddress.bind parseIpAddr)
            (isGrpcRequest ⟨request.http.map (·.headers)⟩)) := by
  intro path policy
  rw [Service.check, decide_of_payment svc htoken hpayment]
  rfl

end X402Verifier
