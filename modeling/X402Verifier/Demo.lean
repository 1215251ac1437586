import X402Verifier.ClientAttempt
import X402Verifier.Interaction.Lock

/-!
# The demo's wallet

`x402-demo`: a service that plays the client for its visitors and pays from a wallet of its own.
`send` is one exchange. What it may spend is bounded twice: `max_plays` payments in all, counted
under a mutex that is held from the check of the budget to the end of the payment, and so many for
an address in an hour.

An exchange is a program over `DemoOp`. Sending a request and receiving its answer are two calls, so
that an exchange whose visitor goes away can stop between them. The page, the proxies and the spans
of the timeline are left out.
-/

namespace X402Verifier

open RustStd Interaction

/-! ## What is for sale -/

/-- One thing the gateway sells. -/
structure Target where
  id : String
  path : String
  method : String := "POST"
  contentType : String := "application/json"
  body : String := "\x7b\x7d"
  free : Bool := false

/-- Every target is a route of the gateway. -/
def targets : List Target :=
  [{ id := "free"
     path := "/free/graphql"
     body := "\x7b\"query\":\"\x7b chainIdentifier \x7d\"\x7d"
     free := true },
    { id := "graphql"
      path := "/graphql"
      body := "\x7b\"query\":\"\x7b checkpoint \x7b sequenceNumber digest \x7d " ++
        "epoch \x7b epochId \x7d \x7d\"\x7d" },
    { id := "grpc"
      path := "/sui.rpc.v2.LedgerService/GetServiceInfo"
      contentType := "application/grpc-web+proto"
      body := "" },
    { id := "fail", path := "/boom" },
    { id := "spin", path := "/spin" }]

def target (id : String) : Option Target := targets.find? fun t => t.id == id

/-- A zero-length grpc-web frame for targets that speak it. -/
def grpcWebBody (target : Target) : String :=
  if startsWith target.contentType "application/grpc-web" then "\x00\x00\x00\x00\x00"
  else target.body

/-- `str::trim_end_matches`. -/
def trimEndMatches (s : String) (c : Char) : String :=
  String.ofList (s.toList.reverse.dropWhile (· == c)).reverse

/-- Re-emit the forwarding headers the edge proxy set. -/
def forwarded (incoming : RawHeaders) : RawHeaders :=
  ["x-forwarded-host", "x-forwarded-proto"].filterMap fun name =>
    ((valuesOf name incoming).head?.filter fun value => value.toList.all isHeaderText).map
      fun value => (name, value)

/-! ## Previews -/

/-- `char::is_control`. -/
def isControl (c : Char) : Bool := c.toNat < 32 || (127 ≤ c.toNat && c.toNat < 160)

/-- The byte offset each character starts at. -/
def charIndices : List Char → List Nat
  | [] => []
  | c :: rest => 0 :: (charIndices rest).map (c.utf8Size + ·)

/-- `&s[..n]`, which panics unless `n` is on a character boundary. -/
def sliceTo (s : List Char) (n : Nat) : Option (List Char) :=
  match n, s with
  | 0, _ => some []
  | _ + 1, [] => none
  | n, c :: rest =>
    if n < c.utf8Size then none else (sliceTo rest (n - c.utf8Size)).map (c :: ·)

def maxPreview : Nat := 600

/-- Keep response previews small enough to render. Nothing is returned where the code would panic. -/
def trimBody (body : String) : Option String :=
  if body.toList.any fun c => isControl c && c != '\n' && c != '\r' && c != '\t' then
    some ("<" ++ toString body.utf8ByteSize ++ " bytes of grpc-web frames>")
  else if body.utf8ByteSize ≤ maxPreview then some body
  else
    let cut := ((charIndices body.toList).takeWhile (· ≤ maxPreview)).getLast?.getD 0
    (sliceTo body.toList cut).map fun kept => String.ofList kept ++ "…"

/-! ## Exchanges -/

/-- The limits on spending, and where the gateway is. -/
structure DemoArgs where
  maxPlays : Nat := 500
  playsPerIpHourly : Nat := 20
  gateway : String := "http://127.0.0.1:10000"

structure SendRequest where
  target : String
  session : Option String := none
  deriving DecidableEq

structure ApiError where
  error : String
  detail : String
  deriving DecidableEq

/-- The wire, as far as it is decoded. -/
structure DemoWire where
  challenge : Option Wire.PaymentRequired := none
  payment : Option Json := none
  receipt : Option Wire.SettlementResponse := none
  firstStatus : Nat := 0
  paidStatus : Option Nat := none

structure SendResult where
  target : String
  status : Nat
  paid : Bool
  session : Option String
  meter : ClientMeter
  transaction : String
  network : String
  body : Option String
  playsRemaining : Nat
  wire : DemoWire
  settled : Bool

/-- One step of an exchange. -/
inductive DemoOp where
  | request (call : HttpCall)
  | response (call : HttpCall)
  | spentSoFar
  | nowEpochSecs
  | countPlay (ip : IpAddr) (hour : Nat)
  | lockSpent
  | loadKey
  | buildPayment (resourceUrl : String) (terms : Wire.PaymentRequirements)
  | countSpent
  | spentUnderLock
  | unlockSpent

def DemoOp.Ret : DemoOp → Type
  | .request _ => Unit
  | .response _ => Except Messages Attempt
  | .spentSoFar | .lockSpent | .spentUnderLock => Nat
  | .nowEpochSecs => Nat
  | .countPlay .. => Bool
  | .loadKey => Except Messages Unit
  | .buildPayment .. => Except Messages String
  | .countSpent => Unit
  | .unlockSpent => Unit

/-- An exchange, or a part of one. -/
abbrev Demo (α : Type) : Type := Prog DemoOp DemoOp.Ret α

def demoCall (op : DemoOp) : Demo op.Ret := Prog.perform op

/-- An `anyhow` error as it is shown: its outermost message. -/
def shown (e : Messages) : String := e.headD ""

/-- Did the receipt report money moving? A stub's does not. -/
def Attempt.settled (attempt : Attempt) : Bool :=
  attempt.paymentResponse.any fun r => r.success && ! startsWith r.transaction "stub-"

/-- The request an exchange makes first. -/
def firstCall (args : DemoArgs) (target : Target) (incoming : RawHeaders)
    (session : Option String) : HttpCall :=
  { method := target.method
    url := trimEndMatches args.gateway '/' ++ target.path
    headers := [("content-type", target.contentType)] ++ forwarded incoming ++
      (session.map fun token => ("x-payment-session", token)).toList ++
      if startsWith target.contentType "application/grpc-web" then [("x-grpc-web", "1")] else []
    body := grpcWebBody target }

def servedResult (args : DemoArgs) (target : Target) (request : SendRequest) (first : Attempt)
    (spent : Nat) : SendResult :=
  { target := target.id
    status := first.status
    paid := false
    session := request.session
    meter := first.meter
    transaction := ""
    network := ""
    body := trimBody first.body
    playsRemaining := args.maxPlays - spent
    wire := { firstStatus := first.status }
    settled := false }

variable [Platform]

open Platform

def base64Json (raw : String) : Option Json := do
  let bytes ← (b64Decode (trim raw)).toOption
  (jsonFromSlice bytes).toOption.map Json.toValue

def paidResult (args : DemoArgs) (target : Target) (request : SendRequest)
    (challenge : Wire.PaymentRequired) (payment : String) (first paid : Attempt) (spent : Nat) :
    SendResult :=
  { target := target.id
    status := paid.status
    paid := true
    session := paid.session.or request.session
    meter := paid.meter
    transaction := (paid.paymentResponse.map (·.transaction)).getD ""
    network := (paid.paymentResponse.map (·.network)).getD ""
    body := trimBody paid.body
    playsRemaining := args.maxPlays - spent
    wire :=
      { challenge := some challenge
        payment := base64Json payment
        receipt := paid.paymentResponse
        firstStatus := first.status
        paidStatus := some paid.status }
    settled := paid.settled }

def countSettled (paid : Attempt) : Demo Unit :=
  if paid.settled then demoCall .countSpent else pure ()

/-- Pay and retry, with the budget locked. -/
def payUnderLock (args : DemoArgs) (target : Target) (request : SendRequest) (call : HttpCall)
    (first : Attempt) (spent : Nat) : Demo (Except ApiError SendResult) :=
  if args.maxPlays ≤ spent then
    pure (.error ⟨"budget_exhausted",
      "the demo wallet's gas budget for this run is spent. " ++
        "Testnet SUI is free — top it up with `sui client faucet` and restart."⟩)
  else
    match first.paymentRequired with
    | none => pure (.error ⟨"malformed_challenge", "402 without a PAYMENT-REQUIRED header"⟩)
    | some challenge =>
      match challenge.accepts.head? with
      | none =>
        pure (.error ⟨"malformed_challenge", "challenge advertised no payment options"⟩)
      | some terms => do
        match ← demoCall .loadKey with
        | .error (e : Messages) => pure (.error ⟨"no_wallet", shown e⟩)
        | .ok _ =>
          match ← demoCall (.buildPayment challenge.resource.url terms) with
          | .error (e : Messages) => pure (.error ⟨"payment_failed", shown e⟩)
          | .ok (payment : String) =>
            let paying := { call with payment := some payment }
            let () ← demoCall (.request paying)
            match ← demoCall (.response paying) with
            | .error (e : Messages) => pure (.error ⟨"gateway_unreachable", shown e⟩)
            | .ok (paid : Attempt) =>
              let () ← countSettled paid
              let spent : Nat ← demoCall .spentUnderLock
              pure (.ok (paidResult args target request challenge payment first paid spent))

/-- What follows a challenge: the visitor's allowance, then the budget. -/
def payChallenge (args : DemoArgs) (target : Target) (peer : IpAddr) (request : SendRequest)
    (call : HttpCall) (first : Attempt) : Demo (Except ApiError SendResult) := do
  let now : Nat ← demoCall .nowEpochSecs
  let admitted : Bool ← demoCall (.countPlay peer (now / 3600))
  if ! admitted then
    pure (.error ⟨"rate_limited",
      "this demo pays from one small testnet wallet, so it allows " ++
        toString args.playsPerIpHourly ++ " paid requests per hour per visitor. " ++
        "Try again next hour, or point your own wallet at the same gateway."⟩)
  else
    let spent : Nat ← demoCall .lockSpent
    let result ← payUnderLock args target request call first spent
    -- Every way out of the code above drops the guard.
    let () ← demoCall .unlockSpent
    pure result

/-- `POST /send`: issue one request against a target, paying only if challenged. -/
def demoSend (args : DemoArgs) (peer : IpAddr) (incoming : RawHeaders) (request : SendRequest) :
    Demo (Except ApiError SendResult) :=
  match target request.target with
  | none => pure (.error ⟨"unknown_target", "no target named " ++ debugStr request.target⟩)
  | some target => do
    let call := firstCall args target incoming request.session
    let () ← demoCall (.request call)
    match ← demoCall (.response call) with
    | .error (e : Messages) => pure (.error ⟨"gateway_unreachable", shown e⟩)
    | .ok (first : Attempt) =>
      let spent : Nat ← demoCall .spentSoFar
      if first.status ≠ 402 then pure (.ok (servedResult args target request first spent))
      else payChallenge args target peer request call first

end X402Verifier
