import X402Verifier.IdentityHeaders

/-!
# How a refusal is framed

A refusal reaches a gRPC client as a trailers-only response and everyone else as an HTTP error with
a JSON body; only the request's `content-type` is to decide which (`Framed`). Three encoders write
refusals. `decisionToResponse` of ext_authz is told which framing to use and keeps to it. ext_proc's
`denyReply` knows only the HTTP one, and `settlementUnavailable` goes by the path.
-/

namespace X402Verifier

open RustStd Interaction

structure Reply where
  status : Nat
  headers : List HeaderValueOption
  body : String

/-- The values some headers have under a name. -/
def sentUnder (name : String) (headers : List HeaderValueOption) : List String :=
  (headers.filter (·.key == name)).map (·.value)

def ImmediateResponse.reply (r : ImmediateResponse) : Reply := ⟨r.status, r.headers, r.body⟩

def CheckResponse.reply? : CheckResponse → Option Reply
  | .ok .. => none
  | .denied status headers body _ => some ⟨status, headers, body⟩

/-- What was refused: a request, with a challenge, or a payment while the breaker is open. -/
inductive Refusal where
  | denied (challenge : PaymentRequired) (receipt : Option SettlementResponse)
  | settlementUnavailable

def Decision.refusal? [Platform] : Decision → Option Refusal
  | .allow .. => none
  | .deny challenge receipt _ => some (.denied challenge receipt)

/-- A gRPC error without a body. -/
structure Reply.TrailersOnly (r : Reply) : Prop where
  status : r.status = 200
  contentType : sentUnder "content-type" r.headers = ["application/grpc"]
  grpcStatus : ∃ code, sentUnder "grpc-status" r.headers = [code] ∧ code ≠ "0"
  body : r.body = ""

variable [Platform]

/-- An HTTP error with a JSON body. -/
structure Reply.JsonError (r : Reply) : Prop where
  status : 400 ≤ r.status ∧ r.status < 600
  contentType : sentUnder "content-type" r.headers = ["application/json"]
  grpcStatus : sentUnder "grpc-status" r.headers = []
  body : ∃ json, r.body = Platform.jsonToString json

/-- The refusal is framed for the client, and a denial carries its challenge, and its receipt when
there is one. -/
def Framed (grpc : Bool) (refusal : Refusal) (r : Reply) : Prop :=
  (if grpc then r.TrailersOnly else r.JsonError) ∧
  match refusal with
  | .denied challenge receipt =>
    (grpc = false → r.status = 402) ∧
      sentUnder headerPaymentRequired r.headers = [encodeHeader challenge.toJson] ∧
      sentUnder headerPaymentResponse r.headers = (receipt.map fun s => encodeHeader s.toJson).toList
  | .settlementUnavailable => True

/-! ## The encoders -/

omit [Platform] in
/-- The headers this is about. -/
def framingNames : List String :=
  [headerPaymentRequired, headerPaymentResponse, "content-type", "grpc-status"]

omit [Platform] in
@[simp] theorem sentUnder_nil (name : String) : sentUnder name [] = [] := rfl

omit [Platform] in
@[simp] theorem plain_key (key value : String) : (plain key value).key = key := rfl

omit [Platform] in
@[simp] theorem plain_value (key value : String) : (plain key value).value = value := rfl

omit [Platform] in
@[simp] theorem header_key (key value : String) : (header key value).key = key := rfl

omit [Platform] in
@[simp] theorem header_value (key value : String) : (header key value).value = value := rfl

omit [Platform] in
@[simp] theorem sentUnder_append (name : String) (hs hs' : List HeaderValueOption) :
    sentUnder name (hs ++ hs') = sentUnder name hs ++ sentUnder name hs' := by
  simp [sentUnder]

omit [Platform] in
theorem sentUnder_cons (name : String) (h : HeaderValueOption) (hs : List HeaderValueOption) :
    sentUnder name (h :: hs) = if h.key = name then h.value :: sentUnder name hs else sentUnder name hs := by
  by_cases hkey : h.key = name <;> simp [sentUnder, hkey]

omit [Platform] in
theorem sentUnder_meter (meter : Meter) (toHeader : String × String → HeaderValueOption)
    (htoHeader : ∀ e, (toHeader e).key = e.1) :
    ∀ name ∈ framingNames, sentUnder name (meter.headers.map toHeader) = [] := by
  have hkeys : ∀ name ∈ framingNames,
      ∀ key ∈ ["x-x402-free-remaining", "x-x402-free-limit", "x-x402-free-reset",
        "x-x402-session-remaining", "x-x402-session-quota", "x-x402-session-expires"],
      key ≠ name := by decide +kernel
  intro name hname
  have hkey := hkeys name hname
  simp only [List.forall_mem_cons] at hkey
  cases meter <;> simp [Meter.headers, sentUnder, htoHeader, hkey]

omit [Platform] in
theorem sentUnder_option {α : Type} (name : String) (a : Option α) (toHeader : α → HeaderValueOption)
    (key : String) (hkey : ∀ a, (toHeader a).key = key) :
    sentUnder name (a.map toHeader).toList =
      if key = name then (a.map fun a => (toHeader a).value).toList else [] := by
  cases a <;> simp [sentUnder_cons, hkey]

/-- **ext_authz.** A denial is framed the way it is asked to be. -/
theorem framed_decisionToResponse (challenge : PaymentRequired)
    (receipt : Option SettlementResponse) (meter : Meter) (clientIp : Option IpAddr) (grpc : Bool) :
    ∃ r, (decisionToResponse (.deny challenge receipt meter) clientIp grpc).reply? = some r ∧
      Framed grpc (.denied challenge receipt) r := by
  have hmeter := sentUnder_meter meter (fun header => plain header.1 header.2) fun _ => rfl
  simp only [framingNames, List.forall_mem_cons, headerPaymentRequired, headerPaymentResponse]
    at hmeter
  obtain ⟨hrequired, hresponse, hcontent, hgrpc, -⟩ := hmeter
  have hreceipt := fun name => sentUnder_option name receipt
    (fun r => plain headerPaymentResponse (encodeHeader r.toJson)) headerPaymentResponse fun _ => rfl
  simp only [headerPaymentResponse] at hreceipt
  cases grpc with
  | true =>
    refine ⟨_, rfl, ⟨rfl, ?_, ⟨"8", ?_, by decide⟩, rfl⟩, by simp, ?_, ?_⟩ <;>
      simp [sentUnder_cons, hrequired, hresponse, hcontent, hgrpc, hreceipt,
        headerPaymentRequired, headerPaymentResponse, grpcStatusResourceExhausted]
  | false =>
    refine ⟨_, rfl, ⟨by simp, ?_, ?_, _, rfl⟩, fun _ => rfl, ?_, ?_⟩ <;>
      simp [sentUnder_cons, hrequired, hresponse, hcontent, hgrpc, hreceipt,
        headerPaymentRequired, headerPaymentResponse]

/-- **ext_proc, a denial.** It is an HTTP 402 for every client. -/
theorem framed_denyReply_iff (challenge : PaymentRequired) (receipt : Option SettlementResponse)
    (meter : Meter) (decideMs : String) (grpc : Bool) :
    ∃ r, denyReply challenge receipt meter decideMs = .immediateResponse r ∧
      (Framed grpc (.denied challenge receipt) r.reply ↔ grpc = false) := by
  refine ⟨_, rfl, fun h => ?_, ?_⟩
  · by_contra hgrpc
    rw [Bool.not_eq_false] at hgrpc
    subst hgrpc
    exact absurd h.1.status (by simp [ImmediateResponse.reply])
  · rintro rfl
    have hmeter := sentUnder_meter meter (fun entry => header entry.1 entry.2) fun _ => rfl
    simp only [framingNames, List.forall_mem_cons, headerPaymentRequired, headerPaymentResponse]
      at hmeter
    obtain ⟨hrequired, hresponse, hcontent, hgrpc, -⟩ := hmeter
    have hreceipt := fun name => sentUnder_option name receipt
      (fun r => header headerPaymentResponse (encodeHeader r.toJson)) headerPaymentResponse
      fun _ => rfl
    simp only [headerPaymentResponse] at hreceipt
    refine ⟨⟨by simp [ImmediateResponse.reply], ?_, ?_, _, rfl⟩, fun _ => rfl, ?_, ?_⟩ <;>
      simp [ImmediateResponse.reply, sentUnder_cons, hrequired, hresponse, hcontent, hgrpc,
        hreceipt, headerPaymentRequired, headerPaymentResponse, headerServerTiming]

omit [Platform] in
/-- The paths `settlementUnavailable` takes for gRPC. -/
def isGrpcPath (path : String) : Bool :=
  startsWith path "/sui.rpc.v2." || startsWith path "/grpc."

/-- **ext_proc, an open breaker.** The status follows the path, and the body is JSON either way. -/
theorem framed_settlementUnavailable_iff (hjson : ∀ fields, Platform.jsonToString (.obj fields) ≠ "")
    (path : String) (grpc : Bool) :
    ∃ r, settlementUnavailable path = .immediateResponse r ∧
      (Framed grpc .settlementUnavailable r.reply ↔ grpc = false ∧ isGrpcPath path = false) := by
  refine ⟨_, rfl, ?_⟩
  cases grpc with
  | true =>
    refine ⟨fun h => absurd h.1.body (hjson _), fun h => absurd h.1 (by decide)⟩
  | false =>
    cases hpath : isGrpcPath path with
    | true =>
      refine ⟨fun h => absurd h.1.status.1 ?_, fun h => absurd h.2 (by decide)⟩
      simp [ImmediateResponse.reply, isGrpcPath] at hpath ⊢
      simp [hpath]
    | false =>
      refine ⟨fun _ => ⟨rfl, rfl⟩, fun _ => ⟨⟨?_, ?_, ?_, _, rfl⟩, trivial⟩⟩ <;>
        simp_all [ImmediateResponse.reply, isGrpcPath, sentUnder_cons]

/-! ## Whole requests -/

/-- What ext_proc refuses: a payment the breaker does not accept, or what the decision does. -/
def Service.processRefusal (svc : Service) (headers : Option (List HeaderValue))
    (clientIp : Option IpAddr) (policy : Option String) (answer : Answers) : Option Refusal :=
  let breaker : BreakerState := answer 0 (.breakerState (breakerPolicy policy))
  let view : HeaderView := ⟨some (headerMap headers)⟩
  if ¬ breaker.acceptsPayment ∧ (view.get headerPaymentSignature).isSome then
    some .settlementUnavailable
  else ((svc.processDecision headers clientIp policy).eval fun n => answer (n + 1)).1.refusal?

theorem check_framed (svc : Service) (request : CheckRequest) (answer : Answers) {refusal : Refusal}
    (h : ((svc.checkDecision request).eval answer).1.refusal? = some refusal) :
    ∃ r, ((svc.check request).eval answer).1.reply? = some r ∧
      Framed (isGrpcRequest ⟨request.http.map (·.headers)⟩) refusal r := by
  simp only [Service.check, Prog.bind_eq, Prog.eval_bind, Prog.pure_eq, Prog.eval_pure]
  simp only [Service.checkDecision] at h
  generalize ((svc.decide _ _ _ _ _ _).eval answer).1 = decision at h ⊢
  cases decision with
  | allow => cases h
  | deny challenge receipt meter =>
    cases h
    exact framed_decisionToResponse challenge receipt meter _ _

theorem process_framed_iff (hjson : ∀ fields, Platform.jsonToString (.obj fields) ≠ "") (svc : Service)
    (st : StreamState) (headers : Option (List HeaderValue)) (clientIp : Option IpAddr)
    (policy : Option String) (decideMs : String) (answer : Answers) {refusal : Refusal}
    (h : svc.processRefusal headers clientIp policy answer = some refusal) (grpc : Bool) :
    ∃ r, ((svc.handleRequestHeaders st headers clientIp policy decideMs).eval answer).1.1 =
        .immediateResponse r ∧
      (Framed grpc refusal r.reply ↔ grpc = false ∧
        (refusal = .settlementUnavailable →
          isGrpcPath (((headerMap headers).get? ":path").getD "") = false)) := by
  rw [handleRequestHeaders_eq, Prog.eval_call]
  simp only [Service.processRefusal] at h
  dsimp only
  split at h
  · rename_i hrefuses
    cases h
    rw [if_pos hrefuses]
    simpa using framed_settlementUnavailable_iff hjson _ grpc
  · rename_i hasks
    rw [if_neg hasks, Prog.eval_bind]
    obtain ⟨decision, hdecision⟩ : ∃ d, ((svc.processDecision headers clientIp policy).eval
      fun n => answer (n + 1)).1 = d := ⟨_, rfl⟩
    simp only [hdecision] at h ⊢
    cases decision with
    | allow => cases h
    | deny challenge receipt meter =>
      cases h
      simpa using framed_denyReply_iff challenge receipt meter decideMs grpc

/-- **How refusals are framed.** By ext_authz, for the client, whatever is refused. By ext_proc, for
the client just when it is no gRPC client and, if the breaker refused, the path is no gRPC path. -/
theorem refusals_framed_iff (hjson : ∀ fields, Platform.jsonToString (.obj fields) ≠ "") (svc : Service) :
    (∀ challenge receipt meter clientIp grpc,
      ∃ r, (decisionToResponse (.deny challenge receipt meter) clientIp grpc).reply? = some r ∧
        Framed grpc (.denied challenge receipt) r) ∧
    (∀ request answer refusal,
      ((svc.checkDecision request).eval answer).1.refusal? = some refusal →
      ∃ r, ((svc.check request).eval answer).1.reply? = some r ∧
        Framed (isGrpcRequest ⟨request.http.map (·.headers)⟩) refusal r) ∧
    ∀ st headers clientIp policy decideMs answer refusal,
      svc.processRefusal headers clientIp policy answer = some refusal →
      let grpc := isGrpcRequest ⟨some (headerMap headers)⟩
      ∃ r, ((svc.handleRequestHeaders st headers clientIp policy decideMs).eval answer).1.1 =
          .immediateResponse r ∧
        (Framed grpc refusal r.reply ↔ grpc = false ∧
          (refusal = .settlementUnavailable →
            isGrpcPath (((headerMap headers).get? ":path").getD "") = false)) :=
  ⟨framed_decisionToResponse, fun request answer _ h => check_framed svc request answer h,
    fun st headers clientIp policy decideMs answer _ h =>
      process_framed_iff hjson svc st headers clientIp policy decideMs answer h _⟩

/-- A gRPC request, with no payment and no address. -/
def grpcHeaders : Option (List HeaderValue) :=
  some [{ key := "content-type", value := "application/grpc" }]

/-- A JSON request for a path, with no payment and no address. -/
def jsonHeaders : Option (List HeaderValue) :=
  some [{ key := ":path", value := "/v1/objects" }, { key := "content-type", value := "application/json" }]

omit [Platform] in
theorem refusals_framed_iff_example :
    let _ : Platform := printingPlatform
    let svc := Service.ofConfig (exampleConfig .stubAcceptAll)
    let answer : Answers := fun _ op =>
      (svc.exec (exampleEnv 1000) (.ofConfig (exampleConfig .stubAcceptAll) []) op).1
    (∀ fields, Platform.jsonToString (.obj fields) ≠ "") ∧
      ∀ headers ∈ [jsonHeaders, grpcHeaders],
        ∃ refusal, svc.processRefusal headers none none answer = some refusal ∧
        ∃ r, ((svc.handleRequestHeaders {} headers none none "0.0").eval answer).1.1 =
            .immediateResponse r ∧
          (Framed (isGrpcRequest ⟨some (headerMap headers)⟩) refusal r.reply ↔
            isGrpcRequest ⟨some (headerMap headers)⟩ = false ∧
            (refusal = .settlementUnavailable →
              isGrpcPath (((headerMap headers).get? ":path").getD "") = false)) := by
  let _ : Platform := printingPlatform
  have hjson : ∀ fields, Platform.jsonToString (.obj fields) ≠ "" := Json.print_obj_ne_empty
  refine ⟨hjson, fun headers hmem => ?_⟩
  have hrefused : ∃ refusal, (Service.ofConfig (exampleConfig .stubAcceptAll)).processRefusal headers
      none none (fun _ op => ((Service.ofConfig (exampleConfig .stubAcceptAll)).exec (exampleEnv 1000)
        (.ofConfig (exampleConfig .stubAcceptAll) []) op).1) = some refusal := by
    rcases List.mem_cons.mp hmem with rfl | hmem
    · exact ⟨_, rfl⟩
    · obtain rfl := List.mem_singleton.mp hmem
      exact ⟨_, rfl⟩
  obtain ⟨refusal, hrefused⟩ := hrefused
  exact ⟨refusal, hrefused, (@refusals_framed_iff printingPlatform hjson
    (.ofConfig (exampleConfig .stubAcceptAll))).2.2 {} headers none none "0.0" _ _ hrefused⟩

omit [Platform] in
/-- **An HTTP 402 for a gRPC client.** -/
theorem grpc_denial_sent_as_http_402 :
    ¬ ∀ (_ : Platform) (svc : Service) (st : StreamState) (headers : Option (List HeaderValue))
      (clientIp : Option IpAddr) (policy : Option String) (decideMs : String) (answer : Answers)
      (refusal : Refusal) (r : ImmediateResponse),
      svc.processRefusal headers clientIp policy answer = some refusal →
      ((svc.handleRequestHeaders st headers clientIp policy decideMs).eval answer).1.1 =
        .immediateResponse r →
      Framed (isGrpcRequest ⟨some (headerMap headers)⟩) refusal r.reply := by
  intro h
  let _ : Platform := printingPlatform
  let svc := Service.ofConfig (exampleConfig .stubAcceptAll)
  let answer : Answers := fun _ op =>
    (svc.exec (exampleEnv 1000) (.ofConfig (exampleConfig .stubAcceptAll) []) op).1
  have hframed := h printingPlatform svc {} grpcHeaders none none "0.0" answer _ _ rfl rfl
  have hgrpc : isGrpcRequest ⟨some (headerMap grpcHeaders)⟩ = true := by decide +kernel
  rw [hgrpc] at hframed
  exact absurd hframed.1.status (by decide)

end X402Verifier
