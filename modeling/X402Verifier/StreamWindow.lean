import X402Verifier.IdentityHeaders
import X402Verifier.StreamSettlement

/-!
# The window of a paid stream

A gRPC stream on the paid tier is to end with what was paid for: the gateway overwrites the client's
`grpc-timeout` by one that is well formed and no longer than the session has left, or than a fresh
payment buys (`Bounded`).

The gateway derives the value from the decision's meter, and prints it as seconds. A payment that is
only verified has no meter yet, so its request keeps whatever timeout the client named; and a
session with nine digits of seconds left gets a value that is no timeout.
-/

namespace X402Verifier

open RustStd Interaction

/-! ## Timeouts -/

/-- The units of a timeout, in nanoseconds. -/
def unitNanos : Char → Option Nat
  | 'H' => some 3600000000000
  | 'M' => some 60000000000
  | 'S' => some 1000000000
  | 'm' => some 1000000
  | 'u' => some 1000
  | 'n' => some 1
  | _ => none

/-- The duration of a well-formed `grpc-timeout`: one to eight digits, then the unit. -/
def timeoutNanos (value : String) : Option Nat :=
  match value.toList.reverse with
  | [] => none
  | unit :: digits =>
    if digits.length ≤ 8 then
      (digits? digits.reverse).bind fun n => (unitNanos unit).map fun nanos => n * nanos
    else none

/-- Seconds are a timeout as long as they fit eight digits. -/
theorem timeoutNanos_seconds (n : Nat) :
    timeoutNanos (toString n ++ "S") = if n ≤ 99999999 then some (n * 1000000000) else none := by
  have hreverse : (toString n ++ "S").toList.reverse = 'S' :: (Nat.toDigits 10 n).reverse := by
    rw [String.toList_append, toList_toString, List.reverse_append]
    rfl
  have hlength : (Nat.toDigits 10 n).length ≤ 8 ↔ n ≤ 99999999 := by
    rw [Nat.length_toDigits_le_iff (by decide) (by decide)]
    omega
  simp only [timeoutNanos, hreverse, List.length_reverse, hlength, List.reverse_reverse,
    digits?_toDigits]
  rfl

/-! ## What was bought -/

variable [Platform]

/-- The seconds a session has left, when the store accepts the presented token. -/
def sessionLeft (token policy : Option String) (answer : Answers) : Option Nat :=
  token.bind fun token =>
    match (answer 0 (.consume token policy) : SessionOutcome) with
    | .accepted _ _ _ expiresAt =>
      let now : Nat := answer 1 .nowEpochSecs
      some (expiresAt - now)
    | .rejected _ => none

theorem eval_honorSession_left (token policy : Option String) (answer : Answers) :
    match sessionLeft token policy answer with
    | some left => ∃ payer remaining quota, ((honorSession token policy).eval answer).1 =
        some (.allow .paid (some payer) none none none (.session remaining quota left))
    | none => ((honorSession token policy).eval answer).1 = none := by
  cases token with
  | none => rfl
  | some token =>
    obtain ⟨outcome, hc⟩ : ∃ o, (answer 0 (.consume token policy) : SessionOutcome) = o := ⟨_, rfl⟩
    simp only [honorSession, call, Prog.bind_eq, Prog.perform_bind, sessionLeft, Option.bind_some,
      Prog.eval_call, hc]
    cases outcome with
    | rejected reason => rfl
    | accepted payer remaining quota expiresAt => exact ⟨payer, remaining, quota, rfl⟩

/-- The seconds a decision leaves on the meter, if a session was honored. -/
def Decision.metered? : Decision → Option Nat
  | .allow _ _ _ _ _ (.session _ _ left) => some left
  | _ => none

/-- A payment is allowed only once it is verified, and then nothing is on the meter. -/
theorem metered_of_decidePayment (svc : Service) (terms : Terms) (policy : Option String)
    (decoded : Except HeaderDecodeError PaymentPayload) (answer : Answers) :
    ((svc.decidePayment terms policy .deferred decoded).eval answer).1.metered? = none := by
  have hmetered : ∀ calls d, svc.PaymentCalls terms policy .deferred decoded calls d →
      d.metered? = none := by
    intro calls d h
    cases h <;> rfl
  exact hmetered _ _ (calls_decidePayment svc terms policy .deferred decoded answer)

theorem identity_of_decideFree (terms : Terms) (clientIp : Option IpAddr) (answer : Answers)
    (payer : Option String) :
    ((terms.decideFree clientIp).eval answer).1.identity? ≠ some (.paid, payer) := by
  have hidentity : ∀ calls d, terms.FreeCalls clientIp calls d →
      d.identity? ≠ some (.paid, payer) := by
    intro calls d h
    cases h <;> simp [Decision.identity?]
  exact hidentity _ _ (calls_decideFree terms clientIp answer)

/-- **What is on the meter.** A request allowed on the paid tier has what its session has left, and
nothing if it presented a payment instead. -/
theorem metered_of_decide (svc : Service) {headers : HeaderView} {clientIp : Option IpAddr}
    {path : String} {policy : Option String} {resourceUrl : String} {answer : Answers}
    {payer : Option String}
    (h : ((svc.decide headers clientIp path policy resourceUrl .deferred).eval answer).1.identity? =
      some (.paid, payer)) :
    ((svc.decide headers clientIp path policy resourceUrl .deferred).eval answer).1.metered? =
      sessionLeft (presentedToken headers) policy answer := by
  have hsession := eval_honorSession_left (presentedToken headers) policy answer
  simp only [Service.decide, Prog.bind_eq, Prog.eval_bind] at h ⊢
  cases hleft : sessionLeft (presentedToken headers) policy answer with
  | some left =>
    rw [hleft] at hsession
    obtain ⟨payer', remaining, quota, hvalue⟩ := hsession
    rw [hvalue]
    rfl
  | none =>
    rw [hleft] at hsession
    rw [show ((honorSession (presentedToken headers) policy).eval answer).1 = none from hsession]
      at h ⊢
    cases hpayment : presentedPayment headers with
    | none =>
      rw [hpayment] at h
      exact absurd h (identity_of_decideFree _ _ _ _)
    | some decoded => exact metered_of_decidePayment svc _ policy decoded _

/-! ## The forwarded timeout -/

omit [Platform] in
/-- The answer lets the request continue under a `grpc-timeout` of the gateway's, which is well
formed and at most so many seconds, and one at least. -/
def Bounded (seconds : Nat) (hs : RawHeaders) (response : ProcessingResponse) : Prop :=
  ∃ mutation value nanos, response = .requestHeaders (some mutation) ∧
    header "grpc-timeout" value ∈ mutation.setHeaders ∧
    valuesOf "grpc-timeout" (forward hs mutation.setHeaders mutation.removeHeaders) = [value] ∧
    timeoutNanos value = some nanos ∧ nanos ≤ max 1 seconds * 1000000000

omit [Platform] in
theorem bounded_iff (seconds : Nat) (hs : RawHeaders) (tier : Tier) (payer timeout : Option String) :
    Bounded seconds hs (.requestHeaders (continueWithRemovals
      ([header headerTier tier.asStr] ++ (payer.map (header headerPayer)).toList ++
        (timeout.map (header "grpc-timeout")).toList)
      [headerPaymentSignature, headerPaymentSession])) ↔
    ∃ value nanos, timeout = some value ∧ timeoutNanos value = some nanos ∧
      nanos ≤ max 1 seconds * 1000000000 := by
  have hreply : continueWithRemovals
      ([header headerTier tier.asStr] ++ (payer.map (header headerPayer)).toList ++
        (timeout.map (header "grpc-timeout")).toList)
      [headerPaymentSignature, headerPaymentSession] = some
        ⟨[header headerTier tier.asStr] ++ (payer.map (header headerPayer)).toList ++
          (timeout.map (header "grpc-timeout")).toList,
          [headerPaymentSignature, headerPaymentSession]⟩ := by simp [continueWithRemovals]
  rw [hreply]
  constructor
  · rintro ⟨_, value, nanos, hmutation, hmem, -, hnanos, hle⟩
    cases hmutation
    refine ⟨value, nanos, ?_, hnanos, hle⟩
    simp only [List.mem_append, List.mem_singleton, Option.mem_toList, Option.map_eq_some_iff,
      header, authoritative, HeaderValueOption.mk.injEq] at hmem
    -- The other two headers have other names.
    rcases hmem with (⟨hkey, -⟩ | ⟨_, -, hkey, -⟩) | ⟨value', hvalue', -, rfl, -⟩
    · exact absurd hkey (by decide)
    · exact absurd hkey (by decide)
    · exact hvalue'
  · rintro ⟨value, nanos, rfl, hnanos, hle⟩
    have hne : value.isEmpty = false := by
      by_contra hempty
      rw [Bool.not_eq_false, String.isEmpty_iff] at hempty
      subst hempty
      cases hnanos
    refine ⟨_, value, nanos, rfl, by simp, ?_, hnanos, hle⟩
    rw [forward, List.foldl_append]
    simp only [Option.map_some, Option.toList_some, List.foldl_cons, List.foldl_nil, header,
      valuesOf_set_self, hne, Bool.false_eq_true, if_false]

theorem grpcTimeoutFor_eq {d : Decision} {tier : Tier} {payer token : Option String}
    {settlement : Option SettlementResponse} {pending : Option PendingPayment} {meter : Meter}
    {view : HeaderView} (hd : d = .allow tier payer token settlement pending meter)
    (hgrpc : isGrpcRequest view = true) :
    grpcTimeoutFor meter view = d.metered?.map fun left => toString (max left 1) ++ "S" := by
  subst hd
  cases meter <;> simp [grpcTimeoutFor, Decision.metered?, hgrpc]

/-- What the request was sold: what its session has left, or what a payment buys. -/
def Service.boughtSecs (svc : Service) (path : String) (policy : Option String) (d : Decision) :
    Nat := d.metered?.getD (svc.config.policyFor path policy).paidTier.durationSecs

/-- A request that is let through is bounded just when its decision's meter fits a timeout. -/
theorem process_bounded_iff (svc : Service) (st : StreamState)
    (headers : Option (List HeaderValue)) (clientIp : Option IpAddr) (policy : Option String)
    (decideMs : String) (answer : Answers) {fwd : RawHeaders}
    (hgrpc : isGrpcRequest ⟨some (headerMap headers)⟩ = true)
    (hforwarded : ((svc.handleRequestHeaders st headers clientIp policy decideMs).eval
      answer).1.1.forwarded (rawHeaders headers) = some fwd) :
    Bounded
        (svc.boughtSecs (((headerMap headers).get? ":path").getD "") policy
          ((svc.processDecision headers clientIp policy).eval fun n => answer (n + 1)).1)
        (rawHeaders headers)
        ((svc.handleRequestHeaders st headers clientIp policy decideMs).eval answer).1.1 ↔
      ∃ left, ((svc.processDecision headers clientIp policy).eval
        fun n => answer (n + 1)).1.metered? = some left ∧ left ≤ 99999999 := by
  rw [handleRequestHeaders_eq, Prog.eval_call] at hforwarded ⊢
  dsimp only at hforwarded ⊢
  split at hforwarded
  · cases hforwarded
  · rename_i hasks
    rw [if_neg hasks, Prog.eval_bind]
    rw [Prog.eval_bind] at hforwarded
    obtain ⟨d, hd⟩ : ∃ d, ((svc.processDecision headers clientIp policy).eval
      fun n => answer (n + 1)).1 = d := ⟨_, rfl⟩
    simp only [hd] at hforwarded ⊢
    cases d with
    | deny => cases hforwarded
    | allow tier payer token settlement pending meter =>
      refine (bounded_iff _ _ tier payer (grpcTimeoutFor meter _)).trans ?_
      rw [grpcTimeoutFor_eq rfl hgrpc, Service.boughtSecs]
      -- Without a meter no timeout is set; with one it is set if its seconds fit eight digits.
      cases (Decision.allow tier payer token settlement pending meter).metered? with
      | none => simp
      | some left =>
        simp only [Option.map_some, Option.some.injEq, Option.getD_some, exists_eq_left']
        constructor
        · rintro ⟨_, nanos, rfl, hnanos, -⟩
          by_contra hle
          have hlong : ¬ max left 1 ≤ 99999999 := by omega
          rw [timeoutNanos_seconds, if_neg hlong] at hnanos
          cases hnanos
        · intro hle
          have hshort : max left 1 ≤ 99999999 := by omega
          exact ⟨_, _, rfl, by rw [timeoutNanos_seconds, if_pos hshort],
            Nat.mul_le_mul_right _ (max_comm left 1).le⟩

/-- **Which paid streams are bounded.** On the paid tier a gRPC request is forwarded under a timeout
that bounds it by what was bought just when a session pays for it that has at most eight digits of
seconds left. -/
theorem paid_stream_bounded_iff (svc : Service) (st : StreamState)
    (headers : Option (List HeaderValue)) (clientIp : Option IpAddr) (policy : Option String)
    (decideMs : String) (answer : Answers) (payer : Option String) (fwd : RawHeaders)
    (hgrpc : isGrpcRequest ⟨some (headerMap headers)⟩ = true)
    (hforwarded : ((svc.handleRequestHeaders st headers clientIp policy decideMs).eval
      answer).1.1.forwarded (rawHeaders headers) = some fwd)
    (hpaid : ((svc.processDecision headers clientIp policy).eval
      fun n => answer (n + 1)).1.identity? = some (.paid, payer)) :
    Bounded
        (svc.boughtSecs (((headerMap headers).get? ":path").getD "") policy
          ((svc.processDecision headers clientIp policy).eval fun n => answer (n + 1)).1)
        (rawHeaders headers)
        ((svc.handleRequestHeaders st headers clientIp policy decideMs).eval answer).1.1 ↔
      ∃ left, sessionLeft (presentedToken ⟨some (headerMap headers)⟩) policy
        (fun n => answer (n + 1)) = some left ∧ left ≤ 99999999 := by
  have hmetered : ((svc.processDecision headers clientIp policy).eval
      fun n => answer (n + 1)).1.metered? = _ := metered_of_decide svc hpaid
  rw [← hmetered]
  exact process_bounded_iff svc st headers clientIp policy decideMs answer hgrpc hforwarded

omit [Platform] in
/-- A gRPC request under a session. -/
def sessionRequest : Option (List HeaderValue) :=
  some [{ key := "content-type", value := "application/grpc" },
    { key := headerPaymentSession, value := "token" }]

/-- The session has a minute left. -/
def sessionAnswers : Answers := fun _ op =>
  match op with
  | .nowEpochSecs => (1000 : Nat)
  | .consume _ _ => SessionOutcome.accepted "0xp" 9 10 1060
  | op => (Service.exec (.ofConfig (exampleConfig .stubAcceptAll)) (exampleEnv 1000)
      (.ofConfig (exampleConfig .stubAcceptAll) []) op).1

omit [Platform] in
theorem paid_stream_bounded_iff_example :
    let _ : Platform := examplePlatform
    let svc := Service.ofConfig (exampleConfig .stubAcceptAll)
    isGrpcRequest ⟨some (headerMap sessionRequest)⟩ = true ∧
    ∃ fwd, ((svc.handleRequestHeaders {} sessionRequest none none "0.0").eval
        sessionAnswers).1.1.forwarded (rawHeaders sessionRequest) = some fwd ∧
      ((svc.processDecision sessionRequest none none).eval
        fun n => sessionAnswers (n + 1)).1.identity? = some (.paid, some "0xp") ∧
      (Bounded
          (svc.boughtSecs (((headerMap sessionRequest).get? ":path").getD "") none
            ((svc.processDecision sessionRequest none none).eval fun n => sessionAnswers (n + 1)).1)
          (rawHeaders sessionRequest)
          ((svc.handleRequestHeaders {} sessionRequest none none "0.0").eval sessionAnswers).1.1 ↔
        ∃ left, sessionLeft (presentedToken ⟨some (headerMap sessionRequest)⟩) none
          (fun n => sessionAnswers (n + 1)) = some left ∧ left ≤ 99999999) := by
  let _ : Platform := examplePlatform
  have hgrpc : isGrpcRequest ⟨some (headerMap sessionRequest)⟩ = true := by decide +kernel
  have hforwarded : (((Service.ofConfig (exampleConfig .stubAcceptAll)).handleRequestHeaders {}
      sessionRequest none none "0.0").eval sessionAnswers).1.1.forwarded
        (rawHeaders sessionRequest) = some [("content-type", "application/grpc"),
          (headerTier, "paid"), (headerPayer, "0xp"), ("grpc-timeout", "60S")] := by
    decide +kernel
  exact ⟨hgrpc, _, hforwarded, by decide +kernel, @paid_stream_bounded_iff examplePlatform _ {} _
    none none "0.0" sessionAnswers (some "0xp") _ hgrpc hforwarded (by decide +kernel)⟩

/-- A gRPC client that pays, and asks for more than a millennium. -/
def longTimeout : List HeaderValue :=
  [{ key := "content-type", value := "application/grpc" },
    { key := "grpc-timeout", value := "99999999H" }]

omit [Platform] in
/-- **A timeout of the client's own.** The first request of a payment is let through under the
timeout that the client sent. -/
theorem fresh_payment_unbounded :
    ¬ ∀ (_ : Platform) (config : Config) (hmacKey : Bytes) (headers : Option (List HeaderValue))
      (clientIp : Option IpAddr) (policy : Option String) (env : Env) (payer : Option String)
      (fwd : RawHeaders), config.validate = .ok () →
      let svc := Service.ofConfig config
      let answer : Answers := fun _ op => (svc.exec env (.ofConfig config hmacKey) op).1
      isGrpcRequest ⟨some (headerMap headers)⟩ = true →
      ((svc.handleRequestHeaders {} headers clientIp policy "0.0").eval answer).1.1.forwarded
        (rawHeaders headers) = some fwd →
      ((svc.processDecision headers clientIp policy).eval
        fun n => answer (n + 1)).1.identity? = some (.paid, payer) →
      Bounded
        (svc.boughtSecs (((headerMap headers).get? ":path").getD "") policy
          ((svc.processDecision headers clientIp policy).eval fun n => answer (n + 1)).1)
        (rawHeaders headers)
        ((svc.handleRequestHeaders {} headers clientIp policy "0.0").eval answer).1.1 := by
  intro h
  let _ : Platform := paymentPlatform "1000"
  let svc := Service.ofConfig (exampleConfig .stubAcceptAll)
  let answer : Answers := fun _ op =>
    (svc.exec (exampleEnv 1000) (.ofConfig (exampleConfig .stubAcceptAll) []) op).1
  let request := paymentRequest "1000" longTimeout
  have hne : utf8 (paymentText "1000") ≠ [] := by decide +kernel
  have hgrpc : isGrpcRequest ⟨some (headerMap request)⟩ = true := by
    rw [isGrpcRequest, headerMap_paymentRequest, HeaderView.get_insert_ne _ _ (by decide +kernel)]
    decide +kernel
  have hpayment : presentedPayment ⟨some (headerMap request)⟩ =
      some (.ok (payloadAccepting "1000")) := presentedPayment_paymentRequest "1000" longTimeout hne
  have htoken : presentedToken ⟨some (headerMap request)⟩ = none :=
    presentedToken_paymentRequest "1000" longTimeout hne (by decide +kernel)
  have hdecision := processDecision_of_payment svc none none htoken hpayment
  -- The request is let through on the paid tier, under the client's own `grpc-timeout`.
  have hpaid : ((svc.processDecision request none none).eval
      fun n => answer (n + 1)).1.identity? = some (.paid, some ("0x" ++ exampleId)) := by
    rw [hdecision]
    decide +kernel
  obtain ⟨fwd, hforwarded⟩ := forwarded_of_identity svc {} request none none "0.0" answer rfl hpaid
  have hbounded := h (paymentPlatform "1000") (exampleConfig .stubAcceptAll) [] request none none
    (exampleEnv 1000) _ fwd rfl hgrpc hforwarded hpaid
  -- To be bounded it would need a meter, and a fresh payment has none.
  obtain ⟨left, hleft, -⟩ := (process_bounded_iff svc {} request none none "0.0" answer hgrpc
    hforwarded).mp hbounded
  rw [hdecision, metered_of_decidePayment] at hleft
  cases hleft

end X402Verifier
