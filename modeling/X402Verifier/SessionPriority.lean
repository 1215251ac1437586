import X402Verifier.SessionScope

/-!
# Sessions before charges

A request can carry a session token in two places: echoed in its payment's extensions, or in
`x-payment-session`. `decide` presents one of them, the echoed one if there is one, and an honored
session ends the decision before the payment is claimed.

So a held session is honored whichever way it travels, unless a stale token is echoed over it
(`held_session_honored_iff`). The breaker's gate stands before all this and looks at the payment
header alone: it refuses a request that a session would have served (`gate_spares_sessions_iff`).
-/

namespace X402Verifier

open RustStd Interaction

variable [Platform]

/-- The session tokens a request carries, on either channel. -/
def carriedTokens (headers : HeaderView) : List String :=
  (echoedToken headers).toList ++ (headers.get headerPaymentSession).toList

/-- The store would accept the token under this policy. -/
def SessionStore.WouldAccept (s : SessionStore) (env : StoreEnv) (policy : Option String)
    (token : String) : Prop := (s.consume env token policy).1.isAccepted = true

/-- Of the tokens the request carries, this is the one that would be accepted. -/
def SessionStore.SoleLive (s : SessionStore) (env : StoreEnv) (policy : Option String)
    (headers : HeaderView) (token : String) : Prop :=
  token ∈ carriedTokens headers ∧ s.WouldAccept env policy token ∧
    ∀ other ∈ carriedTokens headers, s.WouldAccept env policy other → other = token

/-- The decision serves the request from this session: it is allowed on the paid tier, the session
is spent from once and nothing else changes, no payment is claimed and none is settled. -/
structure HonoredBy (s : AppState) (env : StoreEnv) (policy : Option String) (token : String)
    (out : Prog.Outcome Op.Ret AppState Decision) : Prop where
  allowed : out.value.servedFromSession = true
  spent : out.state = { s with sessions := (s.sessions.consume env token policy).2 }
  unclaimed : ∀ e ∈ out.events, ∀ id ttlSecs, e.1 ≠ .claimPayment id ttlSecs
  unsettled : ∀ e ∈ out.events, ∀ payload requirements, e.1 ≠ .settle payload requirements

section Decide

variable (svc : Service) {headers : HeaderView} {token : String} (clientIp : Option IpAddr)
  (path : String) {policy : Option String} (resourceUrl : String) (settlePolicy : SettlePolicy)
  (env : Nat → Env) {s : AppState}

omit [Platform] in
theorem SessionOutcome.isAccepted_iff {outcome : SessionOutcome} :
    outcome.isAccepted = true ↔
      ∃ payer remaining quota expiresAt, outcome = .accepted payer remaining quota expiresAt := by
  cases outcome with
  | accepted payer remaining quota expiresAt => simp [SessionOutcome.isAccepted]
  | rejected reason => simp [SessionOutcome.isAccepted]

/-- The presented token, when it would be accepted. -/
theorem honoredBy_of_presented (htoken : presentedToken headers = some token)
    (hlive : s.sessions.WouldAccept (env 0).store policy token) :
    HonoredBy s (env 0).store policy token
      (svc.alone (svc.decide headers clientIp path policy resourceUrl settlePolicy) env s) := by
  obtain ⟨payer, remaining, quota, expiresAt, houtcome⟩ := SessionOutcome.isAccepted_iff.mp hlive
  have hconsume : s.sessions.consume (env 0).store token policy =
      (.accepted payer remaining quota expiresAt,
        (s.sessions.consume (env 0).store token policy).2) := Prod.ext houtcome rfl
  rw [run_decide_of_accepted svc clientIp path resourceUrl settlePolicy htoken hconsume]
  exact ⟨rfl, rfl, by simp, by simp⟩

/-- A decision that is left to the payment or the free tier is not served from a session. -/
theorem unserved_decideUnsessioned :
    ((svc.alone (svc.decideUnsessioned headers clientIp path policy resourceUrl settlePolicy) env
      s).value).servedFromSession = false := by
  unfold Service.decideUnsessioned
  cases presentedPayment headers with
  | none => exact ((calls_decideFree _ clientIp).run env s).unserved
  | some decoded => exact ((calls_decidePayment svc _ policy settlePolicy decoded).run env s).unserved

/-- The presented token, when it would not be. -/
theorem unserved_of_presented (htoken : presentedToken headers = some token)
    (hdead : ¬ s.sessions.WouldAccept (env 0).store policy token) :
    ((svc.alone (svc.decide headers clientIp path policy resourceUrl settlePolicy) env
      s).value).servedFromSession = false := by
  obtain ⟨outcome, houtcome⟩ :
    ∃ o, (s.sessions.consume (env 0).store token policy).1 = o := ⟨_, rfl⟩
  cases outcome with
  | accepted payer remaining quota expiresAt =>
    exact absurd (SessionOutcome.isAccepted_iff.mpr ⟨_, _, _, _, houtcome⟩) hdead
  | rejected reason =>
    have hconsume : s.sessions.consume (env 0).store token policy =
        (.rejected reason, (s.sessions.consume (env 0).store token policy).2) :=
      Prod.ext houtcome rfl
    rw [run_decide_of_rejected svc clientIp path resourceUrl settlePolicy htoken hconsume]
    exact unserved_decideUnsessioned svc clientIp path resourceUrl settlePolicy _

/-- A stale token is echoed over one that would be accepted. -/
def SessionStore.Shadowed (s : SessionStore) (env : StoreEnv) (policy : Option String)
    (headers : HeaderView) : Prop :=
  ∃ echoed held, echoedToken headers = some echoed ∧ ¬ s.WouldAccept env policy echoed ∧
    headers.get headerPaymentSession = some held ∧ s.WouldAccept env policy held

end Decide

def Decision.reply (view : HeaderView) (decideMs : String) : Decision → ProcessingResponse
  | .allow tier payer _ _ _ meter => allowReply tier payer meter view
  | .deny challenge receipt meter => denyReply challenge receipt meter decideMs

/-- The status of a reply that ends the request. -/
def ProcessingResponse.immediateStatus : ProcessingResponse → Option Nat
  | .immediateResponse response => some response.status
  | _ => none

theorem reply_ne_settlementUnavailable (view : HeaderView) (decideMs path : String)
    (d : Decision) : d.reply view decideMs ≠ settlementUnavailable path := by
  intro h
  have hstatus := congrArg ProcessingResponse.immediateStatus h
  cases d with
  | allow tier payer token settlement pending meter => cases hstatus
  | deny challenge receipt meter =>
    simp only [Decision.reply, denyReply, settlementUnavailable,
      ProcessingResponse.immediateStatus, Option.some.injEq] at hstatus
    split_ifs at hstatus
    · exact absurd hstatus (by decide)
    · exact absurd hstatus (by decide)

section Gate

variable (svc : Service) (st : StreamState) (headers : Option (List HeaderValue))
  (clientIp : Option IpAddr) (policy : Option String) (decideMs : String) (env : Nat → Env)
  {s : AppState}

/-- What the breaker answers to the request. -/
abbrev gateState (policy : Option String) (now : Nat) (b : SettlementBreaker) : BreakerState :=
  (b.stateAt (breakerPolicy policy) now).1

/-- A payment is refused at the gate while the breaker is open. -/
theorem run_handleRequestHeaders_refused
    (hopen : gateState policy (env 0).store.now s.breaker = .opened)
    (hpayment : (HeaderView.get ⟨some (headerMap headers)⟩ headerPaymentSignature).isSome = true) :
    (svc.alone (svc.handleRequestHeaders st headers clientIp policy decideMs) env s).value.1 =
      settlementUnavailable (((headerMap headers).get? ":path").getD "") := by
  have hgate : ¬ BreakerState.acceptsPayment
        (svc.exec (env 0) s (.breakerState (breakerPolicy policy))).1 = true ∧
      (HeaderView.get ⟨some (headerMap headers)⟩ headerPaymentSignature).isSome = true := by
    show ¬ (gateState policy (env 0).store.now s.breaker).acceptsPayment = true ∧ _
    exact ⟨by rw [hopen]; decide, hpayment⟩
  rw [handleRequestHeaders_eq, Prog.run_call_value]
  dsimp only
  rw [if_pos hgate]
  rfl

/-- Past the gate, the reply is the decision's. -/
theorem run_handleRequestHeaders_passed
    (hpass : (gateState policy (env 0).store.now s.breaker).acceptsPayment = true ∨
      HeaderView.get ⟨some (headerMap headers)⟩ headerPaymentSignature = none) :
    (svc.alone (svc.handleRequestHeaders st headers clientIp policy decideMs) env s).value.1 =
      ((svc.alone (svc.processDecision headers clientIp policy) (fun n => env (n + 1))
        { s with
          breaker := (s.breaker.stateAt (breakerPolicy policy) (env 0).store.now).2 }).value).reply
        ⟨some (headerMap headers)⟩ decideMs := by
  have hgate : ¬ (¬ BreakerState.acceptsPayment
        (svc.exec (env 0) s (.breakerState (breakerPolicy policy))).1 = true ∧
      (HeaderView.get ⟨some (headerMap headers)⟩ headerPaymentSignature).isSome = true) := by
    show ¬ (¬ (gateState policy (env 0).store.now s.breaker).acceptsPayment = true ∧ _)
    rcases hpass with hpass | hpass <;> simp [hpass]
  rw [handleRequestHeaders_eq, Prog.run_call_value]
  dsimp only
  have hstate : (svc.exec (env 0) s (.breakerState (breakerPolicy policy))).2 = { s with
      breaker := (s.breaker.stateAt (breakerPolicy policy) (env 0).store.now).2 } := rfl
  rw [if_neg hgate, Prog.run_bind, hstate]
  dsimp only
  cases (svc.alone (svc.processDecision headers clientIp policy) (fun n => env (n + 1))
    { s with
      breaker := (s.breaker.stateAt (breakerPolicy policy) (env 0).store.now).2 }).value <;> rfl

/-- No call of a decision reads the breaker. -/
theorem exec_breaker_irrelevant {op : Op} (hop : InDecision policy op) (env : Env) (s : AppState)
    (b : SettlementBreaker) :
    (svc.exec env s op).1 = (svc.exec env { s with breaker := b } op).1 ∧
      (svc.exec env { s with breaker := b } op).2 =
        { (svc.exec env s op).2 with breaker := b } := by
  cases hop <;> exact ⟨rfl, rfl⟩

theorem decision_breaker_irrelevant (s : AppState) (b : SettlementBreaker) :
    (svc.alone (svc.processDecision headers clientIp policy) env { s with breaker := b }).value =
      (svc.alone (svc.processDecision headers clientIp policy) env s).value := by
  refine (Prog.Follows.run_congr (R := fun s s' => ∃ b, s' = { s with breaker := b })
    (decides_decide svc _ clientIp _ policy _ .deferred []) ?_ env ⟨b, rfl⟩).symm
  rintro e s _ op hop ⟨b, rfl⟩
  obtain ⟨hsame, hstate⟩ := exec_breaker_irrelevant svc policy hop e s b
  exact ⟨hsame, b, hstate⟩

end Gate

/-- **The gate spares what needs no settlement**, that is requests without a payment and requests
that a session would serve, exactly if these do not carry a payment header with their session. -/
theorem gate_spares_sessions_iff (svc : Service) (st : StreamState)
    (headers : Option (List HeaderValue)) (clientIp : Option IpAddr) (policy : Option String)
    (decideMs : String) (env : Nat → Env) (s : AppState) (opened closed : SettlementBreaker)
    (hopened : gateState policy (env 0).store.now opened = .opened)
    (hclosed : gateState policy (env 0).store.now closed = .closed) :
    let view : HeaderView := ⟨some (headerMap headers)⟩
    let reply (b : SettlementBreaker) := (svc.alone
      (svc.handleRequestHeaders st headers clientIp policy decideMs) env
      { s with breaker := b }).value.1
    (view.get headerPaymentSignature = none ∨
        (∃ token ∈ carriedTokens view, s.sessions.WouldAccept (env 1).store policy token) →
      reply opened = reply closed) ↔
    (view.get headerPaymentSignature = none ∨
      ∀ token ∈ carriedTokens view, ¬ s.sessions.WouldAccept (env 1).store policy token) := by
  intro view reply
  have hpassed : reply closed = _ := run_handleRequestHeaders_passed svc st headers clientIp policy
    decideMs env (.inl (by rw [show gateState policy (env 0).store.now closed = .closed from hclosed]; rfl))
  cases hpayment : view.get headerPaymentSignature with
  | none =>
    have hopenPassed : reply opened = _ := run_handleRequestHeaders_passed svc st headers clientIp
      policy decideMs env (.inr hpayment)
    refine iff_of_true (fun _ => ?_) (.inl rfl)
    have hsame := decision_breaker_irrelevant svc headers clientIp policy (fun n => env (n + 1)) s
    rw [hopenPassed, hpassed]
    exact congrArg (Decision.reply view decideMs) ((hsame _).trans (hsame _).symm)
  | some raw =>
    have hrefused : reply opened = _ := run_handleRequestHeaders_refused svc st headers clientIp
      policy decideMs env hopened (by rw [hpayment]; rfl)
    have hdiffer : reply opened ≠ reply closed := by
      rw [hrefused, hpassed]
      exact (reply_ne_settlementUnavailable _ _ _ _).symm
    simp [hdiffer]

/-! ## A session beside a payment -/

omit [Platform] in
theorem wouldAccept_mint (tables : Tables) {m : MemorySessionStore} {env : StoreEnv}
    {payer id : String} {policy : Option String} {expiresAt quota remaining : Nat}
    (hpayer : TokenField payer.toList) (hid : TokenField id.toList)
    (hget : m.sessions.get? id = some ⟨payer, policy, expiresAt, quota, remaining + 1⟩)
    (hlive : env.now < expiresAt) (hbound : expiresAt < u64Bound) :
    let _ : Platform := tables.platform
    (SessionStore.memory m).WouldAccept env policy (m.codec.mint payer expiresAt id) := by
  intro _
  have hhex : ∀ bytes, TokenField (Platform.hexEncode bytes).toList :=
    fun bytes => String.toList_ofList ▸ tokenField_hexChars bytes
  have hround : ∀ bytes, Platform.hexDecode (Platform.hexEncode bytes) = .ok bytes :=
    fun bytes => (congrArg hexBytes String.toList_ofList).trans (hexBytes_hexChars bytes)
  have hverify : m.codec.verify (m.codec.mint payer expiresAt id) env.now =
      .ok ⟨payer, expiresAt, id⟩ := TokenCodec.verify_mint hpayer hid hhex hround hbound hlive
  simp [SessionStore.WouldAccept, SessionStore.consume, MemorySessionStore.consumeAt, hverify, hget,
    Nat.not_le.mpr hlive, spendOne, SessionOutcome.isAccepted]

section Example

omit [Platform]

/-- A store that holds one session. -/
def heldStore : MemorySessionStore :=
  { sessions := Table.insert ∅ "abab" ⟨exampleSender, none, 4600, 100, 100⟩
    codec := ⟨[]⟩
    replayRetentionSecs := 3600 }

def heldState : AppState := { sessions := .memory heldStore, limiter := .memory {} }

/-- The JSON text of `examplePayload`, with a token in its extensions that is none. -/
def staleText : String :=
  "\x7b\"x402Version\":2,\"accepted\":\x7b\"scheme\":\"exact\",\"network\":\"sui:testnet\"," ++
    "\"amount\":\"1000\",\"asset\":\"0x2::sui::SUI\",\"payTo\":" ++
    "\"0x2222222222222222222222222222222222222222222222222222222222222222\"," ++
    "\"maxTimeoutSeconds\":60\x7d,\"payload\":\x7b\"signature\":\"AA==\",\"transaction\":\"AAAA\"\x7d," ++
    "\"extensions\":\x7b\"sui-x402-verifier.session.v1\":\x7b\"info\":\x7b\"token\":\"stale\"\x7d\x7d\x7d\x7d"

/-- What the text reads as. -/
def staleTree : Json :=
  .obj
    [("x402Version", .nat 2),
      ("accepted", .obj
        [("scheme", .str "exact"), ("network", .str "sui:testnet"), ("amount", .str "1000"),
          ("asset", .str "0x2::sui::SUI"),
          ("payTo", .str "0x2222222222222222222222222222222222222222222222222222222222222222"),
          ("maxTimeoutSeconds", .nat 60)]),
      ("payload", .obj [("signature", .str "AA=="), ("transaction", .str "AAAA")]),
      ("extensions", .obj [(sessionExtension, .obj [("info", .obj [("token", .str "stale")])])])]

def stalePayload : PaymentPayload :=
  { payloadAccepting "1000" with
    extensions := some
      (.obj [(sessionExtension, .obj [("info", .obj [("token", .str "stale")])])]) }

@[reducible] def staleTables : Tables :=
  { exampleTables with json := [(utf8 staleText, staleTree)] }

@[reducible] def stalePlatform : Platform := staleTables.platform

/-- The token of the session it holds. -/
def heldToken : String :=
  let _ : Platform := stalePlatform
  heldStore.codec.mint exampleSender 4600 "abab"

theorem tokenField_held : TokenField exampleSender.toList ∧ TokenField "abab".toList :=
  ⟨tokenField_iff_all.mpr (by decide +kernel), tokenField_iff_all.mpr (by decide +kernel)⟩

theorem heldToken_live :
    let _ : Platform := stalePlatform
    heldState.sessions.WouldAccept { now := 1000 } none heldToken := by
  have hget : heldStore.sessions.get? "abab" = some ⟨exampleSender, none, 4600, 100, 99 + 1⟩ :=
    Table.get?_insert_self _ _ _
  obtain ⟨hpayer, hid⟩ := tokenField_held
  exact wouldAccept_mint staleTables hpayer hid hget (by decide) (by decide)

theorem isBlank_heldToken : isBlank heldToken = false := by
  let _ : Platform := stalePlatform
  obtain ⟨hpayer, hid⟩ := tokenField_held
  exact isBlank_mint hpayer hid fun bytes => String.toList_ofList ▸ tokenField_hexChars bytes

theorem fromJson_staleTree : PaymentPayload.fromJson staleTree = .ok stalePayload := rfl

theorem decodeHeader_stale :
    let _ : Platform := stalePlatform
    decodeHeader (encodedHeader staleText) = .ok stalePayload :=
  decodeHeader_encodedHeader exampleTables fromJson_staleTree

/-- The session in its header, under a payment that echoes the stale token. -/
def staleHeaders : HeaderView :=
  ⟨some ((Table.insert ∅ headerPaymentSession heldToken).insert headerPaymentSignature
    (encodedHeader staleText))⟩

theorem staleHeaders_header : staleHeaders.get headerPaymentSession = some heldToken := by
  rw [staleHeaders, HeaderView.get_insert_ne _ _ (by decide +kernel),
    HeaderView.get_insert_self _ _ isBlank_heldToken]

theorem staleHeaders_echoed :
    let _ : Platform := stalePlatform
    echoedToken staleHeaders = some "stale" := by
  intro _
  have hne : utf8 staleText ≠ [] := by decide +kernel
  have hraw : staleHeaders.get headerPaymentSignature = some (encodedHeader staleText) :=
    HeaderView.get_insert_self _ _ (isBlank_encodedHeader hne)
  have hpayment : presentedPayment staleHeaders = some (.ok stalePayload) := by
    rw [presentedPayment, hraw]
    exact congrArg some decodeHeader_stale
  rw [echoedToken, hpayment]
  rfl

theorem stale_dead :
    let _ : Platform := stalePlatform
    ¬ heldState.sessions.WouldAccept { now := 1000 } none "stale" := by
  intro _
  have hdead : heldStore.codec.verify "stale" 1000 = .error .malformed := by decide +kernel
  simp [SessionStore.WouldAccept, heldState, SessionStore.consume, MemorySessionStore.consumeAt,
    hdead, SessionOutcome.isAccepted]

/-- A breaker that opened at second 1000. -/
def trippedBreaker : SettlementBreaker :=
  { policies := Table.insert ∅ defaultPolicyLabel ⟨List.replicate 5 true, some 1000, false⟩ }

theorem trippedBreaker_opened : gateState none 1000 trippedBreaker = .opened := by decide +kernel

theorem freshBreaker_closed : gateState none 1000 {} = .closed := by decide +kernel

/-- The held session in its header, with a payment. -/
def guardedRequest : Option (List HeaderValue) :=
  paymentRequest "1000" [{ key := headerPaymentSession, value := heldToken }]

theorem gate_spares_sessions_iff_example :
    let _ : Platform := stalePlatform
    let env : Nat → Env := fun _ => exampleEnv 1000
    let svc := Service.ofConfig (exampleConfig .stubAcceptAll)
    let view : HeaderView := ⟨some (headerMap guardedRequest)⟩
    let reply (b : SettlementBreaker) := (svc.alone
      (svc.handleRequestHeaders {} guardedRequest none none "0.0") env
      ⟨heldState.sessions, heldState.limiter, b, heldState.broadcast⟩).value.1
    (view.get headerPaymentSignature = none ∨
        (∃ token ∈ carriedTokens view,
          heldState.sessions.WouldAccept (env 1).store none token) →
      reply trippedBreaker = reply {}) ↔
    (view.get headerPaymentSignature = none ∨
      ∀ token ∈ carriedTokens view, ¬ heldState.sessions.WouldAccept (env 1).store none token) := by
  intro _ env svc
  exact gate_spares_sessions_iff svc {} guardedRequest none none "0.0" env heldState _ _
    trippedBreaker_opened freshBreaker_closed

theorem guardedRequest_carries :
    let _ : Platform := stalePlatform
    let view : HeaderView := ⟨some (headerMap guardedRequest)⟩
    heldToken ∈ carriedTokens view ∧ (view.get headerPaymentSignature).isSome = true := by
  intro _ view
  have hne : utf8 (paymentText "1000") ≠ [] := by decide +kernel
  have hmap : headerMap guardedRequest =
      (headerMap (some [{ key := headerPaymentSession, value := heldToken }])).insert
        headerPaymentSignature (encodedHeader (paymentText "1000")) :=
    headerMap_paymentRequest _ _
  have hkey : toAsciiLowercase headerPaymentSession = headerPaymentSession := by decide +kernel
  have hothers : headerMap (some [{ key := headerPaymentSession, value := heldToken }]) =
      Table.insert ∅ headerPaymentSession heldToken := by
    simp [headerMap, HeaderValue.text, hkey]
  constructor
  · have hheld : view.get headerPaymentSession = some heldToken := by
      show HeaderView.get ⟨some (headerMap guardedRequest)⟩ _ = _
      rw [hmap, hothers, HeaderView.get_insert_ne _ _ (by decide +kernel),
        HeaderView.get_insert_self _ _ isBlank_heldToken]
    simp [carriedTokens, hheld]
  · show (HeaderView.get ⟨some (headerMap guardedRequest)⟩ _).isSome = true
    rw [hmap, HeaderView.get_insert_self _ _ (isBlank_encodedHeader hne)]
    rfl

/-- **The gate refuses a session holder.** -/
theorem open_gate_refuses_a_session :
    ¬ ∀ (_ : Platform) (svc : Service) (st : StreamState) (headers : Option (List HeaderValue))
      (clientIp : Option IpAddr) (policy : Option String) (decideMs : String) (env : Nat → Env)
      (s : AppState) (opened closed : SettlementBreaker),
      gateState policy (env 0).store.now opened = .opened →
      gateState policy (env 0).store.now closed = .closed →
      let view : HeaderView := ⟨some (headerMap headers)⟩
      let reply (b : SettlementBreaker) := (svc.alone
        (svc.handleRequestHeaders st headers clientIp policy decideMs) env
        { s with breaker := b }).value.1
      view.get headerPaymentSignature = none ∨
          (∃ token ∈ carriedTokens view, s.sessions.WouldAccept (env 1).store policy token) →
        reply opened = reply closed := by
  intro h
  let _ : Platform := stalePlatform
  obtain ⟨hcarried, hpayment⟩ := guardedRequest_carries
  have hsame := h stalePlatform (.ofConfig (exampleConfig .stubAcceptAll)) {} guardedRequest none
    none "0.0" (fun _ => exampleEnv 1000) heldState trippedBreaker {} trippedBreaker_opened
    freshBreaker_closed (.inr ⟨heldToken, hcarried, heldToken_live⟩)
  have hrefused := run_handleRequestHeaders_refused (.ofConfig (exampleConfig .stubAcceptAll)) {}
    guardedRequest none none "0.0" (fun _ => exampleEnv 1000)
    (s := { heldState with breaker := trippedBreaker }) trippedBreaker_opened hpayment
  have hpassed := run_handleRequestHeaders_passed (.ofConfig (exampleConfig .stubAcceptAll)) {}
    guardedRequest none none "0.0" (fun _ => exampleEnv 1000)
    (s := { heldState with breaker := {} }) (.inl (by
      show (gateState none 1000 {}).acceptsPayment = true
      rw [freshBreaker_closed]
      rfl))
  exact reply_ne_settlementUnavailable _ _ _ _ (hpassed.symm.trans (hsame.symm.trans hrefused))

end Example

end X402Verifier
