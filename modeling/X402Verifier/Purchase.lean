import X402Verifier.PayMain

/-!
# A purchase

**Theorem (`purchase_succeeds`).** Let a request bring neither a session nor a payment, let the
wallet be able to pay, and let every operation the gateway performs go well, the free tier being
used up (`Cooperates`). Then the client pays just the terms it was offered; the payer of that
settlement gets a session of the quota and the duration sold at the request's path and policy; and
the client prints the settlement and the session. It exits with 0 if the upstream answered 200. After
any other 2xx it has paid as well, and exits with 1.

The first exchange is a refusal, and its challenge is the one of the terms the second is held
against: the two requests differ only in their payment, so the gateway resolves the same path, policy
and terms for both. Whoever else is served in between does not matter, as long as the operations
answer so.
-/

namespace X402Verifier

open RustStd Interaction

variable [Platform]

/-! ## What must go well -/

/-- What is relied on of texts: base64 is printable, and an object is never written as nothing. -/
structure TextLaws : Prop extends Base64Laws where
  printable : ∀ bytes, (Platform.b64Encode bytes).toList.all isHeaderText = true
  written : ∀ fields, Platform.jsonToString (.obj fields) ≠ ""

theorem isBlank_encodeHeader (text : TextLaws) (fields : List (String × Json)) :
    isBlank (encodeHeader (.obj fields)) = false := by
  refine isBlank_b64Encode text.toBase64Laws fun hnil => text.written fields ?_
  exact utf8_injective (hnil.trans (by decide +kernel : utf8 "" = []).symm)

theorem isEmpty_encodeHeader (text : TextLaws) (fields : List (String × Json)) :
    (encodeHeader (.obj fields)).isEmpty = false := by
  by_contra hempty
  have hnil : encodeHeader (.obj fields) = "" := String.isEmpty_iff.mp (by simpa using hempty)
  have hblank := isBlank_encodeHeader text fields
  rw [hnil] at hblank
  revert hblank
  decide

/-- The answers that lead to a sale: the free tier is used up, and the rest succeeds. The chain takes
the payments whose terms are right. -/
def Cooperates (svc : Service) : (op : Op) → op.Ret → Prop
  | .breakerState _, breaker => BreakerState.acceptsPayment breaker = true
  | .check .., allowance => Allowance.allowed allowance = false
  | .claimPayment .., claim => claim = PaymentClaim.fresh
  | .verify payload requirements, verified =>
    (∃ sui, svc.facilitator.checkTerms payload requirements = .ok sui) →
      ∃ payer, verified = Except.ok payer
  | .settle payload requirements, settled =>
    (∃ sui, svc.facilitator.checkTerms payload requirements = .ok sui) →
      ∃ receipt payer, settled = Except.ok receipt ∧
        SettlementResponse.payer receipt = some payer ∧
        SettlementResponse.success receipt = true
  | .createSession .., created =>
    ∃ token, created = Except.ok token ∧ token ≠ "" ∧ token.toList.all isHeaderText = true
  | _, _ => True

/-- Runs in which all goes well. -/
abbrev goingWell (svc : Service) : Protocol Op Op.Ret (List (Event Op.Ret)) :=
  .assuming (Cooperates svc)

/-- A request without credentials, of which the proxy tells the same whether it is paid or not. -/
structure Envoy.Passes (envoy : Envoy) (call : HttpCall) : Prop where
  attributes : ∀ payment, envoy.attributes { call with payment := payment } = envoy.attributes call
  pseudo : ∀ payment, envoy.pseudo { call with payment := payment } = envoy.pseudo call
  unpaid : valuesOf headerPaymentSignature (envoy.pseudo call ++ call.headers) = []
  sessionless : valuesOf headerPaymentSession (envoy.pseudo call ++ call.headers) = []
  delivers : ∀ payment forwarded,
    200 ≤ (envoy.upstream { call with payment := payment } forwarded).status ∧
      (envoy.upstream { call with payment := payment } forwarded).status < 300

/-! ## The terms of a request -/

def Envoy.seen (envoy : Envoy) (call : HttpCall) : Table String String :=
  headerMap (messageHeaders (envoy.pseudo call ++ call.sent))

def Envoy.path (envoy : Envoy) (call : HttpCall) : String :=
  ((envoy.seen call).get? ":path").getD ""

def Envoy.policy (envoy : Envoy) (call : HttpCall) : Option String :=
  policyFromAttributes (envoy.attributes call)

/-- The terms it is sold at. -/
def Service.askedTerms (svc : Service) (envoy : Envoy) (call : HttpCall) : Terms :=
  svc.termsFor (envoy.path call) (envoy.policy call)
    (resourceUrl (envoy.seen call) (envoy.path call))

section Request

variable {envoy : Envoy} {call : HttpCall} (hpasses : envoy.Passes call)

include hpasses

omit [Platform] in
theorem valuesOf_paid (payment : Option String) {name : String}
    (hne : eqIgnoreAsciiCase headerPaymentSignature name = false) :
    valuesOf name (envoy.pseudo { call with payment := payment } ++
      HttpCall.sent { call with payment := payment }) =
        valuesOf name (envoy.pseudo call ++ call.headers) := by
  have hnot : valuesOf name
      (payment.map fun payment => (headerPaymentSignature, payment)).toList = [] := by
    refine List.map_eq_nil_iff.mpr (List.filter_eq_nil_iff.mpr fun e he => ?_)
    obtain ⟨value, -, rfl⟩ := Option.map_eq_some_iff.mp (Option.mem_toList.mp he)
    simpa [named] using hne
  rw [hpasses.pseudo, HttpCall.sent, ← List.append_assoc, valuesOf, List.filter_append,
    List.map_append]
  show valuesOf name _ ++ valuesOf name _ = _
  rw [hnot, List.append_nil]

omit [Platform] in
theorem get?_seen_paid (payment : Option String) {name : String}
    (hname : toAsciiLowercase name = name)
    (hne : eqIgnoreAsciiCase headerPaymentSignature name = false) :
    (envoy.seen { call with payment := payment }).get? name =
      (headerMap (messageHeaders (envoy.pseudo call ++ call.headers))).get? name := by
  rw [Envoy.seen, get?_headerMap _ hname, get?_headerMap _ hname, valuesOf_paid hpasses payment hne]

omit [Platform] in
/-- **One set of terms.** A request is sold at the same terms with a payment and without. -/
theorem askedTerms_paid (svc : Service) (payment : Option String) :
    svc.askedTerms envoy { call with payment := payment } = svc.askedTerms envoy call := by
  have hsame : ∀ name, toAsciiLowercase name = name →
      eqIgnoreAsciiCase headerPaymentSignature name = false →
      (envoy.seen { call with payment := payment }).get? name = (envoy.seen call).get? name :=
    fun name hname hne => (get?_seen_paid hpasses payment hname hne).trans
      (get?_seen_paid hpasses call.payment hname hne).symm
  have hpath : envoy.path { call with payment := payment } = envoy.path call :=
    congrArg (Option.getD · "") (hsame ":path" (by decide) (by decide))
  have hurl : ∀ path, resourceUrl (envoy.seen { call with payment := payment }) path =
      resourceUrl (envoy.seen call) path := by
    intro path
    unfold resourceUrl
    rw [hsame "x-forwarded-host" (by decide) (by decide),
      hsame ":authority" (by decide) (by decide),
      hsame "x-forwarded-proto" (by decide) (by decide),
      hsame ":scheme" (by decide) (by decide)]
  rw [Service.askedTerms, Service.askedTerms, hpath, hurl, Envoy.policy, hpasses.attributes]
  rfl

theorem presentedPayment_paid (payment : Option String) :
    presentedPayment ⟨some (envoy.seen { call with payment := payment })⟩ =
      (payment.filter (! isBlank ·)).map decodeHeader := by
  have hvalues : valuesOf headerPaymentSignature (envoy.pseudo { call with payment := payment } ++
      HttpCall.sent { call with payment := payment }) = payment.toList := by
    rw [hpasses.pseudo, HttpCall.sent, ← List.append_assoc, valuesOf, List.filter_append,
      List.map_append]
    show valuesOf headerPaymentSignature _ ++ valuesOf headerPaymentSignature _ = _
    rw [hpasses.unpaid, List.nil_append]
    cases payment with
    | none => rfl
    | some value => simp [valuesOf, named, eqIgnoreAsciiCase]
  rw [presentedPayment, Envoy.seen, get_messageHeaders _ (by decide), hvalues]
  cases payment <;> rfl

theorem presentedToken_paid {payment : Option String}
    (hechoed : ∀ payload,
      presentedPayment ⟨some (envoy.seen { call with payment := payment })⟩ = some (.ok payload) →
        payload.extensions = none) :
    presentedToken ⟨some (envoy.seen { call with payment := payment })⟩ = none := by
  have hsession : HeaderView.get ⟨some (envoy.seen { call with payment := payment })⟩
      headerPaymentSession = none := by
    rw [Envoy.seen, get_messageHeaders _ (by decide),
      valuesOf_paid hpasses payment (by decide), hpasses.sessionless]
    rfl
  rw [presentedToken, hsession, Option.or_none]
  split
  · rename_i payload hpayment
    rw [hechoed payload hpayment]
    rfl
  · rfl

end Request

/-! ## The refusal -/

/-- Why the free tier does not serve a request. -/
def freeRefusal (clientIp : Option IpAddr) : String :=
  if clientIp.isSome then "free tier rate limit exceeded; pay to unlock a higher limit"
  else "client address unavailable; free tier cannot be metered"

theorem refuses_decideFree (svc : Service) (terms : Terms) (clientIp : Option IpAddr)
    (trace : List (Event Op.Ret)) :
    (terms.decideFree clientIp).Follows (goingWell svc)
      (fun _ d => ∃ calls meter, MeterBacked calls meter ∧
        d = .deny (terms.challenge (freeRefusal clientIp)) none meter) trace := by
  cases clientIp with
  | none => exact ⟨[], .unknown, .unknown, rfl⟩
  | some ip =>
    rw [decideFree_some]
    refine ⟨trivial, fun allowance (hspent : Allowance.allowed allowance = false) => ?_⟩
    have hmeter : MeterBacked [⟨.check terms.resolved.label ip terms.resolved.freeTier.maxRequests
        terms.resolved.freeTier.windowSecs, allowance⟩]
        (.free (Allowance.remaining allowance) (Allowance.limit allowance)
          (Allowance.resetSecs allowance)) :=
      .free (List.mem_singleton_self _)
    refine ⟨_, _, hmeter, ?_⟩
    show terms.freeDecision allowance = _
    unfold Terms.freeDecision
    rw [hspent]
    rfl

theorem reads_denyReply (text : TextLaws) (svc : Service) {challenge : PaymentRequired}
    {meter : Meter} (decideMs : String) {calls : List (Event Op.Ret)}
    (hmeter : MeterBacked calls meter) (hchallenge : ReadBack challenge.toJson)
    (hreadable : ∀ r ∈ challenge.accepts, r.Readable) {response : ImmediateResponse}
    (hreply : denyReply challenge none meter decideMs = .immediateResponse response) :
    (Attempt.ofResponse response.toHttp).status = 402 ∧
      (Attempt.ofResponse response.toHttp).paymentRequired = some (.mirror challenge) := by
  have hnone : ∀ r, (none : Option SettlementResponse) = some r →
      ∃ code, r = svc.facilitator.failureReceipt code := nofun
  have hbacked : ReplyBacked svc calls [] (denyReply challenge none meter decideMs) :=
    backed_denyReply svc challenge decideMs hmeter hnone
  have hsent : sentUnder headerPaymentRequired (denyReply challenge none meter decideMs).sets =
      [encodeHeader challenge.toJson] := by
    have hsets : (denyReply challenge none meter decideMs).sets =
        refusalHeaders (encodeHeader challenge.toJson) none ++ meter.sent ++
          [header headerServerTiming (serverTiming [("x402-decide", decideMs)]),
            header "content-type" "application/json"] := rfl
    rw [hsets, Around.sentUnder meter (by simp [replyNames])]
    simp [refusalHeaders, sentUnder_cons, headerPaymentRequired, headerServerTiming]
  have hheaders : response.toHttp.headers = forward [] (denyReply challenge none meter decideMs).sets
      (denyReply challenge none meter decideMs).removes := by
    rw [hreply]
    rfl
  have hheader : response.toHttp.header "payment-required" = some (encodeHeader challenge.toJson) :=
    header_of_sent hbacked.tidy (by simp [replyNames] : headerPaymentRequired ∈ _) (by decide)
      rfl hheaders hsent (isEmpty_encodeHeader text _) (text.printable _)
  constructor
  · obtain rfl := ProcessingResponse.immediateResponse.inj hreply
    rfl
  · show (response.toHttp.header "payment-required").bind readChallenge = _
    rw [hheader, Option.bind_some, readChallenge_encodeHeader text.toBase64Laws hchallenge hreadable]

/-- **The first request.** It is refused with the challenge of its terms. -/
theorem refused_proxied (text : TextLaws) (svc : Service) {envoy : Envoy} {call : HttpCall}
    (hpasses : envoy.Passes call) (hpayment : call.payment = none)
    (hreadable : (svc.askedTerms envoy call).requirements.Readable) {challenge : PaymentRequired}
    (hterms : challenge = (svc.askedTerms envoy call).challenge
      (freeRefusal (clientIpFromAttributes (envoy.attributes call))))
    (hchallenge : ReadBack challenge.toJson) (trace : List (Event Op.Ret)) :
    (svc.proxied envoy call).Follows (goingWell svc)
      (fun _ response => (Attempt.ofResponse response).status = 402 ∧
        (Attempt.ofResponse response).paymentRequired = some (.mirror challenge)) trace := by
  have hnone : presentedPayment ⟨some (envoy.seen call)⟩ = none := by
    refine (presentedPayment_paid hpasses call.payment).trans ?_
    rw [hpayment]
    rfl
  have hechoed : ∀ payload,
      presentedPayment ⟨some (envoy.seen { call with payment := call.payment })⟩ =
        some (.ok payload) → payload.extensions = none := fun payload hpayload => by
    cases hnone.symm.trans hpayload
  have htoken : presentedToken ⟨some (envoy.seen call)⟩ = none :=
    presentedToken_paid hpasses hechoed
  have hdecision : svc.processDecision (messageHeaders (envoy.pseudo call ++ call.sent))
      (clientIpFromAttributes (envoy.attributes call)) (envoy.policy call) =
      (svc.askedTerms envoy call).decideFree (clientIpFromAttributes (envoy.attributes call)) := by
    refine (decide_of_no_token svc _ _ _ .deferred htoken).trans ?_
    rw [Service.decideUnsessioned, hnone]
    rfl
  -- The request phase asks the breaker and the limiter, and refuses.
  have hphase : (svc.process {} (envoy.request call) envoy.decideMs).Follows (goingWell svc)
      (fun _ first => ∃ calls meter, MeterBacked calls meter ∧
        first.1 = denyReply challenge none meter envoy.decideMs) trace := by
    show (svc.handleRequestHeaders {} _ _ _ _).Follows _ _ _
    rw [handleRequestHeaders_eq]
    refine ⟨trivial, fun breaker (haccepts : BreakerState.acceptsPayment breaker = true) => ?_⟩
    dsimp only
    rw [if_neg (by simp [haccepts])]
    refine (hdecision ▸ refuses_decideFree svc _ _ _).bind fun trace d hd => ?_
    obtain ⟨calls, meter, hmeter, rfl⟩ := hd
    exact ⟨calls, meter, hmeter, by rw [hterms]⟩
  refine hphase.bind fun trace first hfirst => ?_
  obtain ⟨reply, st⟩ := first
  obtain ⟨calls, meter, hmeter, rfl⟩ := hfirst
  exact reads_denyReply text svc envoy.decideMs hmeter hchallenge
    (by rw [hterms]; exact fun r hr => List.mem_singleton.mp hr ▸ hreadable) rfl

/-! ## The sale -/

/-- What a payment bought, by the calls that sold it. -/
structure Bought (calls : List (Event Op.Ret)) (terms : Terms) (policy : Option String)
    (payload : PaymentPayload) (receipt : SettlementResponse) (payer token : String) : Prop where
  settled : ⟨.settle payload terms.requirements, .ok receipt⟩ ∈ calls
  paid : receipt.payer = some payer
  success : receipt.success = true
  session : ⟨.createSession payer policy terms.resolved.paidTier.quota
    terms.resolved.paidTier.durationSecs, .ok token⟩ ∈ calls

/-- The stream between the two phases of a paid request. -/
structure Pending (st : StreamState) (terms : Terms) (policy : Option String) (path : String)
    (payload : PaymentPayload) : Prop where
  pending : st.pending = some (terms.pendingPayment payload)
  policy : st.policy = policy
  path : st.path = path
  meter : st.meter = .unknown

section Sale

variable (svc : Service) {terms : Terms} {payload : PaymentPayload} {sui : SuiExactPayload}
  (hterms : svc.facilitator.checkTerms payload terms.requirements = .ok sui)

include hterms

theorem allows_decidePayment (policy : Option String) {id : String}
    (hid : paymentId payload = some id) (trace : List (Event Op.Ret)) :
    (svc.decidePayment terms policy .deferred (.ok payload)).Follows (goingWell svc)
      (fun _ d => ∃ payer, d = .allow .paid (some payer) none none
        (some (terms.pendingPayment payload)) .unknown) trace := by
  rw [decidePayment_of_id svc terms policy .deferred hid]
  refine ⟨trivial, fun claim (hclaim : claim = PaymentClaim.fresh) => ?_⟩
  subst hclaim
  show (svc.verifyPresented terms payload).Follows _ _ _
  rw [verifyPresented_eq]
  refine ⟨trivial, fun verified hverified => ?_⟩
  obtain ⟨payer, rfl⟩ := hverified ⟨sui, hterms⟩
  exact ⟨payer, rfl⟩

theorem sells_settlePending {st : StreamState} {policy : Option String} {path : String}
    (hresolved : terms.resolved = svc.config.policyFor path policy)
    (hst : Pending st terms policy path payload) (settleMs : String)
    (trace : List (Event Op.Ret)) :
    (svc.settlePending { st with pending := none } (terms.pendingPayment payload) settleMs).Follows
      (goingWell svc)
      (fun calls reply => ∃ receipt payer token, Bought calls terms policy payload receipt payer token ∧
        token ≠ "" ∧ token.toList.all isHeaderText = true ∧
        reply = { st with pending := none }.settledReply receipt (some token) terms.resolved.paidTier
          settleMs) trace := by
  rw [settlePending_eq]
  refine ⟨trivial, fun settled hsettled => ?_⟩
  obtain ⟨receipt, payer, rfl, hpayer, hsuccess⟩ := hsettled ⟨sui, hterms⟩
  refine ⟨trivial, fun _ _ => ?_⟩
  rw [mintSession_of_payer _ _ hpayer]
  refine ⟨trivial, fun created hcreated => ?_⟩
  obtain ⟨token, rfl, hwritten, htext⟩ := hcreated
  have htier : (svc.config.policyFor st.path st.policy).paidTier = terms.resolved.paidTier := by
    rw [hst.path, hst.policy, hresolved]
  refine ⟨receipt, payer, token, ⟨?_, hpayer, hsuccess, ?_⟩, hwritten, htext, ?_⟩
  · exact List.mem_append_left _ (List.mem_append_left _ (List.mem_append_right _
      (List.mem_singleton_self _)))
  · rw [← htier, ← hst.policy]
    exact List.mem_append_right _ (List.mem_singleton_self _)
  · show { st with pending := none }.settledReply receipt (some token) _ settleMs = _
    rw [htier]

end Sale

/-- An attempt that tells of a sale: it is the upstream's response, with the receipt and the token. -/
structure TellsSale (attempt : Attempt) (upstream : HttpResponse) (receipt : SettlementResponse)
    (token : String) : Prop where
  status : attempt.status = upstream.status
  body : attempt.body = upstream.body
  session : attempt.session = some token
  receipt : attempt.paymentResponse = readReceipt (encodeHeader receipt.toJson)

theorem reads_settledReply (text : TextLaws) (svc : Service) {calls : List (Event Op.Ret)}
    {terms : Terms} {policy : Option String} {payload : PaymentPayload}
    {receipt : SettlementResponse} {payer token : String}
    (hbought : Bought calls terms policy payload receipt payer token) (hwritten : token ≠ "")
    (htoken : token.toList.all isHeaderText = true) {st : StreamState}
    (hmeter : st.meter = .unknown) (settleMs : String) {upstream : HttpResponse}
    (hquiet : Quiet upstream.headers) :
    TellsSale (.ofResponse (upstream.after
      (st.settledReply receipt (some token) terms.resolved.paidTier settleMs))) upstream
      (withGrant receipt token terms.resolved.paidTier) token := by
  let reply := st.settledReply receipt (some token) terms.resolved.paidTier settleMs
  have hbacked : ReplyBacked svc calls [] reply :=
    backed_settledReply svc st _ settleMs hmeter hbought.settled fun t ht => by
      obtain rfl := Option.some.inj ht
      exact ⟨payer, policy, hbought.session⟩
  have hreply : reply = _ :=
    settledReply_eq st receipt (some token) terms.resolved.paidTier settleMs hmeter
  have hafter : upstream.after reply =
      { upstream with headers := forward upstream.headers reply.sets reply.removes } := by
    rw [hreply]
    rfl
  have hheaders : (upstream.after reply).headers =
      forward upstream.headers reply.sets reply.removes := by rw [hafter]
  -- Each header is sent once, and the upstream sends none of that name.
  have hsession : sentUnder headerPaymentSession reply.sets = [token] := by
    rw [hreply, sets_continueWith, Around.sentUnder _ (by simp [replyNames]), token_saleHeaders]
    rfl
  have hreceipt : sentUnder headerPaymentResponse reply.sets =
      [encodeHeader (withGrant receipt token terms.resolved.paidTier).toJson] := by
    rw [hreply, sets_continueWith, Around.sentUnder _ (by simp [replyNames]), receipt_saleHeaders]
  have htokenRead : (upstream.after reply).header "x-payment-session" = some token :=
    header_of_sent hbacked.tidy (by simp [replyNames]) (by decide)
      (hquiet _ (by simp [clientNames])) hheaders hsession (by simpa using hwritten) htoken
  have hreceiptRead : (upstream.after reply).header "payment-response" =
      some (encodeHeader (withGrant receipt token terms.resolved.paidTier).toJson) :=
    header_of_sent hbacked.tidy (by simp [replyNames]) (by decide)
      (hquiet _ (by simp [clientNames])) hheaders hreceipt (isEmpty_encodeHeader text _)
      (text.printable _)
  have hstatus : (upstream.after reply).status = upstream.status := by rw [hafter]
  have hbody : (upstream.after reply).body = upstream.body := by rw [hafter]
  refine ⟨hstatus, hbody, htokenRead, ?_⟩
  show ((upstream.after reply).header "payment-response").bind readReceipt = _
  rw [hreceiptRead, Option.bind_some]

omit [Platform] in
theorem isSuccess_response {envoy : Envoy} (hplain : envoy.Plain) {call : HttpCall}
    {forwarded : RawHeaders} (hdelivers : 200 ≤ (envoy.upstream call forwarded).status ∧
      (envoy.upstream call forwarded).status < 300) :
    isSuccess (((headerMap (messageHeaders ((":status",
      toString (envoy.upstream call forwarded).status) ::
        (envoy.upstream call forwarded).headers))).get? ":status").getD "") = true := by
  rw [get?_status hplain, Option.getD_some, isSuccess, parse_toString, fits,
    if_pos (hdelivers.2.trans (by decide))]
  simpa using hdelivers

theorem sells_handleResponseHeaders (svc : Service) {terms : Terms} {payload : PaymentPayload}
    {sui : SuiExactPayload}
    (hterms : svc.facilitator.checkTerms payload terms.requirements = .ok sui) {st : StreamState}
    {policy : Option String} {path : String}
    (hresolved : terms.resolved = svc.config.policyFor path policy)
    (hst : Pending st terms policy path payload) {headers : Option (List HeaderValue)}
    (hsuccess : isSuccess (((headerMap headers).get? ":status").getD "") = true)
    (settleMs : String) (trace : List (Event Op.Ret)) :
    (svc.handleResponseHeaders st headers settleMs).Follows (goingWell svc)
      (fun calls out => ∃ receipt payer token, Bought calls terms policy payload receipt payer token ∧
        token ≠ "" ∧ token.toList.all isHeaderText = true ∧
        out.1 = { st with pending := none }.settledReply receipt (some token) terms.resolved.paidTier
          settleMs) trace := by
  have hhandler : svc.handleResponseHeaders st headers settleMs =
      (svc.settlePending { st with pending := none } (terms.pendingPayment payload) settleMs).bind
        fun reply => .pure (reply, { st with pending := none }) := by
    rw [Service.handleResponseHeaders, hst.pending]
    simp only [hsuccess, not_true_eq_false, if_false]
    rfl
  rw [hhandler]
  exact (sells_settlePending svc hterms hresolved hst settleMs trace).bind fun _ _ h => h

section Second

variable (svc : Service) {envoy : Envoy} {call : HttpCall} (hpasses : envoy.Passes call)
  {terms : Terms} (hasked : terms = svc.askedTerms envoy call) {payment : String}
  {payload : PaymentPayload} {sui : SuiExactPayload}
  (hterms : svc.facilitator.checkTerms payload terms.requirements = .ok sui)

include hpasses hasked hterms

theorem pends_process {id : String} (hpayment : isBlank payment = false)
    (hdecoded : decodeHeader payment = .ok payload) (hechoed : payload.extensions = none)
    (hid : paymentId payload = some id) (trace : List (Event Op.Ret)) :
    (svc.process {} (envoy.request { call with payment := some payment }) envoy.decideMs).Follows
      (goingWell svc)
      (fun _ first => (∃ mutation, first.1 = .requestHeaders mutation) ∧
        Pending first.2 terms (envoy.policy call)
          (envoy.path { call with payment := some payment }) payload) trace := by
  have hpresented : presentedPayment
      ⟨some (envoy.seen { call with payment := some payment })⟩ = some (.ok payload) := by
    rw [presentedPayment_paid hpasses, Option.filter, if_pos (by simp [hpayment]), Option.map_some,
      hdecoded]
  have htoken : presentedToken ⟨some (envoy.seen { call with payment := some payment })⟩ = none :=
    presentedToken_paid hpasses fun payload' hpayload => by
      rw [hpresented] at hpayload
      cases hpayload
      exact hechoed
  have hpolicy : envoy.policy { call with payment := some payment } = envoy.policy call := by
    rw [Envoy.policy, hpasses.attributes, Envoy.policy]
  have hdecision : svc.processDecision
      (messageHeaders (envoy.pseudo { call with payment := some payment } ++
        HttpCall.sent { call with payment := some payment }))
      (clientIpFromAttributes (envoy.attributes { call with payment := some payment }))
      (envoy.policy { call with payment := some payment }) =
      svc.decidePayment terms (envoy.policy call) .deferred (.ok payload) := by
    rw [hasked, ← askedTerms_paid hpasses svc (some payment), ← hpolicy]
    exact processDecision_of_payment svc _ _ htoken hpresented
  show (svc.handleRequestHeaders {} _ _ _ _).Follows _ _ _
  rw [handleRequestHeaders_eq]
  refine ⟨trivial, fun breaker (haccepts : BreakerState.acceptsPayment breaker = true) => ?_⟩
  dsimp only
  rw [if_neg (by simp [haccepts])]
  refine (hdecision ▸ allows_decidePayment svc hterms _ hid _).bind fun trace d hd => ?_
  obtain ⟨payer, rfl⟩ := hd
  exact ⟨⟨_, rfl⟩, rfl, hpolicy, rfl, rfl⟩

/-- **The second request.** It is sold what it pays for. -/
theorem sold_proxied (text : TextLaws) (hplain : envoy.Plain) {id : String}
    (hpayment : isBlank payment = false) (hdecoded : decodeHeader payment = .ok payload)
    (hechoed : payload.extensions = none) (hid : paymentId payload = some id)
    (trace : List (Event Op.Ret)) :
    (svc.proxied envoy { call with payment := some payment }).Follows (goingWell svc)
      (fun calls response => ∃ receipt payer token forwarded,
        Bought calls terms (envoy.policy call) payload receipt payer token ∧
        TellsSale (.ofResponse response)
          (envoy.upstream { call with payment := some payment } forwarded)
          (withGrant receipt token terms.resolved.paidTier) token) trace := by
  have hresolved : terms.resolved =
      svc.config.policyFor (envoy.path { call with payment := some payment })
        (envoy.policy call) := by
    rw [hasked, ← askedTerms_paid hpasses svc (some payment), Service.askedTerms, Envoy.policy,
      hpasses.attributes]
    rfl
  refine (pends_process svc hpasses hasked hterms hpayment hdecoded hechoed hid trace).bind
    fun trace first hfirst => ?_
  obtain ⟨reply, st⟩ := first
  obtain ⟨⟨mutation, rfl⟩, hst⟩ := hfirst
  let forwarded := forward (envoy.pseudo { call with payment := some payment } ++
    HttpCall.sent { call with payment := some payment })
      (ProcessingResponse.requestHeaders mutation).sets
      (ProcessingResponse.requestHeaders mutation).removes
  let upstream := envoy.upstream { call with payment := some payment } forwarded
  refine (sells_handleResponseHeaders svc hterms hresolved hst
    (isSuccess_response hplain (hpasses.delivers _ forwarded)) envoy.settleMs trace).bind
    fun calls out hout => ?_
  obtain ⟨receipt, payer, token, hbought, hwritten, htoken, hreply⟩ := hout
  refine ⟨receipt, payer, token, forwarded, hbought, ?_⟩
  show TellsSale (.ofResponse (upstream.after out.1)) upstream _ token
  rw [hreply]
  exact reads_settledReply text svc hbought hwritten htoken hst.meter envoy.settleMs
    (hplain.quiet _ forwarded)

end Second

/-! ## The purchase -/

/-- A wallet that builds and signs a payment of these terms. -/
structure Wallet.Pays (wallet : Wallet) (terms : Wire.PaymentRequirements)
    (transaction signature : Bytes) : Prop where
  built : ∃ amount payee, parseUnsigned u64Bound terms.amount = some amount ∧
    wallet.parseAddress terms.payTo = .ok payee ∧
    wallet.buildPayment payee terms.asset amount (advertisedGasStation terms) = .ok transaction
  signed : wallet.signTransaction transaction = .ok signature
  transaction : transaction ≠ []
  signature : signature ≠ []

/-- A client that is to pay, and can: nothing is lost on its way, and it has a key and a wallet. -/
structure PayWorld.Ready (world : PayWorld) (args : PayArgs) (headers : RawHeaders)
    (address : String) (wallet : Wallet) : Prop where
  link : ∀ call, world.link call = .up
  key : world.key = .ok address
  build : ∀ rpc resourceUrl terms paths,
    world.build rpc resourceUrl terms paths = buildPaymentHeader wallet resourceUrl terms
  wet : args.dryRun = false
  parsed : args.headers.mapM parseHeaderArg = .ok headers
  paths : ∃ paths, PaymentPath.parseList args.paymentPaths = .ok paths
  plain : world.envoy.Plain
  passes : world.envoy.Passes (args.call headers)

theorem follows_serve {world : PayWorld} (hlink : ∀ call, world.link call = .up) (svc : Service)
    {P : Protocol Op Op.Ret (List (Event Op.Ret))} {post : List (Event Op.Ret) → HttpResponse → Prop}
    {call : HttpCall} {trace : List (Event Op.Ret)} (h : (svc.proxied world.envoy call).Follows P post trace) :
    (world.serve svc (.send call)).Follows P
      (fun calls (r : Except Messages Attempt) => ∃ response, r = .ok (.ofResponse response) ∧
        post calls response) trace := by
  simp only [PayWorld.serve, hlink]
  exact h.bind fun calls response hresponse => ⟨response, rfl, hresponse⟩

section Purchase

variable (text : TextLaws) {config : Config} (hvalid : config.validate = .ok ())
  (htimeout : config.payment.maxTimeoutSeconds < u64Bound) {world : PayWorld} {args : PayArgs}
  {headers : RawHeaders} {address : String} {wallet : Wallet}
  (hready : world.Ready args headers address wallet) {terms : Terms}
  (hterms : terms = (Service.ofConfig config).askedTerms world.envoy (args.call headers))
  {transaction signature : Bytes}
  (hwallet : wallet.Pays (.mirror terms.requirements) transaction signature)
  (hpayment : ReadBack (paymentJson terms.resource.url (.mirror terms.requirements) signature
    transaction))

/-- What a purchase comes to: what was sold, and what the client tells of it. A receipt is told as
it was written, if its JSON is read as it was printed. -/
def Purchased (terms : Terms) (policy : Option String) (address : String)
    (payload : PaymentPayload) (calls : List (Event Op.Ret)) (outcome : PayOutcome) : Prop :=
  ∃ receipt payer, ∃ token : String, ∃ upstream : HttpResponse,
    let granted := withGrant receipt token terms.resolved.paidTier
    let told := receiptLines (readReceipt (encodeHeader granted.toJson))
    Bought calls terms policy payload receipt payer token ∧
    (ReadBack granted.toJson → told = [.settled receipt.transaction receipt.network]) ∧
    outcome.printed = [.required terms.resource.url (.mirror terms.requirements),
      .payingAs address, .retrying, .status upstream.status] ++ told ++
        [.session token, .paidBody upstream.body] ∧
    outcome.exit = .ok (if upstream.status ≠ 200 then 1 else 0)

include text hvalid htimeout hready hterms hwallet hpayment

theorem buys_payTerms (trace : List (Event Op.Ret)) :
    ((payTerms args (args.call headers) terms.resource.url (.mirror terms.requirements)).interp
      (world.serve (Service.ofConfig config))).Follows (goingWell (Service.ofConfig config))
        (Purchased terms (world.envoy.policy (args.call headers)) address
          (echoedPayload terms.resource.url (.mirror terms.requirements) signature transaction))
        trace := by
  obtain ⟨paths, hpaths⟩ := hready.paths
  obtain ⟨amount, payee, hamount, hpayee, hbuild⟩ := hwallet.built
  have hscheme : (Wire.PaymentRequirements.mirror terms.requirements).scheme = "exact" := by
    rw [hterms]
    exact scheme_policyFor hvalid _ _
  obtain ⟨header, hwritten⟩ : ∃ header, header = encodeHeader (paymentJson terms.resource.url
    (.mirror terms.requirements) signature transaction) := ⟨_, rfl⟩
  have hheader := buildPaymentHeader_eq terms.resource.url hamount hpayee hbuild hwallet.signed
  rw [← hwritten] at hheader
  -- What the gateway makes of the payment.
  have hlimit : (Wire.PaymentRequirements.mirror terms.requirements).maxTimeoutSeconds < u64Bound := by
    rw [hterms]
    exact (maxTimeoutSeconds_policyFor (checked_of_validate hvalid) _ _).trans_lt htimeout
  have hnetwork : terms.requirements.network = (Service.ofConfig config).facilitator.network := by
    rw [hterms]
    exact network_policyFor (checked_of_validate hvalid) _ _
  have hblank : isBlank header = false := hwritten ▸ isBlank_encodeHeader text _
  have hdecoded := decodeHeader_encodeHeader text.toBase64Laws hpayment
    (fromJson_paymentJson terms.resource.url hlimit signature transaction)
  rw [← hwritten] at hdecoded
  have hid := paymentId_echoedPayload text.toBase64Laws terms.resource.url
    (.mirror terms.requirements) signature transaction
  have hchecked := checkTerms_echoedPayload text.toBase64Laws terms.resource.url hnetwork
    hwallet.transaction hwallet.signature
  unfold payTerms
  dsimp only
  rw [if_neg (not_not.mpr hscheme)]
  have hkey : (world.serve (Service.ofConfig config) .loadKey).Follows
      (goingWell (Service.ofConfig config)) (fun _ key => key = .ok address) trace := hready.key
  refine .interp_perform hkey fun trace key hanswered => ?_
  subst hanswered
  dsimp only
  rw [hpaths]
  have hbuilt : (world.serve (Service.ofConfig config) (.buildPayment args.rpc terms.resource.url
      (.mirror terms.requirements) paths)).Follows (goingWell (Service.ofConfig config))
      (fun _ payment => payment = .ok header) trace :=
    (hready.build _ _ _ _).trans hheader
  refine .interp_perform hbuilt fun trace payment hanswered => ?_
  subst hanswered
  dsimp only
  rw [if_neg (by simp [hready.wet])]
  have hsold := sold_proxied (Service.ofConfig config) hready.passes hterms hchecked text hready.plain
    hblank hdecoded rfl hid trace
  refine .interp_perform (follows_serve hready.link _ hsold) fun calls paid hpaid => ?_
  obtain ⟨response, rfl, receipt, payer, token, forwarded, hbought, htells⟩ := hpaid
  refine ⟨receipt, payer, token, world.envoy.upstream
    { args.call headers with payment := some header } forwarded, hbought, fun hjson => ?_, ?_, ?_⟩
  · rw [readReceipt_encodeHeader text.toBase64Laws hjson, receiptLines]
    exact if_pos hbought.success
  · show _ ++ _ ++ paidLines (.ofResponse response) = _
    rw [paidLines, htells.status, htells.body, htells.session, htells.receipt]
    simp
  · show Except.ok (if (Attempt.ofResponse response).status ≠ 200 then 1 else 0) = _
    rw [htells.status]

/-- **A purchase succeeds.** Whoever else is served in between, if the operations answer so. -/
theorem purchase_succeeds
    (hchallenge : ReadBack (terms.challenge (freeRefusal
      (clientIpFromAttributes (world.envoy.attributes (args.call headers))))).toJson)
    (answer : Answers) (hgood : ∀ e ∈ ((world.pays (.ofConfig config) args).eval answer).2,
      Cooperates (.ofConfig config) e.1 e.2) :
    Purchased terms (world.envoy.policy (args.call headers)) address
      (echoedPayload terms.resource.url (.mirror terms.requirements) signature transaction)
      ((world.pays (.ofConfig config) args).eval answer).2
      ((world.pays (.ofConfig config) args).eval answer).1 := by
  have hreadable : ((Service.ofConfig config).askedTerms world.envoy
      (args.call headers)).requirements.Readable :=
    readable_fromConfig
      ((maxTimeoutSeconds_policyFor (checked_of_validate hvalid) _ _).trans_lt htimeout)
  have hfollows : (world.pays (.ofConfig config) args).Follows (goingWell (.ofConfig config))
      (Purchased terms (world.envoy.policy (args.call headers)) address
        (echoedPayload terms.resource.url (.mirror terms.requirements) signature transaction)) [] := by
    unfold PayWorld.pays payMain
    rw [hready.parsed]
    dsimp only
    have hrefused := refused_proxied text (.ofConfig config) hready.passes rfl hreadable
      (by rw [hterms]) hchallenge []
    refine .interp_perform (follows_serve hready.link _ hrefused) fun calls first hfirst => ?_
    obtain ⟨response, rfl, hstatus, hrequired⟩ := hfirst
    dsimp only
    rw [if_neg (not_not.mpr hstatus), hrequired]
    exact buys_payTerms text hvalid htimeout hready hterms hwallet hpayment calls
  exact hfollows.eval_assuming answer hgood

end Purchase

/-! ## A sale -/

/-- Answers that lead to a sale: the free tier is used up, and the rest is asked of a fresh store. -/
def sellingAnswers (svc : Service) : Answers := fun _ op =>
  match op with
  | .check .. => { allowed := false, remaining := 0, limit := 5, resetSecs := 60 }
  | .createSession .. => .ok "session"
  | op => (svc.exec (exampleEnv 0) (.ofConfig svc.config []) op).1

/-- In stub mode they do. -/
theorem cooperates_sellingAnswers {config : Config} (hmode : config.verificationMode = .stubAcceptAll)
    (n : Nat) (op : Op) :
    Cooperates (.ofConfig config) op (sellingAnswers (.ofConfig config) n op) := by
  have hstub : (Service.ofConfig config).facilitator =
      ⟨.stubAcceptAll, config.payment.network, none⟩ := by
    show Facilitator.ofConfig config = _
    rw [Facilitator.ofConfig, hmode]
  cases op with
  | claimPayment id ttlSecs => rfl
  | breakerState policy => rfl
  | check label ip maxRequests windowSecs => rfl
  | createSession payer policy quota ttlSecs => exact ⟨_, rfl, by decide, by decide⟩
  | verify payload requirements =>
    rintro ⟨sui, hterms⟩
    refine ⟨stubPayer sui.transaction, Prog.exists_returns.mp ⟨0, ?_⟩⟩
    rw [hstub] at hterms ⊢
    exact returns_liftExcept_bind.mpr ⟨sui, hterms, Prog.returns_pure.mpr ⟨rfl, rfl⟩⟩
  | settle payload requirements =>
    rintro ⟨sui, hterms⟩
    refine ⟨(Service.ofConfig config).facilitator.successReceipt (stubPayer sui.transaction)
      "stub-not-settled-on-chain" requirements.amount, stubPayer sui.transaction,
      Prog.exists_returns.mp ⟨0, ?_⟩, rfl, rfl⟩
    rw [hstub] at hterms ⊢
    exact returns_liftExcept_bind.mpr ⟨sui, hterms, Prog.returns_pure.mpr ⟨rfl, rfl⟩⟩
  | _ => trivial

omit [Platform] in
theorem textLaws_travelPlatform (first second : Json) : @TextLaws (travelPlatform first second) := by
  refine @TextLaws.mk (travelPlatform first second) (base64Laws_travelPlatform first second)
    (fun bytes => ?_) Json.print_obj_ne_empty
  have hdigit : ∀ n < 64, isHeaderText (sextetChar n) = true := by decide
  show (String.ofList (base64Encode bytes)).toList.all isHeaderText = true
  rw [String.toList_ofList]
  refine List.all_eq_true.mpr fun c hc => ?_
  rcases mem_base64Encode hc with rfl | ⟨n, hn, rfl⟩
  · decide
  · exact hdigit n hn

/-- A client with a wallet, at the plain proxy. -/
def exampleWorld : PayWorld :=
  { envoy := plainEnvoy
    key := .ok "0x1"
    build := fun _ resourceUrl terms _ =>
      buildPaymentHeader (exampleWallet [0, 0, 0] [1, 2, 3]) resourceUrl terms
    link := fun _ => .up }

omit [Platform] in
theorem ready_exampleWorld :
    let _ : Platform := wirePlatform
    exampleWorld.Ready { url := "/" } [] "0x1" (exampleWallet [0, 0, 0] [1, 2, 3]) := by
  intro _
  have hpasses : exampleWorld.envoy.Passes (PayArgs.call { url := "/" } []) :=
    { attributes := fun _ => rfl
      pseudo := fun _ => rfl
      unpaid := by decide
      sessionless := by decide
      delivers := fun _ _ => (by decide : 200 ≤ 200 ∧ 200 < 300) }
  exact
    { link := fun _ => rfl
      key := rfl
      build := fun _ _ _ _ => rfl
      wet := rfl
      parsed := rfl
      paths := ⟨[.gasless, .sponsored, .coinObject], by decide⟩
      plain := plain_plainEnvoy
      passes := hpasses }

omit [Platform] in
theorem purchase_succeeds_example :
    let _ : Platform := wirePlatform
    let svc := Service.ofConfig (exampleConfig .stubAcceptAll)
    let terms := svc.termsFor "/" none "/"
    let out := (exampleWorld.pays svc { url := "/" }).eval (sellingAnswers svc)
    Purchased terms none "0x1"
      (echoedPayload "/" (.mirror terms.requirements) [1, 2, 3] [0, 0, 0]) out.2 out.1 := by
  intro _ svc terms out
  have hpath : exampleWorld.envoy.path (PayArgs.call { url := "/" } []) = "/" := by decide
  have hurl : resourceUrl (exampleWorld.envoy.seen (PayArgs.call { url := "/" } [])) "/" = "/" := by
    decide
  have hterms : terms = svc.askedTerms exampleWorld.envoy (PayArgs.call { url := "/" } []) := by
    rw [Service.askedTerms, hpath, hurl]
    rfl
  have hpays : (exampleWallet [0, 0, 0] [1, 2, 3]).Pays (.mirror terms.requirements) [0, 0, 0]
      [1, 2, 3] :=
    { built := ⟨1000, List.replicate 32 0x22, by decide, by decide, rfl⟩
      signed := rfl
      transaction := List.cons_ne_nil _ _
      signature := List.cons_ne_nil _ _ }
  exact purchase_succeeds (textLaws_travelPlatform _ _) rfl (by decide) ready_exampleWorld hterms hpays
    (readBack_first _ _) (readBack_second print_exampleAnswer_ne) (sellingAnswers svc)
    fun e he => by
      obtain ⟨n, hn⟩ := Prog.exists_answer_of_mem_eval he
      rw [hn]
      exact cooperates_sellingAnswers rfl n e.1

end X402Verifier
