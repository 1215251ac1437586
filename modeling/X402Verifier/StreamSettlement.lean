import X402Verifier.MessageCalls

/-!
# Charged only after delivery

One ext_proc stream, any messages in any order and number, and any answers at all from the
operations. `streamRun` folds `process` over the messages and keeps what each one did.

The stream's state carries a pending payment from the message that verified it to the one that
settles it, along with the policy and path its session is minted under. These are separate fields,
and some branches overwrite them where others leave them. The invariant (`Delivers`) says that they
always go together: a pending payment, the policy and the path are those of one earlier
request-headers message (`Supplied`), and nobody has been charged since.
-/

namespace X402Verifier

open RustStd Interaction

variable [Platform]

/-- The operations that charge for a payment or grant what it bought. -/
def Op.charges : Op → Bool
  | .settle .. | .createSession .. => true
  | _ => false

/-! ## What one message does -/

/-- A payment left pending has been verified in this trace. -/
def PendingVerified (pending : Option PendingPayment) (trace : List (Event Op.Ret)) : Prop :=
  ∀ p, pending = some p →
    ∃ payer, (⟨.verify p.payload p.requirements, .ok payer⟩ : Event Op.Ret) ∈ trace

/-- Calls that charge nobody. -/
abbrev uncharged : Protocol Op Op.Ret (List (Event Op.Ret)) := .trace (·.charges = false)

omit [Platform] in
theorem PassCalls.uncharged {token policy : Option String} {calls : List (Event Op.Ret)}
    (h : PassCalls token policy calls) : ∀ e ∈ calls, e.1.charges = false := by
  cases h <;> simp [Op.charges]

theorem ClaimCalls.uncharged {payload : PaymentPayload} {requirements : PaymentRequirements}
    {calls : List (Event Op.Ret)} {refused : Option FacilitatorError}
    (h : ClaimCalls payload requirements calls refused) : ∀ e ∈ calls, e.1.charges = false := by
  cases h <;> simp [Op.charges]

/-- A deferred decision charges nobody, and what it leaves pending it has verified. -/
theorem Service.DecideCalls.uncharged {svc : Service} {headers : HeaderView}
    {clientIp : Option IpAddr} {terms : Terms} {policy : Option String}
    {calls : List (Event Op.Ret)} {d : Decision}
    (h : svc.DecideCalls headers clientIp terms policy .deferred calls d) :
    (∀ e ∈ calls, e.1.charges = false) ∧ PendingVerified d.pending calls := by
  have hnone : ∀ calls, PendingVerified none calls := fun _ _ hp => by cases hp
  cases h with
  | session honored =>
    cases honored
    exact ⟨by simp [Op.charges], hnone _⟩
  | payment passed presented paid =>
    cases paid with
    | malformed => exact ⟨by simpa using passed.uncharged, hnone _⟩
    | refused _ claimed =>
      exact ⟨List.forall_mem_append.mpr ⟨passed.uncharged, claimed.uncharged⟩, hnone _⟩
    | unverified claimed e =>
      refine ⟨?_, hnone _⟩
      simpa [or_imp, forall_and, Op.charges] using ⟨passed.uncharged, claimed.uncharged⟩
    | verified claimed payer =>
      refine ⟨?_, ?_⟩
      · simpa [or_imp, forall_and, Op.charges] using ⟨passed.uncharged, claimed.uncharged⟩
      · rintro _ ⟨rfl⟩
        exact ⟨payer, by simp⟩
  | free passed unpaid served =>
    have hserved : d.pending = none := by cases served <;> rfl
    rw [hserved]
    refine ⟨List.forall_mem_append.mpr ⟨passed.uncharged, ?_⟩, hnone _⟩
    cases served <;> simp [Op.charges]

theorem PendingVerified.later {pending : Option PendingPayment} {calls : List (Event Op.Ret)}
    (h : PendingVerified pending calls) (before : List (Event Op.Ret)) :
    PendingVerified pending (before ++ calls) := by
  intro p hp
  obtain ⟨payer, hmem⟩ := h p hp
  exact ⟨payer, List.mem_append_right _ hmem⟩

theorem uncharged_decide (svc : Service) (headers : HeaderView) (clientIp : Option IpAddr)
    (path : String) (policy : Option String) (resourceUrl : String)
    (trace : List (Event Op.Ret)) :
    (svc.decide headers clientIp path policy resourceUrl .deferred).Follows uncharged
      (fun trace d => PendingVerified d.pending trace) trace :=
  (calls_decide svc headers clientIp path policy resourceUrl .deferred).follows_trace
    fun _ _ h => ⟨h.uncharged.1, h.uncharged.2.later _⟩

/-- The request phase leaves the stream as it was, or with what this message resolved. -/
def Resolved (st : StreamState) (headers : Option (List HeaderValue)) (policy : Option String)
    (trace : List (Event Op.Ret)) (st' : StreamState) : Prop :=
  st' = st ∨
    PendingVerified st'.pending trace ∧ st'.policy = policy ∧
      st'.path = ((headerMap headers).get? ":path").getD ""

theorem uncharged_handleRequestHeaders (svc : Service) (st : StreamState)
    (headers : Option (List HeaderValue)) (clientIp : Option IpAddr) (policy : Option String)
    (decideMs : String) (trace : List (Event Op.Ret)) :
    (svc.handleRequestHeaders st headers clientIp policy decideMs).Follows uncharged
      (fun trace reply => Resolved st headers policy trace reply.2) trace := by
  refine .perform rfl fun breaker _ => ?_
  split
  · exact .inl rfl
  · refine (uncharged_decide svc _ clientIp _ policy _ _).bind fun trace d hd => ?_
    cases d with
    | allow tier payer token settlement pending meter => exact .inr ⟨hd, rfl, rfl⟩
    | deny challenge receipt meter => exact .inl rfl

/-- **The request phase.** It charges nobody. -/
theorem eval_handleRequestHeaders (svc : Service) (st : StreamState)
    (headers : Option (List HeaderValue)) (clientIp : Option IpAddr) (policy : Option String)
    (decideMs : String) (answer : Answers) :
    let r := (svc.handleRequestHeaders st headers clientIp policy decideMs).eval answer
    Resolved st headers policy r.2 r.1.2 ∧ ∀ e ∈ r.2, e.1.charges = false :=
  (uncharged_handleRequestHeaders svc st headers clientIp policy decideMs []).eval answer

omit [Platform] in
theorem ReleaseCalls.uncharged {id : Option String} {calls : List (Event Op.Ret)}
    (h : ReleaseCalls id calls) : ∀ e ∈ calls, e.1.charges = false := by
  cases h with
  | unkeyed => exact List.forall_mem_nil _
  | released => exact List.forall_mem_singleton.mpr rfl

/-- The session a receipt is followed by: none without a payer, and one for its payer otherwise. -/
def Mints (receipt : SettlementResponse) (policy : Option String) (tier : PaidTierConfig)
    (events : List (Event Op.Ret)) : Prop :=
  receipt.payer = none ∧ events = [] ∨
    ∃ payer token, receipt.payer = some payer ∧
      events = [⟨.createSession payer policy tier.quota tier.durationSecs, token⟩]

omit [Platform] in
theorem MintCalls.mints {receipt : SettlementResponse} {policy : Option String}
    {tier : PaidTierConfig} {calls : List (Event Op.Ret)} {token : Option String}
    (h : MintCalls receipt policy tier calls token) : Mints receipt policy tier calls := by
  cases h with
  | nobody payer => exact .inl ⟨payer, rfl⟩
  | minted paid | failed paid => exact .inr ⟨_, _, paid, rfl⟩

/-- One settlement of a pending payment, and what follows it: the breaker is told, and a receipt is
followed by the session of the tier sold at this policy and path. -/
def Settles (svc : Service) (p : PendingPayment) (policy : Option String) (path : String)
    (events : List (Event Op.Ret)) : Prop :=
  (∃ e, events =
    [⟨.settle p.payload p.requirements, .error e⟩, ⟨.breakerRecord (breakerPolicy policy) true, ()⟩]) ∨
  ∃ receipt minted, Mints receipt policy (svc.config.policyFor path policy).paidTier minted ∧
    events = ⟨.settle p.payload p.requirements, .ok receipt⟩ ::
      ⟨.breakerRecord (breakerPolicy policy) false, ()⟩ :: minted

theorem Service.SettleCalls.settles {svc : Service} {st : StreamState} {p : PendingPayment}
    {settleMs : String} {calls : List (Event Op.Ret)} {reply : ProcessingResponse}
    (h : svc.SettleCalls st p settleMs calls reply) : Settles svc p st.policy st.path calls := by
  cases h with
  | unpaid e => exact .inl ⟨e, rfl⟩
  | paid receipt minted => exact .inr ⟨receipt, _, minted.mints, rfl⟩

/-- **The response phase.** Without a pending payment it does nothing. With one, it charges nobody
unless the upstream succeeded, and then settles exactly that payment. Either way none is left. -/
theorem eval_handleResponseHeaders (svc : Service) (st : StreamState)
    (headers : Option (List HeaderValue)) (settleMs : String) (answer : Answers) :
    let r := (svc.handleResponseHeaders st headers settleMs).eval answer
    (st.pending = none ∧ r.2 = [] ∧ r.1.2 = st) ∨
    ∃ p, st.pending = some p ∧ r.1.2 = { st with pending := none } ∧
      ((∀ e ∈ r.2, e.1.charges = false) ∨
        isSuccess (((headerMap headers).get? ":status").getD "") = true ∧
          Settles svc p st.policy st.path r.2) := by
  intro r
  have hcalls : svc.ResponseCalls st headers settleMs r.2 r.1 :=
    calls_handleResponseHeaders svc st headers settleMs answer
  generalize r = out at hcalls
  obtain ⟨⟨reply, st'⟩, calls⟩ := out
  cases hcalls with
  | idle idle => exact .inl ⟨idle, rfl, rfl⟩
  | failed holds failed released => exact .inr ⟨_, holds, rfl, .inl released.uncharged⟩
  | delivered holds delivered settled =>
    exact .inr ⟨_, holds, rfl, .inr ⟨delivered, settled.settles⟩⟩

/-! ## A whole stream -/

/-- One message of a stream, and what the operations answer while it is handled. -/
structure Exchange where
  message : ProcessingRequest
  elapsedMs : String
  answer : Answers

/-- What one message did. -/
structure StreamStep where
  message : ProcessingRequest
  reply : ProcessingResponse
  events : List (Event Op.Ret)

/-- A stream so far: its state, and what its messages did, latest first. -/
structure StreamRun where
  state : StreamState := {}
  past : List StreamStep := []

def Service.exchange (svc : Service) (r : StreamRun) (x : Exchange) : StreamRun :=
  let out := (svc.process r.state x.message x.elapsedMs).eval x.answer
  ⟨out.1.2, ⟨x.message, out.1.1, out.2⟩ :: r.past⟩

/-- The stream after these messages. -/
def Service.streamRun (svc : Service) (xs : List Exchange) : StreamRun := xs.foldl svc.exchange {}

/-- A step that settles nothing and mints nothing. -/
def StreamStep.Uncharged (step : StreamStep) : Prop := ∀ e ∈ step.events, e.1.charges = false

/-- A request-headers message under this policy and path, in which the payment was verified. -/
def StreamStep.Supplies (step : StreamStep) (p : PendingPayment) (policy : Option String)
    (path : String) : Prop :=
  ∃ headers payer, step.message.phase = .requestHeaders headers ∧
    policyFromAttributes step.message.attributes = policy ∧
    ((headerMap headers).get? ":path").getD "" = path ∧
    ⟨.verify p.payload p.requirements, .ok payer⟩ ∈ step.events

/-- An earlier message supplied the payment, and nobody has been charged since. -/
def Supplied (p : PendingPayment) (policy : Option String) (path : String)
    (past : List StreamStep) : Prop :=
  ∃ between source earlier, past = between ++ source :: earlier ∧
    (∀ step ∈ between, step.Uncharged) ∧ source.Supplies p policy path

/-- The step charges nobody, or it answers a 2xx from the upstream by settling what an earlier
message supplied. -/
def Service.ChargesAfterDelivery (svc : Service) (older : List StreamStep) (step : StreamStep) :
    Prop :=
  step.Uncharged ∨
  ∃ headers p policy path, step.message.phase = .responseHeaders headers ∧
    isSuccess (((headerMap headers).get? ":status").getD "") = true ∧
    Supplied p policy path older ∧ Settles svc p policy path step.events

/-- What every stream keeps to. -/
structure Delivers (svc : Service) (r : StreamRun) : Prop where
  supplied : ∀ p, r.state.pending = some p → Supplied p r.state.policy r.state.path r.past
  charges : ∀ step older, step :: older <:+ r.past → svc.ChargesAfterDelivery older step

theorem Supplied.cons {p : PendingPayment} {policy : Option String} {path : String}
    {past : List StreamStep} {step : StreamStep} (h : Supplied p policy path past)
    (hstep : step.Uncharged) : Supplied p policy path (step :: past) := by
  obtain ⟨between, source, earlier, rfl, hbetween, hsource⟩ := h
  exact ⟨step :: between, source, earlier, rfl, by simpa using ⟨hstep, hbetween⟩, hsource⟩

theorem Delivers.cons {svc : Service} {r : StreamRun} {step : StreamStep} {st : StreamState}
    (h : Delivers svc r) (hstep : svc.ChargesAfterDelivery r.past step)
    (hpending : ∀ p, st.pending = some p → Supplied p st.policy st.path (step :: r.past)) :
    Delivers svc ⟨st, step :: r.past⟩ := by
  refine ⟨hpending, fun step' older hsuffix => ?_⟩
  rcases List.suffix_cons_iff.mp hsuffix with heq | hsuffix
  · obtain ⟨rfl, rfl⟩ := List.cons.inj heq
    exact hstep
  · exact h.charges step' older hsuffix

theorem Delivers.idle {svc : Service} {r : StreamRun} {step : StreamStep} {st : StreamState}
    (h : Delivers svc r) (hstep : step.Uncharged) (hst : st = r.state) :
    Delivers svc ⟨st, step :: r.past⟩ := by
  subst hst
  exact h.cons (.inl hstep) fun p hp => (h.supplied p hp).cons hstep

/-- **One message.** -/
theorem Delivers.exchange {svc : Service} {r : StreamRun} (h : Delivers svc r) (x : Exchange) :
    Delivers svc (svc.exchange r x) := by
  obtain ⟨⟨attributes, phase⟩, elapsedMs, answer⟩ := x
  cases phase with
  | other =>
    have huncharged : StreamStep.Uncharged ⟨⟨attributes, .other⟩, .default, []⟩ := by
      simp [StreamStep.Uncharged]
    exact h.idle huncharged rfl
  | requestHeaders headers =>
    have hout := eval_handleRequestHeaders svc r.state headers (clientIpFromAttributes attributes)
      (policyFromAttributes attributes) elapsedMs answer
    simp only [Service.exchange, Service.process]
    generalize (svc.handleRequestHeaders r.state headers (clientIpFromAttributes attributes)
      (policyFromAttributes attributes) elapsedMs).eval answer = out at hout ⊢
    obtain ⟨hresolved, huncharged⟩ := hout
    rcases hresolved with hst | ⟨hverified, hpolicy, hpath⟩
    · exact h.idle huncharged hst
    · refine h.cons (.inl huncharged) fun p hp => ?_
      obtain ⟨payer, hmem⟩ := hverified p hp
      exact ⟨[], _, _, rfl, nofun, headers, payer, rfl, hpolicy.symm, hpath.symm, hmem⟩
  | responseHeaders headers =>
    rcases eval_handleResponseHeaders svc r.state headers elapsedMs answer with
      ⟨-, hevents, hst⟩ | ⟨p, hp, hst, hdone⟩
    · refine h.idle (fun e he => ?_) hst
      exact absurd (hevents ▸ he : e ∈ []) List.not_mem_nil
    · refine h.cons ?_ fun p' hp' => ?_
      · rcases hdone with huncharged | ⟨hsuccess, hsettles⟩
        · exact .inl huncharged
        · exact .inr ⟨headers, p, _, _, rfl, hsuccess, h.supplied p hp, hsettles⟩
      · have hnone := (congrArg StreamState.pending hst).symm.trans hp'
        cases hnone

/-- **One stream.** Whatever messages arrive. -/
theorem delivers_streamRun (svc : Service) (xs : List Exchange) :
    Delivers svc (svc.streamRun xs) := by
  have hrun : ∀ r, Delivers svc r → Delivers svc (xs.foldl svc.exchange r) := by
    induction xs with
    | nil => exact fun r h => h
    | cons x xs ih => exact fun r h => ih _ (h.exchange x)
  exact hrun {} ⟨fun p hp => (by cases hp), fun step older h => (by simp at h)⟩

/-- A step that charges is no source of a payment. -/
theorem StreamStep.Supplies.uncharged {svc : Service} {step : StreamStep} {older : List StreamStep}
    {p : PendingPayment} {policy : Option String} {path : String} (h : step.Supplies p policy path)
    (hstep : svc.ChargesAfterDelivery older step) : step.Uncharged := by
  rcases hstep with huncharged | ⟨headers, _, _, _, hphase, -⟩
  · exact huncharged
  · obtain ⟨headers', payer, hphase', -⟩ := h
    rw [hphase] at hphase'
    cases hphase'

omit [Platform] in
theorem mem_of_append_cons_eq {α : Type} {a b : α} {l₁ l₂ r₁ r₂ : List α}
    (h : l₁ ++ a :: r₁ = l₂ ++ b :: r₂) (ha : a ∉ l₂) (hne : a ≠ b) : b ∈ l₁ := by
  induction l₁ generalizing l₂ with
  | nil =>
    cases l₂ with
    | nil => exact absurd (List.cons.inj h).1 hne
    | cons x l₂ => exact absurd ((List.cons.inj h).1 ▸ List.mem_cons_self) ha
  | cons x l₁ ih =>
    cases l₂ with
    | nil => exact (List.cons.inj h).1 ▸ List.mem_cons_self
    | cons y l₂ =>
      exact List.mem_cons_of_mem _
        (ih (List.cons.inj h).2 fun hmem => ha (List.mem_cons_of_mem _ hmem))

/-- **Charged only after delivery.** On every stream, whatever is sent and answered: a step that
charges answers a 2xx from the upstream by settling, once, a payment verified in an earlier message
of the stream, and mints for its payer under that message's policy and tier. Between two steps that
charge lies the message that supplied the second, so no verified payment is charged twice. -/
theorem charged_only_after_delivery (svc : Service) (xs : List Exchange) :
    (∀ step older, step :: older <:+ (svc.streamRun xs).past →
      svc.ChargesAfterDelivery older step) ∧
    ∀ later between first older,
      later :: (between ++ first :: older) <:+ (svc.streamRun xs).past →
      ¬ later.Uncharged → ¬ first.Uncharged →
      ∃ source ∈ between, ∃ p policy path,
        source.Supplies p policy path ∧ Settles svc p policy path later.events := by
  have h := delivers_streamRun svc xs
  refine ⟨h.charges, fun later between first older hsuffix hlater hfirst => ?_⟩
  rcases h.charges _ _ hsuffix with huncharged | ⟨_, p, policy, path, -, -, hsupplied, hsettles⟩
  · exact absurd huncharged hlater
  obtain ⟨after, source, earlier, hold, hafter, hsource⟩ := hsupplied
  refine ⟨source, ?_, p, policy, path, hsource, hsettles⟩
  -- The first charge neither follows the source nor is the source.
  refine mem_of_append_cons_eq hold (fun hmem => hfirst (hafter first hmem)) ?_
  rintro rfl
  have hsource' : first :: earlier <:+ (svc.streamRun xs).past :=
    (List.suffix_append after _).trans (hold ▸ (List.suffix_cons later _).trans hsuffix)
  exact hfirst (hsource.uncharged (h.charges _ _ hsource'))

end X402Verifier
