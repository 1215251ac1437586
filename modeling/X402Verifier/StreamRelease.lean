import X402Verifier.StreamSettlement
import X402Verifier.Reference

/-!
# What a stream leaves behind

A payment that the request phase verified has its claim taken. The stream ends wherever Envoy ends
it, and what follows the verification may be any messages at all. Once it has ended, the payment is
to have been handed to `settle`, or its claim released (`Concluded`).

The response phase does either, and nothing else does. It acts on the payment that is pending, which
is that of the last request-headers message that was granted. So a payment is left neither settled
nor released just when the stream ends, or another request-headers message is granted, before the
response-headers message that was to answer it (`Answered`).

The pending payment is read off the past of a stream by a recursion (`awaited`). What a message
does is said once (`Advances`), and the rest is about lists of such steps.
-/

namespace X402Verifier

open RustStd Interaction

variable [Platform] {id : String}

/-! ## What is granted, verified and concluded -/

omit [Platform] in
/-- An operation lets the request pass: its session is honored, its payment verified, or its free
tier not used up. -/
def granted : Event Op.Ret → Bool
  | ⟨.consume .., .accepted ..⟩ => true
  | ⟨.verify .., .ok _⟩ => true
  | ⟨.check .., allowance⟩ => Allowance.allowed allowance
  | _ => false

def verifies (id : String) : Event Op.Ret → Bool
  | ⟨.verify payload _, .ok _⟩ => paymentId payload = some id
  | _ => false

/-- The payment is handed to `settle`, or its claim released. -/
def concludes (id : String) : Event Op.Ret → Bool
  | ⟨.settle payload _, _⟩ => paymentId payload = some id
  | ⟨.releasePayment id', _⟩ => id' = id
  | _ => false

theorem granted_of_verifies {e : Event Op.Ret} (h : verifies id e = true) : granted e = true := by
  obtain ⟨op, r⟩ := e
  cases op with
  | verify payload requirements =>
    cases r with
    | ok payer => rfl
    | error e => cases h
  | _ => cases h

def StreamState.pendingId (st : StreamState) : Option String := st.pending.bind (·.paymentId)

def StreamStep.granted (step : StreamStep) : Bool := step.events.any X402Verifier.granted

def StreamStep.verifies (id : String) (step : StreamStep) : Bool :=
  step.events.any (X402Verifier.verifies id)

def StreamStep.concludes (id : String) (step : StreamStep) : Bool :=
  step.events.any (X402Verifier.concludes id)

/-- The step answers the upstream's response headers. -/
def StreamStep.isResponse (step : StreamStep) : Bool :=
  match step.message.phase with
  | .responseHeaders _ => true
  | _ => false

theorem StreamStep.granted_of_verifies {step : StreamStep} (h : step.verifies id = true) :
    step.granted = true := by
  obtain ⟨e, he, hverifies⟩ := List.any_eq_true.mp h
  exact List.any_eq_true.mpr ⟨e, he, X402Verifier.granted_of_verifies hverifies⟩

/-! ## The request phase -/

/-- The decision is to allow just when an operation granted the request, and leaves pending what
was verified. -/
def Granting (trace : List (Event Op.Ret)) (d : Decision) : Prop :=
  match d with
  | .allow _ _ _ _ pending _ =>
    trace.any granted = true ∧
      ∀ id, trace.any (verifies id) = true ↔ pending.bind (·.paymentId) = some id
  | .deny .. => trace.any granted = false

theorem verifies_of_not_granted {trace : List (Event Op.Ret)} (h : trace.any granted = false)
    (id : String) : trace.any (verifies id) = false := by
  rw [List.any_eq_false] at h ⊢
  exact fun e he hverifies => h e he (granted_of_verifies hverifies)

/-- Calls that conclude nothing. -/
abbrev openEnded : Protocol Op Op.Ret (List (Event Op.Ret)) :=
  .trace fun
    | .settle .. | .releasePayment _ => False
    | _ => True

theorem granting_append {before calls : List (Event Op.Ret)} {d : Decision}
    (hbefore : before.any granted = false) (h : Granting calls d) : Granting (before ++ calls) d := by
  cases d with
  | allow tier payer token settlement pending meter =>
    refine ⟨by rw [List.any_append, h.1, Bool.or_true], fun id => ?_⟩
    rw [List.any_append, verifies_of_not_granted hbefore, Bool.false_or]
    exact h.2 id
  | deny challenge receipt meter =>
    show (before ++ calls).any granted = false
    rw [List.any_append, hbefore, Bool.false_or]
    exact h

omit [Platform] in
theorem PassCalls.not_granted {token policy : Option String} {calls : List (Event Op.Ret)}
    (h : PassCalls token policy calls) : calls.any granted = false := by
  cases h <;> rfl

theorem ClaimCalls.not_granted {payload : PaymentPayload} {requirements : PaymentRequirements}
    {calls : List (Event Op.Ret)} {refused : Option FacilitatorError}
    (h : ClaimCalls payload requirements calls refused) : calls.any granted = false := by
  cases h <;> rfl

theorem Service.DecideCalls.granting {svc : Service} {headers : HeaderView}
    {clientIp : Option IpAddr} {terms : Terms} {policy : Option String}
    {calls : List (Event Op.Ret)} {d : Decision}
    (h : svc.DecideCalls headers clientIp terms policy .deferred calls d) : Granting calls d := by
  cases h with
  | session honored =>
    cases honored
    exact ⟨rfl, fun id => by simp [verifies]⟩
  | payment passed presented paid =>
    refine granting_append passed.not_granted ?_
    cases paid with
    | malformed => rfl
    | refused _ claimed => exact claimed.not_granted
    | unverified claimed e => exact granting_append claimed.not_granted rfl
    | verified claimed payer =>
      exact granting_append claimed.not_granted ⟨rfl, fun id => by simp [verifies]⟩
  | free passed unpaid served =>
    refine granting_append passed.not_granted ?_
    cases served with
    | unaddressed => rfl
    | admitted hadmitted => exact ⟨by simp [granted, hadmitted], fun id => by simp [verifies]⟩
    | exceeded hexceeded => simp [Granting, granted, hexceeded]

theorem granting_decide (svc : Service) (headers : HeaderView) (clientIp : Option IpAddr)
    (path : String) (policy : Option String) (resourceUrl : String)
    {trace : List (Event Op.Ret)} (h : trace.any granted = false) :
    (svc.decide headers clientIp path policy resourceUrl .deferred).Follows openEnded Granting
      trace := by
  refine (calls_decide svc headers clientIp path policy resourceUrl .deferred).follows_trace
    fun calls d hcalls => ⟨fun e he => ?_, granting_append h hcalls.granting⟩
  have hcharges := hcalls.uncharged.1 e he
  have hcalled := hcalls.calledOn.1 e he
  obtain ⟨op, r⟩ := e
  cases hcalled with
  | settle => cases hcharges
  | _ => trivial

/-! ## One message -/

/-- What a message may do to the pending payment. A granted request replaces it by what was
verified, a response takes and concludes it, and everything else leaves it. -/
structure Advances (st : StreamState) (step : StreamStep) (st' : StreamState) : Prop where
  pending : ∀ id, st'.pendingId = some id ↔
    if step.granted then step.verifies id = true
    else step.isResponse = false ∧ st.pendingId = some id
  concludes : ∀ id, step.concludes id = true ↔ step.isResponse = true ∧ st.pendingId = some id
  granted : step.granted = true → step.isResponse = false

theorem advances_requestHeaders (svc : Service) (st : StreamState)
    (attributes : Attributes) (headers : Option (List HeaderValue)) (clientIp : Option IpAddr)
    (policy : Option String) (decideMs : String) (answer : Answers) :
    let out := (svc.handleRequestHeaders st headers clientIp policy decideMs).eval answer
    Advances st ⟨⟨attributes, .requestHeaders headers⟩, out.1.1, out.2⟩ out.1.2 := by
  have hfollows : (svc.handleRequestHeaders st headers clientIp policy decideMs).Follows openEnded
      (fun trace reply => trace.any X402Verifier.granted = false ∧ reply.2 = st ∨
        trace.any X402Verifier.granted = true ∧
          ∀ id, trace.any (X402Verifier.verifies id) = true ↔ reply.2.pendingId = some id) [] := by
    refine .perform trivial fun breaker _ => ?_
    split
    · exact .inl ⟨rfl, rfl⟩
    · refine (granting_decide svc _ clientIp _ policy _ (by rfl)).bind fun trace d hd => ?_
      cases d with
      | allow tier payer token settlement pending meter => exact .inr hd
      | deny challenge receipt meter => exact .inl ⟨hd, rfl⟩
  intro out
  -- The request phase only verifies; nothing it calls concludes a payment.
  obtain ⟨hpost, hmay⟩ := hfollows.eval answer
  have hconcludes : ∀ id, out.2.any (X402Verifier.concludes id) = false := by
    intro id
    rw [List.any_eq_false]
    rintro ⟨op, r⟩ he
    have hop := hmay _ he
    cases op with
    | settle payload requirements => exact hop.elim
    | releasePayment id' => exact hop.elim
    | _ => exact Bool.false_ne_true
  rw [List.nil_append] at hpost
  refine ⟨fun id => ?_, fun id => ?_, fun _ => rfl⟩
  · simp only [StreamStep.granted, StreamStep.verifies, StreamStep.isResponse, true_and]
    rcases hpost with ⟨hnone, hst⟩ | ⟨hsome, hpending⟩
    · rw [hnone, hst]
      rfl
    · rw [hsome, hpending id]
      rfl
  · simp [StreamStep.concludes, StreamStep.isResponse, hconcludes]

/-- A settlement, and what follows it, concludes the payment and no other. -/
theorem concludes_settles {svc : Service} {p : PendingPayment} {policy : Option String}
    {path : String} {events : List (Event Op.Ret)} (h : Settles svc p policy path events)
    (id : String) :
    (events.any (concludes id) = true ↔ p.paymentId = some id) ∧ events.any granted = false := by
  rcases h with ⟨e, rfl⟩ | ⟨receipt, minted, hminted, rfl⟩
  · simp [concludes, granted, p.keyed]
  · rcases hminted with ⟨-, rfl⟩ | ⟨payer, token, -, rfl⟩
    · simp [concludes, granted, p.keyed]
    · simp [concludes, granted, p.keyed]

theorem ReleaseCalls.concludes {id? : Option String} {calls : List (Event Op.Ret)}
    (h : ReleaseCalls id? calls) (id : String) :
    (calls.any (X402Verifier.concludes id) = true ↔ id? = some id) ∧
      calls.any granted = false := by
  cases h with
  | unkeyed unkeyed => simp [unkeyed]
  | released keyed => simp [keyed, X402Verifier.concludes, granted]

theorem advances_responseHeaders (svc : Service) (st : StreamState)
    (attributes : Attributes) (headers : Option (List HeaderValue)) (settleMs : String)
    (answer : Answers) :
    let out := (svc.handleResponseHeaders st headers settleMs).eval answer
    Advances st ⟨⟨attributes, .responseHeaders headers⟩, out.1.1, out.2⟩ out.1.2 := by
  intro out
  have hout : (∀ id, out.2.any (X402Verifier.concludes id) = true ↔ st.pendingId = some id) ∧
      out.2.any X402Verifier.granted = false ∧ out.1.2.pendingId = none := by
    have hcalls : svc.ResponseCalls st headers settleMs out.2 out.1 :=
      calls_handleResponseHeaders svc st headers settleMs answer
    generalize out = out at hcalls
    obtain ⟨⟨reply, st'⟩, calls⟩ := out
    simp only [StreamState.pendingId]
    cases hcalls with
    | idle idle => simp [idle]
    | failed holds failed released =>
      rw [holds]
      exact ⟨fun id => (released.concludes id).1, (released.concludes "").2, rfl⟩
    | delivered holds delivered settled =>
      have hsettles := concludes_settles settled.settles
      rw [holds]
      exact ⟨fun id => (hsettles id).1, (hsettles "").2, rfl⟩
  obtain ⟨hconcludes, hgranted, hpending⟩ := hout
  refine ⟨fun id => ?_, fun id => ?_, fun h => ?_⟩
  · simp [StreamStep.granted, StreamStep.isResponse, hgranted, hpending]
  · simp [StreamStep.concludes, StreamStep.isResponse, hconcludes]
  · simp [StreamStep.granted, hgranted] at h

/-- **One message.** -/
theorem advances_exchange (svc : Service) (r : StreamRun) (x : Exchange) :
    ∃ step, (svc.exchange r x).past = step :: r.past ∧
      Advances r.state step (svc.exchange r x).state := by
  obtain ⟨⟨attributes, phase⟩, elapsedMs, answer⟩ := x
  refine ⟨_, rfl, ?_⟩
  cases phase with
  | requestHeaders headers =>
    exact advances_requestHeaders svc r.state attributes headers _ _ elapsedMs answer
  | responseHeaders headers =>
    exact advances_responseHeaders svc r.state attributes headers elapsedMs answer
  | other =>
    refine ⟨fun id => ?_, fun id => ?_, fun _ => rfl⟩
    · simp [Service.exchange, Service.process, StreamStep.granted, StreamStep.isResponse]
    · simp [Service.process, StreamStep.concludes, StreamStep.isResponse]

/-! ## The payment that is pending -/

/-- The payment is pending after these steps, latest first. -/
def awaited (id : String) : List StreamStep → Bool
  | [] => false
  | step :: past =>
    if step.granted then step.verifies id else ¬ step.isResponse ∧ awaited id past

/-- What the steps of a stream keep to. A response concludes what was pending when it came. -/
structure Orderly (past : List StreamStep) : Prop where
  concludes : ∀ step older, step :: older <:+ past → ∀ id,
    step.concludes id = true ↔ step.isResponse = true ∧ awaited id older = true
  granted : ∀ step ∈ past, step.granted = true → step.isResponse = false

/-- **One stream.** Its past is orderly, and says what is pending. -/
theorem orderly_streamRun (svc : Service) (xs : List Exchange) :
    Orderly (svc.streamRun xs).past ∧
      ∀ id, (svc.streamRun xs).state.pendingId = some id ↔
        awaited id (svc.streamRun xs).past = true := by
  suffices hrun : ∀ r : StreamRun, Orderly r.past ∧
      (∀ id, r.state.pendingId = some id ↔ awaited id r.past = true) →
      Orderly (xs.foldl svc.exchange r).past ∧
        ∀ id, (xs.foldl svc.exchange r).state.pendingId = some id ↔
          awaited id (xs.foldl svc.exchange r).past = true by
    refine hrun {} ⟨⟨fun step older h => (by simp at h), fun step h => (by cases h)⟩, fun id => ?_⟩
    simp [StreamState.pendingId, awaited]
  induction xs with
  | nil => exact fun r h => h
  | cons x xs ih =>
    intro r h
    refine ih _ ?_
    obtain ⟨horderly, hpending⟩ := h
    obtain ⟨step, hpast, hstep⟩ := advances_exchange svc r x
    rw [hpast]
    refine ⟨⟨fun step' older hsuffix id => ?_, fun step' hmem => ?_⟩, fun id => ?_⟩
    · rcases List.suffix_cons_iff.mp hsuffix with heq | hsuffix
      · obtain ⟨rfl, rfl⟩ := List.cons.inj heq
        rw [hstep.concludes id, hpending id]
      · exact horderly.concludes step' older hsuffix id
    · rcases List.mem_cons.mp hmem with rfl | hmem
      · exact hstep.granted
      · exact horderly.granted step' hmem
    · rw [hstep.pending id, hpending id, awaited]
      split <;> simp

/-! ## At the end of a stream -/

/-- Every time the payment was verified, it was later handed to `settle` or its claim released. -/
def Concluded (id : String) (past : List StreamStep) : Prop :=
  ∀ later source earlier, past = later ++ source :: earlier → source.verifies id = true →
    ∃ step ∈ later, step.concludes id = true

/-- A response comes before another request is granted. -/
def ResponseFirst (later : List StreamStep) : Prop :=
  ∃ after response between, later = after ++ response :: between ∧ response.isResponse = true ∧
    ∀ step ∈ between, step.granted = false

/-- What followed the last time the payment was verified was a response, before the stream ended
and before another request was granted. -/
def Answered (id : String) (past : List StreamStep) : Prop :=
  ∀ later source earlier, past = later ++ source :: earlier → source.verifies id = true →
    (∀ step ∈ later, step.verifies id = false) → ResponseFirst later

omit [Platform] in
theorem ResponseFirst.cons {later : List StreamStep} (h : ResponseFirst later)
    (step : StreamStep) : ResponseFirst (step :: later) := by
  obtain ⟨after, response, between, rfl, hresponse, hbetween⟩ := h
  exact ⟨step :: after, response, between, rfl, hresponse, hbetween⟩

theorem Orderly.tail {step : StreamStep} {past : List StreamStep} (h : Orderly (step :: past)) :
    Orderly past :=
  ⟨fun step' older hsuffix => h.concludes step' older (hsuffix.trans (List.suffix_cons step past)),
    fun step' hmem => h.granted step' (List.mem_cons_of_mem step hmem)⟩

theorem awaited_append {later past : List StreamStep}
    (h : ∀ step ∈ later, step.granted = false ∧ step.isResponse = false) :
    awaited id (later ++ past) = awaited id past := by
  induction later with
  | nil => rfl
  | cons step later ih =>
    obtain ⟨⟨hgranted, hresponse⟩, hlater⟩ := List.forall_mem_cons.mp h
    simp [awaited, hgranted, hresponse, ih hlater]

/-- What was verified last is pending unless a request was granted since. -/
theorem not_granted_of_awaited {later earlier : List StreamStep} {source : StreamStep}
    (hawaited : awaited id (later ++ source :: earlier) = true)
    (hlast : ∀ step ∈ later, step.verifies id = false) :
    ∀ step ∈ later, step.granted = false := by
  induction later with
  | nil => exact nofun
  | cons step later ih =>
    obtain ⟨hstep, hlater⟩ := List.forall_mem_cons.mp hlast
    rw [List.cons_append, awaited, hstep] at hawaited
    cases hgranted : step.granted with
    | true => simp [hgranted] at hawaited
    | false =>
      have htail : awaited id (later ++ source :: earlier) = true := by
        simp only [hgranted, Bool.false_eq_true, if_false, decide_eq_true_eq] at hawaited
        exact hawaited.2
      exact List.forall_mem_cons.mpr ⟨hgranted, ih htail hlater⟩

/-- It is no longer pending, and no request was granted since: there was a response. -/
theorem responseFirst_of_not_awaited {later earlier : List StreamStep} {source : StreamStep}
    (hverifies : source.verifies id = true)
    (hawaited : awaited id (later ++ source :: earlier) = false)
    (hlater : ∀ step ∈ later, step.granted = false) : ResponseFirst later := by
  have hresponse : ∃ response ∈ later, response.isResponse = true := by
    by_contra hnone
    have hquiet : ∀ step ∈ later, step.granted = false ∧ step.isResponse = false :=
      fun step hmem => ⟨hlater step hmem, by simpa using fun h => hnone ⟨step, hmem, h⟩⟩
    rw [awaited_append hquiet, awaited, if_pos (source.granted_of_verifies hverifies),
      hverifies] at hawaited
    cases hawaited
  obtain ⟨response, hmem, hresponse⟩ := hresponse
  obtain ⟨after, between, rfl⟩ := List.append_of_mem hmem
  exact ⟨after, response, between, rfl, hresponse, fun step hstep =>
    hlater step (List.mem_append_right _ (List.mem_cons_of_mem _ hstep))⟩

theorem concluded_cons {step : StreamStep} {past : List StreamStep} :
    Concluded id (step :: past) ↔
      step.verifies id = false ∧ (step.concludes id = true ∨ Concluded id past) := by
  constructor
  · intro h
    refine ⟨?_, ?_⟩
    · by_contra hverifies
      rw [Bool.not_eq_false] at hverifies
      obtain ⟨_, hmem, -⟩ := h [] step past rfl hverifies
      cases hmem
    · by_cases hstep : step.concludes id = true
      · exact .inl hstep
      · refine .inr fun later source earlier hsplit hverifies => ?_
        obtain ⟨step', hmem, hconcludes⟩ :=
          h (step :: later) source earlier (congrArg (step :: ·) hsplit) hverifies
        rcases List.mem_cons.mp hmem with rfl | hmem
        · exact absurd hconcludes hstep
        · exact ⟨step', hmem, hconcludes⟩
  · rintro ⟨hnot, h⟩ later source earlier hsplit hverifies
    cases later with
    | nil =>
      rw [← (List.cons.inj hsplit).1, hnot] at hverifies
      cases hverifies
    | cons step' later =>
      obtain ⟨rfl, hpast⟩ := List.cons.inj hsplit
      rcases h with hstep | h
      · exact ⟨step, List.mem_cons_self, hstep⟩
      · obtain ⟨step', hmem, hconcludes⟩ := h later source earlier hpast hverifies
        exact ⟨step', List.mem_cons_of_mem _ hmem, hconcludes⟩

theorem answered_cons {step : StreamStep} {past : List StreamStep} :
    Answered id (step :: past) ↔
      step.verifies id = false ∧
        (step.isResponse = true ∧ awaited id past = true ∨ Answered id past) := by
  constructor
  · intro h
    have hnot : step.verifies id = false := by
      by_contra hverifies
      rw [Bool.not_eq_false] at hverifies
      obtain ⟨after, _, _, hsplit, -⟩ := h [] step past rfl hverifies nofun
      cases after <;> cases hsplit
    refine ⟨hnot, ?_⟩
    by_cases hstep : step.isResponse = true ∧ awaited id past = true
    · exact .inl hstep
    · refine .inr fun later source earlier hsplit hverifies hlast => ?_
      obtain ⟨after, response, between, hlater, hresponse, hbetween⟩ :=
        h (step :: later) source earlier (congrArg (step :: ·) hsplit) hverifies
          (List.forall_mem_cons.mpr ⟨hnot, hlast⟩)
      -- The response that comes first may be this very step.
      cases after with
      | nil =>
        obtain ⟨rfl, rfl⟩ := List.cons.inj hlater
        have hawaited : awaited id past = false := by simpa [hresponse] using hstep
        exact responseFirst_of_not_awaited hverifies (hsplit ▸ hawaited) hbetween
      | cons step' after =>
        exact ⟨after, response, between, (List.cons.inj hlater).2, hresponse, hbetween⟩
  · rintro ⟨hnot, h⟩ later source earlier hsplit hverifies hlast
    cases later with
    | nil =>
      rw [← (List.cons.inj hsplit).1, hnot] at hverifies
      cases hverifies
    | cons step' later =>
      obtain ⟨rfl, hpast⟩ := List.cons.inj hsplit
      obtain ⟨-, hlast⟩ := List.forall_mem_cons.mp hlast
      -- An earlier payment: answered by this step, or before it.
      rcases h with ⟨hresponse, hawaited⟩ | h
      · exact ⟨[], step, later, rfl, hresponse, not_granted_of_awaited (hpast ▸ hawaited) hlast⟩
      · exact (h later source earlier hpast hverifies hlast).cons step

theorem concluded_iff_answered {past : List StreamStep} (h : Orderly past) :
    Concluded id past ↔ Answered id past := by
  induction past with
  | nil => exact ⟨fun _ later _ _ hsplit => by simp at hsplit, fun _ later _ _ hsplit => by
      simp at hsplit⟩
  | cons step past ih =>
    rw [concluded_cons, answered_cons, h.concludes step past (List.suffix_refl _) id, ih h.tail]

/-- **What a stream leaves behind.** On every stream that has ended, whatever was sent and answered:
a payment that was verified has been handed to `settle`, or its claim released, just when what
followed its last verification was a response, before the stream ended and before another request
was granted. -/
theorem verified_payment_concluded_iff (svc : Service) (xs : List Exchange) (id : String) :
    Concluded id (svc.streamRun xs).past ↔ Answered id (svc.streamRun xs).past :=
  concluded_iff_answered (orderly_streamRun svc xs).1

/-- A stream cut off after the message in which the payment was verified. -/
theorem not_concluded_of_verifies (svc : Service) (headers : Option (List HeaderValue))
    (elapsedMs : String) {answer : Answers}
    (hbreaker : BreakerState.acceptsPayment (answer 0 (.breakerState (breakerPolicy none))) = true)
    (hverifies : ((svc.processDecision headers none none).eval
      fun n => answer (n + 1)).2.any (verifies id) = true) :
    ¬ Concluded id (svc.streamRun [⟨⟨∅, .requestHeaders headers⟩, elapsedMs, answer⟩]).past := by
  intro h
  have hevents : ((svc.handleRequestHeaders {} headers none none elapsedMs).eval answer).2.any
      (verifies id) = true := by
    rw [handleRequestHeaders_eq, Prog.eval_call]
    dsimp only
    rw [if_neg (by simp [hbreaker]), Prog.eval_bind]
    simp [hverifies]
  obtain ⟨_, hmem, -⟩ := h [] _ [] rfl hevents
  cases hmem

omit [Platform] in
/-- **A stream cut off.** It ends after the message that presented the payment. -/
theorem hang_up_keeps_claim :
    ¬ ∀ (_ : Platform) (config : Config) (hmacKey : Bytes) (env : Env)
      (message : ProcessingRequest) (id : String), config.validate = .ok () →
      let svc := Service.ofConfig config
      let answer : Answers := fun _ op => (svc.exec env (.ofConfig config hmacKey) op).1
      Concluded id (svc.streamRun [⟨message, "0.0", answer⟩]).past := by
  intro h
  let _ : Platform := paymentPlatform "1000"
  let svc := Service.ofConfig (exampleConfig .stubAcceptAll)
  let answer : Answers := fun _ op =>
    (svc.exec (exampleEnv 1000) (.ofConfig (exampleConfig .stubAcceptAll) []) op).1
  let request := paymentRequest "1000" []
  have hne : utf8 (paymentText "1000") ≠ [] := by decide +kernel
  have hpayment : presentedPayment ⟨some (headerMap request)⟩ =
      some (.ok (payloadAccepting "1000")) := presentedPayment_paymentRequest "1000" [] hne
  have htoken : presentedToken ⟨some (headerMap request)⟩ = none :=
    presentedToken_paymentRequest "1000" [] hne (by decide +kernel)
  have hverifies : (((svc.processDecision request none none).eval
      fun n => answer (n + 1)).2.any (verifies exampleId)) = true := by
    rw [processDecision_of_payment svc none none htoken hpayment]
    decide +kernel
  exact not_concluded_of_verifies svc request "0.0" rfl hverifies (h (paymentPlatform "1000")
    (exampleConfig .stubAcceptAll) [] (exampleEnv 1000) ⟨∅, .requestHeaders request⟩ exampleId rfl)

end X402Verifier
