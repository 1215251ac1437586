import X402Verifier.BreakerHistory
import X402Verifier.DecisionRun
import X402Verifier.ReplayClaim
import X402Verifier.UpstreamFailure

/-!
# The half-open probe

Past its cooldown an open breaker lets one request through, the probe, and refuses payments until
that request has reported its outcome. Whoever is answered `halfOpen` has the probe, and every
request asks. Only one that pays can report, and only once its upstream has delivered: a request
that is given the probe and does not get so far keeps it for good.

`probeProtocol` follows the probe through one request, which *carries* it from the answer of the
breaker until it records an outcome or its payment comes to nothing. `dropsProbe` is a step at which
the one who has the probe stops carrying it without having recorded an outcome. In a run without
such a step the probe is always carried (`ProbeKept`).
-/

namespace X402Verifier

open RustStd Interaction

variable [Platform] {p : String}

/-! ## The probe in one request -/

/-- The breaker has given the policy's probe to whoever asked. -/
def givesProbe (p : String) : (op : Op) → op.Ret → Bool
  | .breakerState policy, (breaker : BreakerState) => policy = p ∧ breaker = .halfOpen
  | _, _ => false

/-- An outcome is recorded on the policy. -/
def recordsOn (p : String) : Op → Bool
  | .breakerRecord policy _ => policy = p
  | _ => false

/-- The request will not leave a payment to settle. -/
def endsPayment : (op : Op) → op.Ret → Bool
  | .consume .., .accepted .. => true
  | .claimPayment .., .replay _ => true
  | .claimPayment .., .backend => true
  | .verify .., .error _ => true
  | _, _ => false

def asksBreaker : Op → Bool
  | .breakerState _ => true
  | _ => false

/-- The message presents a payment that decodes. -/
def Message.pays : Message → Bool
  | .processing ⟨_, .requestHeaders headers⟩ _ =>
    match presentedPayment ⟨some (headerMap headers)⟩ with
    | some (.ok _) => true
    | _ => false
  | _ => false

/-- A stream that gets the message does not settle the payment it holds: its upstream fails, its
client goes away, or it is asked about another request. -/
def Message.abandonsPayment : Message → Bool
  | .hangUp => true
  | .processing ⟨_, .requestHeaders _⟩ _ => true
  | .processing ⟨_, .responseHeaders headers⟩ _ => statusFailed headers
  | _ => false

/-- The state says whether the request carries the policy's probe. A request that does asks the
breaker no more. -/
def probeProtocol (p : String) (pays : Bool) : Protocol Op Op.Ret Bool where
  may carries op := carries = true → asksBreaker op = false
  assumes _ _ _ := True
  next carries op r :=
    if givesProbe p op r then pays else carries && ! recordsOn p op && ! endsPayment op r

/-- A stream on the policy that holds a verified payment. -/
def holdsPayment (p : String) : Local → Bool
  | .stream st => st.pending.isSome && breakerPolicy st.policy = p
  | _ => false

/-- Between two messages, who carries the probe holds a payment. -/
def CarriesPayment (p : String) (carries : Bool) (l : Local) : Prop :=
  carries = true → holdsPayment p l = true

omit [Platform] in
theorem givesProbe_of_not_asksBreaker {op : Op} (h : asksBreaker op = false) (r : op.Ret) :
    givesProbe p op r = false := by
  cases op with
  | breakerState policy => cases h
  | _ => rfl

omit [Platform] in
/-- What is held of a request that carries the probe holds of it when it does not. -/
theorem follows_of_carries {α : Type} {pays : Bool} {post : α → Prop} {prog : Handler α}
    (h : prog.Follows (probeProtocol p pays) (fun carries a => carries = true → post a) true) :
    prog.Follows (probeProtocol p pays) (fun carries a => carries = true → post a) false := by
  induction prog with
  | pure a => exact fun hcarries => absurd hcarries Bool.false_ne_true
  | call op k ih =>
    refine ⟨fun hcarries => absurd hcarries Bool.false_ne_true, fun r _ => ?_⟩
    have hasks : asksBreaker op = false := h.1 rfl
    have hrest := h.2 r trivial
    simp only [probeProtocol, givesProbe_of_not_asksBreaker hasks, Bool.false_eq_true, if_false,
      Bool.true_and, Bool.false_and] at hrest ⊢
    cases hnext : ! recordsOn p op && ! endsPayment op r with
    | true =>
      rw [hnext] at hrest
      exact ih r hrest
    | false => rwa [hnext] at hrest

/-! ## The handlers -/

section Handlers

variable {pays : Bool}

/-- A handler that does not ask the breaker is not given the probe. -/
abbrev AsksNothing {α : Type} (prog : Handler α) : Prop :=
  prog.Yields fun calls _ => ∀ e ∈ calls, asksBreaker e.1 = false

omit [Platform] in
theorem drops_of_asksNothing {calls : List (Event Op.Ret)}
    (h : ∀ e ∈ calls, asksBreaker e.1 = false) :
    (probeProtocol p pays).Accepts false calls ∧
      (probeProtocol p pays).after false calls = false := by
  refine Protocol.accepts_of_next_eq fun e he => ⟨fun _ => h e he, ?_⟩
  simp [probeProtocol, givesProbe_of_not_asksBreaker (h e he)]

omit [Platform] in
theorem AsksNothing.follows {α : Type} {prog : Handler α} (h : AsksNothing prog) :
    prog.Follows (probeProtocol p pays) (fun carries _ => carries = false) false :=
  Prog.Yields.follows h fun _ _ hcalls => drops_of_asksNothing hcalls

section Calls

variable {calls : List (Event Op.Ret)}

omit [Platform] in
theorem MintCalls.asksNothing {receipt : SettlementResponse} {policy : Option String}
    {tier : PaidTierConfig} {token : Option String}
    (h : MintCalls receipt policy tier calls token) : ∀ e ∈ calls, asksBreaker e.1 = false := by
  cases h <;> simp [asksBreaker]

omit [Platform] in
theorem ReleaseCalls.asksNothing {id : Option String} (h : ReleaseCalls id calls) :
    ∀ e ∈ calls, asksBreaker e.1 = false := by
  cases h <;> simp [asksBreaker]

theorem RequestedCalls.asksNothing {request : FacilitatorRequest}
    {refused : Option FacilitatorError} (h : RequestedCalls request calls refused) :
    ∀ e ∈ calls, asksBreaker e.1 = false := by
  cases h <;> simp [asksBreaker]

end Calls

theorem asksNothing_decide (svc : Service) (headers : HeaderView) (clientIp : Option IpAddr)
    (path : String) (policy : Option String) (resourceUrl : String) (settlePolicy : SettlePolicy) :
    AsksNothing (svc.decide headers clientIp path policy resourceUrl settlePolicy) := by
  refine (calls_decide svc headers clientIp path policy resourceUrl settlePolicy).mono
    fun calls d h e he => ?_
  have hcalled := h.calledOn.1 e he
  obtain ⟨op, r⟩ := e
  cases hcalled <;> rfl

theorem asksNothing_check (svc : Service) (request : CheckRequest) :
    AsksNothing (svc.check request) :=
  (asksNothing_decide svc _ _ _ _ _ _).bind fun calls _ h => .pure (by simpa using h)

omit [Platform] in
theorem asksNothing_apiVerify (request : FacilitatorRequest) :
    AsksNothing (apiVerify request) :=
  (calls_apiVerify request).mono fun _ _ h => by cases h <;> simp [asksBreaker]

theorem asksNothing_apiSettle (svc : Service) (request : FacilitatorRequest) :
    AsksNothing (svc.apiSettle request) := by
  refine (calls_apiSettle svc request).mono fun calls out h => ?_
  cases h with
  | malformed => exact List.forall_mem_nil _
  | refused claimed => exact claimed.asksNothing
  | settled claimed receipt =>
    exact List.forall_mem_append.mpr ⟨claimed.asksNothing, List.forall_mem_singleton.mpr rfl⟩
  | unsettled claimed e released =>
    exact List.forall_mem_append.mpr
      ⟨claimed.asksNothing, List.forall_mem_cons.mpr ⟨rfl, released.asksNothing⟩⟩

theorem asksNothing_handleResponseHeaders (svc : Service) (st : StreamState)
    (headers : Option (List HeaderValue)) (settleMs : String) :
    AsksNothing (svc.handleResponseHeaders st headers settleMs) := by
  refine (calls_handleResponseHeaders svc st headers settleMs).mono fun calls out h => ?_
  cases h with
  | idle => exact List.forall_mem_nil _
  | failed holds failed released => exact released.asksNothing
  | delivered holds delivered settled =>
    cases settled with
    | unpaid => exact List.forall_mem_cons.mpr ⟨rfl, List.forall_mem_singleton.mpr rfl⟩
    | paid receipt minted =>
      exact List.forall_mem_cons.mpr ⟨rfl, List.forall_mem_cons.mpr ⟨rfl, minted.asksNothing⟩⟩

/-- What a request that carries the probe decides: it does no longer, or it leaves a payment. -/
def LeavesPayment (carries : Bool) (d : Decision) : Prop := carries = true → d.pending.isSome = true

theorem leavesPayment_false (d : Decision) : LeavesPayment false d :=
  fun h => absurd h Bool.false_ne_true

theorem ClaimCalls.probe {payload : PaymentPayload} {requirements : PaymentRequirements}
    {calls : List (Event Op.Ret)} {refused : Option FacilitatorError} (carries : Bool)
    (h : ClaimCalls payload requirements calls refused) :
    (probeProtocol p pays).Accepts carries calls ∧
      (probeProtocol p pays).after carries calls = (carries && refused.isNone) := by
  cases h with
  | unkeyed => exact ⟨trivial, by simp⟩
  | fresh =>
    exact ⟨⟨fun _ => rfl, trivial⟩, by simp [probeProtocol, endsPayment, givesProbe, recordsOn]⟩
  | replay =>
    exact ⟨⟨fun _ => rfl, fun _ => rfl, trivial⟩,
      by simp [probeProtocol, endsPayment, givesProbe]⟩
  | backend =>
    exact ⟨⟨fun _ => rfl, trivial⟩, by simp [probeProtocol, endsPayment, givesProbe]⟩

omit [Platform] in
/-- A session that is turned down does not take the probe. -/
theorem PassCalls.probe {token policy : Option String} {calls : List (Event Op.Ret)}
    (h : PassCalls token policy calls) (carries : Bool) :
    (probeProtocol p pays).Accepts carries calls ∧
      (probeProtocol p pays).after carries calls = carries := by
  cases h with
  | absent => exact ⟨trivial, rfl⟩
  | rejected =>
    exact ⟨⟨fun _ => rfl, trivial⟩, by simp [probeProtocol, endsPayment, givesProbe, recordsOn]⟩

theorem probe_decide (svc : Service) {headers : HeaderView} {payload : PaymentPayload}
    (hpays : presentedPayment headers = some (.ok payload)) (clientIp : Option IpAddr)
    (path : String) (policy : Option String) (resourceUrl : String) :
    (svc.decide headers clientIp path policy resourceUrl .deferred).Follows
      (probeProtocol p pays) LeavesPayment true := by
  refine (calls_decide svc headers clientIp path policy resourceUrl .deferred).follows
    fun calls d h => ?_
  cases h with
  | session honored =>
    cases honored with
    | accepted => exact ⟨⟨fun _ => rfl, fun _ => rfl, trivial⟩, leavesPayment_false _⟩
  | free passed unpaid => cases hpays.symm.trans unpaid
  | payment passed presented paid =>
    obtain rfl := Option.some.inj (hpays.symm.trans presented)
    obtain ⟨haccepts, hafter⟩ := passed.probe true
    rw [Protocol.accepts_append, Protocol.after_append, hafter]
    -- A refused claim has dropped the probe, and so has a payment that does not verify.
    cases paid with
    | refused _ claimed =>
      obtain ⟨hclaim, hdropped⟩ := claimed.probe true
      rw [hdropped]
      exact ⟨⟨haccepts, hclaim⟩, leavesPayment_false _⟩
    | unverified claimed e =>
      obtain ⟨hclaim, hcarried⟩ := claimed.probe true
      rw [Protocol.accepts_append, Protocol.after_append, hcarried]
      exact ⟨⟨haccepts, hclaim, fun _ => rfl, trivial⟩, fun h => by
        simp [probeProtocol, endsPayment, givesProbe] at h⟩
    | verified claimed payer =>
      obtain ⟨hclaim, hcarried⟩ := claimed.probe true
      rw [Protocol.accepts_append, Protocol.after_append, hcarried]
      exact ⟨⟨haccepts, hclaim, fun _ => rfl, trivial⟩, fun _ => rfl⟩

/-- The request phase: a request that pays leaves a payment pending on its policy, if it was given
the policy's probe and still carries it. -/
theorem probe_handleRequestHeaders (svc : Service) (st : StreamState)
    (headers : Option (List HeaderValue)) (clientIp : Option IpAddr) (policy : Option String)
    (decideMs : String)
    (hpays : pays = true → ∃ payload,
      presentedPayment ⟨some (headerMap headers)⟩ = some (.ok payload)) :
    (svc.handleRequestHeaders st headers clientIp policy decideMs).Follows (probeProtocol p pays)
      (fun carries reply => CarriesPayment p carries (.stream reply.2)) false := by
  rw [handleRequestHeaders_eq]
  refine ⟨fun h => absurd h Bool.false_ne_true, fun breaker _ => ?_⟩
  -- Only `halfOpen`, answered on the policy, gives the probe to whoever asked.
  cases hgives : givesProbe p (.breakerState (breakerPolicy policy)) breaker with
  | false =>
    have hnext : (probeProtocol p pays).next false (.breakerState (breakerPolicy policy)) breaker =
        false := by simp [probeProtocol, hgives]
    rw [hnext]
    dsimp only
    split
    · exact fun h => absurd h Bool.false_ne_true
    · refine (asksNothing_decide svc _ _ _ _ _ _).follows.bind ?_
      rintro carries d rfl
      cases d <;> exact fun h => absurd h Bool.false_ne_true
  | true =>
    have hnext : (probeProtocol p pays).next false (.breakerState (breakerPolicy policy)) breaker =
        pays := by simp [probeProtocol, hgives]
    rw [hnext]
    cases breaker with
    | closed => simp [givesProbe] at hgives
    | opened => simp [givesProbe] at hgives
    | halfOpen =>
      have hpolicy : breakerPolicy policy = p := by simpa [givesProbe] using hgives
      dsimp only
      split
      · rename_i hrefused
        exact absurd rfl hrefused.1
      -- Then a request that does not pay drops it here; one that pays carries it to its decision.
      cases pays with
      | false =>
        refine (asksNothing_decide svc _ _ _ _ _ _).follows.bind ?_
        rintro carries d rfl
        cases d <;> exact fun h => absurd h Bool.false_ne_true
      | true =>
        obtain ⟨payload, hpayload⟩ := hpays rfl
        refine (probe_decide svc hpayload clientIp _ policy _).bind fun carries d hd => ?_
        cases d with
        | allow tier payer token settlement pending meter =>
          exact fun h => by simpa [holdsPayment, hpolicy, Decision.pending] using hd h
        | deny challenge receipt meter => exact fun h => absurd (hd h) (by simp [Decision.pending])

theorem Service.SettleCalls.probe {svc : Service} {st : StreamState} {pending : PendingPayment}
    {settleMs : String} {calls : List (Event Op.Ret)} {reply : ProcessingResponse}
    (h : svc.SettleCalls st pending settleMs calls reply) (hpolicy : breakerPolicy st.policy = p) :
    (probeProtocol p pays).Accepts true calls ∧ (probeProtocol p pays).after true calls = false := by
  have hrecorded : ∀ carries failed,
      (probeProtocol p pays).next carries (.breakerRecord (breakerPolicy st.policy) failed) () =
        false := by simp [probeProtocol, recordsOn, givesProbe, hpolicy]
  cases h with
  | unpaid e => exact ⟨⟨fun _ => rfl, fun _ => rfl, trivial⟩, hrecorded _ true⟩
  | paid receipt minted =>
    obtain ⟨hminted, hdropped⟩ := drops_of_asksNothing minted.asksNothing
    simp only [Protocol.accepts_cons, Protocol.after_cons, hrecorded]
    exact ⟨⟨fun _ => rfl, fun _ => rfl, hminted⟩, hdropped⟩

/-- The response phase: a payment whose upstream delivered has its outcome recorded. -/
theorem probe_handleResponseHeaders (svc : Service) {st : StreamState}
    (hst : holdsPayment p (.stream st) = true) {headers : Option (List HeaderValue)}
    (hdelivered : statusFailed headers = false) (settleMs : String) :
    (svc.handleResponseHeaders st headers settleMs).Follows (probeProtocol p pays)
      (fun carries reply => CarriesPayment p carries (.stream reply.2)) true := by
  simp only [holdsPayment, Bool.and_eq_true, decide_eq_true_eq] at hst
  obtain ⟨hpending, hpolicy⟩ := hst
  refine (calls_handleResponseHeaders svc st headers settleMs).follows fun calls out h => ?_
  cases h with
  | idle idle => simp [idle] at hpending
  | failed holds failed => simp [statusFailed, failed] at hdelivered
  | delivered holds delivered settled =>
    obtain ⟨haccepts, hdropped⟩ := settled.probe hpolicy
    rw [hdropped]
    exact ⟨haccepts, fun h => absurd h Bool.false_ne_true⟩

end Handlers

theorem exists_payment_of_pays {attributes : Attributes} {headers : Option (List HeaderValue)}
    {elapsedMs : String}
    (h : (Message.processing ⟨attributes, .requestHeaders headers⟩ elapsedMs).pays = true) :
    ∃ payload, presentedPayment ⟨some (headerMap headers)⟩ = some (.ok payload) := by
  simp only [Message.pays] at h
  split at h
  · rename_i payload hpayload
    exact ⟨payload, hpayload⟩
  · cases h

theorem pays_of_presentedPayment {attributes : Attributes} {headers : Option (List HeaderValue)}
    {payload : PaymentPayload}
    (h : presentedPayment ⟨some (headerMap headers)⟩ = some (.ok payload)) (elapsedMs : String) :
    (Message.processing ⟨attributes, .requestHeaders headers⟩ elapsedMs).pays = true := by
  simp only [Message.pays, h]

theorem carriesPayment_false (l : Local) : CarriesPayment p false l :=
  fun h => absurd h Bool.false_ne_true

theorem probe_onStream (svc : Service) (st : StreamState) (message : ProcessingRequest)
    (elapsedMs : String) (carries : Bool)
    (h : carries = true → holdsPayment p (.stream st) = true ∧
      (Message.processing message elapsedMs).abandonsPayment = false) :
    (svc.onStream st message elapsedMs).Follows
      (probeProtocol p (Message.processing message elapsedMs).pays) (CarriesPayment p) carries := by
  obtain ⟨attributes, phase⟩ := message
  have hprocess : (svc.process st ⟨attributes, phase⟩ elapsedMs).Follows
      (probeProtocol p (Message.processing ⟨attributes, phase⟩ elapsedMs).pays)
      (fun carries reply => CarriesPayment p carries (.stream reply.2)) carries := by
    cases phase with
    | requestHeaders headers =>
      cases carries with
      | true => cases (h rfl).2
      | false =>
        exact probe_handleRequestHeaders svc st headers _ _ elapsedMs
          fun hpays => exists_payment_of_pays hpays
    | responseHeaders headers =>
      cases carries with
      | true => exact probe_handleResponseHeaders svc (h rfl).1 (h rfl).2 elapsedMs
      | false =>
        refine (asksNothing_handleResponseHeaders svc st headers elapsedMs).follows.mono ?_
        rintro carries reply rfl
        exact carriesPayment_false _
    | other => exact fun hcarries => (h hcarries).1
  exact hprocess.bind fun _ ⟨_, _⟩ hreply => hreply

/-- **Every handler follows the protocol**, if it is not made to abandon a payment that carries the
probe. -/
theorem probe_handle (svc : Service) (l : Local) (msg : Message) (carries : Bool)
    (h : carries = true → holdsPayment p l = true ∧ msg.abandonsPayment = false) :
    (svc.handle l msg).Follows (probeProtocol p msg.pays) (CarriesPayment p) carries := by
  have hend : ∀ {α : Type} {prog : Handler α}, AsksNothing prog → carries = false →
      (prog.bind fun _ => .pure Local.finished).Follows (probeProtocol p msg.pays)
        (CarriesPayment p) carries := by
    rintro α prog hprog rfl
    refine hprog.follows.bind ?_
    rintro carries a rfl
    exact carriesPayment_false _
  cases l with
  | fresh =>
    have hfree : carries = false := by
      rw [← Bool.not_eq_true]
      exact fun hcarries => absurd (h hcarries).1 (by simp [holdsPayment])
    cases msg with
    | processing message elapsedMs =>
      exact probe_onStream svc {} message elapsedMs carries fun hcarries => by
        simp [hfree] at hcarries
    | hangUp => exact hfree ▸ carriesPayment_false _
    | check request => exact hend (asksNothing_check svc request) hfree
    | postVerify request => exact hend (asksNothing_apiVerify request) hfree
    | postSettle request => exact hend (asksNothing_apiSettle svc request) hfree
    | tick =>
      refine hend (.perform fun _ => .perform fun _ => .pure ?_) hfree
      simp [asksBreaker]
  | stream st =>
    cases msg with
    | processing message elapsedMs => exact probe_onStream svc st message elapsedMs carries h
    | hangUp => exact fun hcarries => absurd (h hcarries).2 (by simp [Message.abandonsPayment])
    | _ => exact fun hcarries => (h hcarries).1
  | finished => cases msg <;> exact fun hcarries => (h hcarries).1

/-! ## Who has the probe -/

/-- Who has been given the policy's probe, until an outcome is recorded on the policy. -/
def probeHolder (p : String) : Log → Option Nat
  | [] => none
  | (a, ⟨op, r⟩) :: log =>
    if givesProbe p op r then some a else if recordsOn p op then none else probeHolder p log

/-- The step leaves the probe with a request that does not carry it: the probe is given to one that
does not pay, or the request that has it ends its payment. -/
def dropsProbe (p : String) (svc : Service) (s : SystemState) : SystemAction → Bool
  | .deliver a msg => probeHolder p s.log = some a ∧ msg.abandonsPayment
  | .advance a e =>
    match s.task a with
    | .busy msg (.call op _) =>
      let r := (svc.exec e s.shared op).1
      (givesProbe p op r && ! msg.pays) || (probeHolder p s.log = some a && endsPayment op r)
    | _ => false

/-- While nobody has the probe, a request that pays does not drop it. -/
theorem not_dropsProbe_of_pays (svc : Service) {s : SystemState} {a : Nat} {e : Env} {msg : Message}
    {op : Op} {k : op.Ret → Handler Local} (hbusy : s.task a = .busy msg (.call op k))
    (hpays : msg.pays = true) (hholder : probeHolder p s.log = none) :
    dropsProbe p svc s (.advance a e) = false := by
  simp [dropsProbe, hbusy, hpays, hholder]

/-- What is left of the actor's message follows the protocol. -/
def TaskProbing (p : String) (carries : Bool) : Task Op Op.Ret Local Message → Prop
  | .idle l => CarriesPayment p carries l
  | .busy msg prog => prog.Follows (probeProtocol p msg.pays) (CarriesPayment p) carries

theorem taskProbing_of {carries : Bool} {msg : Message} {prog : Handler Local} :
    TaskProbing p carries (.of msg prog) ↔
      prog.Follows (probeProtocol p msg.pays) (CarriesPayment p) carries := by
  cases prog <;> rfl

/-- A call leaves the policy's probe claimed only if it gives it out, or it was claimed before and no
outcome is recorded on the policy. -/
theorem probing_exec (svc : Service) (e : Env) (s : AppState) (op : Op)
    (h : ((svc.exec e s op).2.breaker.windowOf p).probing = true) :
    givesProbe p op (svc.exec e s op).1 = true ∨
      recordsOn p op = false ∧ (s.breaker.windowOf p).probing = true := by
  cases op with
  | breakerState policy =>
    by_cases hpolicy : policy = p
    · subst hpolicy
      have hwindow : ((s.breaker.stateAt policy e.store.now).2.windowOf policy).probing = true := h
      rw [SettlementBreaker.windowOf_stateAt_self, Bool.or_eq_true, decide_eq_true_eq] at hwindow
      refine hwindow.imp (fun hopen => ?_) fun hprobing => ⟨rfl, hprobing⟩
      have hanswer : (svc.exec e s (.breakerState policy)).1 = BreakerState.halfOpen := hopen
      simp [givesProbe, hanswer]
    · have hother : (⟨e.store.now, .state policy⟩ : Timed BreakerCall).call.policy ≠ p := hpolicy
      have hwindow : (svc.exec e s (.breakerState policy)).2.breaker.windowOf p =
          s.breaker.windowOf p := s.breaker.windowOf_step_ne hother
      exact .inr ⟨rfl, hwindow ▸ h⟩
  | breakerRecord policy failed =>
    by_cases hpolicy : policy = p
    · subst hpolicy
      have hwindow : ((s.breaker.recordAt policy failed e.store.now).windowOf policy).probing =
          true := h
      cases failed <;> simp [SettlementBreaker.recordAt] at hwindow
    · have hwindow : (s.breaker.recordAt policy failed e.store.now).windowOf p =
          s.breaker.windowOf p := s.breaker.windowOf_recordAt policy failed _ p (Ne.symm hpolicy)
      exact .inr ⟨by simp [recordsOn, hpolicy], hwindow ▸ h⟩
  | _ => exact .inr ⟨rfl, h⟩

/-! ## Whole runs -/

/-- The policy's probe is carried by whoever has it. -/
structure ProbeKept (p : String) (s : SystemState) : Prop where
  follows : ∀ a, TaskProbing p false (s.task a)
  carried : ∀ a, probeHolder p s.log = some a → TaskProbing p true (s.task a)
  held : (s.shared.breaker.windowOf p).probing = true → ∃ a, probeHolder p s.log = some a

theorem ProbeKept.deliver {svc : Service} {s : SystemState} (h : ProbeKept p s) {a : Nat}
    {msg : Message} {l : Local} (hidle : s.task a = .idle l)
    (hkept : dropsProbe p svc s (.deliver a msg) = false) :
    ProbeKept p (svc.machine.step s (.deliver a msg)) := by
  have htask : ∀ carries, TaskProbing p carries (s.task a) →
      (carries = true → msg.abandonsPayment = false) →
      TaskProbing p carries (.of msg (svc.machine.handle l msg)) := by
    intro carries hl hmsg
    rw [hidle] at hl
    exact taskProbing_of.mpr
      (probe_handle svc l msg carries fun hcarries => ⟨hl hcarries, hmsg hcarries⟩)
  rw [Machine.step_deliver hidle]
  refine ⟨fun b => ?_, fun b hb => ?_, h.held⟩ <;> dsimp only
  · by_cases hab : b = a
    · subst hab
      rw [Function.update_self]
      exact htask false (h.follows b) fun hcarries => absurd hcarries Bool.false_ne_true
    · rw [Function.update_of_ne hab]
      exact h.follows b
  · by_cases hab : b = a
    · subst hab
      rw [Function.update_self]
      have hholder : probeHolder p s.log = some b := hb
      exact htask true (h.carried b hb) fun _ => by simpa [dropsProbe, hholder] using hkept
    · rw [Function.update_of_ne hab]
      exact h.carried b hb

theorem ProbeKept.advance {svc : Service} {s : SystemState} (h : ProbeKept p s) {a : Nat} {e : Env}
    {msg : Message} {op : Op} {k : op.Ret → Handler Local} (hbusy : s.task a = .busy msg (.call op k))
    (hkept : dropsProbe p svc s (.advance a e) = false) :
    ProbeKept p (svc.machine.step s (.advance a e)) := by
  have hfollows := h.follows a
  rw [hbusy] at hfollows
  have hrest := hfollows.2 (svc.exec e s.shared op).1 trivial
  simp only [dropsProbe, hbusy, Bool.or_eq_false_iff] at hkept
  rw [Machine.step_advance hbusy]
  refine ⟨fun b => ?_, fun b hb => ?_, fun hprobing => ?_⟩ <;> dsimp only
  · by_cases hab : b = a
    · subst hab
      rw [Function.update_self, taskProbing_of]
      cases hnext : (probeProtocol p msg.pays).next false op (svc.exec e s.shared op).1 with
      | false => exact hnext ▸ hrest
      | true =>
        rw [hnext] at hrest
        exact follows_of_carries hrest
    · rw [Function.update_of_ne hab]
      exact h.follows b
  · cases hgives : givesProbe p op (svc.exec e s.shared op).1 with
    | true =>
      -- The caller has been given the probe, and it pays.
      obtain rfl : a = b := by simpa [probeHolder, Service.machine, hgives] using hb
      have hpays : msg.pays = true := by simpa [hgives] using hkept.1
      have hnext : (probeProtocol p msg.pays).next false op (svc.exec e s.shared op).1 = true := by
        simp [probeProtocol, hgives, hpays]
      rw [Function.update_self, taskProbing_of]
      exact hnext ▸ hrest
    | false =>
      cases hrecords : recordsOn p op with
      | true => simp [probeHolder, Service.machine, hgives, hrecords] at hb
      | false =>
        have hholder : probeHolder p s.log = some b := by
          simpa [probeHolder, Service.machine, hgives, hrecords] using hb
        by_cases hab : b = a
        · subst hab
          have hcarried := h.carried b hholder
          rw [hbusy] at hcarried
          have hpending : endsPayment op (svc.exec e s.shared op).1 = false := by
            simpa [hholder] using hkept.2
          have hnext : (probeProtocol p msg.pays).next true op (svc.exec e s.shared op).1 = true := by
            simp [probeProtocol, hgives, hrecords, hpending]
          rw [Function.update_self, taskProbing_of]
          exact hnext ▸ hcarried.2 (svc.exec e s.shared op).1 trivial
        · rw [Function.update_of_ne hab]
          exact h.carried b hholder
  · rcases probing_exec svc e s.shared op hprobing with hgives | ⟨hrecords, hbefore⟩
    · exact ⟨a, if_pos hgives⟩
    · obtain ⟨b, hb⟩ := h.held hbefore
      cases hgives : givesProbe p op (svc.exec e s.shared op).1 with
      | true => exact ⟨a, if_pos hgives⟩
      | false => exact ⟨b, by simpa [probeHolder, Service.machine, hgives, hrecords] using hb⟩

theorem probeKept_step (svc : Service) (s : SystemState) (act : SystemAction) (h : ProbeKept p s)
    (hkept : dropsProbe p svc s act = false) : ProbeKept p (svc.machine.step s act) := by
  rcases Machine.step_cases (m := svc.machine) s act with hstep | ⟨a, msg, l, rfl, hidle, -⟩ |
    ⟨a, e, msg, op, k, rfl, hbusy, -⟩
  · rwa [hstep]
  · exact h.deliver hidle hkept
  · exact h.advance hbusy hkept

theorem probeKept_start {shared : AppState} (hnew : (shared.breaker.windowOf p).probing = false) :
    ProbeKept p (SystemState.start shared) := by
  refine ⟨fun _ => carriesPayment_false _, fun _ hholder => ?_, fun hprobing => ?_⟩
  · cases hholder
  · rw [SystemState.start, hnew] at hprobing
    cases hprobing

/-- The actor has the policy's probe and carries it: between two messages it is a stream on the policy
that holds a verified payment, and what is left of a message comes to hold one or records its outcome,
unless the payment comes to nothing. -/
def Carries (p : String) (s : SystemState) (a : Nat) : Prop :=
  probeHolder p s.log = some a ∧ TaskProbing p true (s.task a)

/-- The probe is claimed only while it is carried, so an open breaker past its cooldown whose probe
nobody carries gives it to the next that asks. -/
structure ProbeInFlight (p : String) (s : SystemState) : Prop where
  carried : (s.shared.breaker.windowOf p).probing = true → ∃ a, Carries p s a
  given : ∀ openedAt now, (s.shared.breaker.windowOf p).openedAt = some openedAt →
    cooldownSecs ≤ now - openedAt → (∀ a, ¬ Carries p s a) →
    (s.shared.breaker.stateAt p now).1 = .halfOpen

theorem ProbeKept.inFlight {s : SystemState} (h : ProbeKept p s) : ProbeInFlight p s := by
  have hcarried : (s.shared.breaker.windowOf p).probing = true → ∃ a, Carries p s a := by
    intro hprobing
    obtain ⟨a, ha⟩ := h.held hprobing
    exact ⟨a, ha, h.carried a ha⟩
  refine ⟨hcarried, fun openedAt now hopen hcooled hnone => ?_⟩
  have hidle : (s.shared.breaker.windowOf p).probing = false := by
    rw [← Bool.not_eq_true]
    intro hprobing
    obtain ⟨a, ha⟩ := hcarried hprobing
    exact hnone a ha
  simp [SettlementBreaker.stateAt, hopen, Nat.not_lt.mpr hcooled, hidle]

/-- **The probe is in flight.** In every run of any streams, ext_authz requests and `/settle` calls in
which the policy's probe is given only to requests that pay, and a request that has it goes on to
verify its payment and has its upstream deliver: in every state reached, the probe is claimed only
while somebody carries it. -/
theorem claimed_probe_is_in_flight (svc : Service) (shared : AppState) (p : String)
    (hnew : (shared.breaker.windowOf p).probing = false) (acts : List SystemAction)
    (hkept : Machine.Along svc.machine (fun s act => dropsProbe p svc s act = false)
      (SystemState.start shared) acts) :
    ProbeInFlight p (svc.machine.run (SystemState.start shared) acts) :=
  ProbeKept.inFlight (Machine.run_invariant (probeKept_step svc) (probeKept_start hnew) hkept)

/-! ## A probe that is carried, and one that is not -/

/-- The request that presents `chainPayload`, and its upstream's answer. -/
def chainMessage : Message := .processing ⟨∅, .requestHeaders (treeHeaders chainTree)⟩ "0.0"

def deliveredMessage : Message :=
  .processing ⟨∅, .responseHeaders (some [{ key := ":status", value := "200" }])⟩ "0.0"

/-- A request on the free tier. -/
def freeMessage : Message :=
  .processing
    ⟨(∅ : Attributes).insert "envoy.filters.http.ext_proc"
      ((∅ : Table String AttributeValue).insert "source.address" (.string "192.0.2.1:4711")),
      .requestHeaders (some [])⟩ "0.0"

/-- The stub service's first state, but with a breaker that opened at 900. -/
def openedAt900 : AppState :=
  { AppState.ofConfig (exampleConfig .stubAcceptAll) [] with
    breaker := ({} : SettlementBreaker).setWindow defaultPolicyLabel { openedAt := some 900 } }

omit [Platform] in
/-- A stream that pays is given the probe at 1000, and verifies its payment. -/
theorem claimed_probe_is_in_flight_example :
    let _ : Platform := chainTreePlatform
    let svc := Service.ofConfig (exampleConfig .stubAcceptAll)
    ProbeInFlight defaultPolicyLabel (svc.machine.run (SystemState.start openedAt900)
      ([0].map (.deliver · chainMessage) ++
        [.advance 0 (exampleEnv 1000), .advance 0 (exampleEnv 1000), .advance 0 (exampleEnv 1000)])) := by
  intro _ svc
  have hhandle : svc.handle .fresh chainMessage = _ :=
    svc.handle_of_payment presentedToken_chainTree presentedPayment_chainTree "0.0"
  have hpays : chainMessage.pays = true := pays_of_presentedPayment presentedPayment_chainTree "0.0"
  have hnew : (openedAt900.breaker.windowOf defaultPolicyLabel).probing = false := by
    decide +kernel
  refine @claimed_probe_is_in_flight chainTreePlatform svc _ _ hnew _ (along_append.mpr ⟨?_, ?_⟩)
  · exact ⟨by decide +kernel, trivial⟩
  · change Machine.Along svc.machine _ (svc.machine.run _ _) _
    rw [svc.run_delivers hhandle openedAt900 (by decide)]
    exact ⟨not_dropsProbe_of_pays svc rfl hpays rfl, by decide +kernel⟩

/-- The actor is between two messages, and holds no payment on the policy. -/
def restsUnpaid (p : String) (s : SystemState) (a : Nat) : Bool :=
  match s.task a with
  | .idle l => ! holdsPayment p l
  | .busy .. => false

theorem not_carries_of_restsUnpaid {s : SystemState} {a : Nat} (h : restsUnpaid p s a = true) :
    ¬ Carries p s a := by
  rintro ⟨-, hcarries⟩
  simp only [restsUnpaid] at h
  split at h
  · rename_i l hidle
    rw [hidle] at hcarries
    rw [hcarries rfl] at h
    cases h
  · cases h

omit [Platform] in
/-- A payment whose upstream delivers, and whose settlement fails. -/
def failedSettlement (a now : Nat) : List SystemAction :=
  [.advance a (lostEnv now), .advance a (lostEnv now), .advance a (lostEnv now),
    .deliver a deliveredMessage, .advance a (lostEnv now), .advance a (lostEnv now)]

omit [Platform] in
/-- Five settlements in a row fail, each after the claim of the one before has lapsed. -/
def outage : List SystemAction :=
  failedSettlement 0 1000 ++ failedSettlement 1 1600 ++ failedSettlement 2 2200 ++
    failedSettlement 3 2800 ++ failedSettlement 4 3400

omit [Platform] in
/-- Then a request on the free tier is made, past the cooldown. -/
def freeRequest : List SystemAction :=
  [.deliver 5 freeMessage, .advance 5 (exampleEnv 3430), .advance 5 (exampleEnv 3430)]

omit [Platform] in
/-- **A probe on the free tier.** It is given to a request that never settles. -/
theorem free_request_keeps_probe :
    ¬ ∀ (_ : Platform) (config : Config) (hmacKey : Bytes) (p : String)
      (acts : List SystemAction), config.validate = .ok () →
      ProbeInFlight p ((Service.ofConfig config).machine.run
        (SystemState.start (.ofConfig config hmacKey)) acts) := by
  intro h
  let _ : Platform := chainTreePlatform
  let svc := Service.ofConfig (exampleConfig .suiGrpc)
  let start := SystemState.start (.ofConfig (exampleConfig .suiGrpc) [])
  let acts : List SystemAction :=
    [0, 1, 2, 3, 4].map (.deliver · chainMessage) ++ (outage ++ freeRequest)
  have hhandle : svc.handle .fresh chainMessage = _ :=
    svc.handle_of_payment presentedToken_chainTree presentedPayment_chainTree "0.0"
  have hrun : ((svc.machine.run start acts).shared.breaker.windowOf defaultPolicyLabel).probing =
        true ∧
      probeHolder defaultPolicyLabel (svc.machine.run start acts).log = some 5 ∧
      restsUnpaid defaultPolicyLabel (svc.machine.run start acts) 5 = true := by
    rw [Machine.run_append, svc.run_delivers hhandle _ (by decide)]
    decide +kernel
  obtain ⟨hprobing, hholder, hrests⟩ := hrun
  obtain ⟨a, hcarries⟩ :=
    (h chainTreePlatform (exampleConfig .suiGrpc) [] defaultPolicyLabel acts rfl).carried hprobing
  obtain rfl : 5 = a := Option.some.inj (hholder.symm.trans hcarries.1)
  exact not_carries_of_restsUnpaid hrests hcarries

end X402Verifier
