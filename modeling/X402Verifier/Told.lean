import X402Verifier.Interaction.Erasure
import X402Verifier.System

/-!
# What callers are told

The running service, with every actor keeping what it has been told. It runs as the service does
(`Service.front_run`), and what it tells depends on the answers to its calls only as far as they are
told apart: why a session is not honored is not, and neither is what a tick reaps (`indifferent_tell`).
-/

namespace X402Verifier

open RustStd Interaction

variable [Platform]

/-- What a caller is told. -/
inductive Told where
  | processed (reply : ProcessingResponse)
  | checked (response : CheckResponse)
  | verified (answer : Except BadRequest VerifyResponse)
  | settled (answer : Except BadRequest SettlementResponse)

/-- An actor, with what it has been told, latest first. -/
structure Caller where
  state : Local
  told : List Told := []

def Service.tellStream (svc : Service) (st : StreamState) (message : ProcessingRequest)
    (elapsedMs : String) : Handler (Local × Option Told) := do
  let (reply, st) ← svc.process st message elapsedMs
  pure (.stream st, some (.processed reply))

/-- What an actor does with a message, and what it tells. -/
def Service.tell (svc : Service) : Local → Message → Handler (Local × Option Told)
  | .fresh, .processing message elapsedMs => svc.tellStream {} message elapsedMs
  | .stream st, .processing message elapsedMs => svc.tellStream st message elapsedMs
  | .stream _, .hangUp => pure (.finished, none)
  | .fresh, .check request => do
    let response ← svc.check request
    pure (.finished, some (.checked response))
  | .fresh, .postVerify request => do
    let answer ← apiVerify request
    pure (.finished, some (.verified answer))
  | .fresh, .postSettle request => do
    let answer ← svc.apiSettle request
    pure (.finished, some (.settled answer))
  | .fresh, .tick => do
    sweep
    pure (.finished, none)
  | l, _ => pure (l, none)

/-- The running service, seen by its callers. -/
def Service.front (svc : Service) : Machine Nat Op Op.Ret Env AppState Caller Message where
  exec := svc.exec
  handle caller msg := (svc.tell caller.state msg).bind fun (l, told) =>
    .pure ⟨l, told.toList ++ caller.told⟩

/-- Before the first message. -/
def frontStart (shared : AppState) : Machine.State Nat Op Op.Ret AppState Caller Message :=
  ⟨shared, fun _ => .idle ⟨.fresh, []⟩, []⟩

theorem Service.tell_handle (svc : Service) (l : Local) (msg : Message) :
    svc.handle l msg = (svc.tell l msg).bind fun answer => .pure answer.1 := by
  cases l <;> cases msg <;>
    simp only [Service.handle, Service.tell, Service.onStream, Service.tellStream, Prog.bind_eq,
      Prog.pure_eq, Prog.bind_assoc, Prog.pure_bind]

/-- An ext_authz request that presents a payment and no session. -/
theorem Service.tell_check_of_payment (svc : Service) (request : CheckRequest)
    {decoded : Except HeaderDecodeError PaymentPayload}
    (htoken : presentedToken ⟨request.http.map (·.headers)⟩ = none)
    (hpayment : presentedPayment ⟨request.http.map (·.headers)⟩ = some decoded) :
    let path := (request.http.map (·.path)).getD ""
    let policy := request.contextExtensions.get? policyContextKey
    svc.tell .fresh (.check request) =
      (svc.decidePayment
        (svc.termsFor path policy ((request.http.map (·.resourceUrl)).getD "")) policy .immediate
        decoded).bind fun decision =>
          .pure (.finished, some (.checked (decisionToResponse decision
            (request.clientAddress.bind parseIpAddr)
            (isGrpcRequest ⟨request.http.map (·.headers)⟩)))) := by
  intro path policy
  show (svc.check request).bind _ = _
  rw [check_of_payment svc htoken hpayment, Prog.bind_assoc]
  rfl

/-- **The same runs.** Keeping what is told changes nothing. -/
theorem Service.front_run (svc : Service)
    (s : Machine.State Nat Op Op.Ret AppState Caller Message) (acts : List SystemAction) :
    svc.machine.run (s.map Caller.state) acts = (svc.front.run s acts).map Caller.state := by
  have hhandle : ∀ (caller : Caller) (msg : Message), svc.machine.handle caller.state msg =
      (svc.front.handle caller msg).bind fun caller => .pure caller.state := by
    intro caller msg
    show svc.handle caller.state msg = Prog.bind (Prog.bind _ _) _
    rw [svc.tell_handle, Prog.bind_assoc]
    rfl
  exact Machine.run_map (m := svc.front) (f := Caller.state) rfl hhandle s acts

/-! ## What is not told apart -/

/-- Answers that no caller is told apart. -/
def ToldAlike : (op : Op) → op.Ret → op.Ret → Prop
  | .consume .., outcome, outcome' =>
    outcome = outcome' ∨ ∃ reason reason',
      outcome = SessionOutcome.rejected reason ∧ outcome' = SessionOutcome.rejected reason'
  | .cleanupExpired, _, _ => True
  | .cleanupIdle, _, _ => True
  | _, answer, answer' => answer = answer'

/-- A program that does not tell them apart. -/
abbrev Indifferent {α : Type} (p : Handler α) : Prop := p.Blind ToldAlike

omit [Platform] in
theorem indifferent_call {α : Type} {op : Op} {f : op.Ret → Handler α}
    (hop : ∀ r r', ToldAlike op r r' → r = r') (hf : ∀ r, Indifferent (f r)) :
    Indifferent ((call op).bind f) := Prog.blind_perform hop hf

/-- A session that is not honored is not served, whatever the reason. -/
theorem indifferent_honorSession (token policy : Option String) :
    Indifferent (honorSession token policy) := by
  cases token with
  | none => trivial
  | some token =>
    refine ⟨fun outcome outcome' h => ?_, fun outcome => ?_⟩
    · rcases h with rfl | ⟨reason, reason', rfl, rfl⟩ <;> rfl
    · cases outcome with
      | accepted payer remaining quota expiresAt =>
        exact indifferent_call (fun _ _ h => h) fun _ => trivial
      | rejected reason => trivial

theorem indifferent_claimPresented (payload : PaymentPayload) (requirements : PaymentRequirements) :
    Indifferent (claimPresented payload requirements) := by
  unfold claimPresented
  cases paymentId payload with
  | none => trivial
  | some id =>
    refine indifferent_call (fun _ _ h => h) fun claim => ?_
    cases claim with
    | fresh => trivial
    | replay firstSeen => exact indifferent_call (fun _ _ h => h) fun _ => trivial
    | backend => trivial

omit [Platform] in
theorem indifferent_mintSession (receipt : SettlementResponse) (policy : Option String)
    (tier : PaidTierConfig) : Indifferent (mintSession receipt policy tier) := by
  unfold mintSession
  cases receipt.payer with
  | none => trivial
  | some payer =>
    refine indifferent_call (fun _ _ h => h) fun token => ?_
    cases token <;> trivial

theorem indifferent_decidePayment (svc : Service) (terms : Terms) (policy : Option String)
    (settlePolicy : SettlePolicy) (decoded : Except HeaderDecodeError PaymentPayload) :
    Indifferent (svc.decidePayment terms policy settlePolicy decoded) := by
  cases decoded with
  | error e => trivial
  | ok payload =>
    refine (indifferent_claimPresented payload _).bind fun error => ?_
    cases error with
    | some error => trivial
    | none =>
      cases settlePolicy with
      | deferred =>
        refine indifferent_call (fun _ _ h => h) fun verified => ?_
        cases verified <;> trivial
      | immediate =>
        refine indifferent_call (fun _ _ h => h) fun settled => ?_
        cases settled with
        | error e => trivial
        | ok settlement => exact (indifferent_mintSession settlement policy _).bind fun _ => trivial

theorem indifferent_decideFree (terms : Terms) (clientIp : Option IpAddr) :
    Indifferent (terms.decideFree clientIp) := by
  unfold Terms.decideFree
  cases clientIp with
  | none => trivial
  | some ip =>
    refine indifferent_call (fun _ _ h => h) fun allowance => ?_
    dsimp only
    split <;> trivial

theorem indifferent_decide (svc : Service) (headers : HeaderView) (clientIp : Option IpAddr)
    (path : String) (policy : Option String) (resourceUrl : String) (settlePolicy : SettlePolicy) :
    Indifferent (svc.decide headers clientIp path policy resourceUrl settlePolicy) := by
  refine (indifferent_honorSession _ policy).bind fun honored => ?_
  cases honored with
  | some decision => trivial
  | none =>
    dsimp only
    split
    · exact indifferent_decidePayment svc _ policy settlePolicy _
    · exact indifferent_decideFree _ clientIp

theorem indifferent_check (svc : Service) (request : CheckRequest) :
    Indifferent (svc.check request) :=
  (indifferent_decide svc _ _ _ _ _ .immediate).bind fun _ => trivial

theorem indifferent_handleRequestHeaders (svc : Service) (st : StreamState)
    (headers : Option (List HeaderValue)) (clientIp : Option IpAddr) (policy : Option String)
    (decideMs : String) :
    Indifferent (svc.handleRequestHeaders st headers clientIp policy decideMs) := by
  refine indifferent_call (fun _ _ h => h) fun breaker => ?_
  split
  · trivial
  · refine (indifferent_decide svc _ clientIp _ policy _ _).bind fun decision => ?_
    cases decision <;> trivial

theorem indifferent_releasePending (pending : PendingPayment) :
    Indifferent (releasePending pending) := by
  unfold releasePending
  cases pending.paymentId with
  | none => trivial
  | some id => exact indifferent_call (fun _ _ h => h) fun _ => trivial

theorem indifferent_settlePending (svc : Service) (st : StreamState) (pending : PendingPayment)
    (settleMs : String) : Indifferent (svc.settlePending st pending settleMs) := by
  refine indifferent_call (fun _ _ h => h) fun settled => ?_
  cases settled with
  | error e => exact indifferent_call (fun _ _ h => h) fun _ => trivial
  | ok settlement =>
    refine indifferent_call (fun _ _ h => h) fun _ => ?_
    exact (indifferent_mintSession settlement st.policy _).bind fun _ => trivial

theorem indifferent_handleResponseHeaders (svc : Service) (st : StreamState)
    (headers : Option (List HeaderValue)) (settleMs : String) :
    Indifferent (svc.handleResponseHeaders st headers settleMs) := by
  unfold Service.handleResponseHeaders
  split
  · trivial
  · dsimp only
    split
    · exact (indifferent_releasePending _).bind fun _ => trivial
    · exact (indifferent_settlePending svc _ _ settleMs).bind fun _ => trivial

theorem indifferent_process (svc : Service) (st : StreamState) (message : ProcessingRequest)
    (elapsedMs : String) : Indifferent (svc.process st message elapsedMs) := by
  unfold Service.process
  split
  · exact indifferent_handleRequestHeaders svc st _ _ _ elapsedMs
  · exact indifferent_handleResponseHeaders svc st _ elapsedMs
  · trivial

omit [Platform] in
theorem indifferent_apiVerify (request : FacilitatorRequest) : Indifferent (apiVerify request) := by
  unfold apiVerify
  split
  · trivial
  · refine indifferent_call (fun _ _ h => h) fun verified => ?_
    cases verified <;> trivial

theorem indifferent_claimRequested (request : FacilitatorRequest) :
    Indifferent (claimRequested request) := by
  unfold claimRequested
  cases paymentId request.paymentPayload with
  | none => trivial
  | some id =>
    refine indifferent_call (fun _ _ h => h) fun claim => ?_
    cases claim <;> trivial

theorem indifferent_releaseRequested (request : FacilitatorRequest) :
    Indifferent (releaseRequested request) := by
  unfold releaseRequested
  cases paymentId request.paymentPayload with
  | none => trivial
  | some id => exact indifferent_call (fun _ _ h => h) fun _ => trivial

theorem indifferent_apiSettle (svc : Service) (request : FacilitatorRequest) :
    Indifferent (svc.apiSettle request) := by
  unfold Service.apiSettle
  split
  · trivial
  · refine (indifferent_claimRequested request).bind fun error => ?_
    cases error with
    | some error => trivial
    | none =>
      refine indifferent_call (fun _ _ h => h) fun settled => ?_
      cases settled with
      | ok receipt => trivial
      | error e => exact (indifferent_releaseRequested request).bind fun _ => trivial

omit [Platform] in
/-- What a tick reaps is told nobody. -/
theorem indifferent_sweep : Indifferent sweep :=
  ⟨fun _ _ _ => rfl, fun _ => ⟨fun _ _ _ => rfl, fun _ => trivial⟩⟩

theorem indifferent_tellStream (svc : Service) (st : StreamState) (message : ProcessingRequest)
    (elapsedMs : String) : Indifferent (svc.tellStream st message elapsedMs) :=
  (indifferent_process svc st message elapsedMs).bind fun _ => trivial

/-- **Nobody is told.** -/
theorem indifferent_tell (svc : Service) (l : Local) (msg : Message) :
    Indifferent (svc.tell l msg) := by
  unfold Service.tell
  split
  · exact indifferent_tellStream svc _ _ _
  · exact indifferent_tellStream svc _ _ _
  · trivial
  · exact (indifferent_check svc _).bind fun _ => trivial
  · exact (indifferent_apiVerify _).bind fun _ => trivial
  · exact (indifferent_apiSettle svc _).bind fun _ => trivial
  · exact indifferent_sweep.bind fun _ => trivial
  · trivial

/-- Nor are those who keep what they are told. -/
theorem indifferent_front (svc : Service) (caller : Caller) (msg : Message) :
    Indifferent (svc.front.handle caller msg) :=
  (indifferent_tell svc caller.state msg).bind fun _ => trivial

end X402Verifier
