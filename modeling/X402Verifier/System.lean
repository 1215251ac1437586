import Mathlib.Data.List.Induction
import X402Verifier.Interaction.Machine
import X402Verifier.ExtProc
import X402Verifier.FacilitatorApi

/-!
# The running service

All the entry points at once, over one shared state. An actor is one ext_proc stream, one ext_authz
request, one call of the HTTP interface, or one tick of the sweeper; its first message says which.
Any actor may take its next step at any time, and an actor that is never scheduled again is one
whose client went away.
-/

namespace X402Verifier

open Interaction

variable [Platform]

/-- An actor between two messages. -/
inductive Local where
  | fresh
  | stream (st : StreamState)
  | finished

/-- What starts an actor's next piece of work. -/
inductive Message where
  | processing (message : ProcessingRequest) (elapsedMs : String)
  | hangUp
  | check (request : CheckRequest)
  | postVerify (request : FacilitatorRequest)
  | postSettle (request : FacilitatorRequest)
  | tick

def sweep : Handler Unit := do
  let _ ← call .cleanupExpired
  let _ ← call .cleanupIdle
  pure ()

def Service.onStream (svc : Service) (st : StreamState) (message : ProcessingRequest)
    (elapsedMs : String) : Handler Local := do
  let (_, st) ← svc.process st message elapsedMs
  pure (.stream st)

def Service.handle (svc : Service) : Local → Message → Handler Local
  | .fresh, .processing message elapsedMs => svc.onStream {} message elapsedMs
  | .stream st, .processing message elapsedMs => svc.onStream st message elapsedMs
  | .stream _, .hangUp => pure .finished
  | .fresh, .check request => do
    let _ ← svc.check request
    pure .finished
  | .fresh, .postVerify request => do
    let _ ← apiVerify request
    pure .finished
  | .fresh, .postSettle request => do
    let _ ← svc.apiSettle request
    pure .finished
  | .fresh, .tick => do
    sweep
    pure .finished
  | l, _ => pure l

/-- A stream's first message, when it presents a payment and no session. -/
theorem Service.handle_of_payment (svc : Service) {attributes : Attributes}
    {headers : Option (List HeaderValue)} {decoded : Except HeaderDecodeError PaymentPayload}
    (htoken : presentedToken ⟨some (headerMap headers)⟩ = none)
    (hpayment : presentedPayment ⟨some (headerMap headers)⟩ = some decoded) (elapsedMs : String) :
    let policy := policyFromAttributes attributes
    let path := ((headerMap headers).get? ":path").getD ""
    svc.handle .fresh (.processing ⟨attributes, .requestHeaders headers⟩ elapsedMs) =
      (Prog.call (.breakerState (breakerPolicy policy)) fun breaker =>
        let view : HeaderView := ⟨some (headerMap headers)⟩
        if ¬ BreakerState.acceptsPayment breaker ∧ (view.get headerPaymentSignature).isSome then
          .pure (settlementUnavailable path, {})
        else
          (svc.decidePayment (svc.termsFor path policy (resourceUrl (headerMap headers) path)) policy
            .deferred decoded).bind fun
            | .allow tier payer _ _ pending meter =>
              .pure (allowReply tier payer meter view,
                { pending := pending, policy := policy, path := path, meter := meter,
                  decideMs := elapsedMs })
            | .deny challenge receipt meter =>
              .pure (denyReply challenge receipt meter elapsedMs, {})).bind fun reply =>
        .pure (.stream reply.2) := by
  intro policy path
  rw [← processDecision_of_payment svc (clientIpFromAttributes attributes) policy htoken hpayment]
  rfl

/-- An ext_authz request that presents a payment and no session. -/
theorem Service.handle_check_of_payment (svc : Service) (request : CheckRequest)
    {decoded : Except HeaderDecodeError PaymentPayload}
    (htoken : presentedToken ⟨request.http.map (·.headers)⟩ = none)
    (hpayment : presentedPayment ⟨request.http.map (·.headers)⟩ = some decoded) :
    let path := (request.http.map (·.path)).getD ""
    let policy := request.contextExtensions.get? policyContextKey
    svc.handle .fresh (.check request) =
      (svc.decidePayment
        (svc.termsFor path policy ((request.http.map (·.resourceUrl)).getD "")) policy .immediate
        decoded).bind fun _ => .pure .finished := by
  intro path policy
  show (svc.check request).bind _ = _
  rw [check_of_payment svc htoken hpayment, Prog.bind_assoc]
  rfl

def Service.machine (svc : Service) : Machine Nat Op Op.Ret Env AppState Local Message where
  exec := svc.exec
  handle := svc.handle

abbrev SystemState : Type := Machine.State Nat Op Op.Ret AppState Local Message

abbrev SystemAction : Type := Action Nat Env Message

/-- Before the first message: every actor is fresh, and nothing has been called. -/
def SystemState.start (shared : AppState) : SystemState := ⟨shared, fun _ => .idle .fresh, []⟩

/-- Several actors are sent the same first message. -/
theorem Service.run_delivers (svc : Service) {msg : Message} {prog : Handler Local}
    (hmsg : svc.handle .fresh msg = prog) (shared : AppState) {actors : List Nat}
    (hdistinct : actors.Nodup) :
    svc.machine.run (SystemState.start shared) (actors.map (.deliver · msg)) =
      ⟨shared, fun a => if a ∈ actors then .of msg prog else .idle .fresh, []⟩ := by
  induction actors using List.reverseRecOn with
  | nil => rfl
  | append_singleton actors a ih =>
    obtain ⟨hactors, -, hapart⟩ := List.nodup_append.mp hdistinct
    have hnew : a ∉ actors := fun hmem => hapart a hmem a (List.mem_singleton_self a) rfl
    rw [List.map_append, Machine.run_append, ih hactors, List.map_singleton, Machine.run_cons,
      Machine.run_nil, Machine.step_deliver (if_neg hnew)]
    congr
    funext b
    by_cases hb : b = a
    · simp [hb, Service.machine, hmsg]
    · simp [hb]

end X402Verifier
