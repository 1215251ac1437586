import X402Verifier.Facilitator
import X402Verifier.Breaker
import X402Verifier.RateLimit

/-!
# The shared service and its operations

`AppState` of `auth.rs`, divided in two: what is fixed at startup (`Service`), and what requests
change while they run (`AppState`). A request handler is a program over `Op`; each operation is one
indivisible step on the shared state, taken between the steps of other requests.

Verification and settlement touch nothing a request shares, so each is one step, taken when it
returns; the answers of the fullnode it met are part of the step's `Env`.
-/

namespace X402Verifier

open RustStd Interaction

/-- What `main` builds once and nothing changes. -/
structure Service where
  config : Config
  facilitator : Facilitator

def Service.ofConfig (config : Config) : Service := ⟨config, .ofConfig config⟩

/-- The state all requests share. `broadcast` records the transactions handed to the network,
latest first; no code reads it. -/
structure AppState where
  sessions : SessionStore
  limiter : RateLimiter
  breaker : SettlementBreaker := {}
  broadcast : List Bytes := []

/-- One step of a request handler. -/
inductive Op where
  | nowEpochSecs
  | consume (token : String) (policy : Option String)
  | claimPayment (paymentId : String) (ttlSecs : Nat)
  | releasePayment (paymentId : String)
  | createSession (payer : String) (policy : Option String) (quota ttlSecs : Nat)
  | cleanupExpired
  | check (policy : String) (ip : IpAddr) (maxRequests windowSecs : Nat)
  | cleanupIdle
  | breakerState (policy : String)
  | breakerRecord (policy : String) (failed : Bool)
  | verify (payload : PaymentPayload) (requirements : PaymentRequirements)
  | settle (payload : PaymentPayload) (requirements : PaymentRequirements)

/-- What a step answers. -/
def Op.Ret : Op → Type
  | .nowEpochSecs => Nat
  | .consume .. => SessionOutcome
  | .claimPayment .. => PaymentClaim
  | .releasePayment _ => Unit
  | .createSession .. => Except StoreError String
  | .cleanupExpired => Nat
  | .check .. => Allowance
  | .cleanupIdle => Nat
  | .breakerState _ => BreakerState
  | .breakerRecord .. => Unit
  | .verify .. => Except FacilitatorError String
  | .settle .. => Except FacilitatorError SettlementResponse

instance (op : Op) : Nonempty op.Ret := by
  cases op with
  | nowEpochSecs => exact ⟨(0 : Nat)⟩
  | consume => exact ⟨SessionOutcome.rejected .backend⟩
  | claimPayment => exact ⟨PaymentClaim.fresh⟩
  | releasePayment => exact ⟨()⟩
  | createSession => exact ⟨Except.ok ""⟩
  | cleanupExpired => exact ⟨(0 : Nat)⟩
  | check => exact ⟨(⟨true, 0, 0, 0⟩ : Allowance)⟩
  | cleanupIdle => exact ⟨(0 : Nat)⟩
  | breakerState => exact ⟨BreakerState.closed⟩
  | breakerRecord => exact ⟨()⟩
  | verify => exact ⟨Except.ok ""⟩
  | settle => exact ⟨Except.error .replayCacheUnavailable⟩

abbrev Handler (α : Type) : Type := Prog Op Op.Ret α

def call (op : Op) : Handler op.Ret := Prog.perform op

/-- Answers to the calls of one handler, whatever has been called before. -/
abbrev Answers : Type := Nat → (op : Op) → op.Ret

/-- What one step takes from outside: the clock and the store's surroundings, and the fullnode's
answers. -/
structure Env where
  store : StoreEnv
  node : Fullnode

/-- The transactions a trace of calls handed to the network, latest first. -/
def broadcasts (calls : List (Event Rpc.Ret)) : List Bytes :=
  (calls.filterMap fun
    | ⟨.executeTransaction transaction _, _⟩ => some transaction
    | _ => none).reverse

variable [Platform]

/-- Perform one operation on the shared state. -/
def Service.exec (svc : Service) (env : Env) (s : AppState) : (op : Op) → op.Ret × AppState
  | .nowEpochSecs => (env.store.now, s)
  | .consume token policy =>
    let (outcome, sessions) := s.sessions.consume env.store token policy
    (outcome, { s with sessions := sessions })
  | .claimPayment paymentId ttlSecs =>
    let (claim, sessions) := s.sessions.claimPayment env.store paymentId ttlSecs
    (claim, { s with sessions := sessions })
  | .releasePayment paymentId =>
    ((), { s with sessions := s.sessions.releasePayment env.store paymentId })
  | .createSession payer policy quota ttlSecs =>
    let (token, sessions) := s.sessions.createSession env.store payer policy quota ttlSecs
    (token, { s with sessions := sessions })
  | .cleanupExpired =>
    let (reaped, sessions) := s.sessions.cleanupExpired env.store
    (reaped, { s with sessions := sessions })
  | .check policy ip maxRequests windowSecs =>
    let (allowance, limiter) := s.limiter.check env.store policy ip maxRequests windowSecs
    (allowance, { s with limiter := limiter })
  | .cleanupIdle =>
    let (dropped, limiter) := s.limiter.cleanupIdle env.store
    (dropped, { s with limiter := limiter })
  | .breakerState policy =>
    let (state, breaker) := s.breaker.stateAt policy env.store.now
    (state, { s with breaker := breaker })
  | .breakerRecord policy failed =>
    ((), { s with breaker := s.breaker.recordAt policy failed env.store.now })
  | .verify payload requirements =>
    (((svc.facilitator.verify payload requirements).run.eval env.node).1, s)
  | .settle payload requirements =>
    let (receipt, calls) := (svc.facilitator.settle payload requirements).run.eval env.node
    (receipt, { s with broadcast := broadcasts calls ++ s.broadcast })

/-- The memory store `main` builds. -/
def MemorySessionStore.ofConfig (config : Config) (hmacKey : Bytes) : MemorySessionStore :=
  { codec := ⟨hmacKey⟩, replayRetentionSecs := config.paidTier.durationSecs }

/-- The shared state `main` starts with on the memory backend. -/
def AppState.ofConfig (config : Config) (hmacKey : Bytes) : AppState :=
  { sessions := .memory (.ofConfig config hmacKey), limiter := .memory {} }

end X402Verifier
