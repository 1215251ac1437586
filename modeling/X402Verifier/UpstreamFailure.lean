import X402Verifier.StreamSettlement
import X402Verifier.Reference

/-!
# Upstream failures

An upstream reports failure in one of two ways: by a `:status` that is no 2xx, or, on a gRPC route,
by a trailers-only response, whose `:status` is 200 and whose `grpc-status` is the error. The
response phase is to discard the payment on both (`Discards`): nothing is settled or minted, the
breaker hears nothing, and the claim is given back. It reads the `:status` alone, so it does for the
first and never for the second (`discards_iff`).
-/

namespace X402Verifier

open RustStd Interaction

variable [Platform]

/-- The `:status` is outside 200..299, or missing. -/
def statusFailed (headers : Option (List HeaderValue)) : Bool :=
  ¬ isSuccess (((headerMap headers).get? ":status").getD "")

/-- A gRPC trailers-only error: a 200 that carries a `grpc-status` other than 0. -/
def trailersOnlyError (headers : Option (List HeaderValue)) : Bool :=
  (headerMap headers).get? ":status" = some "200" ∧
    ((headerMap headers).get? "grpc-status").any (· ≠ "0")

/-- The payment is given back and nothing else happens: no call charges for it or grants what it
bought, the breaker and the network see nothing, and the store only releases its claim. -/
structure Discards (p : PendingPayment) (env : Nat → Env) (s : AppState)
    (out : Prog.Outcome Op.Ret AppState (ProcessingResponse × StreamState)) : Prop where
  pending : out.value.2.pending = none
  uncharged : ∀ e ∈ out.events, e.1.charges = false
  breaker : out.state.breaker = s.breaker
  broadcast : out.state.broadcast = s.broadcast
  released : out.state.sessions =
    p.paymentId.elim s.sessions fun id => s.sessions.releasePayment (env 0).store id

omit [Platform] in
theorem not_statusFailed_of_trailersOnlyError {headers : Option (List HeaderValue)}
    (h : trailersOnlyError headers = true) : statusFailed headers = false := by
  have hstatus : (headerMap headers).get? ":status" = some "200" := by
    simp only [trailersOnlyError, decide_eq_true_eq] at h
    exact h.1
  rw [statusFailed, hstatus]
  decide +kernel

/-- **A status that is no 2xx.** The response phase discards the payment. -/
theorem discards_of_statusFailed (svc : Service) {st : StreamState} {p : PendingPayment}
    (hp : st.pending = some p) {headers : Option (List HeaderValue)}
    (hfailed : statusFailed headers = true) (settleMs : String) (env : Nat → Env) (s : AppState) :
    Discards p env s ((svc.handleResponseHeaders st headers settleMs).run svc.exec env s) := by
  have hstatus : ¬ isSuccess (((headerMap headers).get? ":status").getD "") := by
    simpa [statusFailed] using hfailed
  simp only [Service.handleResponseHeaders, hp, hstatus, releasePending]
  cases hid : p.paymentId with
  | none => exact ⟨rfl, by simp, rfl, rfl, by rw [hid]; rfl⟩
  | some id =>
    refine ⟨rfl, fun e he => ?_, rfl, rfl, by rw [hid]; rfl⟩
    rw [List.mem_singleton.mp he]
    rfl

/-- **A 2xx.** The first thing the response phase does is to settle the payment. -/
theorem settles_of_success (svc : Service) {st : StreamState} {p : PendingPayment}
    (hp : st.pending = some p) {headers : Option (List HeaderValue)}
    (hsuccess : statusFailed headers = false) (settleMs : String) (env : Nat → Env)
    (s : AppState) :
    ∃ receipt, (⟨.settle p.payload p.requirements, receipt⟩ : Event Op.Ret) ∈
      ((svc.handleResponseHeaders st headers settleMs).run svc.exec env s).events := by
  have hstatus : isSuccess (((headerMap headers).get? ":status").getD "") := by
    simpa [statusFailed] using hsuccess
  simp only [Service.handleResponseHeaders, hp, hstatus]
  exact ⟨_, List.mem_cons_self⟩

/-- **What the response phase discards.** Of the responses by which an upstream reports failure, it
discards the payment on exactly those that are not trailers-only errors. -/
theorem discards_iff (svc : Service) (st : StreamState) (p : PendingPayment)
    (hp : st.pending = some p) (headers : Option (List HeaderValue))
    (hfailed : statusFailed headers = true ∨ trailersOnlyError headers = true)
    (settleMs : String) (env : Nat → Env) (s : AppState) :
    Discards p env s ((svc.handleResponseHeaders st headers settleMs).run svc.exec env s) ↔
      trailersOnlyError headers = false := by
  constructor
  · intro h
    by_contra herror
    rw [Bool.not_eq_false] at herror
    obtain ⟨receipt, hmem⟩ :=
      settles_of_success svc hp (not_statusFailed_of_trailersOnlyError herror) settleMs env s
    exact absurd (h.uncharged _ hmem) (by simp [Op.charges])
  · intro herror
    have hstatus : statusFailed headers = true := by simpa [herror] using hfailed
    exact discards_of_statusFailed svc hp hstatus settleMs env s

/-- A stream that has verified this payment. -/
def streamOf (payload : PaymentPayload) (requirements : PaymentRequirements) : StreamState :=
  { pending := some (.of payload requirements) }

/-- The example payment, verified on the stub service. -/
def exampleStream : StreamState :=
  streamOf examplePayload (.fromConfig (exampleConfig .stubAcceptAll).payment)

omit [Platform] in
theorem discards_iff_example :
    let _ : Platform := examplePlatform
    let svc := Service.ofConfig (exampleConfig .stubAcceptAll)
    let headers := some [{ key := ":status", value := "503" }]
    let env : Nat → Env := fun _ => exampleEnv 1000
    let s := AppState.ofConfig (exampleConfig .stubAcceptAll) []
    statusFailed headers = true ∧ ∃ p, exampleStream.pending = some p ∧
      (Discards p env s ((svc.handleResponseHeaders exampleStream headers "0.0").run svc.exec env s) ↔
        trailersOnlyError headers = false) := by
  let _ : Platform := examplePlatform
  have hfailed : statusFailed (some [{ key := ":status", value := "503" }]) = true := by
    decide +kernel
  exact ⟨hfailed, _, rfl,
    @discards_iff examplePlatform _ exampleStream _ rfl _ (.inl hfailed) "0.0" _ _⟩

omit [Platform] in
/-- A gRPC upstream that answers `UNAVAILABLE`. -/
def unavailableHeaders : Option (List HeaderValue) :=
  some [{ key := ":status", value := "200" }, { key := "grpc-status", value := "14" }]

omit [Platform] in
/-- **Charged for an error.** -/
theorem unavailable_upstream_settled :
    ¬ ∀ (_ : Platform) (svc : Service) (st : StreamState) (p : PendingPayment)
      (headers : Option (List HeaderValue)) (settleMs : String) (env : Nat → Env) (s : AppState),
      st.pending = some p → statusFailed headers = true ∨ trailersOnlyError headers = true →
      Discards p env s ((svc.handleResponseHeaders st headers settleMs).run svc.exec env s) := by
  intro h
  let _ : Platform := examplePlatform
  let svc := Service.ofConfig (exampleConfig .stubAcceptAll)
  let env : Nat → Env := fun _ => exampleEnv 1000
  let s := AppState.ofConfig (exampleConfig .stubAcceptAll) []
  have herror : trailersOnlyError unavailableHeaders = true := by decide +kernel
  have hdiscards := h examplePlatform svc exampleStream _ unavailableHeaders "0.0" env s rfl
    (.inr herror)
  obtain ⟨receipt, hmem⟩ := @settles_of_success examplePlatform svc exampleStream _ rfl _
    (not_statusFailed_of_trailersOnlyError herror) "0.0" env s
  exact absurd (hdiscards.uncharged _ hmem) (by simp [Op.charges])

end X402Verifier
