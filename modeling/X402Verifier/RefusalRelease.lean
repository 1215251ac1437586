import X402Verifier.Auth
import X402Verifier.ReplayCache
import X402Verifier.Reference

/-!
# Refused payments and their claims

One request at a time, from any state and with any surroundings: what `decide` leaves in the replay
cache when it refuses the payment and no transaction was broadcast.

`decide` claims a payment before it looks at it, and has no step that gives the claim back. So the
cache is left as it was just when the claim was not recorded in the first place, or nothing is
refused after it (`KeepsRefused`).
-/

namespace X402Verifier

open RustStd Interaction

variable [Platform]

/-! ## The property -/

def Decision.refused : Decision → Bool
  | .deny .. => true
  | .allow .. => false

/-- A request refused before any broadcast leaves the replay cache as it was. -/
def Restores (s : AppState) (out : Prog.Outcome Op.Ret AppState Decision) : Prop :=
  out.value.refused = true → out.state.broadcast = s.broadcast →
    out.state.sessions.replay = s.sessions.replay

/-! ## The condition -/

/-- The facilitator refuses the payment, and has broadcast nothing. -/
def Facilitator.RefusesUnspent (f : Facilitator) (settlePolicy : SettlePolicy)
    (payload : PaymentPayload) (requirements : PaymentRequirements) (node : Fullnode) : Prop :=
  match settlePolicy with
  | .deferred => ∃ e, ((f.verify payload requirements).run.eval node).1 = .error e
  | .immediate =>
    (∃ e, ((f.settle payload requirements).run.eval node).1 = .error e) ∧
      broadcasts ((f.settle payload requirements).run.eval node).2 = []

/-- The payment is not claimed, or else the claim is answered and the facilitator does not refuse it
unspent. -/
def Service.KeepsPayment (svc : Service) (settlePolicy : SettlePolicy)
    (requirements : PaymentRequirements) (decoded : Except HeaderDecodeError PaymentPayload)
    (env : Nat → Env) (cache : ReplayCache) : Prop :=
  ∀ payload, decoded = .ok payload → ∀ id, paymentId payload = some id →
    cache.takes (env 0).store id (replayTtl requirements.maxTimeoutSeconds) = true →
    cache.replies (env 0).store = true ∧
      ¬ svc.facilitator.RefusesUnspent settlePolicy payload requirements (env 1).node

/-! ## Programs that leave the cache alone -/

/-- Calls outside the cache. -/
abbrev cacheFree : Protocol Op Op.Ret (List (Event Op.Ret)) := .trace fun op => op.onReplayCache = false

theorem run_replay {α : Type} {p : Handler α} {post : List (Event Op.Ret) → α → Prop}
    {trace : List (Event Op.Ret)} (svc : Service) (h : p.Follows cacheFree post trace)
    (env : Nat → Env) (s : AppState) :
    (p.run svc.exec env s).state.sessions.replay = s.sessions.replay :=
  h.run_keeps (f := fun s : AppState => s.sessions.replay)
    (fun e s _ hop => svc.exec_replay e s hop) env s

theorem cacheFree_verifyPresented (svc : Service) (terms : Terms) (payload : PaymentPayload)
    (trace : List (Event Op.Ret)) :
    (svc.verifyPresented terms payload).Follows cacheFree (fun _ _ => True) trace := by
  refine .perform rfl fun verified _ => ?_
  cases verified <;> trivial

omit [Platform] in
theorem cacheFree_mintSession (receipt : SettlementResponse) (policy : Option String)
    (tier : PaidTierConfig) (trace : List (Event Op.Ret)) :
    (mintSession receipt policy tier).Follows cacheFree (fun _ _ => True) trace := by
  unfold mintSession
  cases receipt.payer with
  | none => trivial
  | some payer =>
    refine .perform rfl fun token _ => ?_
    cases token <;> trivial

theorem cacheFree_settlePresented (svc : Service) (terms : Terms) (policy : Option String)
    (payload : PaymentPayload) (trace : List (Event Op.Ret)) :
    (svc.settlePresented terms policy payload).Follows cacheFree (fun _ _ => True) trace := by
  refine .perform rfl fun settled _ => ?_
  cases settled with
  | error e => trivial
  | ok receipt => exact (cacheFree_mintSession receipt policy _ _).bind fun _ _ _ => trivial

/-! ## One payment -/

section Presented

variable (svc : Service) (terms : Terms) (policy : Option String) (payload : PaymentPayload)
  (env : Nat → Env) {s s₁ : AppState}

/-- Deferred: a verification that fails refuses the payment. -/
theorem restores_verifyPresented_iff (hchanged : s₁.sessions.replay ≠ s.sessions.replay)
    (hbroadcast : s₁.broadcast = s.broadcast) :
    Restores s ((svc.verifyPresented terms payload).run svc.exec env s₁) ↔
      ¬ svc.facilitator.RefusesUnspent .deferred payload terms.requirements (env 0).node := by
  have hreplay := run_replay svc (cacheFree_verifyPresented svc terms payload []) env s₁
  unfold Restores
  rw [hreplay]
  simp only [Service.verifyPresented, call, Prog.bind_eq, Prog.perform_bind, Prog.run_call_value,
    Prog.run_call_state, Service.exec, Facilitator.RefusesUnspent]
  cases ((svc.facilitator.verify payload terms.requirements).run.eval (env 0).node).1 with
  | ok payer => simp [Decision.refused]
  | error e =>
    simp [Decision.refused, Service.rejectPayment, Service.refusePayment, hchanged, hbroadcast]

/-- Immediate: so does a settlement that fails, unless it has broadcast the transaction. -/
theorem restores_settlePresented_iff (hchanged : s₁.sessions.replay ≠ s.sessions.replay)
    (hbroadcast : s₁.broadcast = s.broadcast) :
    Restores s ((svc.settlePresented terms policy payload).run svc.exec env s₁) ↔
      ¬ svc.facilitator.RefusesUnspent .immediate payload terms.requirements (env 0).node := by
  have hreplay := run_replay svc (cacheFree_settlePresented svc terms policy payload []) env s₁
  unfold Restores
  rw [hreplay]
  simp only [Service.settlePresented, call, Prog.bind_eq, Prog.perform_bind, Prog.run_call_value,
    Prog.run_call_state, Service.exec, Facilitator.RefusesUnspent]
  cases ((svc.facilitator.settle payload terms.requirements).run.eval (env 0).node).1 with
  | ok receipt => simp [Prog.run_bind, Decision.refused]
  | error e =>
    simp [Decision.refused, Service.rejectPayment, Service.refusePayment, hchanged, hbroadcast]

/-- **One payment.** -/
theorem restores_decidePayment_iff (settlePolicy : SettlePolicy)
    (decoded : Except HeaderDecodeError PaymentPayload) (s : AppState) :
    Restores s ((svc.decidePayment terms policy settlePolicy decoded).run svc.exec env s) ↔
      svc.KeepsPayment settlePolicy terms.requirements decoded env s.sessions.replay := by
  cases decoded with
  | error e => simp [Service.decidePayment, Restores, Service.KeepsPayment]
  | ok payload =>
    cases hid : paymentId payload with
    | none =>
      -- Without an id nothing is claimed, and nothing is there to be given back.
      have hsame : ((svc.decidePayment terms policy settlePolicy (.ok payload)).run
          svc.exec env s).state.sessions.replay = s.sessions.replay := by
        simp only [Service.decidePayment, claimPresented, hid]
        cases settlePolicy with
        | deferred => exact run_replay svc (cacheFree_verifyPresented svc terms payload []) env s
        | immediate =>
          exact run_replay svc (cacheFree_settlePresented svc terms policy payload []) env s
      simp [Restores, hsame, Service.KeepsPayment, hid]
    | some id =>
      have httl : 0 < replayTtl terms.requirements.maxTimeoutSeconds :=
        Nat.lt_of_lt_of_le (by decide) (Nat.le_max_right _ 300)
      have hkeeps : svc.KeepsPayment settlePolicy terms.requirements (.ok payload) env
          s.sessions.replay ↔
          (s.sessions.replay.takes (env 0).store id
            (replayTtl terms.requirements.maxTimeoutSeconds) = true →
          s.sessions.replay.replies (env 0).store = true ∧
            ¬ svc.facilitator.RefusesUnspent settlePolicy payload terms.requirements
              (env 1).node) := by
        simp [Service.KeepsPayment, hid]
      rw [hkeeps]
      simp only [Service.decidePayment, claimPresented, hid, call, Prog.bind_eq, Prog.perform_bind,
        Prog.call_bind, Restores, Prog.run_call_value, Prog.run_call_state, Service.exec]
      cases htakes : s.sessions.replay.takes (env 0).store id
          (replayTtl terms.requirements.maxTimeoutSeconds) with
      | false =>
        -- A claim that is not taken leaves the cache as it was, whatever is decided then.
        obtain ⟨hnot, hsame⟩ := SessionStore.claimPayment_of_not_takes htakes
        cases hclaim : (s.sessions.claimPayment (env 0).store id
            (replayTtl terms.requirements.maxTimeoutSeconds)).1 with
        | fresh => exact absurd hclaim hnot
        | replay firstSeen => exact iff_of_true (fun _ _ => hsame) (by simp)
        | backend => exact iff_of_true (fun _ _ => hsame) (by simp)
      | true =>
        -- One that is taken stays behind when its reply is lost, or the facilitator refuses.
        obtain ⟨hclaim, hchanged⟩ := SessionStore.claimPayment_of_takes httl htakes
        rw [hclaim]
        cases hreplies : s.sessions.replay.replies (env 0).store with
        | false => simp [Decision.refused, Service.rejectPayment, Service.refusePayment, hchanged]
        | true =>
          simp only [if_true, forall_const, true_and]
          cases settlePolicy with
          | deferred =>
            exact restores_verifyPresented_iff svc terms payload (fun n => env (n + 1)) hchanged rfl
          | immediate =>
            exact restores_settlePresented_iff svc terms policy payload (fun n => env (n + 1))
              hchanged rfl

end Presented

/-! ## Whole requests -/

/-- A store that honors the presented token, at the first call. -/
def honored (token policy : Option String) (env : Nat → Env) (s : AppState) : Bool :=
  token.any fun token =>
    match (s.sessions.consume (env 0).store token policy).1 with
    | .accepted .. => true
    | .rejected _ => false

/-- The calls of a session step that honors nothing. -/
def sessionCalls (token : Option String) : Nat := if token.isSome then 1 else 0

/-- The store honors the request's session, or the payment it presents is kept. -/
def Service.KeepsRefused (svc : Service) (headers : HeaderView) (path : String)
    (policy : Option String) (resourceUrl : String) (settlePolicy : SettlePolicy)
    (env : Nat → Env) (s : AppState) : Prop :=
  honored (presentedToken headers) policy env s = true ∨
  ∀ decoded, presentedPayment headers = some decoded →
    svc.KeepsPayment settlePolicy (svc.termsFor path policy resourceUrl).requirements decoded
      (fun n => env (n + sessionCalls (presentedToken headers))) s.sessions.replay

/-- The session step changes neither the cache nor what was broadcast, and an honored session
allows the request. -/
theorem run_honorSession (svc : Service) (token policy : Option String) (env : Nat → Env)
    (s : AppState) :
    let out := (honorSession token policy).run svc.exec env s
    out.state.sessions.replay = s.sessions.replay ∧ out.state.broadcast = s.broadcast ∧
      if honored token policy env s then ∃ d, out.value = some d ∧ d.refused = false
      else out.value = none ∧ out.events.length = sessionCalls token := by
  cases token with
  | none => simp [honorSession, honored, sessionCalls]
  | some token =>
    have hreplay : (s.sessions.consume (env 0).store token policy).2.replay = s.sessions.replay :=
      SessionStore.replay_consume token policy
    simp only [honorSession, call, Prog.bind_eq, Prog.perform_bind, honored, Option.any_some]
    obtain ⟨outcome, hc⟩ : ∃ o, (s.sessions.consume (env 0).store token policy).1 = o := ⟨_, rfl⟩
    cases outcome with
    | rejected reason => simp [Prog.run_call, Service.exec, hc, hreplay, sessionCalls]
    | accepted payer remaining quota expiresAt =>
      simp only [Prog.run_call, Service.exec, hc, if_true]
      exact ⟨hreplay, rfl, _, rfl, rfl⟩

theorem cacheFree_decideFree (terms : Terms) (clientIp : Option IpAddr)
    (trace : List (Event Op.Ret)) :
    (terms.decideFree clientIp).Follows cacheFree (fun _ _ => True) trace := by
  unfold Terms.decideFree
  cases clientIp with
  | none => trivial
  | some ip =>
    refine .perform rfl fun allowance _ => ?_
    dsimp only
    split <;> trivial

/-- **Refused payments.** A request that `decide` refuses before any broadcast leaves the replay
cache as it was exactly when its session is honored, or its payment is not claimed, or the claim is
answered and the facilitator does not refuse the payment unspent. -/
theorem refusal_keeps_cache_iff (svc : Service) (headers : HeaderView) (clientIp : Option IpAddr)
    (path : String) (policy : Option String) (resourceUrl : String) (settlePolicy : SettlePolicy)
    (env : Nat → Env) (s : AppState) :
    Restores s ((svc.decide headers clientIp path policy resourceUrl settlePolicy).run
        svc.exec env s) ↔
      svc.KeepsRefused headers path policy resourceUrl settlePolicy env s := by
  obtain ⟨hreplay, hbroadcast, hvalue⟩ := run_honorSession svc (presentedToken headers) policy env s
  simp only [Service.decide, Prog.bind_eq, Prog.run_bind, Service.KeepsRefused]
  generalize (honorSession (presentedToken headers) policy).run svc.exec env s = first at *
  cases hhonored : honored (presentedToken headers) policy env s with
  | true =>
    rw [hhonored] at hvalue
    obtain ⟨d, hd, hallowed⟩ := hvalue
    simp [hd, Restores, hallowed]
  | false =>
    rw [hhonored] at hvalue
    obtain ⟨hnone, hcalls⟩ := hvalue
    simp only [hnone, hcalls]
    cases hpayment : presentedPayment headers with
    | none =>
      have hsame := run_replay svc (cacheFree_decideFree (svc.termsFor path policy resourceUrl)
        clientIp []) (fun n => env (n + sessionCalls (presentedToken headers))) first.state
      simp [Restores, hsame, hreplay]
    | some decoded =>
      have h := restores_decidePayment_iff svc (svc.termsFor path policy resourceUrl) policy
        (fun n => env (n + sessionCalls (presentedToken headers))) settlePolicy decoded first.state
      simp only [Restores, hreplay, hbroadcast] at h
      simpa [Restores] using h

/-! ## A payment that stays claimed -/

omit [Platform] in
/-- **A burned payment.** The payment accepts 999 where 1000 is asked. It is claimed, refused for its
terms, and stays claimed. -/
theorem refused_payment_stays_claimed :
    ¬ ∀ (_ : Platform) (config : Config) (hmacKey : Bytes) (headers : HeaderView)
      (clientIp : Option IpAddr) (path : String) (policy : Option String) (resourceUrl : String)
      (settlePolicy : SettlePolicy) (env : Nat → Env), config.validate = .ok () →
      Restores (.ofConfig config hmacKey)
        (((Service.ofConfig config).decide headers clientIp path policy resourceUrl
          settlePolicy).run (Service.ofConfig config).exec env (.ofConfig config hmacKey)) := by
  intro h
  let _ : Platform := paymentPlatform "999"
  have hrestores := h (paymentPlatform "999") (exampleConfig .stubAcceptAll) []
    (paymentHeaders "999") none "/" none "/" .deferred (fun _ => exampleEnv 1000) rfl
  have hne : utf8 (paymentText "999") ≠ [] := by decide +kernel
  rw [decide_of_payment _ (presentedToken_paymentHeaders "999" hne)
    (presentedPayment_paymentHeaders "999" hne)] at hrestores
  have hkeeps := (restores_decidePayment_iff _ _ none _ .deferred _ _).mp hrestores
  have hrefuses := (hkeeps _ rfl exampleId (by decide +kernel) (by decide +kernel)).2
  exact hrefuses ⟨_, rfl⟩

end X402Verifier
