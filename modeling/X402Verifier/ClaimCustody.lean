import X402Verifier.ReplayClaim

/-!
# The claim of a payment that was sent

A settlement that fails may still have sent its transaction, so the claim of its payment is to be
held until it lapses: whoever releases it lets the payment be sent again. The three surfaces treat a
failed settlement differently. A stream and ext_authz never release after it; `/settle` always does.

An actor *works under* the claim of a payment (`works`) from the fresh answer until it has released
the claim or settled the payment, and at `/settle` until it has released it after a settlement that
failed. Only such an actor releases (`custodyProtocol`), and as long as the claim is given out to one
at a time, nobody works under it once the transaction has been sent (`NoneWorks`), unless `/settle`
sent it and the settlement failed.
-/

namespace X402Verifier

open RustStd Interaction

variable [Platform] {id : String}

/-! ## What one actor may do -/

/-- How an actor stands to the payment: it has taken the claim, or has had a settlement fail. -/
inductive Custody where
  | none
  | claimed
  | failed
  deriving DecidableEq

def Custody.next (id : String) (q : Custody) : (op : Op) → op.Ret → Custody
  | .claimPayment id' _, .fresh => if id' = id then .claimed else q
  | .releasePayment id', _ => if id' = id then .none else q
  | .settle payload _, .ok _ => if paymentId payload = some id then .none else q
  | .settle payload _, .error _ => if paymentId payload = some id then .failed else q
  | _, _ => q

def Message.isPostSettle : Message → Bool
  | .postSettle _ => true
  | _ => false

/-- The payment is settled under its claim. It is released under its claim, and at `/settle` also
after a settlement that failed. -/
def custodyProtocol (id : String) (postSettle : Bool) : Protocol Op Op.Ret Custody where
  may q
    | .settle payload _ => paymentId payload = some id → q = .claimed
    | .releasePayment id' => id' = id → q = .claimed ∨ q = .failed ∧ postSettle = true
    | _ => True
  assumes _ _ _ := True
  next := Custody.next id

/-- A stream with the payment pending has its claim. -/
def ClaimsPending (id : String) (q : Custody) : Local → Prop
  | .fresh => q = .none
  | .stream st => ∀ p, st.pending = some p → p.paymentId = some id → q = .claimed
  | .finished => True

/-! ## The handlers -/

theorem custodyRules (id : String) (api : Bool) :
    ClaimRules id (custodyProtocol id api) (· = .claimed) where
  spares := by
    rintro q ⟨op, r⟩ h
    cases op <;> first | exact ⟨trivial, rfl⟩ | cases h
  claims := by
    intro q id' ttlSecs claim
    refine ⟨trivial, ?_⟩
    cases claim with
    | fresh => by_cases hid : id' = id <;> simp [custodyProtocol, Custody.next, hid]
    | replay firstSeen => exact ⟨fun hq => hq, by simp⟩
    | backend => exact ⟨fun hq => hq, by simp⟩
  settles := fun q payload requirements h => h
  mints := fun _ _ _ _ _ _ _ _ => trivial
  releases := fun q id' h hid => .inl (h hid)

/-- After a settlement a stream releases nothing, however it went. -/
theorem custody_onStream {api : Bool} (svc : Service) (st : StreamState)
    (message : ProcessingRequest) (elapsedMs : String) (q : Custody)
    (h : ClaimsPending id q (.stream st)) :
    (svc.onStream st message elapsedMs).Follows (custodyProtocol id api) (ClaimsPending id) q :=
  ((custodyRules id api).follows_process svc st message elapsedMs h).bind
    fun _ ⟨_, _⟩ hreply => hreply

/-- `/settle` releases a payment whose settlement failed. -/
theorem custody_apiSettle (svc : Service) (request : FacilitatorRequest) (q : Custody) :
    (svc.apiSettle request).Follows (custodyProtocol id true) (fun _ _ => True) q := by
  refine (custodyRules id true).follows_apiSettle svc request q
    fun q payload requirements e id' hkeyed _ hid => .inr ⟨?_, rfl⟩
  simp [custodyProtocol, Custody.next, hkeyed, hid]

/-- **Every handler follows the protocol** of its message. -/
theorem custody_handle (svc : Service) (l : Local) (msg : Message) (q : Custody)
    (h : ClaimsPending id q l) :
    (svc.handle l msg).Follows (custodyProtocol id msg.isPostSettle) (ClaimsPending id) q := by
  cases l with
  | fresh =>
    cases msg with
    | processing message elapsedMs =>
      exact custody_onStream svc {} message elapsedMs q (by simp [ClaimsPending])
    | hangUp => exact h
    | check request =>
      exact ((custodyRules id false).follows_check svc request q).bind fun _ _ _ => trivial
    | postVerify request =>
      exact ((custodyRules id false).follows_apiVerify request q).bind fun _ _ _ => trivial
    | postSettle request => exact (custody_apiSettle svc request q).bind fun _ _ _ => trivial
    | tick => exact ⟨trivial, fun _ _ => ⟨trivial, fun _ _ => trivial⟩⟩
  | stream st =>
    cases msg with
    | processing message elapsedMs => exact custody_onStream svc st message elapsedMs q h
    | hangUp => trivial
    | _ => exact h
  | finished => cases msg <;> trivial

/-! ## Who works under the claim -/

/-- How an actor stands to the payment after the calls so far. -/
def custodyOf (id : String) (a : Nat) : Log → Custody
  | [] => .none
  | (b, ⟨op, r⟩) :: log =>
    if b = a then (custodyOf id a log).next id op r else custodyOf id a log

/-- The actor is handling a `/settle` request. -/
def settling (s : SystemState) (a : Nat) : Bool :=
  match s.task a with
  | .busy msg _ => msg.isPostSettle
  | .idle _ => false

/-- The actor works under the payment's claim. -/
def works (id : String) (s : SystemState) (a : Nat) : Bool :=
  match custodyOf id a s.log with
  | .claimed => true
  | .failed => settling s a
  | .none => false

def givesOut (id : String) (s : SystemState) : SystemAction → Bool
  | .advance a e =>
    match (s.task a).nextOp with
    | some (.claimPayment id' ttlSecs) =>
      id' == id && (s.shared.sessions.claimPayment e.store id' ttlSecs).1 == .fresh
    | _ => false
  | .deliver .. => false

def sends (id : String) (svc : Service) (s : SystemState) : SystemAction → Bool
  | .advance a e =>
    match (s.task a).nextOp with
    | some (.settle payload requirements) =>
      paymentId payload == some id &&
        ! (broadcasts ((svc.facilitator.settle payload requirements).run.eval e.node).2).isEmpty
    | _ => false
  | .deliver .. => false

def releases (id : String) (s : SystemState) : SystemAction → Bool
  | .advance a _ =>
    match (s.task a).nextOp with
    | some (.releasePayment id') => id' == id
    | _ => false
  | .deliver .. => false

/-- The claim is given out while another actor works under it. -/
def takesOver (id : String) (s : SystemState) (act : SystemAction) : Bool :=
  match act with
  | .advance a _ => givesOut id s act && s.log.any fun (b, _) => b != a && works id s b
  | .deliver .. => false

/-- A settlement at `/settle` sends the payment's transaction, and fails. -/
def failsSent (id : String) (svc : Service) (s : SystemState) (act : SystemAction) : Bool :=
  match act with
  | .advance a e =>
    sends id svc s act && settling s a &&
      match (s.task a).nextOp with
      | some (.settle payload requirements) =>
        match ((svc.facilitator.settle payload requirements).run.eval e.node).1 with
        | .ok _ => false
        | .error _ => true
      | _ => false
  | .deliver .. => false

/-- The claim is given out to one at a time, and `/settle` hears of what it sent. -/
def Safekeeps (id : String) (svc : Service) (s : SystemState) (act : SystemAction) : Prop :=
  takesOver id s act = false ∧ failsSent id svc s act = false

instance (id : String) (svc : Service) (s : SystemState) (act : SystemAction) :
    Decidable (Safekeeps id svc s act) := inferInstanceAs (Decidable (_ ∧ _))

/-! ## What a step does -/

/-- The actor's program follows the protocol of its message. -/
def TaskGuarded (id : String) (q : Custody) : Task Op Op.Ret Local Message → Prop
  | .idle l => ClaimsPending id q l
  | .busy msg p => p.Follows (custodyProtocol id msg.isPostSettle) (ClaimsPending id) q

def Guarded (id : String) (s : SystemState) : Prop :=
  ∀ a, TaskGuarded id (custodyOf id a s.log) (s.task a)

theorem taskGuarded_of {q : Custody} {msg : Message} {p : Handler Local} :
    TaskGuarded id q (.of msg p) ↔
      p.Follows (custodyProtocol id msg.isPostSettle) (ClaimsPending id) q := by
  cases p <;> rfl

theorem guarded_step (svc : Service) {s : SystemState} (h : Guarded id s) (act : SystemAction) :
    Guarded id (svc.machine.step s act) := by
  intro b
  rcases Machine.step_cases s act with hstep | ⟨a, msg, l, rfl, hidle, hstep⟩ |
    ⟨a, e, msg, op, k, rfl, hbusy, hstep⟩
  · rw [hstep]
    exact h b
  · rw [hstep]
    dsimp only
    by_cases hb : b = a
    · subst hb
      have hl := h b
      rw [hidle] at hl
      rw [Function.update_self, taskGuarded_of]
      exact custody_handle svc l msg _ hl
    · rw [Function.update_of_ne hb]
      exact h b
  · rw [hstep]
    dsimp only
    by_cases hb : b = a
    · subst hb
      have hfollows := h b
      rw [hbusy] at hfollows
      rw [Function.update_self, taskGuarded_of, custodyOf, if_pos rfl]
      exact hfollows.2 _ trivial
    · rw [Function.update_of_ne hb, custodyOf, if_neg (Ne.symm hb)]
      exact h b

theorem isPostSettle_of_settling {s : SystemState} {a : Nat} {msg : Message} {p : Handler Local}
    (htask : s.task a = .of msg p) (h : settling s a = true) : msg.isPostSettle = true := by
  cases p with
  | pure l => simp [settling, htask, Task.of] at h
  | call op k => simpa [settling, htask, Task.of] using h

theorem works_deliver (svc : Service) {s : SystemState} (h : Guarded id s) {a : Nat} {msg : Message}
    {l : Local} (hidle : s.task a = .idle l) (b : Nat)
    (hworks : works id (svc.machine.step s (.deliver a msg)) b = true) : works id s b = true := by
  rw [Machine.step_deliver hidle] at hworks
  by_cases hb : b = a
  · subst hb
    have hl := h b
    rw [hidle] at hl
    cases hq : custodyOf id b s.log with
    | none => simp [works, hq] at hworks
    | claimed => simp [works, hq]
    | failed =>
      -- Only a fresh actor takes up a `/settle` request, and it has not settled anything.
      rw [hq] at hl
      have hsettling : settling
          { s with task := Function.update s.task b (.of msg (svc.machine.handle l msg)) } b = true := by
        simpa [works, hq] using hworks
      have hpost := isPostSettle_of_settling (Function.update_self ..) hsettling
      cases msg with
      | postSettle request =>
        cases l with
        | fresh => cases hl
        | stream st => simp [settling, Service.machine, Service.handle, Task.of] at hsettling
        | finished => simp [settling, Service.machine, Service.handle, Task.of] at hsettling
      | _ => cases hpost
  · simpa [works, settling, hb] using hworks

/-- A call other than a fresh claim leaves its caller where it was, takes it off the payment, or is
the settlement of a claimed payment. -/
theorem next_cases {q : Custody} {op : Op} {r : op.Ret} {postSettle : Bool}
    (hmay : (custodyProtocol id postSettle).may q op)
    (hfresh : ∀ ttlSecs, (⟨op, r⟩ : Event Op.Ret) ≠ ⟨.claimPayment id ttlSecs, PaymentClaim.fresh⟩) :
    q.next id op r = q ∨ q.next id op r = .none ∨ q = .claimed := by
  cases op with
  | claimPayment id' ttlSecs =>
    cases r with
    | fresh =>
      have hne : id' ≠ id := by
        rintro rfl
        exact hfresh ttlSecs rfl
      exact .inl (if_neg hne)
    | _ => exact .inl rfl
  | releasePayment id' =>
    by_cases hid : id' = id
    · exact .inr (.inl (if_pos hid))
    · exact .inl (if_neg hid)
  | settle payload requirements =>
    by_cases hid : paymentId payload = some id
    · exact .inr (.inr (hmay hid))
    · cases r with
      | ok receipt => exact .inl (if_neg hid)
      | error e => exact .inl (if_neg hid)
  | _ => exact .inl rfl

theorem works_advance_ne (svc : Service) {s : SystemState} {a b : Nat} {e : Env} {msg : Message}
    {op : Op} {k : op.Ret → Handler Local} (hbusy : s.task a = .busy msg (.call op k))
    (hb : b ≠ a) : works id (svc.machine.step s (.advance a e)) b = works id s b := by
  rw [Machine.step_advance hbusy]
  simp [works, settling, custodyOf, hb, Ne.symm hb]

/-- **Who starts to work.** A call puts its caller to work only if it takes the claim. -/
theorem works_advance (svc : Service) {s : SystemState} (h : Guarded id s) {a : Nat} {e : Env}
    {msg : Message} {op : Op} {k : op.Ret → Handler Local} (hbusy : s.task a = .busy msg (.call op k))
    (hkept : givesOut id s (.advance a e) = false) (b : Nat)
    (hworks : works id (svc.machine.step s (.advance a e)) b = true) : works id s b = true := by
  by_cases hb : b = a
  · subst hb
    rw [Machine.step_advance hbusy] at hworks
    have hfollows := h b
    rw [hbusy] at hfollows
    have hfresh : ∀ ttlSecs, (⟨op, (svc.machine.exec e s.shared op).1⟩ : Event Op.Ret) ≠
        ⟨.claimPayment id ttlSecs, PaymentClaim.fresh⟩ := by
      rintro ttlSecs heq
      obtain rfl : op = .claimPayment id ttlSecs := congrArg Sigma.fst heq
      have hr : (s.shared.sessions.claimPayment e.store id ttlSecs).1 = .fresh :=
        eq_of_heq (Sigma.mk.inj heq).2
      simp [givesOut, hbusy, Task.nextOp, hr] at hkept
    rcases next_cases hfollows.1 hfresh with hq | hq | hq
    · simp only [works, custodyOf, if_true, hq] at hworks ⊢
      cases hcustody : custodyOf id b s.log with
      | none => simp [hcustody] at hworks
      | claimed => rfl
      | failed =>
        simp only [hcustody] at hworks ⊢
        simpa [settling, hbusy] using isPostSettle_of_settling (Function.update_self ..) hworks
    · simp [works, custodyOf, hq] at hworks
    · simp [works, hq]
  · exact (works_advance_ne svc hbusy hb).symm.trans hworks

theorem works_step (svc : Service) {s : SystemState} (h : Guarded id s) {act : SystemAction}
    (hkept : givesOut id s act = false) (b : Nat)
    (hworks : works id (svc.machine.step s act) b = true) : works id s b = true := by
  rcases Machine.step_cases s act with hstep | ⟨a, msg, l, rfl, hidle, -⟩ |
    ⟨a, e, msg, op, k, rfl, hbusy, -⟩
  · rwa [hstep] at hworks
  · exact works_deliver svc h hidle b hworks
  · exact works_advance svc h hbusy hkept b hworks

/-! ## One at a time -/

/-- At most one actor works under the claim. -/
structure OneWorks (id : String) (s : SystemState) : Prop where
  guarded : Guarded id s
  unique : ∀ a b, works id s a = true → works id s b = true → a = b

/-- Nobody works under it. -/
structure NoneWorks (id : String) (s : SystemState) : Prop where
  guarded : Guarded id s
  none : ∀ a, works id s a = false

theorem mem_log_of_works {s : SystemState} {a : Nat} (h : works id s a = true) :
    ∃ event, (a, event) ∈ s.log := by
  have hcustody : custodyOf id a s.log ≠ .none := by
    intro hnone
    simp [works, hnone] at h
  generalize s.log = log at hcustody ⊢
  induction log with
  | nil => exact absurd rfl hcustody
  | cons entry log ih =>
    obtain ⟨b, event⟩ := entry
    by_cases hb : b = a
    · subst hb
      exact ⟨event, List.mem_cons_self⟩
    · rw [custodyOf, if_neg hb] at hcustody
      obtain ⟨event', hmem⟩ := ih hcustody
      exact ⟨event', List.mem_cons_of_mem _ hmem⟩

theorem oneWorks_step (svc : Service) (s : SystemState) (act : SystemAction) (h : OneWorks id s)
    (hsafe : Safekeeps id svc s act) : OneWorks id (svc.machine.step s act) := by
  refine ⟨guarded_step svc h.guarded act, ?_⟩
  cases hgives : givesOut id s act with
  | false =>
    intro a b ha hb
    exact h.unique a b (works_step svc h.guarded hgives a ha) (works_step svc h.guarded hgives b hb)
  | true =>
    rcases Machine.step_cases (m := svc.machine) s act with hstep | ⟨a, msg, l, rfl, -, -⟩ |
      ⟨a, e, msg, op, k, rfl, hbusy, -⟩
    · rw [hstep]
      exact h.unique
    · cases hgives
    · -- Nobody else works: whoever did would have been taken over from.
      have honly : ∀ b, works id (svc.machine.step s (.advance a e)) b = true → b = a := by
        intro b hb
        by_contra hne
        have hbefore : works id s b = true := (works_advance_ne svc hbusy hne).symm.trans hb
        obtain ⟨event, hmem⟩ := mem_log_of_works hbefore
        have hnobody := hsafe.1
        simp only [takesOver, hgives, Bool.true_and, List.any_eq_false] at hnobody
        simpa [hne, hbefore] using hnobody (b, event) hmem
      intro b c hb hc
      rw [honly b hb, honly c hc]

theorem noneWorks_step (svc : Service) (s : SystemState) (act : SystemAction) (h : NoneWorks id s)
    (hkept : givesOut id s act = false) : NoneWorks id (svc.machine.step s act) := by
  refine ⟨guarded_step svc h.guarded act, fun a => ?_⟩
  by_contra hworks
  rw [Bool.not_eq_false] at hworks
  have hbefore := works_step svc h.guarded hkept a hworks
  rw [h.none a] at hbefore
  cases hbefore

/-- The call an actor is about to make is one that its protocol allows. -/
theorem Guarded.may {s : SystemState} (h : Guarded id s) {a : Nat} {msg : Message} {op : Op}
    {k : op.Ret → Handler Local} (hbusy : s.task a = .busy msg (.call op k)) :
    (custodyProtocol id msg.isPostSettle).may (custodyOf id a s.log) op := by
  have hfollows := h a
  rw [hbusy] at hfollows
  exact hfollows.1

/-- Sending the transaction is the last that whoever works under the claim does with it. -/
theorem noneWorks_of_sends (svc : Service) {s : SystemState} (h : OneWorks id s)
    {act : SystemAction} (hsends : sends id svc s act = true)
    (hsafe : failsSent id svc s act = false) : NoneWorks id (svc.machine.step s act) := by
  refine ⟨guarded_step svc h.guarded act, ?_⟩
  cases act with
  | deliver a msg => cases hsends
  | advance a e =>
    cases hop : (s.task a).nextOp with
    | none => simp [sends, hop] at hsends
    | some op =>
      obtain ⟨msg, k, hbusy⟩ := Task.eq_busy_of_nextOp hop
      -- Only a settlement sends; its caller had the claim, so nobody else did.
      cases op with
      | settle payload requirements =>
        have hsends' := hsends
        simp only [sends, hop, Bool.and_eq_true, beq_iff_eq] at hsends'
        have hclaimed : custodyOf id a s.log = .claimed := h.guarded.may hbusy hsends'.1
        have hworks : works id s a = true := by simp [works, hclaimed]
        intro b
        by_cases hb : b = a
        · subst hb
          rw [Machine.step_advance hbusy]
          generalize hr : (svc.machine.exec e s.shared (.settle payload requirements)).1 = r
          cases r with
          | ok receipt => simp [works, custodyOf, Custody.next, hsends'.1]
          | error err =>
            simp only [works, custodyOf, if_true, Custody.next, hsends'.1]
            -- After a failure only `/settle` would go on to release, and `hsafe` rules that out.
            by_contra hsettling
            rw [Bool.not_eq_false] at hsettling
            have hpost := isPostSettle_of_settling (Function.update_self ..) hsettling
            have herror : ((svc.facilitator.settle payload requirements).run.eval e.node).1 =
                .error err := hr
            have hsettles : settling s b = true := by simp [settling, hbusy, hpost]
            simp [failsSent, hsends, hop, herror, hsettles] at hsafe
        · rw [works_advance_ne svc hbusy hb]
          by_contra hother
          rw [Bool.not_eq_false] at hother
          exact hb (h.unique b a hother hworks)
      | _ => simp [sends, hop] at hsends

/-- A release is made by someone who works under the claim. -/
theorem exists_works_of_releases {s : SystemState} (h : Guarded id s) {act : SystemAction}
    (hreleases : releases id s act = true) : ∃ a, works id s a = true := by
  cases act with
  | deliver a msg => cases hreleases
  | advance a e =>
    refine ⟨a, ?_⟩
    cases hop : (s.task a).nextOp with
    | none => simp [releases, hop] at hreleases
    | some op =>
      obtain ⟨msg, k, hbusy⟩ := Task.eq_busy_of_nextOp hop
      cases op with
      | releasePayment id' =>
        simp only [releases, hop, beq_iff_eq] at hreleases
        rcases h.may hbusy hreleases with hq | ⟨hq, hpost⟩
        · simp [works, hq]
        · simp [works, hq, settling, hbusy, hpost]
      | _ => simp [releases, hop] at hreleases

theorem oneWorks_start (shared : AppState) : OneWorks id (SystemState.start shared) :=
  ⟨fun _ => rfl, fun _ _ h => by cases h⟩

/-- A `/settle` request for the payment on chain. -/
def chainSettle : FacilitatorRequest :=
  { x402Version := 2
    paymentPayload := chainPayload
    paymentRequirements := chainPayload.accepted }

/-- One actor's `/settle` request for it, up to its claim. -/
def chainClaim (a : Nat) (e : Env) : List SystemAction :=
  [.deliver a (.postSettle chainSettle), .advance a e]

/-- The service that sells on chain, and its first state. -/
def chainService : Service := .ofConfig (exampleConfig .suiGrpc)

def chainStart : SystemState := .start (.ofConfig (exampleConfig .suiGrpc) [])

/-- The payment is settled at 1000. Its claim lapses, and is given out to a second request at 1600,
whose settlement fails unsent. -/
def settledThenLapsed : List SystemAction :=
  chainClaim 1 (exampleEnv 1600) ++ [.advance 1 (exampleEnv 1600)]

omit [Platform] in
theorem settledThenLapsed_run :
    let _ : Platform := chainPlatform
    Machine.Along chainService.machine (Safekeeps chainId chainService) chainStart
        (chainClaim 0 (executedEnv 1000) ++ .advance 0 (executedEnv 1000) :: settledThenLapsed) ∧
      sends chainId chainService (chainService.machine.run chainStart
        (chainClaim 0 (executedEnv 1000))) (.advance 0 (executedEnv 1000)) = true ∧
      releases chainId (chainService.machine.run chainStart
        (chainClaim 0 (executedEnv 1000) ++ .advance 0 (executedEnv 1000) :: settledThenLapsed))
        (.advance 1 (exampleEnv 1600)) = true := by decide +kernel

end X402Verifier
