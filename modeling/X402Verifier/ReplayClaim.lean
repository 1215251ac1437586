import X402Verifier.Interaction.SpendOnce
import X402Verifier.ReplayCache
import X402Verifier.ClaimProtocol
import X402Verifier.Reference

/-!
# One settlement and one session for a payment

The claim on a payment, as all requests of a run see it, is a `SpendOnce`: settlements that return
a receipt are its spendings, and the sessions minted for them its grants. `Tracks` relates a state
of the service to such a claim, and `tracks_step` keeps the relation through any step of any actor.

The one thing an actor cannot see to is that the record stays while it holds the claim. A step may
drop it in three ways, and the relation needs that it does not:

* `lapses`: a claim finds the record at least as old as the TTL it was made with;
* `sweeps`: a cleanup tick finds it older than the store's retention;
* `takesEarly`: a claim that brings a shorter TTL takes a record for lapsed before that.

The first two are what a claim's lifetime means. The third is a defect of the memory store, which
keeps no TTL of its own, and it is the only way to settle a payment twice.
-/

namespace X402Verifier

open RustStd Interaction

variable [Platform] {id : String}

/-! ## Reading the log -/

/-- All calls so far with their actors, latest first. -/
abbrev Log : Type := List (Nat × Event Op.Ret)

/-- The payment of an actor's last settlement, if that returned a receipt and no session has been
minted since. -/
def unminted (a : Nat) : Log → Option (Option String)
  | [] => none
  | (b, ⟨.settle payload _, .ok _⟩) :: log =>
    if b = a then some (paymentId payload) else unminted a log
  | (b, ⟨.settle _ _, .error _⟩) :: log => if b = a then none else unminted a log
  | (b, ⟨.createSession .., _⟩) :: log => if b = a then none else unminted a log
  | _ :: log => unminted a log

/-- How many settlements of the payment returned a receipt. -/
def receipts (id : String) : Log → Nat
  | [] => 0
  | (_, ⟨.settle payload _, .ok _⟩) :: log =>
    receipts id log + if paymentId payload = some id then 1 else 0
  | _ :: log => receipts id log

/-- How many times a session was minted for a settlement of the payment. -/
def sessionsFor (id : String) : Log → Nat
  | [] => 0
  | (a, ⟨.createSession .., _⟩) :: log =>
    sessionsFor id log + if unminted a log = some (some id) then 1 else 0
  | _ :: log => sessionsFor id log

/-- Every session was minted for a settlement that had just returned a receipt. -/
def SessionsAreSettled : Log → Prop
  | [] => True
  | (a, ⟨.createSession .., _⟩) :: log => unminted a log ≠ none ∧ SessionsAreSettled log
  | _ :: log => SessionsAreSettled log

/-- The TTL of the latest fresh claim of the payment. -/
def claimedTtl (id : String) : Log → Option Nat
  | [] => none
  | (_, ⟨.claimPayment id' ttlSecs, .fresh⟩) :: log =>
    if id' = id then some ttlSecs else claimedTtl id log
  | _ :: log => claimedTtl id log

/-! ## How a record is dropped -/

/-- A claim of the payment finds its record past the TTL it was made with. -/
def lapses (id : String) (s : SystemState) : SystemAction → Bool
  | .advance a e =>
    match (s.task a).nextOp with
    | some (.claimPayment id' _) =>
      id' == id && (claimedTtl id s.log).any fun own => s.shared.sessions.replay.aged e.store id own
    | _ => false
  | .deliver .. => false

/-- A cleanup tick drops the payment's record. -/
def sweeps (id : String) (s : SystemState) : SystemAction → Bool
  | .advance a e =>
    match (s.task a).nextOp with
    | some .cleanupExpired => s.shared.sessions.replay.swept e.store id
    | _ => false
  | .deliver .. => false

/-- A claim of the payment takes its record for lapsed by the TTL it brings itself, although the
record is not past its own. -/
def takesEarly (id : String) (s : SystemState) : SystemAction → Bool
  | .advance a e =>
    match (s.task a).nextOp with
    | some (.claimPayment id' ttlSecs) =>
      id' == id && s.shared.sessions.replay.aged e.store id ttlSecs &&
        ! (claimedTtl id s.log).any fun own => s.shared.sessions.replay.aged e.store id own
    | _ => false
  | .deliver .. => false

/-- The step drops the payment's record in none of these ways. -/
def KeepsRecord (id : String) (s : SystemState) (act : SystemAction) : Prop :=
  lapses id s act = false ∧ sweeps id s act = false ∧ takesEarly id s act = false

instance (id : String) (s : SystemState) (act : SystemAction) : Decidable (KeepsRecord id s act) :=
  inferInstanceAs (Decidable (_ ∧ _ ∧ _))

theorem KeepsRecord.not_aged {s : SystemState} {a : Nat} {e : Env} {ttlSecs : Nat}
    (h : KeepsRecord id s (.advance a e)) (hop : (s.task a).nextOp = some (.claimPayment id ttlSecs)) :
    s.shared.sessions.replay.aged e.store id ttlSecs = false := by
  obtain ⟨hlapses, -, hearly⟩ := h
  simp only [lapses, takesEarly, hop, beq_self_eq_true, Bool.true_and] at hlapses hearly
  simpa [hlapses] using hearly

theorem KeepsRecord.not_swept {s : SystemState} {a : Nat} {e : Env}
    (h : KeepsRecord id s (.advance a e)) (hop : (s.task a).nextOp = some .cleanupExpired) :
    s.shared.sessions.replay.swept e.store id = false := by
  simpa only [sweeps, hop] using h.2.1

/-! ## The claim a run is tracked by -/

/-- The state is one in which the payment's claim stands as `c`. -/
structure Tracks (id : String) (q : Nat → Standing) (s : SystemState) (c : SpendOnce Nat) : Prop where
  conforms : Machine.Conforms (claimProtocol id) (HoldsPending id) q s
  recorded : c.recorded = true → s.shared.sessions.replay.recorded id = true
  holder : ∀ a, (q a).holds = true → c.holder = some a
  unminted : ∀ a, (q a).unminted = X402Verifier.unminted a s.log
  owed : ∀ a, (q a).unminted = some (some id) → c.owed = some a
  receipts : receipts id s.log = c.spent
  sessions : sessionsFor id s.log = c.granted
  settled : SessionsAreSettled s.log

theorem tracks_start (shared : AppState) :
    Tracks id (fun _ => {}) (SystemState.start shared) {} where
  conforms _ := trivial
  recorded h := by simp at h
  holder a h := by simp at h
  unminted _ := rfl
  owed a h := by simp at h
  receipts := rfl
  sessions := rfl
  settled := trivial

theorem Tracks.deliver {svc : Service} {q : Nat → Standing} {s : SystemState} {c : SpendOnce Nat}
    {a : Nat} {msg : Message} {l : Local} (h : Tracks id q s c) (hidle : s.task a = .idle l) :
    Tracks id q
      { s with task := Function.update s.task a (.of msg (svc.machine.handle l msg)) } c where
  conforms := by
    have hl := h.conforms a
    rw [hidle] at hl
    exact Machine.conforms_deliver h.conforms (follows_handle svc l msg (q a) hl)
  recorded := h.recorded
  holder := h.holder
  unminted := h.unminted
  owed := h.owed
  receipts := h.receipts
  sessions := h.sessions
  settled := h.settled

/-! ## One call -/

/-- A call says nothing about another actor's last settlement. -/
theorem unminted_cons_ne {a b : Nat} (hne : b ≠ a) (event : Event Op.Ret) (log : Log) :
    unminted b ((a, event) :: log) = unminted b log := by
  obtain ⟨op, r⟩ := event
  cases op with
  | settle payload requirements => cases r <;> simp [unminted, Ne.symm hne]
  | createSession payer policy quota ttlSecs => simp [unminted, Ne.symm hne]
  | _ => rfl

/-- The protocol's next state says the same of the caller's last settlement as the log. -/
theorem unminted_next {a : Nat} {q : Standing} {log : Log} (h : q.unminted = unminted a log)
    (op : Op) (r : op.Ret) :
    ((claimProtocol id).next q op r).unminted = unminted a ((a, ⟨op, r⟩) :: log) := by
  cases op with
  | claimPayment id' ttlSecs =>
    cases r with
    | fresh => by_cases hid : id' = id <;> simp [claimProtocol, unminted, h, hid]
    | _ => exact h
  | releasePayment id' => by_cases hid : id' = id <;> simp [claimProtocol, unminted, h, hid]
  | settle payload requirements => cases r <;> simp [claimProtocol, unminted]
  | createSession payer policy quota ttlSecs => simp [claimProtocol, unminted]
  | _ => exact h

section Advance

variable {svc : Service} {q : Nat → Standing} {s : SystemState} {c c' : SpendOnce Nat} {a : Nat}
  {e : Env} {msg : Message} {op : Op} {k : op.Ret → Handler Local}

/-- The state after actor `a` has performed `op`. -/
abbrev advanced (svc : Service) (s : SystemState) (a : Nat) (e : Env) (msg : Message) (op : Op)
    (k : op.Ret → Handler Local) : SystemState :=
  ⟨(svc.exec e s.shared op).2,
    Function.update s.task a (.of msg (k (svc.exec e s.shared op).1)),
    (a, ⟨op, (svc.exec e s.shared op).1⟩) :: s.log⟩

/-- The protocol states after it. -/
abbrev standings (id : String) (svc : Service) (q : Nat → Standing) (s : SystemState) (a : Nat)
    (e : Env) (op : Op) : Nat → Standing :=
  Function.update q a ((claimProtocol id).next (q a) op (svc.exec e s.shared op).1)

/-- What is left to show after a call: the protocol, and what it says of the caller's last
settlement, have been dealt with. The caller's standing is the one after the call; the others keep
theirs. -/
theorem Tracks.advance_to (h : Tracks id q s c) (ha : s.task a = .busy msg (.call op k))
    (hrecorded : c'.recorded = true → (svc.exec e s.shared op).2.sessions.replay.recorded id = true)
    (hholds : ((claimProtocol id).next (q a) op (svc.exec e s.shared op).1).holds = true →
      c'.holder = some a)
    (hholder : ∀ b, b ≠ a → c.holder = some b → c'.holder = some b)
    (howes : ((claimProtocol id).next (q a) op (svc.exec e s.shared op).1).unminted =
      some (some id) → c'.owed = some a)
    (howed : ∀ b, b ≠ a → c.owed = some b → c'.owed = some b)
    (hreceipts : X402Verifier.receipts id (advanced svc s a e msg op k).log = c'.spent)
    (hsessions : sessionsFor id (advanced svc s a e msg op k).log = c'.granted)
    (hsettled : SessionsAreSettled (advanced svc s a e msg op k).log) :
    Tracks id (standings id svc q s a e op) (advanced svc s a e msg op k) c' where
  conforms := Machine.conforms_advance h.conforms ha trivial
  recorded := hrecorded
  holder b hb := by
    by_cases hab : b = a
    · subst hab
      exact hholds (by simpa [standings] using hb)
    · exact hholder b hab (h.holder b (by simpa [standings, hab] using hb))
  unminted b := by
    by_cases hab : b = a
    · subst hab
      simpa [standings] using unminted_next (h.unminted b) op (svc.exec e s.shared op).1
    · simpa [standings, hab, unminted_cons_ne hab] using h.unminted b
  owed b hb := by
    by_cases hab : b = a
    · subst hab
      exact howes (by simpa [standings] using hb)
    · exact howed b hab (h.owed b (by simpa [standings, hab] using hb))
  receipts := hreceipts
  sessions := hsessions
  settled := hsettled

/-- A call that leaves the caller's standing alone, and is no settlement and no session. -/
theorem Tracks.advance_same (h : Tracks id q s c) (ha : s.task a = .busy msg (.call op k))
    (hnext : (claimProtocol id).next (q a) op (svc.exec e s.shared op).1 = q a)
    (hrecorded : s.shared.sessions.replay.recorded id = true →
      (svc.exec e s.shared op).2.sessions.replay.recorded id = true)
    (hreceipts : X402Verifier.receipts id (advanced svc s a e msg op k).log =
      X402Verifier.receipts id s.log)
    (hsessions : sessionsFor id (advanced svc s a e msg op k).log = sessionsFor id s.log)
    (hsettled : SessionsAreSettled s.log → SessionsAreSettled (advanced svc s a e msg op k).log) :
    Tracks id (standings id svc q s a e op) (advanced svc s a e msg op k) c := by
  refine h.advance_to ha (fun hc => hrecorded (h.recorded hc)) ?_ (fun _ _ hb => hb) ?_
    (fun _ _ hb => hb) (hreceipts.trans h.receipts) (hsessions.trans h.sessions)
    (hsettled h.settled)
  · rw [hnext]
    exact h.holder a
  · rw [hnext]
    exact h.owed a

/-- A claim: the caller acquires it if it is fresh. -/
theorem Tracks.claimPayment {id' : String} {ttlSecs : Nat}
    {k : PaymentClaim → Handler Local} (h : Tracks id q s c)
    (ha : s.task a = .busy msg (.call (.claimPayment id' ttlSecs) k))
    (hage : id' = id → s.shared.sessions.replay.aged e.store id ttlSecs = false) :
    ∃ c', Tracks id (standings id svc q s a e (.claimPayment id' ttlSecs))
      (advanced svc s a e msg (.claimPayment id' ttlSecs) k) c' := by
  have hstays : s.shared.sessions.replay.recorded id = true →
      (s.shared.sessions.claimPayment e.store id' ttlSecs).2.replay.recorded id = true :=
    SessionStore.recorded_claimPayment
  cases hr : (s.shared.sessions.claimPayment e.store id' ttlSecs).1 with
  | replay firstSeen =>
    refine ⟨c, h.advance_same ha ?_ hstays ?_ ?_ ?_⟩ <;>
      simp [claimProtocol, Service.exec, hr, X402Verifier.receipts, sessionsFor, SessionsAreSettled]
  | backend =>
    refine ⟨c, h.advance_same ha ?_ hstays ?_ ?_ ?_⟩ <;>
      simp [claimProtocol, Service.exec, hr, X402Verifier.receipts, sessionsFor, SessionsAreSettled]
  | fresh =>
    by_cases hid : id' = id
    · subst hid
      have hnone : c.recorded = false := by
        have hstore := SessionStore.not_recorded_of_fresh hr (hage rfl)
        cases hc : c.recorded with
        | false => rfl
        | true => rw [h.recorded hc] at hstore; cases hstore
      have hnext : (claimProtocol id').next (q a) (.claimPayment id' ttlSecs)
          (svc.exec e s.shared (.claimPayment id' ttlSecs)).1 = { q a with holds := true } := by
        simp [claimProtocol, Service.exec, hr]
      refine ⟨c.acquire a hnone, h.advance_to ha (fun _ => SessionStore.recorded_of_fresh hr)
        (fun _ => rfl) (fun b _ hb => ?_) (fun hmine => ?_) (fun _ _ hb => hb) h.receipts
        h.sessions h.settled⟩
      · -- Nobody else can hold a claim that was not on record.
        rw [c.holder_recorded (by simp [hb])] at hnone
        cases hnone
      · rw [hnext] at hmine
        exact h.owed a hmine
    · refine ⟨c, h.advance_same ha ?_ hstays ?_ ?_ ?_⟩ <;>
        simp [claimProtocol, Service.exec, hr, hid, X402Verifier.receipts, sessionsFor,
          SessionsAreSettled]

/-- A release gives the claim back if it is the caller's. -/
theorem Tracks.releasePayment {id' : String} {k : Unit → Handler Local} (h : Tracks id q s c)
    (ha : s.task a = .busy msg (.call (.releasePayment id') k)) :
    ∃ c', Tracks id (standings id svc q s a e (.releasePayment id'))
      (advanced svc s a e msg (.releasePayment id') k) c' := by
  by_cases hid : id' = id
  · subst hid
    have hholder : c.holder = some a := h.holder a (h.conforms.may ha rfl)
    have hnext : (claimProtocol id').next (q a) (.releasePayment id') () =
        { q a with holds := false } := by
      simp [claimProtocol]
    refine ⟨c.release a hholder, h.advance_to ha (fun hc => by cases hc) (fun hmine => ?_)
      (fun b hb hother => ?_) (fun hmine => ?_) (fun _ _ hb => hb) h.receipts h.sessions h.settled⟩
    · cases (congrArg Standing.holds hnext).symm.trans hmine
    · exact absurd (Option.some.inj (hother.symm.trans hholder)) hb
    · exact h.owed a ((congrArg Standing.unminted hnext).symm.trans hmine)
  · have hne : id ≠ id' := fun heq => hid heq.symm
    refine ⟨c, h.advance_same ha (by simp [claimProtocol, hid]) ?_ rfl rfl fun hs => hs⟩
    intro hrec
    exact (SessionStore.recorded_releasePayment_ne hne).trans hrec

/-- A settlement that returns a receipt spends the claim of its payment. -/
theorem Tracks.settle {payload : PaymentPayload} {requirements : PaymentRequirements}
    {k : Except FacilitatorError SettlementResponse → Handler Local} (h : Tracks id q s c)
    (ha : s.task a = .busy msg (.call (.settle payload requirements) k)) :
    ∃ c', Tracks id (standings id svc q s a e (.settle payload requirements))
      (advanced svc s a e msg (.settle payload requirements) k) c' := by
  have hmay : paymentId payload = some id → (q a).holds = true := h.conforms.may ha
  cases hr : (svc.exec e s.shared (.settle payload requirements)).1 with
  | error err =>
    refine ⟨c, h.advance_to ha h.recorded (fun hmine => ?_) (fun _ _ hb => hb) (fun hmine => ?_)
      (fun _ _ hb => hb) ?_ h.sessions h.settled⟩
    · rw [hr] at hmine
      exact h.holder a hmine
    · rw [hr] at hmine
      cases hmine
    · simpa [hr, X402Verifier.receipts] using h.receipts
  | ok receipt =>
    have hnext : (claimProtocol id).next (q a) (.settle payload requirements) (.ok receipt) =
        { holds := if paymentId payload = some id then false else (q a).holds
          unminted := some (paymentId payload) } := rfl
    by_cases hid : paymentId payload = some id
    · have hholder : c.holder = some a := h.holder a (hmay hid)
      refine ⟨c.spend a hholder, h.advance_to ha ?_ (fun hmine => ?_) (fun b hb hother => ?_)
        (fun _ => rfl) (fun b _ hother => ?_) ?_ h.sessions h.settled⟩
      · exact fun _ => h.recorded (c.holder_recorded (by simp [hholder]))
      · simp [hr, hnext, hid] at hmine
      · exact absurd (Option.some.inj (hother.symm.trans hholder)) hb
      · rw [SpendOnce.owed_eq_none_of_holder hholder] at hother
        cases hother
      · simpa [hr, X402Verifier.receipts, hid, SpendOnce.spend] using h.receipts
    · refine ⟨c, h.advance_to ha h.recorded (fun hmine => ?_) (fun _ _ hb => hb) (fun hmine => ?_)
        (fun _ _ hb => hb) ?_ h.sessions h.settled⟩
      · exact h.holder a (by simpa [hr, hnext, hid] using hmine)
      · simp [hr, hnext, hid] at hmine
      · simpa [hr, X402Verifier.receipts, hid] using h.receipts

/-- A session uses up the settlement it is minted for. -/
theorem Tracks.createSession {payer : String} {policy : Option String} {quota ttlSecs : Nat}
    {k : Except StoreError String → Handler Local} (h : Tracks id q s c)
    (ha : s.task a = .busy msg (.call (.createSession payer policy quota ttlSecs) k)) :
    ∃ c', Tracks id (standings id svc q s a e (.createSession payer policy quota ttlSecs))
      (advanced svc s a e msg (.createSession payer policy quota ttlSecs) k) c' := by
  have hmay : (q a).unminted ≠ none := h.conforms.may ha
  have hlog : X402Verifier.unminted a s.log ≠ none := h.unminted a ▸ hmay
  have hstore : (svc.exec e s.shared (.createSession payer policy quota ttlSecs)).2.sessions.replay =
      s.shared.sessions.replay := svc.exec_replay e s.shared rfl
  have hrecorded : c.recorded = true →
      (svc.exec e s.shared (.createSession payer policy quota ttlSecs)).2.sessions.replay.recorded id
        = true := fun hc => hstore ▸ h.recorded hc
  by_cases hid : (q a).unminted = some (some id)
  · have howed : c.owed = some a := h.owed a hid
    have hmine : X402Verifier.unminted a s.log = some (some id) := h.unminted a ▸ hid
    refine ⟨c.grant a howed, h.advance_to ha hrecorded (h.holder a) (fun _ _ hb => hb)
      (fun howes => by cases howes) (fun b hb hother => ?_) h.receipts ?_ ⟨hlog, h.settled⟩⟩
    · exact absurd (Option.some.inj (hother.symm.trans howed)) hb
    · simp [sessionsFor, hmine, h.sessions, SpendOnce.grant]
  · have hmine : X402Verifier.unminted a s.log ≠ some (some id) := h.unminted a ▸ hid
    refine ⟨c, h.advance_to ha hrecorded (h.holder a) (fun _ _ hb => hb)
      (fun howes => by cases howes) (fun _ _ hb => hb) h.receipts ?_ ⟨hlog, h.settled⟩⟩
    simp [sessionsFor, hmine, h.sessions]

/-- **One call.** Any call of any actor that keeps the record leaves a claim that tracks it. -/
theorem Tracks.advance (h : Tracks id q s c) (ha : s.task a = .busy msg (.call op k))
    (hkeep : KeepsRecord id s (.advance a e)) :
    ∃ q' c', Tracks id q' (advanced svc s a e msg op k) c' := by
  have hnextOp : (s.task a).nextOp = some op := by rw [ha]; rfl
  cases op with
  | claimPayment id' ttlSecs =>
    exact ⟨_, h.claimPayment ha fun hid => hkeep.not_aged (hid ▸ hnextOp)⟩
  | releasePayment id' => exact ⟨_, h.releasePayment ha⟩
  | settle payload requirements => exact ⟨_, h.settle ha⟩
  | createSession payer policy quota ttlSecs => exact ⟨_, h.createSession ha⟩
  | cleanupExpired =>
    refine ⟨_, c, h.advance_same ha rfl (fun hrec => ?_) rfl rfl fun hs => hs⟩
    exact SessionStore.recorded_cleanupExpired hrec (hkeep.not_swept hnextOp)
  | _ =>
    refine ⟨_, c, h.advance_same ha rfl (fun hrec => ?_) rfl rfl fun hs => hs⟩
    rw [svc.exec_replay e s.shared rfl]
    exact hrec

end Advance

/-! ## Whole runs -/

/-- **Refinement.** A step that keeps the record is a step of the claim. -/
theorem tracks_step (svc : Service) (s : SystemState) (act : SystemAction)
    (h : ∃ q c, Tracks id q s c) (hkeep : KeepsRecord id s act) :
    ∃ q c, Tracks id q (svc.machine.step s act) c := by
  obtain ⟨q, c, h⟩ := h
  rcases Machine.step_cases s act with hstep | ⟨a, msg, l, rfl, hidle, hstep⟩ |
    ⟨a, e, msg, op, k, rfl, hbusy, hstep⟩
  · rw [hstep]
    exact ⟨q, c, h⟩
  · rw [hstep]
    exact ⟨q, c, h.deliver hidle⟩
  · rw [hstep]
    exact h.advance hbusy hkeep

/-- Every run that keeps the record is tracked by a claim. -/
theorem tracks_run (svc : Service) (shared : AppState) (acts : List SystemAction)
    (hkeep : Machine.Along svc.machine (KeepsRecord id) (SystemState.start shared) acts) :
    ∃ q c, Tracks id q (svc.machine.run (SystemState.start shared) acts) c :=
  Machine.run_invariant (tracks_step svc) ⟨_, _, tracks_start shared⟩ hkeep

/-- **At most one settlement and one session.** In every run of any number of streams, ext_authz
requests and `/settle` calls that never drops the record of a payment, at most one settlement of
the payment returns a receipt, and at most one session is minted for it; and no session is minted
but for a settlement. -/
theorem settled_and_minted_at_most_once (svc : Service) (shared : AppState) (id : String)
    (acts : List SystemAction)
    (hkeep : Machine.Along svc.machine (KeepsRecord id) (SystemState.start shared) acts) :
    let log := (svc.machine.run (SystemState.start shared) acts).log
    receipts id log ≤ 1 ∧ sessionsFor id log ≤ 1 ∧ SessionsAreSettled log := by
  obtain ⟨q, c, h⟩ := tracks_run svc shared acts hkeep
  refine ⟨?_, ?_, h.settled⟩
  · rw [h.receipts]
    exact c.spent_le
  · rw [h.sessions]
    exact Nat.le_trans c.granted_le_spent c.spent_le

/-! ## A payment settled twice -/

/-- A `/settle` request for the example payment, under this timeout. -/
def exampleSettle (maxTimeoutSeconds : Nat) : FacilitatorRequest :=
  { x402Version := 2
    paymentPayload := examplePayload
    paymentRequirements :=
      { examplePayload.accepted with maxTimeoutSeconds := maxTimeoutSeconds } }

/-- One actor's `/settle` request, from its claim to its settlement. -/
def settleAt (a now maxTimeoutSeconds : Nat) : List SystemAction :=
  [.deliver a (.postSettle (exampleSettle maxTimeoutSeconds)), .advance a (exampleEnv now),
    .advance a (exampleEnv now)]

omit [Platform] in
/-- A second request for the payment, within the TTL of the first claim and with as long a TTL. -/
theorem settled_and_minted_at_most_once_example :
    let _ : Platform := examplePlatform
    let config := exampleConfig .stubAcceptAll
    let log := ((Service.ofConfig config).machine.run (SystemState.start (.ofConfig config []))
      (settleAt 0 1000 60 ++ settleAt 1 1350 60)).log
    receipts exampleId log ≤ 1 ∧ sessionsFor exampleId log ≤ 1 ∧ SessionsAreSettled log :=
  @settled_and_minted_at_most_once examplePlatform _ _ _ _ (by decide +kernel)

omit [Platform] in
/-- **A payment settled twice.** The first claim is made with a TTL of 600 seconds. After 350 of
them a `/settle` request whose timeout is ten seconds brings a TTL of 300, takes the record for
lapsed, and settles the payment again. -/
theorem settled_twice_within_ttl :
    ¬ ∀ (_ : Platform) (config : Config) (hmacKey : Bytes) (id : String)
      (acts : List SystemAction), config.validate = .ok () →
      Machine.Along (Service.ofConfig config).machine
        (fun s act => lapses id s act = false ∧ sweeps id s act = false)
        (SystemState.start (.ofConfig config hmacKey)) acts →
      let log := ((Service.ofConfig config).machine.run
        (SystemState.start (.ofConfig config hmacKey)) acts).log
      receipts id log ≤ 1 ∧ sessionsFor id log ≤ 1 := by
  intro h
  have hrun := (h examplePlatform (exampleConfig .stubAcceptAll) [] exampleId
    (settleAt 0 1000 60 ++ settleAt 1 1350 10) rfl (by decide +kernel)).1
  revert hrun
  decide +kernel

end X402Verifier
