import X402Verifier.BreakerHistory
import X402Verifier.PolicySeparation
import X402Verifier.PolicyTable

/-!
# Policies that do not interfere

**Theorem (`policies_do_not_interfere`).** Take out of an interleaving everybody who is served under
other terms than those of one named policy. The policy's callers make the same calls, are told the same,
and leave its allowances and its breaker where they were with everybody else.

What relates the state with the others to the one without (`AlikeUnder`) is what the policy's callers
can see of it: the sessions of the policy, the payments that its callers present, the counters under its
name, and its breaker window. Another's token is no session of the policy, and a session of the policy is
not honored elsewhere; so a call of the others leaves all of this alone (`AlikeUnder.hides`), and a call of
the policy's own is answered from it (`AlikeUnder.keeps`).

Two things are kept apart by the world and not by the gateway: nobody else draws the session id of one
of the policy's sessions, and nobody presents a payment both under the policy and elsewhere.
-/

namespace X402Verifier

open RustStd Interaction

/-! ## Sessions and payments -/

section Stores

variable {name : String} {ids pays : String → Prop} {m m' : MemorySessionStore}

/-- The session of this id, if it is one of the policy's. -/
def MemorySessionStore.own (m : MemorySessionStore) (name id : String) : Option Session :=
  (m.sessions.get? id).filter fun session => session.policy = some name

theorem own_eq_some_iff {id : String} {session : Session} : m.own name id = some session ↔
    m.sessions.get? id = some session ∧ session.policy = some name := by
  simp [MemorySessionStore.own, Option.filter_eq_some_iff]

theorem own_of_ne {id : String} {session : Session} (hget : m.sessions.get? id = some session)
    (hpolicy : session.policy ≠ some name) : m.own name id = none := by
  simp [MemorySessionStore.own, hget, hpolicy]

/-- The policy's sessions are the same, their ids are among `ids`, and so are the payments `pays`. -/
structure AlikeSessions (name : String) (ids pays : String → Prop) (m m' : MemorySessionStore) :
    Prop where
  codec : m.codec = m'.codec
  retention : m.replayRetentionSecs = m'.replayRetentionSecs
  own : ∀ id, m.own name id = m'.own name id
  minted : ∀ id, (m'.own name id).isSome → ids id
  seenPayments : ∀ id, pays id → m.seenPayments.get? id = m'.seenPayments.get? id

theorem AlikeSessions.insert (h : AlikeSessions name ids pays m m') {id : String} (hid : ids id)
    (session : Session) : AlikeSessions name ids pays
      { m with sessions := m.sessions.insert id session }
      { m' with sessions := m'.sessions.insert id session } where
  codec := h.codec
  retention := h.retention
  own id' := by
    simp only [MemorySessionStore.own, Table.get?_insert]
    split_ifs
    · rfl
    · exact h.own id'
  minted id' hsome := by
    by_cases heq : id' = id
    · exact heq ▸ hid
    · refine h.minted id' ?_
      rwa [MemorySessionStore.own, Table.get?_insert_ne _ _ heq] at hsome
  seenPayments := h.seenPayments

theorem AlikeSessions.insert_other (h : AlikeSessions name ids pays m m') {id : String}
    (hid : m'.own name id = none) {session : Session} (hpolicy : session.policy ≠ some name) :
    AlikeSessions name ids pays { m with sessions := m.sessions.insert id session } m' :=
  { h with
    own := fun id' => by
      by_cases heq : id' = id
      · subst heq
        rw [hid]
        exact own_of_ne (Table.get?_insert_self ..) hpolicy
      · rw [← h.own id', MemorySessionStore.own, Table.get?_insert_ne _ _ heq]
        rfl }

theorem AlikeSessions.sweep (h : AlikeSessions name ids pays m m') (now : Nat) :
    AlikeSessions name ids pays (m.cleanupExpiredAt now).2 (m'.cleanupExpiredAt now).2 := by
  have hown : ∀ (m : MemorySessionStore) id, (m.cleanupExpiredAt now).2.own name id =
      (m.own name id).filter fun session => now < session.expiresAt := by
    intro m id
    simp only [MemorySessionStore.own, MemorySessionStore.cleanupExpiredAt, Table.get?_retain]
    cases m.sessions.get? id with
    | none => rfl
    | some session => simp only [Option.filter_some]; grind
  constructor
  · exact h.codec
  · exact h.retention
  · intro id
    rw [hown, hown, h.own]
  · intro id hsome
    rw [hown] at hsome
    exact h.minted id (Option.isSome_of_isSome_filter _ _ hsome)
  · intro id hid
    simp only [MemorySessionStore.cleanupExpiredAt, Table.get?_retain, h.seenPayments id hid,
      h.retention]

/-! ### Payments -/

theorem AlikeSessions.claim (h : AlikeSessions name ids pays m m') {id : String} (hid : pays id)
    (ttlSecs now : Nat) :
    (m.claimPaymentAt id ttlSecs now).1 = (m'.claimPaymentAt id ttlSecs now).1 ∧
      AlikeSessions name ids pays (m.claimPaymentAt id ttlSecs now).2
        (m'.claimPaymentAt id ttlSecs now).2 := by
  have hinserted : AlikeSessions name ids pays
      { m with seenPayments := m.seenPayments.insert id now }
      { m' with seenPayments := m'.seenPayments.insert id now } :=
    { h with
      seenPayments := fun id' hid' => by
        rw [Table.get?_insert, Table.get?_insert, h.seenPayments id' hid'] }
  unfold MemorySessionStore.claimPaymentAt
  rw [h.seenPayments id hid]
  cases m'.seenPayments.get? id with
  | none => exact ⟨rfl, hinserted⟩
  | some firstSeen =>
    dsimp only
    split_ifs
    · exact ⟨rfl, hinserted⟩
    · exact ⟨rfl, h⟩

theorem AlikeSessions.claim_other (h : AlikeSessions name ids pays m m') {id : String}
    (hid : ¬ pays id) (ttlSecs now : Nat) :
    AlikeSessions name ids pays (m.claimPaymentAt id ttlSecs now).2 m' := by
  have hinserted : AlikeSessions name ids pays
      { m with seenPayments := m.seenPayments.insert id now } m' :=
    { h with
      seenPayments := fun id' hid' => by
        have hne : id' ≠ id := fun heq => hid (heq ▸ hid')
        rw [Table.get?_insert_ne _ _ hne, h.seenPayments id' hid'] }
  unfold MemorySessionStore.claimPaymentAt
  cases m.seenPayments.get? id with
  | none => exact hinserted
  | some firstSeen =>
    dsimp only
    split_ifs
    · exact hinserted
    · exact h

theorem AlikeSessions.release (h : AlikeSessions name ids pays m m') (id : String) :
    AlikeSessions name ids pays (m.releasePayment id) (m'.releasePayment id) :=
  { h with
    seenPayments := fun id' hid' => by
      simp only [MemorySessionStore.releasePayment, Table.get?_remove, h.seenPayments id' hid'] }

theorem AlikeSessions.release_other (h : AlikeSessions name ids pays m m') {id : String}
    (hid : ¬ pays id) : AlikeSessions name ids pays (m.releasePayment id) m' :=
  { h with
    seenPayments := fun id' hid' => by
      have hne : id' ≠ id := fun heq => hid (heq ▸ hid')
      rw [MemorySessionStore.releasePayment, Table.get?_remove_ne _ hne, h.seenPayments id' hid'] }

/-! ### Tokens -/

variable [Platform]

theorem AlikeSessions.create (h : AlikeSessions name ids pays m m') (payer : String)
    (policy : Option String) (quota ttlSecs now : Nat) {raw : Bytes} (hraw : ids (newSessionId raw)) :
    (m.createSessionAt payer policy quota ttlSecs now raw).1 =
        (m'.createSessionAt payer policy quota ttlSecs now raw).1 ∧
      AlikeSessions name ids pays (m.createSessionAt payer policy quota ttlSecs now raw).2
        (m'.createSessionAt payer policy quota ttlSecs now raw).2 := by
  refine ⟨?_, h.insert hraw _⟩
  simp only [MemorySessionStore.createSessionAt, h.codec]

theorem AlikeSessions.create_other (h : AlikeSessions name ids pays m m') (payer : String)
    {policy : Option String} (hpolicy : policy ≠ some name) (quota ttlSecs now : Nat) {raw : Bytes}
    (hraw : ¬ ids (newSessionId raw)) : AlikeSessions name ids pays
      (m.createSessionAt payer policy quota ttlSecs now raw).2 m' := by
  have hnone : m'.own name (newSessionId raw) = none :=
    Option.not_isSome_iff_eq_none.mp fun hsome => hraw (h.minted _ hsome)
  exact h.insert_other hnone hpolicy

theorem consumeAt_of_own_eq_none {token : String} {now : Nat} {claims : TokenClaims}
    (hverify : m.codec.verify token now = .ok claims) (hown : m.own name claims.sessionId = none) :
    ∃ reason, m.consumeAt token (some name) now = (.rejected reason, m) := by
  rcases m.consumeAt_cases token (some name) now with
    hrejected | ⟨claims', session, remaining, hverify', hget, -, hpolicy, -, -⟩
  · exact hrejected
  · obtain rfl : claims = claims' := Except.ok.inj (hverify.symm.trans hverify')
    rw [own_eq_some_iff.mpr ⟨hget, hpolicy⟩] at hown
    cases hown

theorem AlikeSessions.consume (h : AlikeSessions name ids pays m m') (token : String) (now : Nat) :
    ToldAlike (.consume token (some name)) (m.consumeAt token (some name) now).1
        (m'.consumeAt token (some name) now).1 ∧
      AlikeSessions name ids pays (m.consumeAt token (some name) now).2
        (m'.consumeAt token (some name) now).2 := by
  cases hverify : m'.codec.verify token now with
  | error rejection =>
    have hverify' : m.codec.verify token now = .error rejection := h.codec ▸ hverify
    simp only [MemorySessionStore.consumeAt, hverify, hverify']
    exact ⟨.inl rfl, h⟩
  | ok claims =>
    have hverify' : m.codec.verify token now = .ok claims := h.codec ▸ hverify
    cases hown : m'.own name claims.sessionId with
    | none =>
      obtain ⟨reason, heq⟩ := consumeAt_of_own_eq_none hverify' ((h.own _).trans hown)
      obtain ⟨reason', heq'⟩ := consumeAt_of_own_eq_none hverify hown
      rw [heq, heq']
      exact ⟨.inr ⟨reason, reason', rfl, rfl⟩, h⟩
    | some session =>
      obtain ⟨hget, -⟩ := own_eq_some_iff.mp ((h.own _).trans hown)
      obtain ⟨hget', hpolicy⟩ := own_eq_some_iff.mp hown
      have hid : ids claims.sessionId := h.minted _ (by rw [hown]; rfl)
      simp only [MemorySessionStore.consumeAt, hverify, hverify', hget, hget']
      split_ifs with hended hother
      · exact ⟨.inl rfl, h⟩
      · exact ⟨.inl rfl, h⟩
      · cases spendOne session.quotaRemaining with
        | none => exact ⟨.inl rfl, h⟩
        | some remaining => exact ⟨.inl rfl, h.insert hid _⟩

theorem AlikeSessions.consume_other (h : AlikeSessions name ids pays m m') (token : String)
    {policy : Option String} (hpolicy : policy ≠ some name) (now : Nat) :
    AlikeSessions name ids pays (m.consumeAt token policy now).2 m' := by
  rcases m.consumeAt_cases token policy now with
    ⟨reason, heq⟩ | ⟨claims, session, remaining, -, hget, -, rfl, -, heq⟩
  · rwa [heq]
  · rw [heq]
    exact h.insert_other ((h.own _).symm.trans (own_of_ne hget hpolicy)) hpolicy

end Stores

/-! ## Calls -/

theorem checkAt_congr {l l' : MemoryRateLimiter} {label : String} {ip : IpAddr}
    (h : l.windows.get? (keyFor label ip) = l'.windows.get? (keyFor label ip))
    (maxRequests windowSecs now : Nat) :
    (l.checkAt label ip maxRequests windowSecs now).1 =
        (l'.checkAt label ip maxRequests windowSecs now).1 ∧
      ∀ key, l.windows.get? key = l'.windows.get? key →
        (l.checkAt label ip maxRequests windowSecs now).2.windows.get? key =
          (l'.checkAt label ip maxRequests windowSecs now).2.windows.get? key := by
  unfold MemoryRateLimiter.checkAt
  dsimp only
  rw [h]
  split_ifs
  · exact ⟨rfl, fun key hkey => by rw [Table.get?_insert, Table.get?_insert, hkey]⟩
  · exact ⟨rfl, fun key hkey => by rw [Table.get?_insert, Table.get?_insert, hkey]⟩

/-- The payment a call claims or releases. -/
def Op.payment? : Op → Option String
  | .claimPayment id _ | .releasePayment id => some id
  | _ => none

section Calls

variable {name : String} {ids pays : String → Prop}

/-- A call of the policy's own, or of the sweeper. -/
def Op.Own (name : String) (pays : String → Prop) : Op → Prop
  | .consume _ policy | .createSession _ policy _ _ => policy = some name
  | .claimPayment id _ | .releasePayment id => pays id
  | .check label .. => label = name
  | .breakerState policy | .breakerRecord policy _ => policy = name
  | _ => True

/-- A call of somebody served under other terms. -/
def Op.Other (name : String) (pays : String → Prop) : Op → Prop
  | .consume _ policy | .createSession _ policy _ _ => policy ≠ some name
  | .claimPayment id _ | .releasePayment id => ¬ pays id
  | .check label .. => label ≠ name
  | .breakerState policy | .breakerRecord policy _ => policy ≠ name
  | .cleanupExpired | .cleanupIdle => False
  | _ => True

variable [Platform]

/-- What the policy's callers can see is the same. Both states are kept in memory. -/
structure AlikeUnder (name : String) (ids pays : String → Prop) (s s' : AppState) : Prop where
  sessions : ∃ m m', s.sessions = .memory m ∧ s'.sessions = .memory m' ∧
    AlikeSessions name ids pays m m'
  limiter : ∃ l l', s.limiter = .memory l ∧ s'.limiter = .memory l' ∧
    ∀ ip, l.windows.get? (keyFor name ip) = l'.windows.get? (keyFor name ip)
  breaker : s.breaker.windowOf name = s'.breaker.windowOf name

variable {svc : Service} {env : Env} {s s' : AppState} {op : Op}

/-- The others' calls leave it alone. -/
theorem AlikeUnder.hides (henv : ¬ ids (newSessionId env.store.raw))
    (hop : op.Other name pays) (h : AlikeUnder name ids pays s s') :
    AlikeUnder name ids pays (svc.exec env s op).2 s' := by
  obtain ⟨sessions, limiter, breaker, broadcast⟩ := s
  obtain ⟨⟨m, m', hs, hs', hm⟩, ⟨l, l', hl, hl', hw⟩, hbreaker⟩ := h
  dsimp only at hs hl hbreaker
  subst hs hl
  have hsame : AlikeUnder name ids pays ⟨.memory m, .memory l, breaker, broadcast⟩ s' :=
    ⟨⟨m, m', rfl, hs', hm⟩, ⟨l, l', rfl, hl', hw⟩, hbreaker⟩
  cases op with
  | nowEpochSecs | verify payload requirements | settle payload requirements =>
    exact { hsame with }
  | consume token policy =>
    rw [exec_consume]
    simp only [SessionStore.consume, Prod.map_snd]
    exact { hsame with sessions := ⟨_, m', rfl, hs', hm.consume_other token hop _⟩ }
  | claimPayment id ttlSecs =>
    exact { hsame with sessions := ⟨_, m', rfl, hs', hm.claim_other hop ttlSecs _⟩ }
  | releasePayment id =>
    exact { hsame with sessions := ⟨_, m', rfl, hs', hm.release_other hop⟩ }
  | createSession payer policy quota ttlSecs =>
    exact { hsame with
      sessions := ⟨_, m', rfl, hs', hm.create_other payer hop quota ttlSecs _ henv⟩ }
  | check label ip maxRequests windowSecs =>
    -- The label is part of a counter's key.
    have hkey : ∀ ip', keyFor name ip' ≠ keyFor label ip := fun ip' heq =>
      hop (congrArg Prod.fst (keyFor_inj.mp heq)).symm
    have hothers := (counts_checkAt l label ip maxRequests windowSecs env.store.now).others
    exact { hsame with
      limiter := ⟨_, l', rfl, hl', fun ip' => (hothers _ (hkey ip')).trans (hw ip')⟩ }
  | breakerState policy =>
    exact { hsame with
      breaker := (windowOf_stateAt_ne breaker env.store.now hop).trans hbreaker }
  | breakerRecord policy failed =>
    exact { hsame with
      breaker := (windowOf_recordAt_ne breaker failed env.store.now hop).trans hbreaker }
  | cleanupExpired | cleanupIdle => exact hop.elim

/-- The policy's own are answered from it. -/
theorem AlikeUnder.keeps (henv : ids (newSessionId env.store.raw)) (hop : op.Own name pays)
    (h : AlikeUnder name ids pays s s') :
    ToldAlike op (svc.exec env s op).1 (svc.exec env s' op).1 ∧
      AlikeUnder name ids pays (svc.exec env s op).2 (svc.exec env s' op).2 := by
  obtain ⟨sessions, limiter, breaker, broadcast⟩ := s
  obtain ⟨sessions', limiter', breaker', broadcast'⟩ := s'
  obtain ⟨⟨m, m', hs, hs', hm⟩, ⟨l, l', hl, hl', hw⟩, hbreaker⟩ := h
  dsimp only at hs hs' hl hl' hbreaker
  subst hs hs' hl hl'
  have hsame : AlikeUnder name ids pays ⟨.memory m, .memory l, breaker, broadcast⟩
      ⟨.memory m', .memory l', breaker', broadcast'⟩ :=
    ⟨⟨m, m', rfl, rfl, hm⟩, ⟨l, l', rfl, rfl, hw⟩, hbreaker⟩
  cases op with
  | nowEpochSecs | verify payload requirements | settle payload requirements =>
    exact ⟨rfl, { hsame with }⟩
  | consume token policy =>
    obtain rfl : policy = some name := hop
    obtain ⟨halike, hafter⟩ := hm.consume token env.store.now
    rw [exec_consume, exec_consume]
    simp only [SessionStore.consume, Prod.map_fst, Prod.map_snd, id_eq]
    exact ⟨halike, { hsame with sessions := ⟨_, _, rfl, rfl, hafter⟩ }⟩
  | claimPayment id ttlSecs =>
    obtain ⟨hanswer, hafter⟩ := hm.claim hop ttlSecs env.store.now
    exact ⟨hanswer, { hsame with sessions := ⟨_, _, rfl, rfl, hafter⟩ }⟩
  | releasePayment id => exact ⟨rfl, { hsame with sessions := ⟨_, _, rfl, rfl, hm.release id⟩ }⟩
  -- The new id is one of those that the policy's callers draw.
  | createSession payer policy quota ttlSecs =>
    obtain ⟨hanswer, hafter⟩ := hm.create payer policy quota ttlSecs env.store.now henv
    exact ⟨congrArg Except.ok hanswer, { hsame with sessions := ⟨_, _, rfl, rfl, hafter⟩ }⟩
  | cleanupExpired => exact ⟨trivial, { hsame with sessions := ⟨_, _, rfl, rfl, hm.sweep _⟩ }⟩
  | check label ip maxRequests windowSecs =>
    obtain rfl : label = name := hop
    obtain ⟨hanswer, hafter⟩ := checkAt_congr (hw ip) maxRequests windowSecs env.store.now
    exact ⟨hanswer, { hsame with limiter := ⟨_, _, rfl, rfl, fun ip' => hafter _ (hw ip')⟩ }⟩
  | cleanupIdle =>
    refine ⟨trivial, { hsame with limiter := ⟨_, _, rfl, rfl, fun ip => ?_⟩ }⟩
    rw [Table.get?_retain, Table.get?_retain, hw ip]
  | breakerState policy =>
    obtain rfl : policy = name := hop
    obtain ⟨hanswer, hafter⟩ := SettlementBreaker.stateAt_congr hbreaker env.store.now
    exact ⟨hanswer, { hsame with breaker := hafter }⟩
  | breakerRecord policy failed =>
    obtain rfl : policy = name := hop
    have hafter : (breaker.step ⟨env.store.now, .record policy failed⟩).windowOf policy =
        (breaker'.step ⟨env.store.now, .record policy failed⟩).windowOf policy :=
      SettlementBreaker.windowOf_step_congr hbreaker rfl
    exact ⟨rfl, { hsame with breaker := hafter }⟩

end Calls

/-! ## Messages -/

variable [Platform]

/-- What a message asks for is not under the policy's name: neither its label nor its breaker is. -/
def Message.Apart (svc : Service) (name : String) (msg : Message) : Prop :=
  msg ≠ .tick ∧ ∀ path policy, AsksFor msg path policy →
    (svc.config.policyFor path policy).label ≠ name ∧ breakerPolicy policy ≠ name

section Messages

variable {svc : Service} {name : String} {pays : String → Prop} {sent : Message → Prop} {op : Op}

omit [Platform] in
theorem other_of_mayCall (hapart : ∀ msg, sent msg → msg.Apart svc name)
    (hpays : ∀ id, op.payment? = some id → ¬ pays id) (h : MayCall svc sent op) :
    op.Other name pays := by
  cases h with
  | cleanupExpired hsent | cleanupIdle hsent => exact (hapart _ hsent).1 rfl
  | postVerify | postSettle => trivial
  | postClaim hsent id | postRelease hsent id => exact hpays id rfl
  | @request msg path policy _ hsent asksFor asks =>
    obtain ⟨hlabel, hbreaker⟩ := (hapart _ hsent).2 path policy asksFor
    -- A policy of this name would have this name's breaker.
    have hpolicy : policy ≠ some name := by
      rintro rfl
      exact hbreaker rfl
    cases asks with
    | nowEpochSecs | verify payload | settle payload => trivial
    | consume token | createSession payer => exact hpolicy
    | claimPayment id | releasePayment id => exact hpays id rfl
    | check ip => exact hlabel
    | breakerState | breakerRecord failed => exact hbreaker

omit [Platform] in
theorem own_of_mayCall (hname : (svc.config.policies.get? name).isSome)
    (hunder : ∀ msg, sent msg → msg.Under name) (hpays : ∀ id, op.payment? = some id → pays id)
    (h : MayCall svc sent op) : op.Own name pays := by
  cases h with
  | cleanupExpired | cleanupIdle => trivial
  | postVerify hsent | postClaim hsent | postSettle hsent | postRelease hsent =>
    exact (hunder _ hsent).elim
  | @request msg path policy _ hsent asksFor asks =>
    obtain rfl := policy_of_asksFor (hunder _ hsent) asksFor
    cases asks with
    | nowEpochSecs | verify payload | settle payload => trivial
    | consume token | createSession payer => rfl
    | claimPayment id | releasePayment id => exact hpays id rfl
    | check ip => exact label_named hname path
    | breakerState | breakerRecord failed => rfl

end Messages

/-! ## The theorem -/

/-- With the others and without them, the policy's callers can see the same. -/
def policyUnwinding (svc : Service) (name : String)
    (ids pays : String → Prop) : Unwinding svc.front.exec fun _ : Env => (0 : Nat) where
  related _ := AlikeUnder name ids pays
  alike := ToldAlike
  silent := Op.Other name pays
  may := Op.Own name pays
  unseen env := ¬ ids (newSessionId env.store.raw)
  seen env := ids (newSessionId env.store.raw)
  later _ h := h
  hides henv hop h := h.hides henv hop
  keeps henv hop h := h.keeps henv hop

/-- **Policies do not interfere.** Take everybody served under other terms out of an interleaving: the
callers of a named policy make the same calls and are told the same, and its allowances and its breaker
stand where they stood. -/
theorem policies_do_not_interfere {config : Config} (hmacKey : Bytes)
    {name : String} (hname : (config.policies.get? name).isSome) (others : Nat → Prop)
    [DecidablePred others] (acts : List SystemAction)
    (hothers : ∀ a msg, others a → .deliver a msg ∈ acts → msg.Apart (.ofConfig config) name)
    (hunder : ∀ a msg, ¬ others a → .deliver a msg ∈ acts → msg.Under name)
    (hids : ∀ a b env env', others a → ¬ others b → .advance a env ∈ acts → .advance b env' ∈ acts →
      newSessionId env.store.raw ≠ newSessionId env'.store.raw) :
    let front := (Service.ofConfig config).front
    let start := frontStart (.ofConfig config hmacKey)
    let all := front.run start acts
    let rest := front.run start (without others acts)
    (∀ entry ∈ all.log, ∀ entry' ∈ all.log, others entry.1 → ¬ others entry'.1 →
      ∀ id, entry.2.1.payment? = some id → entry'.2.1.payment? ≠ some id) →
    (∀ a, ¬ others a → all.task a = rest.task a) ∧
      List.Forall₂ (Machine.SameCall ToldAlike) (all.log.filter (¬ others ·.1)) rest.log ∧
      all.shared.standing name name = rest.shared.standing name name := by
  intro front start all rest hpays
  let ids (id : String) : Prop :=
    ∃ b env, ¬ others b ∧ .advance b env ∈ acts ∧ id = newSessionId env.store.raw
  let pays (id : String) : Prop :=
    ∃ entry ∈ all.log, ¬ others entry.1 ∧ entry.2.1.payment? = some id
  let U := policyUnwinding (.ofConfig config) name ids pays
  -- At the start neither state has a session, a counter or a claim.
  have hempty : AlikeUnder name ids pays (.ofConfig config hmacKey) (.ofConfig config hmacKey) := by
    have hnone : ∀ id, ((MemorySessionStore.ofConfig config hmacKey).own name id).isSome → ids id :=
      fun id hsome => by simp [MemorySessionStore.own, MemorySessionStore.ofConfig] at hsome
    exact ⟨⟨_, _, rfl, rfl, rfl, rfl, fun _ => rfl, hnone, fun _ _ => rfl⟩,
      ⟨_, _, rfl, rfl, fun _ => rfl⟩, rfl⟩
  have hstart : Machine.Erased U others 0 start start :=
    .of_idle hempty (fun a => ⟨_, rfl⟩) rfl
  have hunseen : ∀ a env, others a → .advance a env ∈ acts → U.unseen env := by
    rintro a env ha hmem ⟨b, env', hb, hmem', heq⟩
    exact hids a b env env' ha hb hmem hmem' heq
  have hseen : ∀ a env, ¬ others a → .advance a env ∈ acts → U.seen env :=
    fun a env ha hmem => ⟨a, env, ha, hmem, rfl⟩
  have hcalls := (front_on_terms (.ofConfig config) (.ofConfig config hmacKey) acts).2
  -- What the others call is for other terms, and so silent for the policy.
  have hsilent : ∀ entry ∈ all.log, others entry.1 → U.silent entry.2.1 := by
    intro entry hentry ha
    refine other_of_mayCall (fun msg => hothers entry.1 msg ha) ?_ (hcalls entry hentry)
    rintro id hid ⟨entry', hentry', hb, hid'⟩
    exact hpays entry hentry entry' hentry' ha hb id hid hid'
  have hmay : ∀ entry ∈ all.log, ¬ others entry.1 → U.may entry.2.1 := fun entry hentry ha =>
    own_of_mayCall hname (fun msg => hunder entry.1 msg ha)
      (fun id hid => ⟨entry, hentry, ha, hid⟩) (hcalls entry hentry)
  obtain ⟨_, herased⟩ := hstart.run (indifferent_front _) (inOrder_const 0 acts) hunseen hseen hsilent hmay
  obtain ⟨-, ⟨l, l', hl, hl', hw⟩, hbreaker⟩ := herased.shared
  refine ⟨herased.task, herased.log, Prod.ext (funext fun ip => ?_) hbreaker⟩
  show all.shared.limiter.countersOf name ip = rest.shared.limiter.countersOf name ip
  rw [hl, hl']
  exact congrArg Sum.inl (hw ip)

/-- Two free requests from one address, the second matched to the policy. -/
def apartRun : List SystemAction :=
  [.deliver 0 (.check ⟨none, some "192.0.2.1", ∅⟩),
    .deliver 1 (.check ⟨none, some "192.0.2.1", Table.insert ∅ policyContextKey "gold-tier"⟩),
    .advance 0 ⟨{ now := 1000, raw := [0] }, emptyNode⟩,
    .advance 1 ⟨{ now := 1000, raw := [1] }, emptyNode⟩]

omit [Platform] in
theorem policies_do_not_interfere_example :
    let _ : Platform := examplePlatform
    let front := (Service.ofConfig goldConfig).front
    let start := frontStart (.ofConfig goldConfig [])
    let all := front.run start apartRun
    let rest := front.run start (without (· = 0) apartRun)
    all.log.length = 2 ∧ (∀ a, ¬ a = 0 → all.task a = rest.task a) ∧
      List.Forall₂ (Machine.SameCall ToldAlike) (all.log.filter (¬ ·.1 = 0)) rest.log ∧
      all.shared.standing "gold-tier" "gold-tier" = rest.shared.standing "gold-tier" "gold-tier" := by
  intro _
  refine ⟨by decide +kernel,
    policies_do_not_interfere [] rfl (· = 0) apartRun ?_ ?_ ?_ ?_⟩
  · rintro a msg rfl hmem
    have hmsg : msg = .check ⟨none, some "192.0.2.1", ∅⟩ := by simpa [apartRun] using hmem
    subst hmsg
    refine ⟨nofun, fun path policy hasksFor => ?_⟩
    cases hasksFor
    exact ⟨by decide, by decide⟩
  · intro a msg ha hmem
    have hmsg : a = 1 ∧ msg =
        .check ⟨none, some "192.0.2.1", Table.insert ∅ policyContextKey "gold-tier"⟩ := by
      simpa [apartRun, ha] using hmem
    rw [hmsg.2]
    rfl
  · intro a b env env' ha hb hmem hmem'
    subst ha
    have henv : env.store.raw = [0] := by simp [apartRun] at hmem; rw [hmem]
    have henv' : env'.store.raw = [1] := by simp [apartRun, hb] at hmem'; rw [hmem'.2]
    rw [henv, henv']
    decide
  · have hfree : ∀ entry ∈ ((Service.ofConfig goldConfig).front.run
        (frontStart (.ofConfig goldConfig [])) apartRun).log, entry.2.1.payment? = none := by
      decide
    intro entry hentry entry' hentry' ha hb id hid
    rw [hfree entry hentry] at hid
    cases hid

end X402Verifier
