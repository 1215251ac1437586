import X402Verifier.ReplayCache
import X402Verifier.SessionAccounting

/-!
# The Redis store and the memory store

Two stores that are given the same calls, on one clock, with the same random bytes, and with a Redis
that performs and answers every operation. `Mirrors` says that the Redis store is the image of the
memory store. They differ in what they make of a call:

* an absent policy and an empty one are one policy to Redis, and two to the memory store;
* Redis ages a payment against the TTL it was claimed with, the memory store against the caller's;
* Redis refuses or drops what does not fit its clock, and counts in doubles;
* Redis reports the deadline in the token, the memory store the one of the session it names.

`Portable` is a call on which none of this shows. The last never does while session ids are not drawn
twice and a MAC is right only on a text that was signed (`carriesDeadline_of_genuine`).
-/

namespace X402Verifier

open RustStd Interaction RedisSessionStore

variable [Platform]

/-! ## The two stores side by side -/

/-- A call on a session store. A mint draws the random bytes of its id. -/
inductive StoreCall where
  | createSession (payer : String) (policy : Option String) (quota ttlSecs : Nat) (raw : Bytes)
  | consume (token : String) (policy : Option String)
  | claimPayment (paymentId : String) (ttlSecs : Nat)
  | releasePayment (paymentId : String)

inductive StoreAnswer where
  | created (token : Except StoreError String)
  | consumed (outcome : SessionOutcome)
  | claimed (claim : PaymentClaim)
  | released
  deriving DecidableEq

/-- Perform one call, at its own second. -/
def MemorySessionStore.reply (s : MemorySessionStore) (c : Timed StoreCall) :
    StoreAnswer × MemorySessionStore :=
  match c.call with
  | .createSession payer policy quota ttlSecs raw =>
    (s.createSessionAt payer policy quota ttlSecs c.now raw).map (.created ∘ .ok) id
  | .consume token policy => (s.consumeAt token policy c.now).map .consumed id
  | .claimPayment paymentId ttlSecs => (s.claimPaymentAt paymentId ttlSecs c.now).map .claimed id
  | .releasePayment paymentId => (.released, s.releasePayment paymentId)

/-- Perform one call, at its own second. Redis runs on the caller's clock, and answers. -/
def RedisSessionStore.reply (s : RedisSessionStore) (c : Timed StoreCall) :
    StoreAnswer × RedisSessionStore :=
  match c.call with
  | .createSession payer policy quota ttlSecs raw =>
    (s.createSession payer policy quota ttlSecs c.now raw ⟨c.now, .answered⟩).map .created id
  | .consume token policy => (s.consume token policy c.now ⟨c.now, .answered⟩).map .consumed id
  | .claimPayment paymentId ttlSecs =>
    (s.claimPayment paymentId ttlSecs c.now ⟨c.now, .answered⟩).map .claimed id
  | .releasePayment paymentId => (.released, s.releasePayment paymentId ⟨c.now, .answered⟩)

/-- The two stores, and the calls so far, latest first. -/
structure StorePair where
  memory : MemorySessionStore
  redis : RedisSessionStore
  calls : List (Timed StoreCall) := []

def StorePair.step (t : StorePair) (c : Timed StoreCall) : StorePair :=
  ⟨(t.memory.reply c).2, (t.redis.reply c).2, c :: t.calls⟩

/-- Two new stores. -/
def StorePair.start (codec : TokenCodec) (replayRetentionSecs : Nat) : StorePair :=
  { memory := { codec := codec, replayRetentionSecs := replayRetentionSecs }
    redis := { codec := codec } }

/-! ## Calls that both stores take alike -/

omit [Platform] in
/-- The caller's TTL has run out on the memory store's record of a payment, or there is none. -/
def MemorySessionStore.Forgot (s : MemorySessionStore) (paymentId : String) (ttlSecs now : Nat) :
    Prop :=
  ∀ firstSeen ∈ s.seenPayments.get? paymentId, ttlSecs ≤ now - firstSeen

omit [Platform] in
/-- Redis's record of a payment has expired, or there is none. -/
def RedisSessionStore.Forgot (s : RedisSessionStore) (paymentId : String) (now : Nat) : Prop :=
  ∀ entry ∈ s.seen.get? (replayKey paymentId), ∃ deadline ∈ entry.expiresAt, deadline ≤ now

instance (s : MemorySessionStore) (paymentId : String) (ttlSecs now : Nat) :
    Decidable (s.Forgot paymentId ttlSecs now) :=
  inferInstanceAs (Decidable (∀ firstSeen ∈ s.seenPayments.get? paymentId, ttlSecs ≤ now - firstSeen))

instance (s : RedisSessionStore) (paymentId : String) (now : Nat) :
    Decidable (s.Forgot paymentId now) :=
  inferInstanceAs (Decidable (∀ entry ∈ s.seen.get? (replayKey paymentId),
    ∃ deadline ∈ entry.expiresAt, deadline ≤ now))

/-- A session of no policy is not presented for the empty one, nor the other way round. -/
def KeepsEmptyApart (s : MemorySessionStore) (token : String) (policy : Option String)
    (now : Nat) : Prop :=
  ∀ claims ∈ (s.codec.verify token now).toOption, ∀ session ∈ s.sessions.get? claims.sessionId,
    session.policy.getD "" = policy.getD "" → session.policy = policy

instance (s : MemorySessionStore) (token : String) (policy : Option String) (now : Nat) :
    Decidable (KeepsEmptyApart s token policy now) :=
  inferInstanceAs (Decidable (∀ claims ∈ (s.codec.verify token now).toOption,
    ∀ session ∈ s.sessions.get? claims.sessionId,
      session.policy.getD "" = policy.getD "" → session.policy = policy))

/-- The token carries the deadline of the session it names, if it is right and there is one. -/
def CarriesDeadline (s : MemorySessionStore) (token : String) (now : Nat) : Prop :=
  ∀ claims ∈ (s.codec.verify token now).toOption, ∀ session ∈ s.sessions.get? claims.sessionId,
    session.expiresAt = claims.expiresAt

instance (s : MemorySessionStore) (token : String) (now : Nat) :
    Decidable (CarriesDeadline s token now) :=
  inferInstanceAs (Decidable (∀ claims ∈ (s.codec.verify token now).toOption,
    ∀ session ∈ s.sessions.get? claims.sessionId, session.expiresAt = claims.expiresAt))

/-- A call on which the stores' differences do not show. -/
def Portable (t : StorePair) (c : Timed StoreCall) : Prop :=
  match c.call with
  | .createSession _ _ quota ttlSecs _ => quota ≤ 2 ^ 53 ∧ validExpiry ttlSecs c.now = true
  | .consume token policy =>
    KeepsEmptyApart t.memory token policy c.now ∧ CarriesDeadline t.memory token c.now
  | .claimPayment paymentId ttlSecs =>
    (t.redis.Forgot paymentId c.now ↔ t.memory.Forgot paymentId ttlSecs c.now) ∧
    (t.redis.Forgot paymentId c.now → ttlSecs ≤ 2 ^ 53 ∧ validExpiry ttlSecs c.now = true)
  | .releasePayment _ => True

instance : (t : StorePair) → (c : Timed StoreCall) → Decidable (Portable t c)
  | _, ⟨now, .createSession _ _ quota ttlSecs _⟩ =>
    inferInstanceAs (Decidable (quota ≤ 2 ^ 53 ∧ validExpiry ttlSecs now = true))
  | t, ⟨now, .consume token policy⟩ =>
    inferInstanceAs (Decidable (KeepsEmptyApart t.memory token policy now ∧
      CarriesDeadline t.memory token now))
  | t, ⟨now, .claimPayment paymentId ttlSecs⟩ =>
    inferInstanceAs (Decidable ((t.redis.Forgot paymentId now ↔
        t.memory.Forgot paymentId ttlSecs now) ∧
      (t.redis.Forgot paymentId now → ttlSecs ≤ 2 ^ 53 ∧ validExpiry ttlSecs now = true)))
  | _, ⟨_, .releasePayment _⟩ => isTrue trivial

/-! ## One store as the image of the other -/

omit [Platform] in
/-- Numbers up to `2 ^ 53` are doubles. -/
theorem luaNumber_of_le {n : Nat} (h : n ≤ 2 ^ 53) : luaNumber n = n := by
  rcases Nat.lt_or_eq_of_le h with hlt | rfl
  · have hulp : n.log2 - 52 = 0 := by
      rcases Nat.eq_zero_or_pos n with rfl | hpos
      · rfl
      · have := (Nat.log2_lt hpos.ne').mpr hlt
        omega
    simp [luaNumber, hulp, Nat.mod_one]
  · decide +kernel

/-- The hash Redis keeps for a session. -/
def Session.toRedis (s : Session) : Expiring RedisSession :=
  ⟨⟨s.payer, s.quotaRemaining, s.quota, s.policy.getD ""⟩, some s.expiresAt⟩

/-- The Redis store is the image of the memory store. -/
structure Mirrors (t : StorePair) : Prop where
  codec : t.redis.codec = t.memory.codec
  sessions : ∀ id,
    t.redis.sessions.get? (key id) = (t.memory.sessions.get? id).map Session.toRedis
  seen : ∀ id,
    (t.redis.seen.get? (replayKey id)).map (·.value) = t.memory.seenPayments.get? id
  exact : ∀ id session, t.memory.sessions.get? id = some session →
    session.quotaRemaining ≤ session.quota ∧ session.quota ≤ 2 ^ 53

omit [Platform] in
theorem mirrors_start (codec : TokenCodec) (replayRetentionSecs : Nat) :
    Mirrors (.start codec replayRetentionSecs) := by
  constructor
  · rfl
  · intro id
    simp [StorePair.start]
  · intro id
    simp [StorePair.start]
  · intro id session hget
    simp [StorePair.start] at hget

omit [Platform] in
theorem sessions_insert {sessions : Table String Session}
    {hashes : Table String (Expiring RedisSession)}
    (h : ∀ id, hashes.get? (key id) = (sessions.get? id).map Session.toRedis) (id : String)
    (session : Session) (id' : String) :
    (hashes.insert (key id) session.toRedis).get? (key id') =
      ((sessions.insert id session).get? id').map Session.toRedis := by
  by_cases hid : id' = id
  · subst hid
    simp
  · rw [Table.get?_insert_ne _ _ hid, Table.get?_insert_ne _ _ (mt key_inj.mp hid)]
    exact h id'

/-! ## One call -/

omit [Platform] in
theorem validExpiry_eq_true {ttlSecs now : Nat} :
    validExpiry ttlSecs now = true ↔ 0 < ttlSecs ∧ 1000 * (now + ttlSecs) < i64Bound := by
  simp [validExpiry]

omit [Platform] in
theorem pastExpiry_eq_true {ttlSecs : Nat} :
    pastExpiry ttlSecs = true ↔ ttlSecs = 0 ∨ u64Bound ≤ ttlSecs + i64Bound / 1000 := by
  simp [pastExpiry]

theorem Mirrors.replied {t : StorePair} {c : Timed StoreCall} {answer : StoreAnswer}
    {memory : MemorySessionStore} {redis : RedisSessionStore}
    (hmemory : t.memory.reply c = (answer, memory)) (hredis : t.redis.reply c = (answer, redis))
    (h : Mirrors ⟨memory, redis, c :: t.calls⟩) :
    (t.memory.reply c).1 = (t.redis.reply c).1 ∧ Mirrors (t.step c) := by
  rw [StorePair.step, hmemory, hredis]
  exact ⟨rfl, h⟩

omit [Platform] in
theorem Mirrors.insert {t : StorePair} {c : Timed StoreCall} (h : Mirrors t) (id : String)
    (session : Session)
    (hexact : session.quotaRemaining ≤ session.quota ∧ session.quota ≤ 2 ^ 53) :
    Mirrors ⟨{ t.memory with sessions := t.memory.sessions.insert id session },
      { t.redis with sessions := t.redis.sessions.insert (key id) session.toRedis },
      c :: t.calls⟩ where
  codec := h.codec
  sessions := sessions_insert h.sessions id session
  seen := h.seen
  exact id' session' hget := by
    rw [Table.get?_insert] at hget
    split_ifs at hget with hid
    · cases hget
      exact hexact
    · exact h.exact id' session' hget

/-- **Minting.** Both stores hand out the same token. -/
theorem Mirrors.createSession {t : StorePair} {now : Nat} {payer : String} {policy : Option String}
    {quota ttlSecs : Nat} {raw : Bytes} (h : Mirrors t) (hquota : quota ≤ 2 ^ 53)
    (hvalid : validExpiry ttlSecs now = true) :
    let c : Timed StoreCall := ⟨now, .createSession payer policy quota ttlSecs raw⟩
    (t.memory.reply c).1 = (t.redis.reply c).1 ∧ Mirrors (t.step c) := by
  intro c
  have hrange := validExpiry_eq_true.mp hvalid
  simp only [i64Bound] at hrange
  have hkept : ¬ pastExpiry ttlSecs := by
    rw [pastExpiry_eq_true]
    simp only [i64Bound, u64Bound]
    omega
  have hexpires : saturatingAdd now ttlSecs = now + ttlSecs := by
    simp only [saturatingAdd, u64Bound]
    omega
  let session : Session := ⟨payer, policy, now + ttlSecs, quota, quota⟩
  have hmemory : t.memory.reply c =
      (.created (.ok (t.memory.codec.mint payer (now + ttlSecs) (newSessionId raw))),
        { t.memory with sessions := t.memory.sessions.insert (newSessionId raw) session }) := by
    simp only [c, MemorySessionStore.reply, MemorySessionStore.createSessionAt, hexpires]
    rfl
  have hredis : t.redis.reply c =
      (.created (.ok (t.redis.codec.mint payer (now + ttlSecs) (newSessionId raw))),
        { t.redis with
          sessions := t.redis.sessions.insert (key (newSessionId raw)) session.toRedis }) := by
    simp only [c, RedisSessionStore.reply, RedisSessionStore.createSession, RedisFate.apply,
      createPipeline, if_neg hkept, hvalid, if_true, hexpires]
    rfl
  rw [h.codec] at hredis
  exact Mirrors.replied hmemory hredis (h.insert _ session ⟨le_rfl, hquota⟩)

theorem Mirrors.spend {t : StorePair} {now remaining : Nat} {token : String}
    {policy : Option String} {claims : TokenClaims} {session : Session} (h : Mirrors t)
    (hverify : t.memory.codec.verify token now = .ok claims)
    (hget : t.memory.sessions.get? claims.sessionId = some session)
    (hlive : now < session.expiresAt) (hpolicy : session.policy = policy)
    (hexpires : session.expiresAt = claims.expiresAt)
    (hquota : session.quotaRemaining = remaining + 1) :
    let c : Timed StoreCall := ⟨now, .consume token policy⟩
    (t.memory.reply c).1 = (t.redis.reply c).1 ∧ Mirrors (t.step c) := by
  intro c
  obtain ⟨hle, hexact⟩ := h.exact claims.sessionId session hget
  have hmirror := h.sessions claims.sessionId
  rw [hget, Option.map_some] at hmirror
  have hhash : redisGet t.redis.sessions (key claims.sessionId) now = some session.toRedis.value := by
    simp [redisGet, hmirror, Session.toRedis, hlive]
  let left : Session := { session with quotaRemaining := remaining }
  have hmemory : t.memory.reply c =
      (.consumed (.accepted session.payer remaining session.quota session.expiresAt),
        { t.memory with sessions := t.memory.sessions.insert claims.sessionId left }) := by
    simp [c, MemorySessionStore.reply, MemorySessionStore.consumeAt, hverify, hget,
      Nat.not_le.mpr hlive, hpolicy, hquota, spendOne, left]
  -- The counter and the grant are doubles, and fit into a reply.
  have hcounter : luaNumber (remaining + 1) = remaining + 1 := luaNumber_of_le (by omega)
  have hremaining : luaNumber remaining = remaining := luaNumber_of_le (by omega)
  have hgrant : luaNumber session.quota = session.quota := luaNumber_of_le hexact
  have hfits : remaining + 1 < i64Bound := by
    simp only [i64Bound]
    omega
  have hredis : t.redis.reply c =
      (.consumed (.accepted session.payer remaining session.quota claims.expiresAt),
        { t.redis with
          sessions := t.redis.sessions.insert (key claims.sessionId) left.toRedis }) := by
    simp [c, RedisSessionStore.reply, RedisSessionStore.consume, h.codec, hverify,
      RedisFate.apply, spendScript, hhash, hmirror, Session.toRedis, hpolicy, hquota, hcounter,
      hremaining, hgrant, Nat.not_le.mpr hfits, Nat.lt_of_succ_lt hfits, left]
  rw [← hexpires] at hredis
  refine Mirrors.replied hmemory hredis (h.insert _ left ⟨?_, hexact⟩)
  show remaining ≤ session.quota
  omega

/-- **Spending.** Both stores reject for the same reason, or take one request off the session. -/
theorem Mirrors.consume {t : StorePair} {now : Nat} {token : String} {policy : Option String}
    (h : Mirrors t) (hpolicy : KeepsEmptyApart t.memory token policy now)
    (hdeadline : CarriesDeadline t.memory token now) :
    let c : Timed StoreCall := ⟨now, .consume token policy⟩
    (t.memory.reply c).1 = (t.redis.reply c).1 ∧ Mirrors (t.step c) := by
  intro c
  -- A rejection changes neither store.
  have hrejected : ∀ reason, t.memory.consumeAt token policy now = (.rejected reason, t.memory) →
      t.redis.consume token policy now ⟨now, .answered⟩ = (.rejected reason, t.redis) →
      (t.memory.reply c).1 = (t.redis.reply c).1 ∧ Mirrors (t.step c) := by
    intro reason hmemory hredis
    have hmemory' : t.memory.reply c = (.consumed (.rejected reason), t.memory) := by
      simp [MemorySessionStore.reply, c, hmemory]
    have hredis' : t.redis.reply c = (.consumed (.rejected reason), t.redis) := by
      simp [RedisSessionStore.reply, c, hredis]
    exact Mirrors.replied hmemory' hredis' ⟨h.codec, h.sessions, h.seen, h.exact⟩
  cases hverify : t.memory.codec.verify token now with
  | error reason =>
    refine hrejected reason ?_ ?_
    · simp [MemorySessionStore.consumeAt, hverify]
    · simp [RedisSessionStore.consume, h.codec, hverify]
  | ok claims =>
    have hmirror := h.sessions claims.sessionId
    cases hget : t.memory.sessions.get? claims.sessionId with
    | none =>
      rw [hget, Option.map_none] at hmirror
      refine hrejected .unknown ?_ ?_
      · simp [MemorySessionStore.consumeAt, hverify, hget]
      · simp [RedisSessionStore.consume, h.codec, hverify, RedisFate.apply, spendScript, redisGet,
          hmirror]
    | some session =>
      rw [hget, Option.map_some] at hmirror
      have hexpires := hdeadline claims (by simp [hverify, Except.toOption]) session hget
      have hlive : now < session.expiresAt := by
        obtain ⟨-, -, -, -, -, hlive⟩ := TokenCodec.verify_eq_ok hverify
        exact hexpires ▸ hlive
      have hhash : redisGet t.redis.sessions (key claims.sessionId) now =
          some session.toRedis.value := by
        simp [redisGet, hmirror, Session.toRedis, hlive]
      by_cases hname : session.policy = policy
      · cases hquota : session.quotaRemaining with
        | zero =>
          refine hrejected .quotaExhausted ?_ ?_
          · simp [MemorySessionStore.consumeAt, hverify, hget, Nat.not_le.mpr hlive, hname, hquota,
              spendOne]
          · simp [RedisSessionStore.consume, h.codec, hverify, RedisFate.apply, spendScript, hhash,
              Session.toRedis, hname, hquota]
        | succ remaining => exact h.spend hverify hget hlive hname hexpires hquota
      · have hname' : session.policy.getD "" ≠ policy.getD "" :=
          mt (hpolicy claims (by simp [hverify, Except.toOption]) session hget) hname
        refine hrejected .wrongPolicy ?_ ?_
        · simp [MemorySessionStore.consumeAt, hverify, hget, Nat.not_le.mpr hlive, hname]
        · simp [RedisSessionStore.consume, h.codec, hverify, RedisFate.apply, spendScript, hhash,
            Session.toRedis, hname']

omit [Platform] in
/-- `GET` finds what Redis has not forgotten. -/
theorem RedisSessionStore.redisGet_eq_none_iff (s : RedisSessionStore) (paymentId : String)
    (now : Nat) : redisGet s.seen (replayKey paymentId) now = none ↔ s.Forgot paymentId now := by
  unfold redisGet RedisSessionStore.Forgot
  cases hget : s.seen.get? (replayKey paymentId) with
  | none => simp
  | some entry =>
    cases hexpires : entry.expiresAt with
    | none => simp [hexpires]
    | some deadline => simp [hexpires]

/-- **Claiming.** Both stores have forgotten the payment, and record it, or both report it. -/
theorem Mirrors.claimPayment {t : StorePair} {now ttlSecs : Nat} {paymentId : String}
    (h : Mirrors t)
    (hforgot : t.redis.Forgot paymentId now ↔ t.memory.Forgot paymentId ttlSecs now)
    (hvalid : t.redis.Forgot paymentId now → validExpiry ttlSecs now = true) :
    let c : Timed StoreCall := ⟨now, .claimPayment paymentId ttlSecs⟩
    (t.memory.reply c).1 = (t.redis.reply c).1 ∧ Mirrors (t.step c) := by
  intro c
  have hseen := h.seen paymentId
  cases hrecord : redisGet t.redis.seen (replayKey paymentId) now with
  | none =>
    -- Redis has no live record; by `hforgot` the memory store's has lapsed, if it has one.
    have hredisForgot := (t.redis.redisGet_eq_none_iff paymentId now).mp hrecord
    have hmemory : t.memory.reply c = (.claimed .fresh,
        { t.memory with seenPayments := t.memory.seenPayments.insert paymentId now }) := by
      have hlapsed := hforgot.mp hredisForgot
      simp only [c, MemorySessionStore.reply, MemorySessionStore.claimPaymentAt]
      cases hget : t.memory.seenPayments.get? paymentId with
      | none => rfl
      | some firstSeen => simp [hlapsed firstSeen hget]
    have hredis : t.redis.reply c = (.claimed .fresh, { t.redis with
        seen := t.redis.seen.insert (replayKey paymentId) ⟨now, some (now + ttlSecs)⟩ }) := by
      simp [c, RedisSessionStore.reply, RedisSessionStore.claimPayment, RedisFate.apply,
        claimScript, hrecord, hvalid hredisForgot]
    refine Mirrors.replied hmemory hredis ⟨h.codec, h.sessions, ?_, h.exact⟩
    intro id
    by_cases hid : id = paymentId
    · subst hid
      simp
    · rw [Table.get?_insert_ne _ _ hid, Table.get?_insert_ne _ _ (mt replayKey_inj.mp hid)]
      exact h.seen id
  | some firstSeen =>
    -- Redis has a live one: the memory store has the same, and has not outlived it.
    have hknown : t.memory.seenPayments.get? paymentId = some firstSeen := by
      rw [← hseen, redisGet_value hrecord]
    have hlive : ¬ ttlSecs ≤ now - firstSeen := by
      intro hlapsed
      have hmemoryForgot : t.memory.Forgot paymentId ttlSecs now := by
        intro firstSeen' hget
        rw [hknown, Option.mem_def, Option.some.injEq] at hget
        exact hget ▸ hlapsed
      have hnone := (t.redis.redisGet_eq_none_iff paymentId now).mpr (hforgot.mpr hmemoryForgot)
      rw [hrecord] at hnone
      cases hnone
    have hmemory : t.memory.reply c = (.claimed (.replay firstSeen), t.memory) := by
      simp [c, MemorySessionStore.reply, MemorySessionStore.claimPaymentAt, hknown, hlive]
    have hredis : t.redis.reply c = (.claimed (.replay firstSeen), t.redis) := by
      simp [c, RedisSessionStore.reply, RedisSessionStore.claimPayment, RedisFate.apply,
        claimScript, hrecord]
    exact Mirrors.replied hmemory hredis ⟨h.codec, h.sessions, h.seen, h.exact⟩

/-- **Releasing.** Both stores drop their record. -/
theorem Mirrors.releasePayment {t : StorePair} {now : Nat} {paymentId : String} (h : Mirrors t) :
    let c : Timed StoreCall := ⟨now, .releasePayment paymentId⟩
    (t.memory.reply c).1 = (t.redis.reply c).1 ∧ Mirrors (t.step c) := by
  refine ⟨rfl, h.codec, h.sessions, ?_, h.exact⟩
  intro id
  show ((t.redis.seen.remove (replayKey paymentId)).get? (replayKey id)).map (·.value) =
    (t.memory.seenPayments.remove paymentId).get? id
  by_cases hid : id = paymentId
  · subst hid
    simp
  · rw [Table.get?_remove_ne _ hid, Table.get?_remove_ne _ (mt replayKey_inj.mp hid)]
    exact h.seen id

/-- **One call.** It is answered alike, and the stores mirror each other afterwards. -/
theorem Mirrors.step {t : StorePair} {c : Timed StoreCall} (h : Mirrors t)
    (hportable : Portable t c) :
    (t.memory.reply c).1 = (t.redis.reply c).1 ∧ Mirrors (t.step c) := by
  obtain ⟨now, call⟩ := c
  cases call with
  | createSession payer policy quota ttlSecs raw =>
    exact h.createSession hportable.1 hportable.2
  | consume token policy => exact h.consume hportable.1 hportable.2
  | claimPayment paymentId ttlSecs =>
    exact h.claimPayment hportable.1 fun hforgot => (hportable.2 hforgot).2
  | releasePayment paymentId => exact h.releasePayment

/-- Along portable calls, the replies are the same. -/
theorem Mirrors.replies_eq {t : StorePair} {calls : List (Timed StoreCall)} (h : Mirrors t)
    (hcalls : Along StorePair.step Portable t calls) :
    replies MemorySessionStore.reply t.memory calls =
      replies RedisSessionStore.reply t.redis calls := by
  induction calls generalizing t with
  | nil => rfl
  | cons c calls ih =>
    obtain ⟨hportable, hrest⟩ := hcalls
    obtain ⟨hanswer, hmirrors⟩ := h.step hportable
    have hlater := ih hmirrors hrest
    rw [replies, replies, hanswer]
    exact congrArg _ hlater

/-- **Either store.** Calls that are all portable get the same replies from both stores, whatever
they are and whenever they are made. -/
theorem portable_calls_answered_alike (codec : TokenCodec) (replayRetentionSecs : Nat)
    (calls : List (Timed StoreCall))
    (hportable : Along StorePair.step Portable (.start codec replayRetentionSecs) calls) :
    replies MemorySessionStore.reply { codec := codec, replayRetentionSecs := replayRetentionSecs }
        calls =
      replies RedisSessionStore.reply { codec := codec } calls :=
  (mirrors_start codec replayRetentionSecs).replies_eq hportable

/-- Two sessions, a request of each and one under the wrong policy, and a payment claimed, claimed
again, released, and claimed again. -/
def mintSpendClaim : List (Timed StoreCall) :=
  [⟨1000, .createSession "0x1" (some "premium") 2 100 firstRaw⟩,
    ⟨1000, .createSession "0xa " none 5 1000 secondRaw⟩,
    ⟨1001, .consume firstToken (some "premium")⟩, ⟨1002, .consume firstToken none⟩,
    ⟨1002, .consume secondToken none⟩,
    ⟨1003, .claimPayment "payment" 600⟩, ⟨1004, .claimPayment "payment" 300⟩,
    ⟨1005, .releasePayment "payment"⟩, ⟨1006, .claimPayment "payment" 300⟩]

omit [Platform] in
theorem mintSpendClaim_portable :
    let _ : Platform := signingPlatform
    (replies RedisSessionStore.reply { codec := ⟨exampleKey⟩ } mintSpendClaim)[2]? =
        some (.consumed (.accepted "0x1" 1 2 1100)) ∧
      Along StorePair.step Portable (.start ⟨exampleKey⟩ 600) mintSpendClaim := by
  decide +kernel

omit [Platform] in
theorem portable_calls_answered_alike_example :
    let _ : Platform := signingPlatform
    (replies RedisSessionStore.reply { codec := ⟨exampleKey⟩ } mintSpendClaim)[2]? =
        some (.consumed (.accepted "0x1" 1 2 1100)) ∧
      replies MemorySessionStore.reply { codec := ⟨exampleKey⟩, replayRetentionSecs := 600 }
          mintSpendClaim =
        replies RedisSessionStore.reply { codec := ⟨exampleKey⟩ } mintSpendClaim := by
  intro _
  exact ⟨mintSpendClaim_portable.1, portable_calls_answered_alike _ _ _ mintSpendClaim_portable.2⟩

omit [Platform] in
/-- A payment claimed for ten minutes, and again for five after six. The memory store takes it for
new, and Redis does not. -/
theorem shorter_claim_tells_the_stores_apart :
    ¬ ∀ (_ : Platform) (codec : TokenCodec) (replayRetentionSecs : Nat)
      (calls : List (Timed StoreCall)), calls.Pairwise (·.now ≤ ·.now) →
      replies MemorySessionStore.reply
          { codec := codec, replayRetentionSecs := replayRetentionSecs } calls =
        replies RedisSessionStore.reply { codec := codec } calls := by
  intro h
  have hreplies := h examplePlatform ⟨[]⟩ 600
    [⟨1000, .claimPayment "payment" 600⟩, ⟨1360, .claimPayment "payment" 300⟩] (by decide)
  revert hreplies
  decide +kernel

/-! ## Genuine calls -/

/-- What a call grants. -/
def grantOf (c : Timed StoreCall) : Option Grant :=
  match c.call with
  | .createSession payer policy quota ttlSecs raw =>
    some ⟨payer, policy, quota, saturatingAdd c.now ttlSecs, newSessionId raw⟩
  | _ => none

def StorePair.grants (t : StorePair) : List Grant := t.calls.filterMap grantOf

/-- A new session id is new, and a right MAC is on a text that was signed. -/
def Genuine (t : StorePair) (c : Timed StoreCall) : Prop :=
  match c.call with
  | .createSession _ _ _ _ raw => newSessionId raw ∉ t.grants.map (·.sessionId)
  | .consume token _ =>
    ∀ text ∈ t.memory.codec.signed? token, text ∈ t.grants.map Grant.signed
  | _ => True

/-- The memory store has every session that was granted, with its deadline. -/
def Granted (t : StorePair) : Prop :=
  ∀ g ∈ t.grants, g.expiresAt < u64Bound ∧
    ∃ session, t.memory.sessions.get? g.sessionId = some session ∧ session.expiresAt = g.expiresAt

/-- A call that grants nothing and leaves the deadlines alone. -/
theorem Granted.keeps {t : StorePair} {c : Timed StoreCall} (h : Granted t) (hgrant : grantOf c = none)
    (hkept : ∀ id session, t.memory.sessions.get? id = some session →
      ∃ session', (t.memory.reply c).2.sessions.get? id = some session' ∧
        session'.expiresAt = session.expiresAt) : Granted (t.step c) := by
  intro g hg
  have hold : g ∈ t.grants := by simpa [StorePair.step, StorePair.grants, hgrant] using hg
  obtain ⟨hbound, session, hget, hexpires⟩ := h g hold
  obtain ⟨session', hget', hsame⟩ := hkept _ _ hget
  exact ⟨hbound, session', hget', hsame.trans hexpires⟩

/-- No session is lost, and none gets another deadline. -/
theorem Granted.step {t : StorePair} {c : Timed StoreCall} (h : Granted t) (hgenuine : Genuine t c) :
    Granted (t.step c) := by
  obtain ⟨now, call⟩ := c
  cases call with
  | createSession payer policy quota ttlSecs raw =>
    intro g hg
    rcases List.mem_cons.mp hg with rfl | hg
    · refine ⟨?_, _, Table.get?_insert_self _ _ _, rfl⟩
      have : 0 < u64Bound := by decide
      simp only [saturatingAdd]
      omega
    · have hne : g.sessionId ≠ newSessionId raw :=
        fun heq => hgenuine (heq ▸ List.mem_map_of_mem hg)
      obtain ⟨hbound, session, hget, hexpires⟩ := h g hg
      exact ⟨hbound, session, (Table.get?_insert_ne _ _ hne).trans hget, hexpires⟩
  | consume token policy =>
    refine h.keeps rfl fun id session hget => ?_
    simp only [MemorySessionStore.reply, Prod.map_snd, id_eq]
    rcases t.memory.consumeAt_cases token policy now with ⟨reason, hrejected⟩ |
      ⟨claims, session', remaining, -, hnamed, -, -, -, haccepted⟩
    · rw [hrejected]
      exact ⟨session, hget, rfl⟩
    · rw [haccepted]
      by_cases hid : id = claims.sessionId
      · subst hid
        obtain rfl := Option.some.inj (hnamed.symm.trans hget)
        exact ⟨_, Table.get?_insert_self _ _ _, rfl⟩
      · exact ⟨session, (Table.get?_insert_ne _ _ hid).trans hget, rfl⟩
  | claimPayment paymentId ttlSecs =>
    refine h.keeps rfl fun id session hget => ⟨session, ?_, rfl⟩
    simp only [MemorySessionStore.reply, MemorySessionStore.claimPaymentAt, Prod.map_snd, id_eq]
    split
    · split_ifs <;> exact hget
    · exact hget
  | releasePayment paymentId => exact h.keeps rfl fun id session hget => ⟨session, hget, rfl⟩

/-- A genuine token says when the session it names expires. -/
theorem Granted.carriesDeadline {t : StorePair} {token : String} (h : Granted t)
    (hmac : ∀ text ∈ t.memory.codec.signed? token, text ∈ t.grants.map Grant.signed) (now : Nat) :
    CarriesDeadline t.memory token now := by
  intro claims hclaims session hget
  have hverify : t.memory.codec.verify token now = .ok claims := by
    cases hverify : t.memory.codec.verify token now with
    | error reason => simp [hverify, Except.toOption] at hclaims
    | ok claims' => simpa [hverify, Except.toOption] using hclaims
  obtain ⟨expires, macHex, hsplit, hsigned, hparse, -⟩ := TokenCodec.verify_eq_ok hverify
  obtain ⟨g, hg, htext⟩ := List.mem_map.mp (hmac _ hsigned)
  obtain ⟨-, hid, macHex', hfields⟩ :=
    TokenCodec.verify_fields hverify (hsigned.trans (congrArg some htext.symm))
  obtain ⟨hbound, session', hget', hexpires⟩ := h g hg
  -- The deadline in the token is the printed one, and is parsed back.
  have hprinted : expires = toString g.expiresAt := by
    have heq := hsplit.symm.trans hfields
    simp only [List.cons.injEq] at heq
    exact heq.2.1
  rw [hprinted, parseUnsigned_toString hbound, Option.some.injEq] at hparse
  rw [← hid, hget, Option.some.injEq] at hget'
  rw [hget', hexpires, hparse]

/-- **Genuine tokens carry their session's deadline**, in every run of genuine calls. -/
theorem carriesDeadline_of_genuine (codec : TokenCodec) (replayRetentionSecs : Nat)
    {calls : List (Timed StoreCall)}
    (hgenuine : Along StorePair.step Genuine (.start codec replayRetentionSecs) calls) :
    Along StorePair.step
      (fun t c => ∀ token policy, c.call = .consume token policy →
        CarriesDeadline t.memory token c.now) (.start codec replayRetentionSecs) calls := by
  have hstart : Granted (.start codec replayRetentionSecs) := by
    intro g hg
    cases hg
  refine Along.of_invariant (fun _ _ h => h.step) ?_ hstart hgenuine
  rintro t ⟨now, call⟩ h hcall token policy rfl
  exact h.carriesDeadline hcall now

end X402Verifier
