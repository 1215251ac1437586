import X402Verifier.Gateway

/-!
# The replay cache

What each operation does to the half of the session store that remembers payments. The two backends
age a record differently, and the difference is kept in two predicates:

* `aged`: a claim of a given TTL, made now, would take the record for a lapsed one. In memory that
  depends on the TTL the claim brings; in Redis it is the key's own expiry.
* `swept`: a cleanup tick would drop the record.

As long as neither happens to a record, it stays until it is released. Whether a claim makes a
record at all is `takes`, and whether the caller hears of it `replies`.
-/

namespace X402Verifier

open RustStd RedisSessionStore

/-- The replay cache of a store: when each payment was first seen. -/
inductive ReplayCache where
  | memory (seenPayments : Table String Nat) (replayRetentionSecs : Nat)
  | redis (seen : Table String (Expiring Nat))
  deriving DecidableEq

def SessionStore.replay : SessionStore → ReplayCache
  | .memory m => .memory m.seenPayments m.replayRetentionSecs
  | .redis r => .redis r.seen

namespace ReplayCache

def recorded (c : ReplayCache) (paymentId : String) : Bool :=
  match c with
  | .memory seenPayments _ => (seenPayments.get? paymentId).isSome
  | .redis seen => (seen.get? (replayKey paymentId)).isSome

/-- When the payment was first seen, by its record. -/
def seenAt (c : ReplayCache) (paymentId : String) : Option Nat :=
  match c with
  | .memory seenPayments _ => seenPayments.get? paymentId
  | .redis seen => (seen.get? (replayKey paymentId)).map (·.value)

/-- Would a claim with this TTL take the record for a lapsed one? -/
def aged (c : ReplayCache) (env : StoreEnv) (paymentId : String) (ttlSecs : Nat) : Bool :=
  match c with
  | .memory seenPayments _ =>
    (seenPayments.get? paymentId).any fun firstSeen => ttlSecs ≤ env.now - firstSeen
  | .redis seen =>
    (seen.get? (replayKey paymentId)).any fun entry =>
      entry.expiresAt.any fun expiresAt => expiresAt ≤ env.redis.serverNow

/-- Would a cleanup tick drop the record? -/
def swept (c : ReplayCache) (env : StoreEnv) (paymentId : String) : Bool :=
  match c with
  | .memory seenPayments retention =>
    (seenPayments.get? paymentId).any fun firstSeen => retention ≤ env.now - firstSeen
  | .redis _ => false

/-- Would a claim be recorded? The payment has no live record, and a Redis is reached and accepts the
expiry. -/
def takes (c : ReplayCache) (env : StoreEnv) (paymentId : String) (ttlSecs : Nat) : Bool :=
  match c with
  | .memory seenPayments _ =>
    (seenPayments.get? paymentId).all fun firstSeen => ttlSecs ≤ env.now - firstSeen
  | .redis seen =>
    (redisGet seen (replayKey paymentId) env.redis.serverNow).isNone &&
      validExpiry ttlSecs env.redis.serverNow &&
      match env.redis.fate with
      | .unreached _ => false
      | _ => true

/-- Does the caller get a reply? -/
def replies (c : ReplayCache) (env : StoreEnv) : Bool :=
  match c with
  | .memory .. => true
  | .redis _ => env.redis.fate = .answered

end ReplayCache

theorem replayKey_inj {id id' : String} : replayKey id = replayKey id' ↔ id = id' := by
  simp [replayKey]

theorem key_inj {id id' : String} : key id = key id' ↔ id = id' := by
  simp [key]

theorem redisGet_value {β : Type} {t : Table String (Expiring β)} {key : String} {now : Nat}
    {value : β} (h : redisGet t key now = some value) :
    (t.get? key).map (·.value) = some value := by
  unfold redisGet at h
  split at h
  · cases h
  · rename_i entry hget
    split at h
    · rwa [hget]
    · split_ifs at h
      rwa [hget]

/-! ## Claims -/

namespace SessionStore

variable {s : SessionStore} {env : StoreEnv} {id id' : String} {ttlSecs : Nat}

theorem redisGet_of_not_aged {t : Table String (Expiring Nat)} {key : String} {now : Nat}
    {entry : Expiring Nat} (h : t.get? key = some entry)
    (hage : (entry.expiresAt.any fun expiresAt => decide (expiresAt ≤ now)) = false) :
    redisGet t key now = some entry.value := by
  cases hx : entry.expiresAt with
  | none => simp [redisGet, h, hx]
  | some x =>
    have hlt : now < x := by simpa [hx] using hage
    simp [redisGet, h, hx, hlt]

/-- What a claim does in memory: nothing on a replay, and a new record otherwise. -/
theorem claimPaymentAt_cases (m : MemorySessionStore) (id : String) (ttlSecs now : Nat) :
    (∃ firstSeen, m.seenPayments.get? id = some firstSeen ∧ now - firstSeen < ttlSecs ∧
      m.claimPaymentAt id ttlSecs now = (.replay firstSeen, m)) ∨
    ((∀ firstSeen, m.seenPayments.get? id = some firstSeen → ttlSecs ≤ now - firstSeen) ∧
      m.claimPaymentAt id ttlSecs now =
        (.fresh, { m with seenPayments := m.seenPayments.insert id now })) := by
  unfold MemorySessionStore.claimPaymentAt
  cases h : m.seenPayments.get? id with
  | none => exact .inr ⟨by simp, rfl⟩
  | some firstSeen =>
    by_cases hage : ttlSecs ≤ now - firstSeen
    · exact .inr ⟨by simpa using hage, by simp [hage]⟩
    · exact .inl ⟨firstSeen, rfl, by omega, by simp [hage]⟩

/-- What a claim does in Redis: nothing, or a new record where no live one was. -/
theorem redis_claimPayment_cases (r : RedisSessionStore) (id : String) (ttlSecs now : Nat)
    (env : RedisEnv) :
    ((r.claimPayment id ttlSecs now env).1 ≠ .fresh ∧
      (r.claimPayment id ttlSecs now env).2 = r) ∨
    (redisGet r.seen (replayKey id) env.serverNow = none ∧
      (r.claimPayment id ttlSecs now env).2 =
        { r with
          seen := r.seen.insert (replayKey id) ⟨now, some (env.serverNow + ttlSecs)⟩ }) := by
  unfold RedisSessionStore.claimPayment claimScript
  cases h : redisGet r.seen (replayKey id) env.serverNow with
  | some existing => exact .inl (by cases env.fate <;> simp [RedisFate.apply])
  | none =>
    by_cases hx : validExpiry ttlSecs env.serverNow = true
    · cases env.fate with
      | answered => exact .inr ⟨rfl, by simp [RedisFate.apply, hx]⟩
      | unreached e => exact .inl (by simp [RedisFate.apply])
      | replyLost e => exact .inr ⟨rfl, by simp [RedisFate.apply, hx]⟩
    · exact .inl (by cases env.fate <;> simp [RedisFate.apply, hx])

theorem recorded_of_fresh (h : (s.claimPayment env id ttlSecs).1 = .fresh) :
    (s.claimPayment env id ttlSecs).2.replay.recorded id = true := by
  cases s with
  | memory m =>
    simp only [SessionStore.claimPayment] at h ⊢
    rcases claimPaymentAt_cases m id ttlSecs env.now with ⟨_, _, _, hc⟩ | ⟨_, hc⟩
    · simp [hc] at h
    · simp [hc, replay, ReplayCache.recorded]
  | redis r =>
    simp only [SessionStore.claimPayment, Prod.map_fst, Prod.map_snd, id_eq] at h ⊢
    rcases redis_claimPayment_cases r id ttlSecs env.now env.redis with ⟨hne, _⟩ | ⟨_, hc⟩
    · exact absurd h hne
    · simp [hc, replay, ReplayCache.recorded]

/-- A claim is fresh only where there was no record, unless it took one for lapsed. -/
theorem not_recorded_of_fresh (h : (s.claimPayment env id ttlSecs).1 = .fresh)
    (hage : s.replay.aged env id ttlSecs = false) : s.replay.recorded id = false := by
  cases s with
  | memory m =>
    simp only [SessionStore.claimPayment] at h
    cases hrec : m.seenPayments.get? id with
    | none => simp [replay, ReplayCache.recorded, hrec]
    | some firstSeen =>
      rcases claimPaymentAt_cases m id ttlSecs env.now with ⟨_, _, _, hc⟩ | ⟨hold, _⟩
      · simp [hc] at h
      · have hlt : ¬ ttlSecs ≤ env.now - firstSeen := by
          simpa [replay, ReplayCache.aged, hrec] using hage
        exact absurd (hold firstSeen hrec) hlt
  | redis r =>
    simp only [SessionStore.claimPayment, Prod.map_fst, id_eq] at h
    cases hrec : r.seen.get? (replayKey id) with
    | none => simp [replay, ReplayCache.recorded, hrec]
    | some entry =>
      rcases redis_claimPayment_cases r id ttlSecs env.now env.redis with ⟨hne, _⟩ | ⟨hnone, _⟩
      · exact absurd h hne
      · have hlive : redisGet r.seen (replayKey id) env.redis.serverNow = some entry.value :=
          redisGet_of_not_aged hrec (by simpa [replay, ReplayCache.aged, hrec] using hage)
        rw [hlive] at hnone
        cases hnone

theorem recorded_claimPayment (h : s.replay.recorded id = true) :
    (s.claimPayment env id' ttlSecs).2.replay.recorded id = true := by
  cases s with
  | memory m =>
    simp only [SessionStore.claimPayment]
    rcases claimPaymentAt_cases m id' ttlSecs env.now with ⟨_, _, _, hc⟩ | ⟨_, hc⟩
    · simpa [hc, replay] using h
    · simp only [hc, replay, ReplayCache.recorded, Prod.map_snd, Table.get?_insert] at h ⊢
      split_ifs <;> simp [h]
  | redis r =>
    simp only [SessionStore.claimPayment, Prod.map_snd]
    rcases redis_claimPayment_cases r id' ttlSecs env.now env.redis with ⟨_, hc⟩ | ⟨_, hc⟩
    · simpa [hc, replay] using h
    · simp only [hc, replay, ReplayCache.recorded, Table.get?_insert] at h ⊢
      split_ifs <;> simp [h]

theorem seenAt_eq_none_of_not_recorded {c : ReplayCache} (h : c.recorded id = false) :
    c.seenAt id = none := by
  cases c with
  | memory seenPayments retention => simpa [ReplayCache.recorded, ReplayCache.seenAt] using h
  | redis seen => simpa [ReplayCache.recorded, ReplayCache.seenAt] using h

/-- A replay is answered with what is on record. -/
theorem seenAt_of_replay {firstSeen : Nat}
    (h : (s.claimPayment env id ttlSecs).1 = .replay firstSeen) :
    s.replay.seenAt id = some firstSeen := by
  cases s with
  | memory m =>
    simp only [SessionStore.claimPayment] at h
    rcases claimPaymentAt_cases m id ttlSecs env.now with ⟨seen, hseen, -, hc⟩ | ⟨-, hc⟩
    · obtain rfl : seen = firstSeen := by simpa [hc] using h
      exact hseen
    · simp [hc] at h
  | redis r =>
    simp only [SessionStore.claimPayment, RedisSessionStore.claimPayment, claimScript, redisGet] at h
    cases hrec : r.seen.get? (replayKey id) with
    | none =>
      cases hfate : env.redis.fate <;> cases hx : validExpiry ttlSecs env.redis.serverNow <;>
        simp [hrec, hfate, hx, RedisFate.apply] at h
    | some entry =>
      have hvalue : entry.value = firstSeen := by
        cases hfate : env.redis.fate <;> cases hx : validExpiry ttlSecs env.redis.serverNow <;>
          cases hexp : entry.expiresAt <;>
          simp [hrec, hfate, hx, hexp, RedisFate.apply] at h <;> grind
      simp [replay, ReplayCache.seenAt, hrec, hvalue]

/-- After a claim, what is on record was there before or is the claim itself. -/
theorem seenAt_claimPayment {firstSeen : Nat}
    (h : (s.claimPayment env id' ttlSecs).2.replay.seenAt id = some firstSeen) :
    s.replay.seenAt id = some firstSeen ∨ id' = id ∧ firstSeen = env.now := by
  cases s with
  | memory m =>
    simp only [SessionStore.claimPayment] at h
    rcases claimPaymentAt_cases m id' ttlSecs env.now with ⟨_, _, _, hc⟩ | ⟨_, hc⟩
    · exact .inl (by simpa [hc, replay] using h)
    · simp only [hc, replay, ReplayCache.seenAt, Prod.map_snd, Table.get?_insert] at h ⊢
      split_ifs at h with hid
      · exact .inr ⟨hid.symm, (Option.some.inj h).symm⟩
      · exact .inl h
  | redis r =>
    simp only [SessionStore.claimPayment, Prod.map_snd] at h
    rcases redis_claimPayment_cases r id' ttlSecs env.now env.redis with ⟨_, hc⟩ | ⟨_, hc⟩
    · exact .inl (by simpa [hc, replay] using h)
    · simp only [hc, replay, ReplayCache.seenAt, Table.get?_insert] at h ⊢
      split_ifs at h with hid
      · exact .inr ⟨(replayKey_inj.mp hid).symm, (Option.some.inj h).symm⟩
      · exact .inl h

/-- A claim that is not taken is not fresh, and leaves the cache as it was. -/
theorem claimPayment_of_not_takes (h : s.replay.takes env id ttlSecs = false) :
    (s.claimPayment env id ttlSecs).1 ≠ .fresh ∧
      (s.claimPayment env id ttlSecs).2.replay = s.replay := by
  cases s with
  | memory m =>
    simp only [SessionStore.claimPayment]
    rcases claimPaymentAt_cases m id ttlSecs env.now with ⟨_, _, _, hc⟩ | ⟨hold, hc⟩
    · simp [hc, replay]
    · cases hrec : m.seenPayments.get? id with
      | none => simp [replay, ReplayCache.takes, hrec] at h
      | some firstSeen =>
        have hlt : env.now - firstSeen < ttlSecs := by
          simpa [replay, ReplayCache.takes, hrec] using h
        exact absurd (hold firstSeen hrec) (Nat.not_le.mpr hlt)
  | redis r =>
    simp only [replay, ReplayCache.takes] at h
    simp only [SessionStore.claimPayment, RedisSessionStore.claimPayment, claimScript]
    cases hget : redisGet r.seen (replayKey id) env.redis.serverNow with
    | some existing => cases env.redis.fate <;> simp [RedisFate.apply, replay]
    | none =>
      cases hx : validExpiry ttlSecs env.redis.serverNow with
      | false => cases env.redis.fate <;> simp [RedisFate.apply, replay]
      | true =>
        cases hf : env.redis.fate with
        | unreached e => simp [RedisFate.apply, replay]
        | answered => simp [hget, hx, hf] at h
        | replyLost e => simp [hget, hx, hf] at h

/-- One that is taken changes it, and is fresh if its caller gets a reply. -/
theorem claimPayment_of_takes (httl : 0 < ttlSecs) (h : s.replay.takes env id ttlSecs = true) :
    (s.claimPayment env id ttlSecs).1 = (if s.replay.replies env then .fresh else .backend) ∧
      (s.claimPayment env id ttlSecs).2.replay ≠ s.replay := by
  cases s with
  | memory m =>
    simp only [SessionStore.claimPayment]
    rcases claimPaymentAt_cases m id ttlSecs env.now with ⟨firstSeen, hget, hlt, _⟩ | ⟨hold, hc⟩
    · have hle : ttlSecs ≤ env.now - firstSeen := by
        simpa [replay, ReplayCache.takes, hget] using h
      omega
    · refine ⟨by simp [hc, replay, ReplayCache.replies], fun heq => ?_⟩
      simp only [hc, replay, Prod.map_snd, ReplayCache.memory.injEq, and_true] at heq
      have hnow := congrArg (Table.get? · id) heq
      simp only [Table.get?_insert_self] at hnow
      have hage := hold env.now hnow.symm
      omega
  | redis r =>
    simp only [replay, ReplayCache.takes, Bool.and_eq_true, Option.isNone_iff_eq_none] at h
    obtain ⟨⟨hget, hx⟩, hfate⟩ := h
    have hne : r.seen.insert (replayKey id) ⟨env.now, some (env.redis.serverNow + ttlSecs)⟩ ≠
        r.seen := by
      intro heq
      have hlive : redisGet (r.seen.insert (replayKey id)
          ⟨env.now, some (env.redis.serverNow + ttlSecs)⟩) (replayKey id) env.redis.serverNow =
          some env.now := by
        simp [redisGet, httl]
      rw [heq, hget] at hlive
      cases hlive
    simp only [SessionStore.claimPayment, RedisSessionStore.claimPayment, claimScript, hget, hx]
    cases hf : env.redis.fate with
    | unreached e => simp [hf] at hfate
    | answered => simpa [RedisFate.apply, replay, ReplayCache.replies, hf] using hne
    | replyLost e => simpa [RedisFate.apply, replay, ReplayCache.replies, hf] using hne

theorem recorded_of_takes (h : s.replay.takes env id ttlSecs = true) :
    (s.claimPayment env id ttlSecs).2.replay.recorded id = true := by
  cases s with
  | memory m =>
    simp only [SessionStore.claimPayment]
    rcases claimPaymentAt_cases m id ttlSecs env.now with ⟨firstSeen, hget, hlt, _⟩ | ⟨_, hc⟩
    · have hle : ttlSecs ≤ env.now - firstSeen := by
        simpa [replay, ReplayCache.takes, hget] using h
      omega
    · simp [hc, replay, ReplayCache.recorded]
  | redis r =>
    simp only [replay, ReplayCache.takes, Bool.and_eq_true, Option.isNone_iff_eq_none] at h
    obtain ⟨⟨hget, hx⟩, hfate⟩ := h
    simp only [SessionStore.claimPayment, RedisSessionStore.claimPayment, claimScript, hget, hx]
    cases hf : env.redis.fate with
    | unreached e => simp [hf] at hfate
    | answered => simp [RedisFate.apply, replay, ReplayCache.recorded]
    | replyLost e => simp [RedisFate.apply, replay, ReplayCache.recorded]

/-! ## Releases and sweeps -/

theorem recorded_releasePayment_ne (hne : id ≠ id') :
    (s.releasePayment env id').replay.recorded id = s.replay.recorded id := by
  cases s with
  | memory m =>
    simp [SessionStore.releasePayment, MemorySessionStore.releasePayment, replay,
      ReplayCache.recorded, Table.get?_remove_ne _ hne]
  | redis r =>
    have hkey : replayKey id ≠ replayKey id' := by simpa [replayKey_inj] using hne
    cases hf : env.redis.fate <;>
      simp [SessionStore.releasePayment, RedisSessionStore.releasePayment, RedisFate.apply, hf,
        replay, ReplayCache.recorded, Table.get?_remove_ne _ hkey]

theorem recorded_cleanupExpired (h : s.replay.recorded id = true)
    (hswept : s.replay.swept env id = false) :
    (s.cleanupExpired env).2.replay.recorded id = true := by
  cases s with
  | memory m =>
    cases hrec : m.seenPayments.get? id with
    | none => simp [replay, ReplayCache.recorded, hrec] at h
    | some firstSeen =>
      have hlt : env.now - firstSeen < m.replayRetentionSecs := by
        simpa [replay, ReplayCache.swept, hrec] using hswept
      simp [SessionStore.cleanupExpired, MemorySessionStore.cleanupExpiredAt, replay,
        ReplayCache.recorded, Table.get?_retain, hrec, hlt]
  | redis r => exact h

theorem seenAt_releasePayment {firstSeen : Nat}
    (h : (s.releasePayment env id').replay.seenAt id = some firstSeen) :
    s.replay.seenAt id = some firstSeen := by
  cases s with
  | memory m =>
    simp only [SessionStore.releasePayment, MemorySessionStore.releasePayment, replay,
      ReplayCache.seenAt, Table.get?_remove] at h ⊢
    split_ifs at h
    exact h
  | redis r =>
    cases hf : env.redis.fate with
    | unreached e =>
      simpa [SessionStore.releasePayment, RedisSessionStore.releasePayment, RedisFate.apply, hf] using h
    | _ =>
      simp only [SessionStore.releasePayment, RedisSessionStore.releasePayment, RedisFate.apply, hf,
        replay, ReplayCache.seenAt, Table.get?_remove] at h ⊢
      split_ifs at h
      · cases h
      · exact h

theorem seenAt_cleanupExpired {firstSeen : Nat}
    (h : (s.cleanupExpired env).2.replay.seenAt id = some firstSeen) :
    s.replay.seenAt id = some firstSeen := by
  cases s with
  | memory m =>
    simp only [SessionStore.cleanupExpired, MemorySessionStore.cleanupExpiredAt, replay,
      ReplayCache.seenAt, Prod.map_snd, Table.get?_retain] at h ⊢
    exact (Option.eq_some_of_filter_eq_some h)
  | redis r => exact h

/-! ## Everything else -/

theorem RedisFate.apply_unchanged {α σ β : Type} {f : σ → β} {before : σ}
    {reply : Except String α × σ} (fate : RedisFate) (h : f reply.2 = f before) :
    f (fate.apply before reply).2 = f before := by
  cases fate <;> simp [RedisFate.apply, h]

theorem spendScript_seen (r : RedisSessionStore) (key policy : String) (now : Nat) :
    (r.spendScript key policy now).2.seen = r.seen := by
  unfold spendScript
  repeat' split
  all_goals rfl

theorem createPipeline_seen (r : RedisSessionStore) (key : String) (session : RedisSession)
    (ttlSecs now : Nat) : (r.createPipeline key session ttlSecs now).2.seen = r.seen := by
  unfold createPipeline
  repeat' split
  all_goals rfl

variable [Platform]

theorem replay_consume (token : String) (policy : Option String) :
    (s.consume env token policy).2.replay = s.replay := by
  cases s with
  | memory m =>
    simp only [SessionStore.consume, MemorySessionStore.consumeAt, Prod.map_snd]
    repeat' split
    all_goals rfl
  | redis r =>
    simp only [SessionStore.consume, RedisSessionStore.consume, Prod.map_snd]
    cases r.codec.verify token env.now with
    | error e => rfl
    | ok claims =>
      have hseen := RedisFate.apply_unchanged (f := RedisSessionStore.seen) env.redis.fate
        (spendScript_seen r (key claims.sessionId) (policy.getD "") env.redis.serverNow)
      dsimp only
      split
      all_goals
        rename_i heq
        rw [heq] at hseen
        simpa [replay] using hseen

theorem replay_createSession (payer : String) (policy : Option String) (quota : Nat) :
    (s.createSession env payer policy quota ttlSecs).2.replay = s.replay := by
  cases s with
  | memory m => rfl
  | redis r =>
    simp only [SessionStore.createSession, RedisSessionStore.createSession, Prod.map_snd]
    have hseen := RedisFate.apply_unchanged (f := RedisSessionStore.seen) env.redis.fate
      (createPipeline_seen r (key (newSessionId env.raw))
        ⟨payer, quota, quota, policy.getD ""⟩ ttlSecs env.redis.serverNow)
    split
    all_goals
      rename_i heq
      rw [heq] at hseen
      simpa [replay] using hseen

end SessionStore

/-! ## The service's operations -/

/-- The operations that may change the replay cache. -/
def Op.onReplayCache : Op → Bool
  | .claimPayment .. | .releasePayment _ | .cleanupExpired => true
  | _ => false

theorem Service.exec_replay [Platform] (svc : Service) (env : Env) (s : AppState) {op : Op}
    (h : op.onReplayCache = false) :
    (svc.exec env s op).2.sessions.replay = s.sessions.replay := by
  cases op with
  | consume token policy => exact SessionStore.replay_consume token policy
  | createSession payer policy quota ttlSecs =>
    exact SessionStore.replay_createSession payer policy quota
  | claimPayment | releasePayment | cleanupExpired => cases h
  | _ => rfl

end X402Verifier
