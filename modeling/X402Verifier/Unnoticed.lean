import X402Verifier.Reference
import X402Verifier.RequestCalls
import X402Verifier.RustStd.Thinned
import X402Verifier.SessionScope
import X402Verifier.Told

/-!
# Work nobody notices

Two kinds of actors serve nobody else: a tick of the sweeper frees memory, and a `POST /verify`
answers its caller.

**Ticks.** A store that was not swept holds entries a swept one lacks, all of them past use
(`Thinner`): sessions that have ended, payments first seen longer ago than the store retains them,
counters idle for two windows. A session that has ended is not honored, a lapsed claim is given out
again, and a counter rolled past two windows starts from zero. So both stores answer alike, as long as
no claim asks for more than the store retains and a counter is always checked with one window
(`Steady`), which is what a configuration promises of the gateway (`Config.SteadyUnder`).

**Verification** changes nothing that is shared, under any configuration.
-/

namespace X402Verifier

open RustStd Interaction

/-! ## Stores that were not swept -/

section Stores

variable {retention now : Nat} {windowOf : String → Nat}

/-- The first store lacks entries of the second that are past use. -/
structure ThinnedSessions (retention now : Nat) (m m' : MemorySessionStore) : Prop where
  codec : m.codec = m'.codec
  retains : m.replayRetentionSecs = retention ∧ m'.replayRetentionSecs = retention
  sessions : Table.Thinned (fun _ session => session.expiresAt ≤ now) m.sessions m'.sessions
  seenPayments : Table.Thinned (fun _ firstSeen => retention ≤ now - firstSeen) m.seenPayments
    m'.seenPayments

/-- The first limiter lacks counters of the second that have been idle for two windows. -/
structure ThinnedWindows (windowOf : String → Nat) (now : Nat) (l l' : MemoryRateLimiter) :
    Prop where
  windows : Table.Thinned (fun _ w => w.start < now - 2 * w.windowSecs) l.windows l'.windows
  windowSecs : ∀ key w, l'.windows.get? key = some w →
    w.windowSecs = windowOf key ∧ 2 * w.windowSecs < u64Bound

variable {m m' : MemorySessionStore} {l l' : MemoryRateLimiter}

theorem ThinnedSessions.later {later : Nat} (h : ThinnedSessions retention now m m')
    (hle : now ≤ later) : ThinnedSessions retention later m m' :=
  { h with
    sessions := h.sessions.mono fun _ _ hended => hended.trans hle
    seenPayments := h.seenPayments.mono fun _ _ hlapsed => hlapsed.trans (Nat.sub_le_sub_right hle _) }

theorem ThinnedWindows.later {later : Nat} (h : ThinnedWindows windowOf now l l')
    (hle : now ≤ later) : ThinnedWindows windowOf later l l' :=
  { h with
    windows := h.windows.mono fun _ _ hidle => by omega }

/-! ### Sweeping -/

theorem ThinnedSessions.sweep (h : ThinnedSessions retention now m m') :
    ThinnedSessions retention now (m.cleanupExpiredAt now).2 m' where
  codec := h.codec
  retains := h.retains
  sessions := h.sessions.retain fun _ session _ hdropped => by
    simpa using hdropped
  seenPayments := h.seenPayments.retain fun _ firstSeen _ hdropped => by
    simpa [h.retains.1] using hdropped

theorem ThinnedSessions.sweep_both (h : ThinnedSessions retention now m m') :
    ThinnedSessions retention now (m.cleanupExpiredAt now).2 (m'.cleanupExpiredAt now).2 where
  codec := h.codec
  retains := h.retains
  sessions := h.sessions.retain_both
  seenPayments := by
    have hboth := h.seenPayments.retain_both (p := fun _ firstSeen => now - firstSeen < retention)
    simpa [MemorySessionStore.cleanupExpiredAt, h.retains.1, h.retains.2] using hboth

theorem ThinnedWindows.sweep (h : ThinnedWindows windowOf now l l') :
    ThinnedWindows windowOf now (l.cleanupIdleAt now).2 l' where
  windows := h.windows.retain fun key w hget hdropped => by
    have hfits := (h.windowSecs key w hget).2
    rw [wrappingMul_of_lt (by omega)] at hdropped
    simp at hdropped
    omega
  windowSecs := h.windowSecs

theorem ThinnedWindows.sweep_both (h : ThinnedWindows windowOf now l l') :
    ThinnedWindows windowOf now (l.cleanupIdleAt now).2 (l'.cleanupIdleAt now).2 where
  windows := h.windows.retain_both
  windowSecs key w hget := by
    refine h.windowSecs key w ?_
    simp only [MemoryRateLimiter.cleanupIdleAt, Table.get?_retain, Option.filter_eq_some_iff] at hget
    exact hget.1

/-! ### What is read and written -/

theorem ThinnedSessions.claim (h : ThinnedSessions retention now m m') (id : String) {ttlSecs : Nat}
    (httl : ttlSecs ≤ retention) :
    (m.claimPaymentAt id ttlSecs now).1 = (m'.claimPaymentAt id ttlSecs now).1 ∧
      ThinnedSessions retention now (m.claimPaymentAt id ttlSecs now).2
        (m'.claimPaymentAt id ttlSecs now).2 := by
  have hinserted : ThinnedSessions retention now
      { m with seenPayments := m.seenPayments.insert id now }
      { m' with seenPayments := m'.seenPayments.insert id now } :=
    { h with seenPayments := h.seenPayments.insert id now }
  unfold MemorySessionStore.claimPaymentAt
  rcases h.seenPayments id with heq | ⟨hnone, firstSeen, hsome, hlapsed⟩
  · rw [heq]
    cases m'.seenPayments.get? id with
    | none => exact ⟨rfl, hinserted⟩
    | some firstSeen =>
      dsimp only
      split_ifs
      · exact ⟨rfl, hinserted⟩
      · exact ⟨rfl, h⟩
  · rw [hnone, hsome]
    dsimp only
    rw [if_pos (httl.trans hlapsed)]
    exact ⟨rfl, hinserted⟩

theorem ThinnedSessions.release (h : ThinnedSessions retention now m m') (id : String) :
    ThinnedSessions retention now (m.releasePayment id) (m'.releasePayment id) :=
  { h with seenPayments := h.seenPayments.remove id }

variable [Platform]

theorem ThinnedSessions.create (h : ThinnedSessions retention now m m') (payer : String)
    (policy : Option String) (quota ttlSecs : Nat) (raw : Bytes) :
    (m.createSessionAt payer policy quota ttlSecs now raw).1 =
        (m'.createSessionAt payer policy quota ttlSecs now raw).1 ∧
      ThinnedSessions retention now (m.createSessionAt payer policy quota ttlSecs now raw).2
        (m'.createSessionAt payer policy quota ttlSecs now raw).2 := by
  refine ⟨?_, { h with sessions := h.sessions.insert _ _ }⟩
  simp only [MemorySessionStore.createSessionAt, h.codec]

theorem ThinnedSessions.consume (h : ThinnedSessions retention now m m') (token : String)
    (policy : Option String) :
    ToldAlike (.consume token policy) (m.consumeAt token policy now).1
        (m'.consumeAt token policy now).1 ∧
      ThinnedSessions retention now (m.consumeAt token policy now).2
        (m'.consumeAt token policy now).2 := by
  have hverify : m.codec.verify token now = m'.codec.verify token now := by rw [h.codec]
  unfold MemorySessionStore.consumeAt
  rw [hverify]
  cases m'.codec.verify token now with
  | error rejection => exact ⟨.inl rfl, h⟩
  | ok claims =>
    dsimp only
    rcases h.sessions claims.sessionId with heq | ⟨hnone, session, hsome, hended⟩
    · rw [heq]
      cases m'.sessions.get? claims.sessionId with
      | none => exact ⟨.inl rfl, h⟩
      | some session =>
        dsimp only
        split_ifs
        · exact ⟨.inl rfl, h⟩
        · exact ⟨.inl rfl, h⟩
        · cases spendOne session.quotaRemaining with
          | none => exact ⟨.inl rfl, h⟩
          | some remaining => exact ⟨.inl rfl, { h with sessions := h.sessions.insert _ _ }⟩
    · rw [hnone, hsome]
      dsimp only
      rw [if_pos hended]
      exact ⟨.inr ⟨_, _, rfl, rfl⟩, h⟩

omit [Platform] in
theorem windowSecs_rollTo (w : RateWindow) (windowStart windowSecs : Nat) :
    (w.rollTo windowStart windowSecs).windowSecs = windowSecs := by
  unfold RateWindow.rollTo
  split_ifs <;> rfl

omit [Platform] in
/-- A counter idle for two windows starts over. -/
theorem rollTo_of_idle {w : RateWindow} (hidle : w.start < now - 2 * w.windowSecs)
    (hpos : 0 < w.windowSecs) :
    w.rollTo (now - now % w.windowSecs) w.windowSecs =
      ⟨now - now % w.windowSecs, 0, 0, w.windowSecs⟩ := by
  have hmod := Nat.mod_lt now hpos
  rw [RateWindow.rollTo, if_pos (by omega), if_neg (by omega)]

omit [Platform] in
theorem ThinnedWindows.insert (h : ThinnedWindows windowOf now l l') {key : String} {w : RateWindow}
    (hwindow : w.windowSecs = windowOf key) (hfits : 2 * w.windowSecs < u64Bound) :
    ThinnedWindows windowOf now ⟨l.windows.insert key w⟩ ⟨l'.windows.insert key w⟩ where
  windows := h.windows.insert key w
  windowSecs key' w' hget := by
    rw [Table.get?_insert] at hget
    split_ifs at hget with hkey
    · cases hget
      exact ⟨hkey ▸ hwindow, hfits⟩
    · exact h.windowSecs key' w' hget

omit [Platform] in
theorem ThinnedWindows.check (h : ThinnedWindows windowOf now l l') (policy : String) (ip : IpAddr)
    (maxRequests : Nat) {windowSecs : Nat} (hwindow : windowSecs = windowOf (keyFor policy ip))
    (hpos : 0 < windowSecs) (hfits : 2 * windowSecs < u64Bound) :
    (l.checkAt policy ip maxRequests windowSecs now).1 =
        (l'.checkAt policy ip maxRequests windowSecs now).1 ∧
      ThinnedWindows windowOf now (l.checkAt policy ip maxRequests windowSecs now).2
        (l'.checkAt policy ip maxRequests windowSecs now).2 := by
  have hrolled : ((l.windows.get? (keyFor policy ip)).getD
        ⟨now - now % windowSecs, 0, 0, windowSecs⟩).rollTo (now - now % windowSecs) windowSecs =
      ((l'.windows.get? (keyFor policy ip)).getD
        ⟨now - now % windowSecs, 0, 0, windowSecs⟩).rollTo (now - now % windowSecs) windowSecs := by
    rcases h.windows (keyFor policy ip) with heq | ⟨hnone, w, hsome, hidle⟩
    · rw [heq]
    · have hsecs : w.windowSecs = windowSecs := (h.windowSecs _ _ hsome).1.trans hwindow.symm
      subst hsecs
      rw [hnone, hsome, Option.getD_none, Option.getD_some, rollTo_of_idle hidle hpos,
        RateWindow.rollTo, if_neg (lt_irrefl _)]
  unfold MemoryRateLimiter.checkAt
  dsimp only
  rw [hrolled]
  split_ifs
  · refine ⟨rfl, h.insert ?_ ?_⟩
    · rw [windowSecs_rollTo, hwindow]
    · rwa [windowSecs_rollTo]
  · refine ⟨rfl, h.insert ?_ ?_⟩
    · exact (windowSecs_rollTo ..).trans hwindow
    · exact (windowSecs_rollTo ..).symm ▸ hfits

end Stores

/-! ## Missed ticks -/

variable [Platform]

/-- No claim asks for more than the store retains, and a counter is always checked with one window. -/
def Steady (retention : Nat) (windowOf : String → Nat) : Op → Prop
  | .claimPayment _ ttlSecs => ttlSecs ≤ retention
  | .check policy ip _ windowSecs =>
    windowSecs = windowOf (keyFor policy ip) ∧ 0 < windowSecs ∧ 2 * windowSecs < u64Bound
  | _ => True

/-- The first state lacks what some ticks reaped. Both are kept in memory. -/
structure Thinner (retention : Nat) (windowOf : String → Nat) (now : Nat) (s s' : AppState) :
    Prop where
  sessions : ∃ m m', s.sessions = .memory m ∧ s'.sessions = .memory m' ∧
    ThinnedSessions retention now m m'
  limiter : ∃ l l', s.limiter = .memory l ∧ s'.limiter = .memory l' ∧
    ThinnedWindows windowOf now l l'
  breaker : s.breaker = s'.breaker
  broadcast : s.broadcast = s'.broadcast

section Thinner

variable {retention now : Nat} {windowOf : String → Nat} {s s' : AppState}

omit [Platform] in
theorem Thinner.later {later : Nat} (h : Thinner retention windowOf now s s') (hle : now ≤ later) :
    Thinner retention windowOf later s s' := by
  obtain ⟨⟨m, m', hs, hs', hm⟩, ⟨l, l', hl, hl', hw⟩, hbreaker, hbroadcast⟩ := h
  exact ⟨⟨m, m', hs, hs', hm.later hle⟩, ⟨l, l', hl, hl', hw.later hle⟩, hbreaker, hbroadcast⟩

/-- A tick reaps what is past use. -/
theorem Thinner.hides {svc : Service} {env : Env} {op : Op}
    (hop : op = .cleanupExpired ∨ op = .cleanupIdle)
    (h : Thinner retention windowOf env.store.now s s') :
    Thinner retention windowOf env.store.now (svc.exec env s op).2 s' := by
  obtain ⟨sessions, limiter, breaker, broadcast⟩ := s
  obtain ⟨⟨m, m', hs, hs', hm⟩, ⟨l, l', hl, hl', hw⟩, hbreaker, hbroadcast⟩ := h
  subst hs hl
  rcases hop with rfl | rfl
  · exact ⟨⟨_, m', rfl, hs', hm.sweep⟩, ⟨l, l', rfl, hl', hw⟩, hbreaker, hbroadcast⟩
  · exact ⟨⟨m, m', rfl, hs', hm⟩, ⟨_, l', rfl, hl', hw.sweep⟩, hbreaker, hbroadcast⟩

/-- And nobody is answered differently. -/
theorem Thinner.keeps {svc : Service} {env : Env} {op : Op} (hop : Steady retention windowOf op)
    (h : Thinner retention windowOf env.store.now s s') :
    ToldAlike op (svc.exec env s op).1 (svc.exec env s' op).1 ∧
      Thinner retention windowOf env.store.now (svc.exec env s op).2 (svc.exec env s' op).2 := by
  obtain ⟨sessions, limiter, breaker, broadcast⟩ := s
  obtain ⟨sessions', limiter', breaker', broadcast'⟩ := s'
  obtain ⟨⟨m, m', hs, hs', hm⟩, ⟨l, l', hl, hl', hw⟩, hbreaker, hbroadcast⟩ := h
  dsimp only at hs hs' hl hl' hbreaker hbroadcast
  subst hs hs' hl hl' hbreaker hbroadcast
  have hsessions : ∃ m₁ m₁', SessionStore.memory m = .memory m₁ ∧
      SessionStore.memory m' = .memory m₁' ∧ ThinnedSessions retention env.store.now m₁ m₁' :=
    ⟨m, m', rfl, rfl, hm⟩
  have hlimiter : ∃ l₁ l₁', RateLimiter.memory l = .memory l₁ ∧
      RateLimiter.memory l' = .memory l₁' ∧ ThinnedWindows windowOf env.store.now l₁ l₁' :=
    ⟨l, l', rfl, rfl, hw⟩
  cases op with
  | nowEpochSecs => exact ⟨rfl, hsessions, hlimiter, rfl, rfl⟩
  | consume token policy =>
    obtain ⟨halike, hafter⟩ := hm.consume token policy
    rw [exec_consume, exec_consume]
    simp only [SessionStore.consume, Prod.map_fst, Prod.map_snd, id_eq]
    exact ⟨halike, ⟨_, _, rfl, rfl, hafter⟩, hlimiter, rfl, rfl⟩
  | claimPayment id ttlSecs =>
    obtain ⟨hsame, hafter⟩ := hm.claim id hop
    exact ⟨hsame, ⟨_, _, rfl, rfl, hafter⟩, hlimiter, rfl, rfl⟩
  | releasePayment id => exact ⟨rfl, ⟨_, _, rfl, rfl, hm.release id⟩, hlimiter, rfl, rfl⟩
  | createSession payer policy quota ttlSecs =>
    obtain ⟨hsame, hafter⟩ := hm.create payer policy quota ttlSecs env.store.raw
    exact ⟨congrArg Except.ok hsame, ⟨_, _, rfl, rfl, hafter⟩, hlimiter, rfl, rfl⟩
  | cleanupExpired => exact ⟨trivial, ⟨_, _, rfl, rfl, hm.sweep_both⟩, hlimiter, rfl, rfl⟩
  | check policy ip maxRequests windowSecs =>
    obtain ⟨hwindow, hpos, hfits⟩ := hop
    obtain ⟨hsame, hafter⟩ := hw.check policy ip maxRequests hwindow hpos hfits
    exact ⟨hsame, hsessions, ⟨_, _, rfl, rfl, hafter⟩, rfl, rfl⟩
  | cleanupIdle => exact ⟨trivial, hsessions, ⟨_, _, rfl, rfl, hw.sweep_both⟩, rfl, rfl⟩
  | breakerState policy => exact ⟨rfl, hsessions, hlimiter, rfl, rfl⟩
  | breakerRecord policy failed => exact ⟨rfl, hsessions, hlimiter, rfl, rfl⟩
  | verify payload requirements => exact ⟨rfl, hsessions, hlimiter, rfl, rfl⟩
  | settle payload requirements => exact ⟨rfl, hsessions, hlimiter, rfl, rfl⟩

end Thinner

/-- The state with the ticks is thinner than the one without. -/
def tickUnwinding (svc : Service) (retention : Nat) (windowOf : String → Nat) :
    Unwinding svc.front.exec fun env : Env => env.store.now where
  related := Thinner retention windowOf
  alike := ToldAlike
  silent op := op = .cleanupExpired ∨ op = .cleanupIdle
  may := Steady retention windowOf
  later hle h := h.later hle
  hides _ hop h := h.hides hop
  keeps _ hop h := h.keeps hop

omit [Platform] in
/-- Whoever is only sent ticks only sweeps. -/
theorem sweeps_of_mayCall {svc : Service} {sent : Message → Prop} {op : Op}
    (hticks : ∀ msg, sent msg → msg = .tick) (h : MayCall svc sent op) :
    op = .cleanupExpired ∨ op = .cleanupIdle := by
  cases h with
  | cleanupExpired => exact .inl rfl
  | cleanupIdle => exact .inr rfl
  | request hsent asksFor => cases hticks _ hsent; cases asksFor
  | postVerify hsent | postClaim hsent | postSettle hsent | postRelease hsent =>
    cases hticks _ hsent

/-! ## Steady configurations -/

/-- What the gateway asks of the stores on its own account: claims no longer than they are retained,
and one window for each counter. -/
structure Config.SteadyUnder (config : Config) (windowOf : String → Nat) : Prop where
  retains : ∀ path policy, replayTtl (config.policyFor path policy).payment.maxTimeoutSeconds ≤
    config.paidTier.durationSecs
  counts : ∀ path policy ip,
    (config.policyFor path policy).freeTier.windowSecs =
        windowOf (keyFor (config.policyFor path policy).label ip) ∧
      0 < (config.policyFor path policy).freeTier.windowSecs ∧
      2 * (config.policyFor path policy).freeTier.windowSecs < u64Bound

omit [Platform] in
/-- **The calls of a run are steady**, if those of its settlements are. -/
theorem steady_of_mayCall {svc : Service} {windowOf : String → Nat} {sent : Message → Prop} {op : Op}
    (hconfig : svc.config.SteadyUnder windowOf)
    (hsettle : ∀ request, sent (.postSettle request) →
      replayTtl request.paymentRequirements.maxTimeoutSeconds ≤ svc.config.paidTier.durationSecs)
    (h : MayCall svc sent op) : Steady svc.config.paidTier.durationSecs windowOf op := by
  cases h with
  | postClaim hsent id => exact hsettle _ hsent
  | postVerify | postSettle | postRelease | cleanupExpired | cleanupIdle => trivial
  | @request msg path policy _ hsent hasksFor hasks =>
    cases hasks with
    | claimPayment id => exact hconfig.retains path policy
    | check ip => exact hconfig.counts path policy ip
    | nowEpochSecs | consume | releasePayment | createSession | breakerState | breakerRecord
    | verify | settle => trivial

/-- **Missed ticks go unnoticed.** Under a steady configuration, take ticks of the sweeper out of an
interleaving. Everybody else makes the same calls and is told the same, and the same transactions are
handed to the network. -/
theorem missed_ticks_go_unnoticed {config : Config} (hmacKey : Bytes) {windowOf : String → Nat}
    (hconfig : config.SteadyUnder windowOf) (missed : Nat → Prop) [DecidablePred missed]
    (acts : List SystemAction) (hmissed : ∀ a msg, missed a → .deliver a msg ∈ acts → msg = .tick)
    (hsettle : ∀ a request, .deliver a (.postSettle request) ∈ acts →
      replayTtl request.paymentRequirements.maxTimeoutSeconds ≤ config.paidTier.durationSecs)
    (hclock : InOrder (fun env : Env => env.store.now) 0 acts) :
    let front := (Service.ofConfig config).front
    let start := frontStart (.ofConfig config hmacKey)
    let all := front.run start acts
    let rest := front.run start (without missed acts)
    (∀ a, ¬ missed a → all.task a = rest.task a) ∧
      List.Forall₂ (Machine.SameCall ToldAlike) (all.log.filter (¬ missed ·.1)) rest.log ∧
      all.shared.breaker = rest.shared.breaker ∧ all.shared.broadcast = rest.shared.broadcast := by
  intro front start all rest
  let U := tickUnwinding (.ofConfig config) config.paidTier.durationSecs windowOf
  have hempty : Thinner config.paidTier.durationSecs windowOf 0 (.ofConfig config hmacKey)
      (.ofConfig config hmacKey) :=
    ⟨⟨_, _, rfl, rfl, rfl, ⟨rfl, rfl⟩, .refl _, .refl _⟩,
      ⟨_, _, rfl, rfl, .refl _, fun key w hget => by simp at hget⟩, rfl, rfl⟩
  have hstart : Machine.Erased U missed 0 start start :=
    .of_idle hempty (fun a => ⟨_, rfl⟩) rfl
  have hcalls := (front_on_terms (.ofConfig config) (.ofConfig config hmacKey) acts).2
  have hsilent : ∀ entry ∈ all.log, missed entry.1 → U.silent entry.2.1 :=
    fun entry hentry ha => sweeps_of_mayCall (fun msg => hmissed entry.1 msg ha) (hcalls entry hentry)
  have hsteady : ∀ entry ∈ all.log, ¬ missed entry.1 → U.may entry.2.1 :=
    fun entry hentry _ => steady_of_mayCall hconfig (hsettle entry.1) (hcalls entry hentry)
  obtain ⟨now, herased⟩ := hstart.run (indifferent_front _) hclock (fun _ _ _ _ => trivial) (fun _ _ _ _ => trivial)
    hsilent hsteady
  exact ⟨herased.task, herased.log, herased.shared.breaker, herased.shared.broadcast⟩

omit [Platform] in
theorem steadyUnder_exampleConfig : (exampleConfig .stubAcceptAll).SteadyUnder fun _ => 60 := by
  have hdefault : ∀ path policy, (exampleConfig .stubAcceptAll).policyFor path policy =
      (exampleConfig .stubAcceptAll).defaultPolicy := fun path policy => by
    cases policy <;> rfl
  constructor
  · intro path policy
    rw [hdefault]
    decide
  · intro path policy ip
    rw [hdefault]
    decide

/-- Two free requests, and between them a tick that reaps the counter of the first. -/
def tickedRun : List SystemAction :=
  [.deliver 1 (.check ⟨none, some "192.0.2.1", ∅⟩), .advance 1 (exampleEnv 1000),
    .deliver 0 .tick, .advance 0 (exampleEnv 2000), .advance 0 (exampleEnv 2000),
    .deliver 2 (.check ⟨none, some "192.0.2.1", ∅⟩), .advance 2 (exampleEnv 3000)]

omit [Platform] in
theorem missed_ticks_go_unnoticed_example :
    let _ : Platform := examplePlatform
    let front := (Service.ofConfig (exampleConfig .stubAcceptAll)).front
    let start := frontStart (.ofConfig (exampleConfig .stubAcceptAll) [])
    let all := front.run start tickedRun
    let rest := front.run start (without (· = 0) tickedRun)
    (all.log.filter (¬ ·.1 = 0)).length = 2 ∧ (∀ a, ¬ a = 0 → all.task a = rest.task a) ∧
      List.Forall₂ (Machine.SameCall ToldAlike) (all.log.filter (¬ ·.1 = 0)) rest.log ∧
      all.shared.breaker = rest.shared.breaker ∧ all.shared.broadcast = rest.shared.broadcast := by
  intro _
  refine ⟨by decide +kernel,
    missed_ticks_go_unnoticed [] steadyUnder_exampleConfig (· = 0) tickedRun ?_ ?_ ?_⟩
  · rintro a msg rfl hmem
    simpa [tickedRun] using hmem
  · intro a request hmem
    simp [tickedRun] at hmem
  · show [0, 1000, 2000, 2000, 3000].Pairwise (· ≤ ·)
    decide

/-! ## Verification -/

/-- Both states are the same, with and without the verifications. -/
def verifyUnwinding (svc : Service) : Unwinding svc.front.exec fun _ : Env => (0 : Nat) where
  related _ s s' := s = s'
  alike _ answer answer' := answer = answer'
  silent op := ∃ payload requirements, op = .verify payload requirements
  may _ := True
  later _ h := h
  hides := by
    rintro _ _ _ _ - ⟨payload, requirements, rfl⟩ rfl
    rfl
  keeps := by
    rintro _ _ _ _ - - rfl
    exact ⟨rfl, rfl⟩

omit [Platform] in
/-- Whoever only calls `POST /verify` only verifies. -/
theorem verifies_of_mayCall {svc : Service} {sent : Message → Prop} {op : Op}
    (hverify : ∀ msg, sent msg → ∃ request, msg = .postVerify request) (h : MayCall svc sent op) :
    ∃ payload requirements, op = .verify payload requirements := by
  cases h with
  | postVerify hsent => exact ⟨_, _, rfl⟩
  | request hsent asksFor => obtain ⟨request, rfl⟩ := hverify _ hsent; cases asksFor
  | postClaim hsent | postSettle hsent | postRelease hsent | cleanupExpired hsent
  | cleanupIdle hsent =>
    obtain ⟨request, hmsg⟩ := hverify _ hsent
    cases hmsg

/-- **Verifying goes unnoticed.** Take the callers of `POST /verify` out of an interleaving: everybody
else makes the same calls, is answered and told the same, and the state they share is the same. That
one verification leaves the state alone is `Service.exec` at `.verify`; that its callers make no other
call is `front_on_terms`. -/
theorem verifying_goes_unnoticed (svc : Service) (shared : AppState) (verifying : Nat → Prop)
    [DecidablePred verifying] (acts : List SystemAction)
    (hverifying : ∀ a msg, verifying a → .deliver a msg ∈ acts → ∃ request, msg = .postVerify request) :
    let full := svc.front.run (frontStart shared) acts
    let rest := svc.front.run (frontStart shared) (without verifying acts)
    full.shared = rest.shared ∧ (∀ a, ¬ verifying a → full.task a = rest.task a) ∧
      full.log.filter (¬ verifying ·.1) = rest.log := by
  intro full rest
  have hsilent : ∀ entry ∈ full.log, verifying entry.1 → (verifyUnwinding svc).silent entry.2.1 :=
    fun entry hentry ha => verifies_of_mayCall (fun msg => hverifying entry.1 msg ha)
      ((front_on_terms svc shared acts).2 entry hentry)
  have hstart : Machine.Erased (verifyUnwinding svc) verifying 0 (frontStart shared)
      (frontStart shared) := .of_idle rfl (fun a => ⟨_, rfl⟩) rfl
  obtain ⟨t, herased⟩ := hstart.run (fun _ _ => Prog.blind_eq _) (inOrder_const 0 acts) (fun _ _ _ _ => trivial)
    (fun _ _ _ _ => trivial) hsilent fun _ _ _ => trivial
  exact ⟨herased.shared, herased.task, Machine.eq_of_sameCall herased.log⟩

/-- A verification between the two steps of a free request. -/
def verifiedRun : List SystemAction :=
  [.deliver 1 (.check ⟨none, some "192.0.2.1", ∅⟩),
    .deliver 0 (.postVerify ⟨2, examplePayload, .fromConfig (exampleConfig .stubAcceptAll).payment⟩),
    .advance 0 (exampleEnv 1000), .advance 1 (exampleEnv 1000)]

omit [Platform] in
theorem verifying_goes_unnoticed_example :
    let _ : Platform := examplePlatform
    let front := (Service.ofConfig (exampleConfig .stubAcceptAll)).front
    let start := frontStart (.ofConfig (exampleConfig .stubAcceptAll) [])
    let full := front.run start verifiedRun
    let rest := front.run start (without (· = 0) verifiedRun)
    full.log.length = 2 ∧ full.shared = rest.shared ∧ (∀ a, ¬ a = 0 → full.task a = rest.task a) ∧
      full.log.filter (¬ ·.1 = 0) = rest.log := by
  intro _
  refine ⟨by decide +kernel, verifying_goes_unnoticed _ _ (· = 0) verifiedRun ?_⟩
  rintro a msg rfl hmem
  simp [verifiedRun] at hmem
  exact ⟨_, hmem⟩

end X402Verifier
