import X402Verifier.ConfigChecked
import X402Verifier.DecisionRun
import X402Verifier.MessageCalls
import X402Verifier.ReplayCache
import X402Verifier.SessionSpec
import X402Verifier.Reference

/-!
# What a session is scoped to

Terms are resolved from a request's policy name and, when the config does not define it, from its
path (`Config.policyFor`). A session is scoped to the policy name alone, as the filter passed it in,
and Redis keeps no name and the empty name as one. So a session bought on one request serves another
one exactly when the store takes their names for one scope, whatever terms the paths are sold on.

`Resale` is a session bought on one request and presented on another, with anybody's calls between.
-/

namespace X402Verifier

open RustStd Interaction RedisSessionStore

/-! ## Labels -/

/-- Does the config define this policy? -/
def Config.defines (config : Config) (policy : Option String) : Bool :=
  policy.any fun name => (config.policies.get? name).isSome

/-- The label a path resolves to when its policy is not defined. -/
def Config.routeLabel (config : Config) (path : String) : String :=
  ((config.routeFor path).map (·.pathPrefix)).getD defaultPolicyLabel

theorem label_of_defines {config : Config} {name : String} (path : String)
    (h : config.defines (some name) = true) : (config.policyFor path (some name)).label = name := by
  obtain ⟨override, hoverride⟩ := Option.isSome_iff_exists.mp h
  simp [Config.policyFor, hoverride]

theorem label_of_not_defines {config : Config} {policy : Option String} (path : String)
    (h : config.defines policy = false) :
    (config.policyFor path policy).label = config.routeLabel path := by
  have hnone : (policy.bind fun name => (config.policies.get? name).map fun override => (name, override)) =
      none := by
    cases policy with
    | none => rfl
    | some name =>
      have hget : config.policies.get? name = none := by simpa [Config.defines] using h
      simp [hget]
  unfold Config.policyFor Config.routeLabel
  rw [hnone]
  cases config.routeFor path <;> rfl

variable [Platform]

theorem routeLabel_ne_empty {config : Config} (h : config.validate = .ok ()) (path : String) :
    config.routeLabel path ≠ "" := by
  unfold Config.routeLabel
  cases hroute : config.routeFor path with
  | none => decide
  | some route =>
    have hmem := longestPrefix_mem hroute
    exact ((checked_of_validate h).route route (List.mem_of_mem_filter hmem)).1

/-! ## Selling a session -/

/-- A session is minted for this policy only. -/
def MintsFor (policy : Option String) : Op → Prop
  | .createSession _ scope _ _ => scope = policy
  | _ => True

/-- A handler that mints for this policy only. -/
abbrev MintingFor {α : Type} (policy : Option String) (p : Handler α) : Prop :=
  ∀ trace, p.Follows (.trace (MintsFor policy)) (fun _ _ => True) trace

omit [Platform] in
theorem mintsFor_of_inDecision {policy : Option String} {op : Op} (h : InDecision policy op) :
    MintsFor policy op := by
  cases h with
  | createSession payer quota ttlSecs => rfl
  | _ => trivial

theorem mints_decide (svc : Service) (headers : HeaderView) (clientIp : Option IpAddr)
    (path : String) (policy : Option String) (resourceUrl : String) (settlePolicy : SettlePolicy) :
    MintingFor policy (svc.decide headers clientIp path policy resourceUrl settlePolicy) :=
  fun trace => (decides_decide svc headers clientIp path policy resourceUrl settlePolicy
    trace).allowing fun _ => mintsFor_of_inDecision

/-- The operations the response phase of a stream under `policy` may call. -/
inductive InResponse (policy : Option String) : Op → Prop
  | releasePayment (id : String) : InResponse policy (.releasePayment id)
  | settle (payload : PaymentPayload) (requirements : PaymentRequirements) :
      InResponse policy (.settle payload requirements)
  | breakerRecord (failed : Bool) : InResponse policy (.breakerRecord (breakerPolicy policy) failed)
  | createSession (payer : String) (quota ttlSecs : Nat) :
      InResponse policy (.createSession payer policy quota ttlSecs)

theorem responds_handleResponseHeaders (svc : Service) (st : StreamState)
    (headers : Option (List HeaderValue)) (settleMs : String) (trace : List (Event Op.Ret)) :
    (svc.handleResponseHeaders st headers settleMs).Follows (.trace (InResponse st.policy))
      (fun _ _ => True) trace := by
  refine (calls_handleResponseHeaders svc st headers settleMs).follows_trace
    fun calls out h => ⟨?_, trivial⟩
  cases h with
  | idle => exact List.forall_mem_nil _
  | failed holds failed released =>
    cases released with
    | unkeyed => exact List.forall_mem_nil _
    | released => exact List.forall_mem_singleton.mpr (.releasePayment _)
  | delivered holds delivered settled =>
    cases settled with
    | unpaid e =>
      exact List.forall_mem_cons.mpr
        ⟨.settle _ _, List.forall_mem_singleton.mpr (.breakerRecord true)⟩
    | paid receipt minted =>
      refine List.forall_mem_cons.mpr
        ⟨.settle _ _, List.forall_mem_cons.mpr ⟨.breakerRecord false, ?_⟩⟩
      cases minted with
      | nobody => exact List.forall_mem_nil _
      | minted | failed => exact List.forall_mem_singleton.mpr (.createSession _ _ _)

/-- What the request phase leaves for the response phase is under the request's policy. -/
theorem policy_of_requestHeaders (svc : Service) (headers : Option (List HeaderValue))
    (clientIp : Option IpAddr) (policy : Option String) (decideMs : String) (answer : Answers) :
    let st := ((svc.handleRequestHeaders {} headers clientIp policy decideMs).eval answer).1.2
    st.pending = none ∨ st.policy = policy := by
  intro st
  simp only [st, handleRequestHeaders_eq, Prog.eval_call]
  split
  · exact .inl rfl
  · rw [Prog.eval_bind]
    dsimp only
    split
    · exact .inr rfl
    · exact .inl rfl

/-- A call made for the request at `path` under `policy`: by ext_authz, or by either phase of an
ext_proc stream. -/
inductive Handles (svc : Service) : (path : String) → (policy : Option String) → Event Op.Ret → Prop
  | check (request : CheckRequest) (answer : Answers) {e : Event Op.Ret}
      (he : e ∈ ((svc.check request).eval answer).2) :
      Handles svc ((request.http.map (·.path)).getD "")
        (request.contextExtensions.get? policyContextKey) e
  | requestPhase (headers : Option (List HeaderValue)) (clientIp : Option IpAddr)
      (policy : Option String) (decideMs : String) (answer : Answers) {e : Event Op.Ret}
      (he : e ∈ ((svc.handleRequestHeaders {} headers clientIp policy decideMs).eval answer).2) :
      Handles svc (((headerMap headers).get? ":path").getD "") policy e
  | responsePhase (headers : Option (List HeaderValue)) (clientIp : Option IpAddr)
      (policy : Option String) (decideMs : String) (answer : Answers)
      (response : Option (List HeaderValue)) (settleMs : String) (answer' : Answers)
      {e : Event Op.Ret}
      (he : let st := ((svc.handleRequestHeaders {} headers clientIp policy decideMs).eval answer).1.2
        e ∈ ((svc.handleResponseHeaders st response settleMs).eval answer').2) :
      Handles svc (((headerMap headers).get? ":path").getD "") policy e

/-- What holds of every call of a decision, of the breaker's question and of every call of the
response phase holds of every call made for the request. -/
theorem Handles.may {svc : Service} {path : String} {policy : Option String} {e : Event Op.Ret}
    {p : Op → Prop} (h : Handles svc path policy e)
    (hdecide : ∀ headers clientIp resourceUrl settlePolicy trace,
      (svc.decide headers clientIp path policy resourceUrl settlePolicy).Follows (.trace p)
        (fun _ _ => True) trace)
    (hbreaker : p (.breakerState (breakerPolicy policy)))
    (hresponse : ∀ op, InResponse policy op → p op) : p e.1 := by
  cases h with
  | check request answer he =>
    have hcheck : (svc.check request).Follows (.trace p) (fun _ _ => True) [] :=
      (hdecide _ _ _ .immediate []).bind_any fun _ _ => trivial
    exact (hcheck.eval answer).2 _ he
  | requestPhase headers clientIp _ decideMs answer he =>
    have hrequest : (svc.handleRequestHeaders {} headers clientIp policy decideMs).Follows
        (.trace p) (fun _ _ => True) [] := by
      refine .perform hbreaker fun breaker _ => ?_
      split
      · trivial
      · refine (hdecide _ _ _ .deferred _).bind fun trace d _ => ?_
        cases d <;> trivial
    exact (hrequest.eval answer).2 _ he
  | responsePhase headers clientIp _ decideMs answer response settleMs answer' he =>
    dsimp only at he
    have hpolicy := policy_of_requestHeaders svc headers clientIp policy decideMs answer
    generalize ((svc.handleRequestHeaders {} headers clientIp policy decideMs).eval answer).1.2 =
      st at he hpolicy
    rcases hpolicy with hnone | rfl
    · unfold Service.handleResponseHeaders at he
      rw [hnone] at he
      cases he
    · have hresponds := responds_handleResponseHeaders svc st response settleMs []
      exact hresponse _ ((hresponds.eval answer').2 _ he)

/-- **What is sold.** A session minted for a request is scoped to the request's policy name. -/
theorem Handles.scope {svc : Service} {path : String} {policy : Option String} {payer : String}
    {scope : Option String} {quota ttlSecs : Nat} {token : Except StoreError String}
    (h : Handles svc path policy ⟨.createSession payer scope quota ttlSecs, token⟩) :
    scope = policy := by
  refine h.may (p := MintsFor policy) (fun headers clientIp resourceUrl settlePolicy =>
    mints_decide svc headers clientIp path policy resourceUrl settlePolicy) trivial ?_
  intro op hop
  cases hop with
  | createSession payer quota ttlSecs => rfl
  | _ => trivial

/-! ## Scopes in the store -/

omit [Platform] in
/-- The scope a store makes of a policy name. -/
def SessionStore.scope (s : SessionStore) (policy : Option String) : Option String :=
  match s with
  | .memory _ => policy
  | .redis _ => some (policy.getD "")

omit [Platform] in
theorem scope_memory (m m' : MemorySessionStore) :
    (SessionStore.memory m).scope = (SessionStore.memory m').scope := rfl

omit [Platform] in
theorem scope_redis (r r' : RedisSessionStore) :
    (SessionStore.redis r).scope = (SessionStore.redis r').scope := rfl

omit [Platform] in
/-- The scope of a stored session. -/
def SessionStore.scopeAt (s : SessionStore) (sessionId : String) : Option (Option String) :=
  match s with
  | .memory m => (m.sessions.get? sessionId).map (·.policy)
  | .redis r => (r.sessions.get? (key sessionId)).map fun entry => some entry.value.policy

theorem scopeAt_createSession {s : SessionStore} {env : StoreEnv} {payer : String}
    {policy : Option String} {quota ttlSecs : Nat} {token : String}
    (h : (s.createSession env payer policy quota ttlSecs).1 = .ok token) :
    let s' := (s.createSession env payer policy quota ttlSecs).2
    s'.scope = s.scope ∧ ∀ v ∈ s'.scopeAt (newSessionId env.raw), v = s.scope policy := by
  cases s with
  | memory m =>
    refine ⟨scope_memory _ _, ?_⟩
    simp [SessionStore.createSession, MemorySessionStore.createSessionAt, SessionStore.scopeAt,
      SessionStore.scope]
  | redis r =>
    simp only [SessionStore.createSession, RedisSessionStore.createSession, Prod.map_fst,
      Prod.map_snd] at h ⊢
    cases hfate : env.redis.fate with
    | unreached e => simp [RedisFate.apply, hfate] at h
    | replyLost e => simp [RedisFate.apply, hfate] at h
    | answered =>
      simp only [RedisFate.apply, hfate, createPipeline] at h ⊢
      split_ifs at h ⊢
      · refine ⟨scope_redis _ _, ?_⟩
        simp [SessionStore.scopeAt]
      · refine ⟨scope_redis _ _, ?_⟩
        simp [SessionStore.scopeAt, SessionStore.scope]
      · cases h

omit [Platform] in
theorem policy_spendScript (r : RedisSessionStore) (k policy : String) (now : Nat) (k' : String) :
    ((r.spendScript k policy now).2.sessions.get? k').map (·.value.policy) =
      (r.sessions.get? k').map (·.value.policy) := by
  unfold spendScript
  cases hget : redisGet r.sessions k now with
  | none => rfl
  | some session =>
    dsimp only
    split
    · rfl
    split
    · rfl
    split
    · rfl
    have hvalue := redisGet_value hget
    by_cases hk : k' = k
    · subst hk
      obtain ⟨entry, hentry, rfl⟩ := Option.map_eq_some_iff.mp hvalue
      simp [hentry]
    · rw [Table.get?_insert_ne _ _ hk]

omit [Platform] in
theorem sessions_createPipeline_ne (r : RedisSessionStore) {k k' : String} (session : RedisSession)
    (ttlSecs now : Nat) (hne : k' ≠ k) :
    (r.createPipeline k session ttlSecs now).2.sessions.get? k' = r.sessions.get? k' := by
  unfold createPipeline
  split_ifs
  · exact Table.get?_remove_ne _ hne
  · exact Table.get?_insert_ne _ _ hne
  · exact Table.get?_insert_ne _ _ hne

/-- Spending, claiming and releasing leave every scope as it is. -/
theorem scopeAt_consume (s : SessionStore) (env : StoreEnv) (token : String)
    (policy : Option String) (id : String) :
    let s' := (s.consume env token policy).2
    s'.scope = s.scope ∧ s'.scopeAt id = s.scopeAt id := by
  cases s with
  | memory m =>
    simp only [SessionStore.consume, Prod.map_snd]
    refine ⟨scope_memory _ _, ?_⟩
    simp only [SessionStore.scopeAt]
    rcases m.consumeAt_cases token policy env.now with ⟨reason, hrejected⟩ |
      ⟨claims, session, remaining, -, hget, -, -, -, haccepted⟩
    · rw [hrejected]
    · rw [haccepted]
      by_cases hid : id = claims.sessionId
      · subst hid
        simp [hget]
      · rw [Table.get?_insert_ne _ _ hid]
  | redis r =>
    simp only [SessionStore.consume, RedisSessionStore.consume, Prod.map_snd]
    cases r.codec.verify token env.now with
    | error e => exact ⟨scope_redis _ _, rfl⟩
    | ok claims =>
      have hscopes := SessionStore.RedisFate.apply_unchanged
        (f := fun r : RedisSessionStore => (r.sessions.get? (key id)).map (·.value.policy)) env.redis.fate
        (policy_spendScript r (key claims.sessionId) (policy.getD "") env.redis.serverNow (key id))
      dsimp only
      split
      all_goals
        rename_i heq
        rw [heq] at hscopes
        refine ⟨scope_redis _ _, ?_⟩
        simpa [SessionStore.scopeAt, Function.comp_def] using congrArg (Option.map some) hscopes

theorem scopeAt_createSession_ne (s : SessionStore) (env : StoreEnv) (payer : String)
    (policy : Option String) (quota ttlSecs : Nat) {id : String} (hne : id ≠ newSessionId env.raw) :
    let s' := (s.createSession env payer policy quota ttlSecs).2
    s'.scope = s.scope ∧ s'.scopeAt id = s.scopeAt id := by
  cases s with
  | memory m =>
    refine ⟨scope_memory _ _, ?_⟩
    simp [SessionStore.createSession, MemorySessionStore.createSessionAt, SessionStore.scopeAt,
      Table.get?_insert_ne _ _ hne]
  | redis r =>
    simp only [SessionStore.createSession, RedisSessionStore.createSession, Prod.map_snd]
    have hsessions := SessionStore.RedisFate.apply_unchanged
      (f := fun r : RedisSessionStore => r.sessions.get? (key id)) env.redis.fate
      (sessions_createPipeline_ne r ⟨payer, quota, quota, policy.getD ""⟩ ttlSecs
        env.redis.serverNow (mt key_inj.mp hne))
    split
    all_goals
      rename_i heq
      rw [heq] at hsessions
      refine ⟨scope_redis _ _, ?_⟩
      simpa [SessionStore.scopeAt] using congrArg
        (Option.map fun entry : Expiring RedisSession => some entry.value.policy) hsessions

omit [Platform] in
theorem scopeAt_claimPayment (s : SessionStore) (env : StoreEnv) (paymentId : String)
    (ttlSecs : Nat) (id : String) :
    let s' := (s.claimPayment env paymentId ttlSecs).2
    s'.scope = s.scope ∧ s'.scopeAt id = s.scopeAt id := by
  cases s with
  | memory m =>
    refine ⟨scope_memory _ _, ?_⟩
    simp only [SessionStore.claimPayment, MemorySessionStore.claimPaymentAt, Prod.map_snd,
      SessionStore.scopeAt]
    repeat' split
    all_goals rfl
  | redis r =>
    have hscript : (r.claimScript (replayKey paymentId) env.now ttlSecs
        env.redis.serverNow).2.sessions = r.sessions := by
      unfold claimScript
      repeat' split
      all_goals rfl
    have hsessions := SessionStore.RedisFate.apply_unchanged (f := RedisSessionStore.sessions)
      env.redis.fate hscript
    simp only [SessionStore.claimPayment, RedisSessionStore.claimPayment, Prod.map_snd]
    split
    all_goals
      rename_i heq
      rw [heq] at hsessions
      refine ⟨scope_redis _ _, ?_⟩
      simp only [SessionStore.scopeAt]
      rw [hsessions]

omit [Platform] in
theorem scopeAt_releasePayment (s : SessionStore) (env : StoreEnv) (paymentId id : String) :
    let s' := s.releasePayment env paymentId
    s'.scope = s.scope ∧ s'.scopeAt id = s.scopeAt id := by
  cases s with
  | memory m => exact ⟨scope_memory _ _, rfl⟩
  | redis r =>
    refine ⟨scope_redis _ _, ?_⟩
    cases hfate : env.redis.fate <;>
      simp [SessionStore.releasePayment, RedisSessionStore.releasePayment, RedisFate.apply, hfate,
        SessionStore.scopeAt]

omit [Platform] in
theorem scopeAt_cleanupExpired (s : SessionStore) (env : StoreEnv) (id : String) :
    let s' := (s.cleanupExpired env).2
    s'.scope = s.scope ∧ ∀ v ∈ s'.scopeAt id, v ∈ s.scopeAt id := by
  cases s with
  | redis r => exact ⟨rfl, fun _ hv => hv⟩
  | memory m =>
    refine ⟨scope_memory _ _, ?_⟩
    simp only [SessionStore.cleanupExpired, MemorySessionStore.cleanupExpiredAt, Prod.map_snd,
      SessionStore.scopeAt, Table.get?_retain]
    intro v hv
    obtain ⟨session, hsession, rfl⟩ := Option.map_eq_some_iff.mp hv
    exact Option.map_eq_some_iff.mpr ⟨session, (Option.filter_eq_some_iff.mp hsession).1, rfl⟩

/-- **What other calls do to a scope.** They leave it, or drop the session. -/
theorem scopeAt_exec (svc : Service) (env : Env) (s : AppState) (op : Op) {id : String}
    (hfresh : ∀ payer scope quota ttlSecs, op = .createSession payer scope quota ttlSecs →
      newSessionId env.store.raw ≠ id) :
    let s' := (svc.exec env s op).2
    s'.sessions.scope = s.sessions.scope ∧
      ∀ v ∈ s'.sessions.scopeAt id, v ∈ s.sessions.scopeAt id := by
  cases op with
  | consume token policy =>
    obtain ⟨hscope, hat⟩ := scopeAt_consume s.sessions env.store token policy id
    exact ⟨hscope, fun v hv => hat ▸ hv⟩
  | createSession payer policy quota ttlSecs =>
    have hne : id ≠ newSessionId env.store.raw := (hfresh _ _ _ _ rfl).symm
    obtain ⟨hscope, hat⟩ := scopeAt_createSession_ne s.sessions env.store payer policy quota ttlSecs hne
    exact ⟨hscope, fun v hv => hat ▸ hv⟩
  | claimPayment paymentId ttlSecs =>
    obtain ⟨hscope, hat⟩ := scopeAt_claimPayment s.sessions env.store paymentId ttlSecs id
    exact ⟨hscope, fun v hv => hat ▸ hv⟩
  | releasePayment paymentId =>
    obtain ⟨hscope, hat⟩ := scopeAt_releasePayment s.sessions env.store paymentId id
    exact ⟨hscope, fun v hv => hat ▸ hv⟩
  | cleanupExpired => exact scopeAt_cleanupExpired s.sessions env.store id
  | _ => exact ⟨rfl, fun _ hv => hv⟩

/-- One call of any actor. -/
def Service.callStep (svc : Service) (s : AppState) (c : Env × Op) : AppState :=
  (svc.exec c.1 s c.2).2

/-- A call that does not draw this session id. -/
def DrawsOther (id : String) (c : Env × Op) : Prop :=
  ∀ payer scope quota ttlSecs, c.2 = .createSession payer scope quota ttlSecs →
    newSessionId c.1.store.raw ≠ id

theorem scopeAt_callSteps (svc : Service) {id : String} {calls : List (Env × Op)}
    (hfresh : ∀ c ∈ calls, DrawsOther id c) (s : AppState) :
    let s' := calls.foldl svc.callStep s
    s'.sessions.scope = s.sessions.scope ∧
      ∀ v ∈ s'.sessions.scopeAt id, v ∈ s.sessions.scopeAt id := by
  induction calls generalizing s with
  | nil => exact ⟨rfl, fun _ hv => hv⟩
  | cons c calls ih =>
    obtain ⟨hc, hcalls⟩ := List.forall_mem_cons.mp hfresh
    obtain ⟨hscope, hkept⟩ := scopeAt_exec svc c.1 s c.2 hc
    obtain ⟨hscope', hkept'⟩ := ih hcalls (svc.callStep s c)
    exact ⟨hscope'.trans hscope, fun v hv => hkept v (hkept' v hv)⟩

/-! ## Presenting a session -/

/-- The token authenticates for this session, which has not expired and has requests left. -/
def SessionStore.Spendable (s : SessionStore) (env : StoreEnv) (token id : String) : Prop :=
  match s with
  | .memory m => (∃ claims, m.codec.verify token env.now = .ok claims ∧ claims.sessionId = id) ∧
    ∃ session, m.sessions.get? id = some session ∧ env.now < session.expiresAt ∧
      0 < session.quotaRemaining
  | .redis r => (∃ claims, r.codec.verify token env.now = .ok claims ∧ claims.sessionId = id) ∧
    env.redis.fate = .answered ∧
    ∃ session, redisGet r.sessions (key id) env.redis.serverNow = some session ∧
      0 < session.quota ∧ session.quota < i64Bound

theorem SessionStore.Spendable.scopeAt_isSome {s : SessionStore} {env : StoreEnv}
    {token id : String} (h : s.Spendable env token id) : (s.scopeAt id).isSome = true := by
  cases s with
  | memory m =>
    obtain ⟨-, session, hget, -⟩ := h
    simp [SessionStore.scopeAt, hget]
  | redis r =>
    obtain ⟨-, -, session, hget, -⟩ := h
    obtain ⟨entry, hentry, -⟩ := Option.map_eq_some_iff.mp (redisGet_value hget)
    simp [SessionStore.scopeAt, hentry]

omit [Platform] in
def SessionOutcome.isAccepted : SessionOutcome → Bool
  | .accepted .. => true
  | .rejected _ => false

/-- **A session with requests left** is accepted exactly under its own scope. -/
theorem consume_accepted_iff {s : SessionStore} {env : StoreEnv} {token id : String}
    (h : s.Spendable env token id) (policy : Option String) :
    (s.consume env token policy).1.isAccepted = true ↔ s.scopeAt id = some (s.scope policy) := by
  cases s with
  | memory m =>
    obtain ⟨⟨claims, hverify, rfl⟩, session, hget, hlive, hquota⟩ := h
    obtain ⟨remaining, hremaining⟩ := Nat.exists_eq_add_one.mpr hquota
    by_cases hpolicy : session.policy = policy <;>
      simp [SessionStore.consume, MemorySessionStore.consumeAt, hverify, hget,
        Nat.not_le.mpr hlive, hpolicy, hremaining, spendOne, SessionOutcome.isAccepted,
        SessionStore.scopeAt, SessionStore.scope]
  | redis r =>
    obtain ⟨⟨claims, hverify, rfl⟩, hfate, session, hget, hquota, hfits⟩ := h
    obtain ⟨entry, hentry, rfl⟩ := Option.map_eq_some_iff.mp (redisGet_value hget)
    have hscope : (SessionStore.redis r).scopeAt claims.sessionId = some (some entry.value.policy) := by
      simp [SessionStore.scopeAt, hentry]
    rw [hscope]
    by_cases hpolicy : entry.value.policy = policy.getD "" <;>
      simp [SessionStore.consume, RedisSessionStore.consume, hverify, hfate, RedisFate.apply,
        spendScript, hget, hpolicy, hquota.ne', Nat.not_le.mpr hfits, SessionOutcome.isAccepted,
        SessionStore.scope]

/-- A request served from a session it holds. -/
def Decision.servedFromSession : Decision → Bool
  | .allow .paid (some _) none none none (.session ..) => true
  | _ => false

/-- A request that was just charged is not served from a session. -/
theorem unserved_of_settlement (tier : Tier) (payer token : Option String)
    (receipt : SettlementResponse) (pending : Option PendingPayment) (meter : Meter) :
    (Decision.allow tier payer token (some receipt) pending meter).servedFromSession = false := by
  cases tier <;> cases payer <;> cases token <;> rfl

theorem Service.PaymentCalls.unserved {svc : Service} {terms : Terms} {policy : Option String}
    {settlePolicy : SettlePolicy} {decoded : Except HeaderDecodeError PaymentPayload}
    {calls : List (Event Op.Ret)} {d : Decision}
    (h : svc.PaymentCalls terms policy settlePolicy decoded calls d) :
    d.servedFromSession = false := by
  cases h with
  | settled claimed receipt minted => exact unserved_of_settlement _ _ _ _ _ _
  | _ => rfl

theorem Terms.FreeCalls.unserved {terms : Terms} {clientIp : Option IpAddr}
    {calls : List (Event Op.Ret)} {d : Decision} (h : terms.FreeCalls clientIp calls d) :
    d.servedFromSession = false := by
  cases h <;> rfl

/-- **Served from a session.** Exactly if the store accepts the presented token. -/
theorem servedFromSession_decide (svc : Service) {headers : HeaderView} {token : String}
    (htoken : presentedToken headers = some token) (clientIp : Option IpAddr) (path : String)
    (policy : Option String) (resourceUrl : String) (settlePolicy : SettlePolicy)
    (answer : Answers) :
    ((svc.decide headers clientIp path policy resourceUrl settlePolicy).eval
        answer).1.servedFromSession = (answer 0 (.consume token policy)).isAccepted := by
  obtain ⟨outcome, houtcome⟩ :
    ∃ o, (answer 0 (.consume token policy) : SessionOutcome) = o := ⟨_, rfl⟩
  simp only [Service.decide, honorSession, htoken, call, Prog.bind_eq, Prog.perform_bind,
    Prog.call_bind, Prog.eval_call, houtcome]
  cases outcome with
  | accepted payer remaining quota expiresAt => rfl
  | rejected reason =>
    cases presentedPayment headers with
    | none => exact (calls_decideFree _ clientIp _).unserved
    | some decoded => exact (calls_decidePayment svc _ policy settlePolicy decoded _).unserved

/-! ## Whole resales -/

/-- A session bought on one request and presented on another while it can be spent, with any calls
of anybody between. -/
structure Resale (svc : Service) (path₁ : String) (policy₁ : Option String) (path₂ : String)
    (policy₂ : Option String) where
  payer : String
  scope : Option String
  quota : Nat
  ttlSecs : Nat
  token : String
  sold : Handles svc path₁ policy₁ ⟨.createSession payer scope quota ttlSecs, .ok token⟩
  mintEnv : Env
  before : AppState
  minted : (svc.exec mintEnv before (.createSession payer scope quota ttlSecs)).1 = .ok token
  others : List (Env × Op)
  fresh : ∀ c ∈ others, DrawsOther (newSessionId mintEnv.store.raw) c
  presentEnv : Env
  spendable : (others.foldl svc.callStep
      (svc.callStep before (mintEnv, .createSession payer scope quota ttlSecs))).sessions.Spendable
    presentEnv.store token (newSessionId mintEnv.store.raw)
  headers : HeaderView
  presents : presentedToken headers = some token
  clientIp : Option IpAddr
  resourceUrl : String
  settlePolicy : SettlePolicy
  answer : Answers
  answered : answer 0 (.consume token policy₂) = (svc.exec presentEnv (others.foldl svc.callStep
      (svc.callStep before (mintEnv, .createSession payer scope quota ttlSecs)))
    (.consume token policy₂)).1

/-- The second request is served from the session. -/
def Resale.accepted {svc : Service} {path₁ : String} {policy₁ : Option String} {path₂ : String}
    {policy₂ : Option String} (x : Resale svc path₁ policy₁ path₂ policy₂) : Bool :=
  ((svc.decide x.headers x.clientIp path₂ policy₂ x.resourceUrl x.settlePolicy).eval
    x.answer).1.servedFromSession

/-- It is served from it exactly if the store takes both policy names for one scope. -/
theorem Resale.accepted_iff {svc : Service} {path₁ : String} {policy₁ : Option String}
    {path₂ : String} {policy₂ : Option String} (x : Resale svc path₁ policy₁ path₂ policy₂) :
    x.accepted = true ↔ x.before.sessions.scope policy₁ = x.before.sessions.scope policy₂ := by
  obtain ⟨hscope, hstored⟩ := scopeAt_createSession x.minted
  have hsold : x.before.sessions.scope x.scope = x.before.sessions.scope policy₁ :=
    congrArg _ x.sold.scope
  obtain ⟨hscope', hkept⟩ := scopeAt_callSteps svc x.fresh
    (svc.callStep x.before (x.mintEnv, .createSession x.payer x.scope x.quota x.ttlSecs))
  have hlater := hscope'.trans hscope
  unfold Resale.accepted
  rw [servedFromSession_decide svc x.presents, x.answered]
  refine (consume_accepted_iff x.spendable policy₂).trans ?_
  rw [hlater]
  constructor
  · intro hat
    exact hsold.symm.trans (hstored _ (hkept _ hat)).symm
  · intro hsame
    obtain ⟨v, hv⟩ : ∃ v, SessionStore.scopeAt _ _ = some v :=
      Option.isSome_iff_exists.mp x.spendable.scopeAt_isSome
    rw [hv, hstored v (hkept v hv), hsold, hsame]

/-- The requests' names are two scopes to the store, or one name that the config defines, or none
that it defines, on paths under one route. -/
def TermsTold (config : Config) (scope : Option String → Option String) (path₁ : String)
    (policy₁ : Option String) (path₂ : String) (policy₂ : Option String) : Prop :=
  scope policy₁ ≠ scope policy₂ ∨
  (policy₁ = policy₂ ∧ config.defines policy₁ = true) ∨
  (config.defines policy₁ = false ∧ config.defines policy₂ = false ∧
    config.routeLabel path₁ = config.routeLabel path₂)

omit [Platform] in
/-- A defined name and an undefined one that are one scope: the empty name and none, on Redis. -/
theorem eq_empty_of_scope_eq {config : Config} {s : SessionStore} {name : String}
    {policy : Option String} (hscope : s.scope (some name) = s.scope policy)
    (hname : config.defines (some name) = true) (hpolicy : config.defines policy = false) :
    name = "" := by
  have hne : some name ≠ policy := by
    rintro rfl
    rw [hname] at hpolicy
    cases hpolicy
  cases s with
  | memory m => exact absurd hscope hne
  | redis r =>
    cases policy with
    | none => simpa [SessionStore.scope] using hscope
    | some name' => exact absurd (by simpa [SessionStore.scope] using hscope) hne

/-- When two names are one scope, the labels agree in the other two cases only. -/
theorem label_eq_iff {config : Config} (hvalid : config.validate = .ok ()) {s : SessionStore}
    {policy₁ policy₂ : Option String} (hscope : s.scope policy₁ = s.scope policy₂)
    (path₁ path₂ : String) :
    (config.policyFor path₁ policy₁).label = (config.policyFor path₂ policy₂).label ↔
      (policy₁ = policy₂ ∧ config.defines policy₁ = true) ∨
      (config.defines policy₁ = false ∧ config.defines policy₂ = false ∧
        config.routeLabel path₁ = config.routeLabel path₂) := by
  cases h₁ : config.defines policy₁ with
  | true =>
    obtain ⟨name₁, rfl⟩ : ∃ name, policy₁ = some name := by
      cases policy₁ with
      | none => cases h₁
      | some name => exact ⟨name, rfl⟩
    rw [label_of_defines path₁ h₁]
    cases h₂ : config.defines policy₂ with
    | true =>
      obtain ⟨name₂, rfl⟩ : ∃ name, policy₂ = some name := by
        cases policy₂ with
        | none => cases h₂
        | some name => exact ⟨name, rfl⟩
      rw [label_of_defines path₂ h₂]
      simp
    | false =>
      -- One scope nevertheless: Redis stores no policy as the empty name.
      obtain rfl := eq_empty_of_scope_eq hscope h₁ h₂
      have hne : some "" ≠ policy₂ := by
        rintro rfl
        rw [h₁] at h₂
        cases h₂
      rw [label_of_not_defines path₂ h₂]
      simp [hne, (routeLabel_ne_empty hvalid path₂).symm]
  | false =>
    rw [label_of_not_defines path₁ h₁]
    cases h₂ : config.defines policy₂ with
    | true =>
      obtain ⟨name₂, rfl⟩ : ∃ name, policy₂ = some name := by
        cases policy₂ with
        | none => cases h₂
        | some name => exact ⟨name, rfl⟩
      rw [label_of_defines path₂ h₂, eq_empty_of_scope_eq hscope.symm h₂ h₁]
      simp [routeLabel_ne_empty hvalid path₁]
    | false =>
      rw [label_of_not_defines path₂ h₂]
      simp

/-- **A session keeps to its terms.** For a validated config: when a session that was bought on one
request is presented on another, while it can be spent, it is refused or the two requests resolve to
one label, exactly if the names tell their terms apart. -/
theorem session_keeps_its_terms_iff (svc : Service) (hvalid : svc.config.validate = .ok ())
    {path₁ : String} {policy₁ : Option String} {path₂ : String} {policy₂ : Option String}
    (x : Resale svc path₁ policy₁ path₂ policy₂) :
    (x.accepted = true →
      (svc.config.policyFor path₁ policy₁).label = (svc.config.policyFor path₂ policy₂).label) ↔
    TermsTold svc.config x.before.sessions.scope path₁ policy₁ path₂ policy₂ := by
  rw [x.accepted_iff, TermsTold]
  by_cases hscope : x.before.sessions.scope policy₁ = x.before.sessions.scope policy₂
  · rw [label_eq_iff hvalid hscope path₁ path₂]
    simp [hscope]
  · simp [hscope]

/-! ## A session bought on the default terms -/

section Example

omit [Platform]

theorem mint_mem_decidePayment [Platform] (svc : Service) (terms : Terms) (policy : Option String)
    {payload : PaymentPayload} {id payer token : String} {receipt : SettlementResponse}
    {answer : Answers} (hid : paymentId payload = some id)
    (hclaim : answer 0 (.claimPayment id (replayTtl terms.requirements.maxTimeoutSeconds)) =
      PaymentClaim.fresh)
    (hsettle : answer 1 (.settle payload terms.requirements) = .ok receipt)
    (hpayer : receipt.payer = some payer)
    (hmint : answer 2 (.createSession payer policy terms.resolved.paidTier.quota
      terms.resolved.paidTier.durationSecs) = .ok token) :
    ⟨.createSession payer policy terms.resolved.paidTier.quota
      terms.resolved.paidTier.durationSecs, .ok token⟩ ∈
      ((svc.decidePayment terms policy .immediate (.ok payload)).eval answer).2 := by
  simp [Service.decidePayment, claimPresented, hid, call, hclaim, Service.settlePresented, hsettle,
    mintSession, hpayer, hmint]

/-- The example deployment, with a route that is sold dearer. -/
def routedConfig : Config :=
  { exampleConfig .stubAcceptAll with
    routes := [{ pathPrefix := "/premium", overrides := { amount := some "1000000" } }] }

def routedService : Service := .ofConfig routedConfig

def routedKey : Bytes := List.replicate 32 0xcd

def routedStore : MemorySessionStore := .ofConfig routedConfig routedKey

def routedStart : AppState := { sessions := .memory routedStore, limiter := .memory {} }

/-- The session's id is these bytes, sixteen times `ab` in hex. -/
def routedEnv : Env := ⟨{ now := 1000, raw := List.replicate 16 0xab }, emptyNode⟩

def routedPayer : String := "0x709e80c88487a2411e1ee4dfb9f22a861492d20c4765150c0c794abd70f8147c"

/-- The example values, with the MAC of the session's token. -/
@[reducible] def routedTables : Tables :=
  { exampleTables with
    hmacSha256 :=
      [((routedKey,
          utf8 (TokenCodec.signedPart routedPayer "4600" "abababababababababababababababab")),
        [47, 24, 9, 210, 8, 29, 222, 224, 144, 42, 85, 38, 155, 13, 202, 199, 97, 116, 240, 130, 102,
          189, 130, 107, 47, 29, 103, 213, 211, 73, 225, 193])] }

@[reducible] def routedPlatform : Platform :=
  ({ routedTables with
    json := [(utf8 (paymentText "1000"), paymentTree "1000")] } : Tables).platform

/-- The call that mints the session. -/
abbrev routedMint : Op := .createSession routedPayer none 100 3600

def routedToken : String :=
  let _ : Platform := routedPlatform
  routedStore.codec.mint routedPayer 4600 (newSessionId routedEnv.store.raw)

/-- Every call is performed on the new store. -/
def routedAnswers : Answers := fun _ op =>
  let _ : Platform := routedPlatform
  (routedService.exec routedEnv routedStart op).1

theorem routedConfig_validate : @Config.validate routedPlatform routedConfig = .ok () := rfl

/-- What the memory store answers to a mint, and the session it then holds. -/
theorem exec_createSession_memory [Platform] (svc : Service) {env : Env} {s : AppState}
    {m : MemorySessionStore} (hs : s.sessions = .memory m) {payer : String}
    {policy : Option String} {quota ttlSecs expiresAt : Nat}
    (hexpires : saturatingAdd env.store.now ttlSecs = expiresAt) :
    svc.exec env s (.createSession payer policy quota ttlSecs) =
      (.ok (m.codec.mint payer expiresAt (newSessionId env.store.raw)),
        { s with
          sessions := .memory { m with
            sessions := m.sessions.insert (newSessionId env.store.raw)
              ⟨payer, policy, expiresAt, quota, quota⟩ } }) := by
  simp [Service.exec, hs, SessionStore.createSession, MemorySessionStore.createSessionAt, hexpires]

theorem routedMint_exec :
    let _ : Platform := routedPlatform
    routedService.exec routedEnv routedStart routedMint =
      (.ok routedToken, { routedStart with
        sessions := .memory { routedStore with
          sessions := routedStore.sessions.insert (newSessionId routedEnv.store.raw)
            ⟨routedPayer, none, 4600, 100, 100⟩ } }) := by
  intro _
  have hexpires : saturatingAdd routedEnv.store.now 3600 = 4600 := by decide
  exact exec_createSession_memory (m := routedStore) (s := routedStart) routedService rfl hexpires

theorem routedMint_answer :
    let _ : Platform := routedPlatform
    (routedService.exec routedEnv routedStart routedMint).1 = .ok routedToken := by
  intro _
  rw [routedMint_exec]

theorem tokenField_routed :
    let _ : Platform := routedPlatform
    TokenField routedPayer.toList ∧ TokenField (newSessionId routedEnv.store.raw).toList ∧
      ∀ bytes, TokenField (Platform.hexEncode bytes).toList :=
  ⟨tokenField_iff_all.mpr (by decide +kernel), String.toList_ofList ▸ tokenField_hexChars _,
    fun bytes => String.toList_ofList ▸ tokenField_hexChars bytes⟩

theorem routedToken_verify :
    let _ : Platform := routedPlatform
    routedStore.codec.verify routedToken routedEnv.store.now =
      .ok ⟨routedPayer, 4600, newSessionId routedEnv.store.raw⟩ := by
  intro _
  obtain ⟨hpayer, hid, hhex⟩ := tokenField_routed
  refine TokenCodec.verify_mint hpayer hid hhex ?_ (by decide) (by decide)
  exact fun bytes => (congrArg hexBytes String.toList_ofList).trans (hexBytes_hexChars bytes)

/-- A token in its own header. -/
def sessionHeaders (token : String) : HeaderView := ⟨some (Table.insert ∅ headerPaymentSession token)⟩

theorem presentedToken_sessionHeaders [Platform] {token : String} (h : isBlank token = false) :
    presentedToken (sessionHeaders token) = some token := by
  have hpayment : presentedPayment (sessionHeaders token) = none := by
    rw [presentedPayment, sessionHeaders, HeaderView.get_insert_ne _ _ (by decide +kernel)]
    rfl
  have hget : (sessionHeaders token).get headerPaymentSession = some token := by
    simp [sessionHeaders, HeaderView.get, h]
  rw [presentedToken, hpayment, hget]
  rfl

theorem routedToken_presented :
    let _ : Platform := routedPlatform
    presentedToken (sessionHeaders routedToken) = some routedToken := by
  intro _
  obtain ⟨hpayer, hid, hhex⟩ := tokenField_routed
  exact presentedToken_sessionHeaders (isBlank_mint hpayer hid hhex)

/-- The request that pays, on the default terms. -/
def routedRequest : CheckRequest :=
  { http := some
      { host := ""
        path := "/"
        scheme := ""
        headers := Table.insert ∅ headerPaymentSignature (encodedHeader (paymentText "1000")) }
    clientAddress := none
    contextExtensions := ∅ }

theorem routed_sold :
    let _ : Platform := routedPlatform
    Handles routedService "/" none ⟨routedMint, .ok routedToken⟩ := by
  intro _
  let terms := routedService.termsFor "/" none "/"
  have hne : utf8 (paymentText "1000") ≠ [] := by decide +kernel
  have hpayment : presentedPayment (paymentHeaders "1000") =
      some (.ok (payloadAccepting "1000")) := by
    rw [presentedPayment, get_paymentHeaders "1000" hne]
    exact congrArg some (decodeHeader_encodedHeader routedTables (fromJson_paymentTree "1000"))
  have htoken : presentedToken (paymentHeaders "1000") = none := by
    rw [presentedToken, hpayment]
    rfl
  have hclaim : routedAnswers 0 (.claimPayment exampleId
      (replayTtl terms.requirements.maxTimeoutSeconds)) = PaymentClaim.fresh := rfl
  obtain ⟨receipt, hsettle, hpayer⟩ : ∃ receipt : SettlementResponse,
      routedAnswers 1 (.settle (payloadAccepting "1000") terms.requirements) = .ok receipt ∧
        receipt.payer = some routedPayer := ⟨_, rfl, by decide +kernel⟩
  have hmint : routedAnswers 2 routedMint = .ok routedToken := routedMint_answer
  have hsold := mint_mem_decidePayment routedService terms none
    (by decide +kernel : paymentId (payloadAccepting "1000") = some exampleId) hclaim hsettle hpayer
    hmint
  have hdecide : routedService.decide (paymentHeaders "1000") none "/" none "/" .immediate =
      routedService.decidePayment terms none .immediate (.ok (payloadAccepting "1000")) :=
    decide_of_payment routedService htoken hpayment
  rw [← hdecide] at hsold
  have hpolicy : routedRequest.contextExtensions.get? policyContextKey = none :=
    Table.get?_empty _
  have hcheck : ⟨routedMint, .ok routedToken⟩ ∈
      ((routedService.check routedRequest).eval routedAnswers).2 := by
    rw [Service.check, Prog.bind_eq, Prog.eval_bind]
    refine List.mem_append_left _ ?_
    rw [hpolicy]
    exact hsold
  rw [← hpolicy]
  exact Handles.check routedRequest routedAnswers hcheck

theorem routed_spendable :
    let _ : Platform := routedPlatform
    (routedService.callStep routedStart (routedEnv, routedMint)).sessions.Spendable
      routedEnv.store routedToken (newSessionId routedEnv.store.raw) := by
  intro _
  rw [Service.callStep, routedMint_exec]
  exact ⟨⟨_, routedToken_verify, rfl⟩, _, Table.get?_insert_self _ _ _, by decide, by decide⟩

/-- The session is bought on the default terms, and presented on the dearer route. -/
def routedResale : @Resale routedPlatform routedService "/" none "/premium" none :=
  let _ : Platform := routedPlatform
  { payer := routedPayer
    scope := none
    quota := 100
    ttlSecs := 3600
    token := routedToken
    sold := routed_sold
    mintEnv := routedEnv
    before := routedStart
    minted := routedMint_answer
    others := []
    fresh := fun _ hc => absurd hc List.not_mem_nil
    presentEnv := routedEnv
    spendable := routed_spendable
    headers := sessionHeaders routedToken
    presents := routedToken_presented
    clientIp := none
    resourceUrl := "/premium"
    settlePolicy := .immediate
    answer := fun _ op =>
      (routedService.exec routedEnv (routedService.callStep routedStart (routedEnv, routedMint)) op).1
    answered := rfl }

theorem session_keeps_its_terms_iff_example :
    let _ : Platform := routedPlatform
    (routedResale.accepted = true →
      (routedConfig.policyFor "/" none).label = (routedConfig.policyFor "/premium" none).label) ↔
    TermsTold routedConfig routedStart.sessions.scope "/" none "/premium" none :=
  @session_keeps_its_terms_iff routedPlatform routedService routedConfig_validate _ _ _ _
    routedResale

/-- **One session for every path.** A session bought on the default terms is accepted on a route
that is sold at a thousand times the price. -/
theorem session_crosses_routes :
    ¬ ∀ (_ : Platform) (svc : Service), svc.config.validate = .ok () →
      ∀ (path₁ : String) (policy₁ : Option String) (path₂ : String) (policy₂ : Option String)
        (x : Resale svc path₁ policy₁ path₂ policy₂), x.accepted = true →
        (svc.config.policyFor path₁ policy₁).label =
          (svc.config.policyFor path₂ policy₂).label := by
  intro h
  have haccepted : @Resale.accepted routedPlatform _ _ _ _ _ routedResale = true :=
    (@Resale.accepted_iff routedPlatform _ _ _ _ _ routedResale).mpr rfl
  have hlabels := h routedPlatform routedService routedConfig_validate _ _ _ _ routedResale haccepted
  revert hlabels
  decide +kernel

end Example

end X402Verifier
