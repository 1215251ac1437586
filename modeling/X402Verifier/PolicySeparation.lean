import X402Verifier.MeterMoves
import X402Verifier.PeerAddress
import X402Verifier.PolicyResolution

/-!
# Requests under different entries

Free-tier buckets are kept under the label of the entry a request resolves to, and breaker windows
under the policy name the request came with. Both are plain text. A policy's name, a route's prefix
and the reserved label can be spelt alike; and requests that resolve to different routes may come
with one name, or with none.

`UsesOnly` is what a request's calls touch (`Handles.usesOnly`), and `standing_callSteps` the frame:
what they do not touch is unchanged, whoever else calls in between. `separate_iff` says when two
requests under different entries are kept apart.
-/

namespace X402Verifier

open RustStd Interaction RedisRateLimiter

/-! ## One route for one prefix -/

/-- The last of the longest routes is the last of those with its prefix. -/
theorem longestPrefix_filter {routes : List RouteOverride} {best : RouteOverride}
    (h : longestPrefix routes = some best) :
    longestPrefix (routes.filter (·.pathPrefix = best.pathPrefix)) = some best := by
  induction routes generalizing best with
  | nil => cases h
  | cons first rest ih =>
    rw [longestPrefix] at h
    cases hrest : longestPrefix rest with
    | none =>
      rw [hrest] at h
      cases h
      rw [longestPrefix_eq_none.mp hrest]
      simp [longestPrefix]
    | some later =>
      rw [hrest] at h
      dsimp only at h
      split_ifs at h with hlt
      · cases h
        have hnone : rest.filter (·.pathPrefix = first.pathPrefix) = [] := by
          refine List.filter_eq_nil_iff.mpr fun route hroute heq => ?_
          have hle := longestPrefix_max hrest route hroute
          rw [of_decide_eq_true heq] at hle
          omega
        rw [List.filter_cons_of_pos (by simp), hnone]
        rfl
      · cases h
        by_cases hsame : first.pathPrefix = best.pathPrefix
        · rw [List.filter_cons_of_pos (by simpa using hsame), longestPrefix, ih hrest]
          exact if_neg hlt
        · rw [List.filter_cons_of_neg (by simpa using hsame)]
          exact ih hrest

/-- Two paths in force under one prefix are under one route. -/
theorem routeFor_eq_of_pathPrefix_eq {config : Config} {path path' : String}
    {route route' : RouteOverride} (h : config.routeFor path = some route)
    (h' : config.routeFor path' = some route') (hpath : route.pathPrefix = route'.pathPrefix) :
    route = route' := by
  have hfiltered : ∀ {path : String} {route : RouteOverride}, config.routeFor path = some route →
      longestPrefix (config.routes.filter (·.pathPrefix = route.pathPrefix)) = some route := by
    intro path route hroute
    have hcovers := (longest_of_routeFor hroute).covers
    rw [← longestPrefix_filter hroute, List.filter_filter]
    congr 1
    refine List.filter_congr fun other _ => ?_
    by_cases heq : other.pathPrefix = route.pathPrefix
    · simp [heq, hcovers]
    · simp [heq]
  have hroute := hfiltered h
  rw [hpath, hfiltered h'] at hroute
  exact (Option.some.inj hroute).symm

/-! ## Spelling -/

/-- Entries of two kinds have one text: a policy's name and a prefix, or one of them and the reserved
label. -/
def Entry.SpeltAlike : Entry → Entry → Prop
  | .named name, .prefixed route | .prefixed route, .named name => name = route.pathPrefix
  | .named name, .defaults | .defaults, .named name => name = defaultPolicyLabel
  | .prefixed route, .defaults | .defaults, .prefixed route => route.pathPrefix = defaultPolicyLabel
  | _, _ => False

/-- Two requests come with one policy name. To come with none is to come with the reserved one. -/
inductive SameName : Option String → Option String → Prop
  | same (policy : Option String) : SameName policy policy
  | unnamed : SameName none (some defaultPolicyLabel)
  | reserved : SameName (some defaultPolicyLabel) none

theorem breakerPolicy_eq_iff [Platform] {policy policy' : Option String} :
    breakerPolicy policy = breakerPolicy policy' ↔ SameName policy policy' := by
  constructor
  · intro h
    cases policy with
    | none =>
      cases policy' with
      | none => exact .same none
      | some name =>
        cases (show defaultPolicyLabel = name from h)
        exact .unnamed
    | some name =>
      cases policy' with
      | none =>
        cases (show name = defaultPolicyLabel from h)
        exact .reserved
      | some name' =>
        cases (show name = name' from h)
        exact .same _
  · intro h
    cases h <;> rfl

theorem entryFor_eq_prefixed {config : Config} {path : String} {policy : Option String}
    {route : RouteOverride} (h : config.entryFor path policy = .prefixed route) :
    config.routeFor path = some route := by
  unfold Config.entryFor at h
  cases hname : policy.filter fun name => (config.policies.get? name).isSome with
  | some name =>
    rw [hname] at h
    cases h
  | none =>
    rw [hname] at h
    dsimp only at h
    cases hroute : config.routeFor path with
    | none =>
      rw [hroute] at h
      cases h
    | some route' =>
      rw [hroute] at h
      cases h
      rfl

/-- Different entries have one label exactly if they are spelt alike. -/
theorem label_entryFor_eq_iff {config : Config} {path path' : String} {policy policy' : Option String}
    (hne : config.entryFor path policy ≠ config.entryFor path' policy') :
    (config.entryFor path policy).label = (config.entryFor path' policy').label ↔
      (config.entryFor path policy).SpeltAlike (config.entryFor path' policy') := by
  cases hentry : config.entryFor path policy with
  | named name =>
    cases hentry' : config.entryFor path' policy' with
    | named name' =>
      rw [hentry, hentry'] at hne
      exact ⟨fun h => hne (congrArg Entry.named h), False.elim⟩
    | prefixed route' => exact Iff.rfl
    | defaults => exact Iff.rfl
  | prefixed route =>
    cases hentry' : config.entryFor path' policy' with
    | named name' => exact eq_comm
    | prefixed route' =>
      rw [hentry, hentry'] at hne
      refine ⟨fun h => hne (congrArg Entry.prefixed ?_), False.elim⟩
      exact routeFor_eq_of_pathPrefix_eq (entryFor_eq_prefixed hentry)
        (entryFor_eq_prefixed hentry') h
    | defaults => exact Iff.rfl
  | defaults =>
    cases hentry' : config.entryFor path' policy' with
    | named name' => exact eq_comm
    | prefixed route' => exact eq_comm
    | defaults => exact absurd (hentry.trans hentry'.symm) hne

/-! ## What a request's calls touch -/

variable [Platform]

/-- A call that touches no bucket but this label's, and no breaker window but this policy's. -/
def UsesOnly (label policy : String) : Op → Prop
  | .check label' .. => label' = label
  | .breakerState policy' | .breakerRecord policy' _ => policy' = policy
  | .cleanupIdle => False
  | _ => True

/-- **The calls of a request.** They touch the buckets of its label and the window of its policy. -/
theorem Handles.usesOnly {svc : Service} {path : String} {policy : Option String} {e : Event Op.Ret}
    (h : Handles svc path policy e) :
    UsesOnly (svc.config.policyFor path policy).label (breakerPolicy policy) e.1 := by
  refine h.may (fun headers clientIp resourceUrl settlePolicy trace => ?_) rfl ?_
  · have hdecides := decides_decide svc headers clientIp path policy resourceUrl settlePolicy trace
    have hchecks := checks_decide svc headers clientIp path policy resourceUrl settlePolicy trace
    refine (hdecides.both hchecks).allowing fun op hop => ?_
    obtain ⟨hdecision, hterms⟩ := hop
    cases hdecision with
    | check label ip maxRequests windowSecs => exact hterms.1
    | _ => trivial
  · intro op hop
    cases hop with
    | breakerRecord failed => rfl
    | _ => trivial

/-! ## What they leave alone -/

/-- The counters of a client under this label. Redis has one for each window. -/
def RateLimiter.countersOf (label : String) (ip : IpAddr) :
    RateLimiter → Option RateWindow ⊕ (Nat → Option (Expiring Nat))
  | .memory l => .inl (l.windows.get? (keyFor label ip))
  | .redis l => .inr fun start => l.counters.get? (counterKey (keyFor label ip) start)

/-- Where this label's allowances and this policy's breaker stand. -/
def AppState.standing (s : AppState) (label policy : String) :
    (IpAddr → Option RateWindow ⊕ (Nat → Option (Expiring Nat))) × Window :=
  (fun ip => s.limiter.countersOf label ip, s.breaker.windowOf policy)

omit [Platform] in
theorem RedisRateLimiter.counters_checkScript_ne (l : RedisRateLimiter) {current key : String}
    (previous : String) (limit ttlSecs : Nat) (carry : Rat) (serverNow : Nat) (h : key ≠ current) :
    (l.checkScript current previous limit ttlSecs carry serverNow).2.counters.get? key =
      l.counters.get? key := by
  unfold RedisRateLimiter.checkScript
  dsimp only
  split_ifs
  · rfl
  · exact Table.get?_remove_ne _ h
  · exact Table.get?_insert_ne _ _ h
  · exact Table.get?_insert_ne _ _ h

theorem countersOf_check (l : RateLimiter) (env : StoreEnv) {label label' : String} {ip ip' : IpAddr}
    (maxRequests windowSecs : Nat) (h : keyFor label ip ≠ keyFor label' ip') :
    (l.check env label ip maxRequests windowSecs).2.countersOf label' ip' =
      l.countersOf label' ip' := by
  cases l with
  | memory m =>
    have hcounts := counts_checkAt m label ip maxRequests windowSecs env.now
    exact congrArg Sum.inl (hcounts.others _ h.symm)
  | redis r =>
    refine congrArg Sum.inr (funext fun start => ?_)
    have hkey : counterKey (keyFor label' ip') start ≠
        counterKey (keyFor label ip) (env.now - env.now % windowSecs) :=
      fun heq => h (counterKey_inj.mp heq).1.symm
    show (r.checkAt label ip maxRequests windowSecs env.now env.redis).2.counters.get? _ = _
    unfold RedisRateLimiter.checkAt
    dsimp only
    cases env.redis.fate with
    | unreached e => rfl
    | replyLost e => exact r.counters_checkScript_ne _ _ _ _ _ hkey
    | answered =>
      rw [← r.counters_checkScript_ne (counterKey (keyFor label ip) _) maxRequests
        (wrappingMul windowSecs 2) (carryFraction windowSecs _) env.redis.serverNow hkey]
      unfold RedisFate.apply
      dsimp only
      split <;> rename_i heq <;> rw [heq]

omit [Platform] in
theorem windowOf_stateAt_ne (b : SettlementBreaker) {policy policy' : String} (now : Nat)
    (h : policy ≠ policy') : (b.stateAt policy now).2.windowOf policy' = b.windowOf policy' := by
  have hset : ∀ w, (b.setWindow policy w).windowOf policy' = b.windowOf policy' := by
    intro w
    rw [SettlementBreaker.windowOf_setWindow, if_neg h.symm]
  unfold SettlementBreaker.stateAt
  dsimp only
  split
  · exact hset _
  · split_ifs
    · exact hset _
    · exact hset _
    · exact hset _

omit [Platform] in
theorem windowOf_recordAt_ne (b : SettlementBreaker) {policy policy' : String} (failed : Bool)
    (now : Nat) (h : policy ≠ policy') :
    (b.recordAt policy failed now).windowOf policy' = b.windowOf policy' := by
  unfold SettlementBreaker.recordAt
  cases failed <;> exact (b.windowOf_setWindow _ _ _).trans (if_neg h.symm)

/-- Labels without a bucket in common, and policies without a window in common. -/
structure Unshared (label policy label' policy' : String) : Prop where
  bucket : ∀ ip ip', keyFor label ip ≠ keyFor label' ip'
  window : policy ≠ policy'

omit [Platform] in
theorem Unshared.symm {label policy label' policy' : String}
    (h : Unshared label policy label' policy') : Unshared label' policy' label policy :=
  ⟨fun ip ip' => (h.bucket ip' ip).symm, h.window.symm⟩

/-- **One call** leaves alone what it does not use. -/
theorem Unshared.standing_exec {label policy label' policy' : String}
    (h : Unshared label policy label' policy') (svc : Service) (env : Env) (s : AppState) {op : Op}
    (hop : UsesOnly label policy op) :
    (svc.exec env s op).2.standing label' policy' = s.standing label' policy' := by
  cases op with
  | check label₁ ip maxRequests windowSecs =>
    obtain rfl : label₁ = label := hop
    exact Prod.ext (funext fun ip' => countersOf_check s.limiter env.store maxRequests windowSecs
      (h.bucket ip ip')) rfl
  | breakerState policy₁ =>
    obtain rfl : policy₁ = policy := hop
    exact Prod.ext rfl (windowOf_stateAt_ne s.breaker env.store.now h.window)
  | breakerRecord policy₁ failed =>
    obtain rfl : policy₁ = policy := hop
    exact Prod.ext rfl (windowOf_recordAt_ne s.breaker failed env.store.now h.window)
  | cleanupIdle => exact hop.elim
  | _ => rfl

/-- **Any number of calls**, in any order. -/
theorem Unshared.standing_callSteps {label policy label' policy' : String}
    (h : Unshared label policy label' policy') (svc : Service) {calls : List (Env × Op)}
    (hcalls : ∀ c ∈ calls, UsesOnly label policy c.2) (s : AppState) :
    (calls.foldl svc.callStep s).standing label' policy' = s.standing label' policy' := by
  induction calls generalizing s with
  | nil => rfl
  | cons c calls ih =>
    obtain ⟨hc, hrest⟩ := List.forall_mem_cons.mp hcalls
    rw [List.foldl_cons, ih hrest]
    exact h.standing_exec svc c.1 s hc

/-! ## Kept apart -/

/-- Traffic of one request, by any number of clients and with any outcomes, leaves the allowances
and the breaker of the other where they stood. -/
def Undisturbed (svc : Service) (path : String) (policy : Option String) (path' : String)
    (policy' : Option String) : Prop :=
  ∀ (calls : List (Env × Op)), (∀ c ∈ calls, ∃ r, Handles svc path policy ⟨c.2, r⟩) →
    ∀ s : AppState, let label' := (svc.config.policyFor path' policy').label
      (calls.foldl svc.callStep s).standing label' (breakerPolicy policy') =
        s.standing label' (breakerPolicy policy')

/-- Two requests share no free-tier bucket, for whatever addresses, and no breaker window; and
neither disturbs the other. -/
structure Separate (svc : Service) (path : String) (policy : Option String) (path' : String)
    (policy' : Option String) : Prop where
  unshared : Unshared (svc.config.policyFor path policy).label (breakerPolicy policy)
    (svc.config.policyFor path' policy').label (breakerPolicy policy')
  undisturbed : Undisturbed svc path policy path' policy'
  undisturbed' : Undisturbed svc path' policy' path policy

theorem Unshared.undisturbed {svc : Service} {path path' : String} {policy policy' : Option String}
    (h : Unshared (svc.config.policyFor path policy).label (breakerPolicy policy)
      (svc.config.policyFor path' policy').label (breakerPolicy policy')) :
    Undisturbed svc path policy path' policy' := by
  intro calls hcalls
  refine h.standing_callSteps svc fun c hc => ?_
  obtain ⟨r, hhandles⟩ := hcalls c hc
  exact hhandles.usesOnly

/-- **Requests under different entries are kept apart**, exactly if they do not come with one policy
name and their entries are not spelt alike. -/
theorem separate_iff (svc : Service)
    {path path' : String} {policy policy' : Option String}
    (hne : svc.config.entryFor path policy ≠ svc.config.entryFor path' policy') :
    Separate svc path policy path' policy' ↔
      ¬ SameName policy policy' ∧
        ¬ (svc.config.entryFor path policy).SpeltAlike (svc.config.entryFor path' policy') := by
  have hlabel : ∀ path policy, (svc.config.policyFor path policy).label =
      (svc.config.entryFor path policy).label :=
    fun path policy => (layers_policyFor svc.config path policy).label
  rw [← label_entryFor_eq_iff hne, ← breakerPolicy_eq_iff, ← hlabel, ← hlabel]
  constructor
  · intro h
    refine ⟨h.unshared.window, fun heq => h.unshared.bucket exampleAddress exampleAddress ?_⟩
    rw [heq]
  · rintro ⟨hwindow, hlabels⟩
    have hunshared : Unshared (svc.config.policyFor path policy).label (breakerPolicy policy)
        (svc.config.policyFor path' policy').label (breakerPolicy policy') :=
      ⟨fun ip ip' heq => hlabels (congrArg Prod.fst ((keyFor_inj).mp heq)), hwindow⟩
    exact ⟨hunshared, hunshared.undisturbed, hunshared.symm.undisturbed⟩

section Example

omit [Platform]

/-- A policy that is named like the reserved label, and two routes. -/
def confusableConfig : Config :=
  { exampleConfig .suiGrpc with
    policies := Table.insert ∅ defaultPolicyLabel {}
    routes := [⟨"/a", {}⟩, ⟨"/b", {}⟩] }

def confusableService : Service := .ofConfig confusableConfig

/-- A named policy and a route are kept apart. -/
theorem separate_iff_example :
    let _ : Platform := examplePlatform
    Separate confusableService "/b" (some "default") "/a" (some "unknown") ↔
      ¬ SameName (some "default") (some "unknown") ∧
        ¬ (confusableConfig.entryFor "/b" (some "default")).SpeltAlike
          (confusableConfig.entryFor "/a" (some "unknown")) := by
  intro _
  exact separate_iff confusableService (by decide +kernel)

/-- **Different entries that meet.** The policy named like the reserved label shares bucket and
window with the defaults, and requests without a name on different routes share a window. -/
theorem entries_share_state :
    let _ : Platform := examplePlatform
    confusableConfig.validate = .ok () ∧
    (confusableConfig.entryFor "/" (some "default") ≠ confusableConfig.entryFor "/" none ∧
      keyFor (confusableConfig.policyFor "/" (some "default")).label exampleAddress =
        keyFor (confusableConfig.policyFor "/" none).label exampleAddress ∧
      ¬ Separate confusableService "/" (some "default") "/" none) ∧
    (confusableConfig.entryFor "/a" none ≠ confusableConfig.entryFor "/b" none ∧
      ¬ Separate confusableService "/a" none "/b" none) := by
  intro _
  have hlabel : (confusableConfig.policyFor "/" (some "default")).label =
      (confusableConfig.policyFor "/" none).label := by decide +kernel
  refine ⟨rfl, ⟨by decide +kernel, by rw [hlabel], fun h => ?_⟩, by decide +kernel, fun h => ?_⟩
  · exact h.unshared.window rfl
  · exact h.unshared.window rfl

end Example

end X402Verifier
