import X402Verifier.HexText
import X402Verifier.SessionScope

/-!
# Which terms are in force

`Config.policyFor` layers one override over the top-level terms: that of the named policy, of the
longest path prefix, or none. `Config.Governs` says which entry of the config that should be, without
an order on the routes, and `Layers` what its terms are, field by field.

**Every route is safe to run** (`validate_establishes`). The checks run once, on the defaults and on
each override by itself; a field of the merged terms is one of the two, so they hold of every merge.

**File order** (`resolution_order_free_iff`). Of several longest prefixes `max_by_key` takes the last
one in the file. They are one text, which `Config.validate` lets a file repeat. So the order matters
exactly if the routes under the longest matching prefix set different terms.
-/

namespace X402Verifier

open RustStd

/-! ## Entries -/

/-- An entry of the config that terms come from. -/
inductive Entry where
  | named (name : String)
  | prefixed (route : RouteOverride)
  | defaults
  deriving DecidableEq

def Entry.label : Entry → String
  | .named name => name
  | .prefixed route => route.pathPrefix
  | .defaults => defaultPolicyLabel

/-- What an entry sets. The defaults set nothing. -/
def Config.overrideOf (config : Config) : Entry → PaymentOverride
  | .named name => (config.policies.get? name).getD {}
  | .prefixed route => route.overrides
  | .defaults => {}

/-- The entry a request resolves to. -/
def Config.entryFor (config : Config) (path : String) (policy : Option String) : Entry :=
  match policy.filter fun name => (config.policies.get? name).isSome with
  | some name => .named name
  | none =>
    match config.routeFor path with
    | some route => .prefixed route
    | none => .defaults

theorem policyFor_eq (config : Config) (path : String) (policy : Option String) :
    config.policyFor path policy =
      { (config.overrideOf (config.entryFor path policy)).applyTo config.defaultPolicy with
        label := (config.entryFor path policy).label } := by
  unfold Config.policyFor Config.entryFor
  cases policy with
  | none => cases config.routeFor path <;> rfl
  | some name =>
    cases hget : config.policies.get? name with
    | none =>
      simp only [Option.bind_some, hget, Option.map_none, Option.filter, Option.isSome_none]
      cases config.routeFor path <;> rfl
    | some override => simp [hget, Option.filter, Config.overrideOf, Entry.label]

/-! ## The longest prefix -/

/-- A route under the longest prefix of the path. -/
structure Config.Longest (config : Config) (path : String) (route : RouteOverride) : Prop where
  mem : route ∈ config.routes
  covers : startsWith path route.pathPrefix = true
  longest : ∀ other ∈ config.routes, startsWith path other.pathPrefix = true →
    other.pathPrefix.utf8ByteSize ≤ route.pathPrefix.utf8ByteSize

theorem longestPrefix_eq_none {routes : List RouteOverride} :
    longestPrefix routes = none ↔ routes = [] := by
  cases routes with
  | nil => simp [longestPrefix]
  | cons route rest =>
    simp only [longestPrefix, reduceCtorEq, iff_false]
    split
    · simp
    · split_ifs <;> simp

theorem longestPrefix_max {routes : List RouteOverride} {best : RouteOverride}
    (h : longestPrefix routes = some best) : ∀ route ∈ routes,
      route.pathPrefix.utf8ByteSize ≤ best.pathPrefix.utf8ByteSize := by
  induction routes generalizing best with
  | nil => cases h
  | cons first rest ih =>
    rw [longestPrefix] at h
    cases hrest : longestPrefix rest with
    | none =>
      rw [hrest] at h
      cases h
      simp [longestPrefix_eq_none.mp hrest]
    | some later =>
      rw [hrest] at h
      dsimp only at h
      have hlater := ih hrest
      split_ifs at h with hlt
      · cases h
        refine List.forall_mem_cons.mpr ⟨Nat.le_refl _, fun route hroute => ?_⟩
        exact Nat.le_trans (hlater route hroute) hlt.le
      · cases h
        exact List.forall_mem_cons.mpr ⟨Nat.not_lt.mp hlt, hlater⟩

/-- Of several longest prefixes, the last. -/
theorem longestPrefix_concat {routes : List RouteOverride} {route : RouteOverride}
    (h : ∀ other ∈ routes, other.pathPrefix.utf8ByteSize ≤ route.pathPrefix.utf8ByteSize) :
    longestPrefix (routes ++ [route]) = some route := by
  induction routes with
  | nil => rfl
  | cons first rest ih =>
    obtain ⟨hfirst, hrest⟩ := List.forall_mem_cons.mp h
    rw [List.cons_append, longestPrefix, ih hrest]
    exact if_neg (Nat.not_lt.mpr hfirst)

theorem longest_of_routeFor {config : Config} {path : String} {route : RouteOverride}
    (h : config.routeFor path = some route) : config.Longest path route := by
  obtain ⟨hmem, hcovers⟩ := List.mem_filter.mp (longestPrefix_mem h)
  exact ⟨hmem, hcovers, fun other hother hcovers' =>
    longestPrefix_max h other (List.mem_filter.mpr ⟨hother, hcovers'⟩)⟩

theorem routeFor_eq_none {config : Config} {path : String} :
    config.routeFor path = none ↔
      ∀ route ∈ config.routes, startsWith path route.pathPrefix = false := by
  simp [Config.routeFor, longestPrefix_eq_none]

/-- The longest prefixes of one path are one text. -/
theorem Config.Longest.pathPrefix_eq {config : Config} {path : String} {route other : RouteOverride}
    (h : config.Longest path route) (h' : config.Longest path other) :
    route.pathPrefix = other.pathPrefix := by
  have hsize : route.pathPrefix.utf8ByteSize = other.pathPrefix.utf8ByteSize :=
    Nat.le_antisymm (h'.longest route h.mem h.covers) (h.longest other h'.mem h'.covers)
  -- of two prefixes of one text, one extends the other, here by nothing
  have hextends : ∀ {s t : String}, s.toList <+: t.toList → s.utf8ByteSize = t.utf8ByteSize →
      s = t := by
    intro s t ⟨rest, hrest⟩ hst
    have ht : t = s ++ String.ofList rest := by
      rw [← String.toList_inj, ← hrest]
      simp
    have hempty : (String.ofList rest).utf8ByteSize = 0 := by
      rw [ht, String.utf8ByteSize_append] at hst
      omega
    rw [ht, String.utf8ByteSize_eq_zero_iff.mp hempty]
    simp
  have hprefix := List.isPrefixOf_iff_prefix.mp h.covers
  have hprefix' := List.isPrefixOf_iff_prefix.mp h'.covers
  rcases List.prefix_or_prefix_of_prefix hprefix hprefix' with hle | hle
  · exact hextends hle hsize
  · exact (hextends hle hsize.symm).symm

/-! ## What every route is promised -/

/-- What the service relies on while it serves a request under these terms. -/
structure ResolvedPolicy.Sound (resolved : ResolvedPolicy) : Prop where
  windowSecs : 0 < resolved.freeTier.windowSecs
  quota : 0 < resolved.paidTier.quota
  durationSecs : 0 < resolved.paidTier.durationSecs
  payTo : ∃ digits : String, resolved.payment.payTo = "0x" ++ digits ∧ digits.length = 64 ∧
    (∀ c ∈ digits.toList, isAsciiHexdigit c = true) ∧ ∃ c ∈ digits.toList, c ≠ '0'
  amount : ∃ amount, parseUnsigned u128Bound resolved.payment.amount = some amount

variable [Platform]

/-- A check of the limiter is made under these terms. -/
def ChecksTerms (terms : Terms) : Op → Prop
  | .check label _ maxRequests windowSecs =>
    label = terms.resolved.label ∧ maxRequests = terms.resolved.freeTier.maxRequests ∧
      windowSecs = terms.resolved.freeTier.windowSecs
  | _ => True

/-- A handler that checks the limiter under these terms only. -/
abbrev CheckingUnder {α : Type} (terms : Terms) (p : Handler α) : Prop :=
  ∀ trace, p.Follows (.trace (ChecksTerms terms)) (fun _ _ => True) trace

omit [Platform] in
theorem checksTerms_of_calledOn {terms : Terms} {policy : Option String} {op : Op}
    (h : CalledOn terms policy op) : ChecksTerms terms op := by
  cases h with
  | check ip => exact ⟨rfl, rfl, rfl⟩
  | _ => trivial

theorem checks_decide (svc : Service) (headers : HeaderView) (clientIp : Option IpAddr)
    (path : String) (policy : Option String) (resourceUrl : String) (settlePolicy : SettlePolicy) :
    CheckingUnder (svc.termsFor path policy resourceUrl)
      (svc.decide headers clientIp path policy resourceUrl settlePolicy) :=
  fun _ => (calls_decide svc headers clientIp path policy resourceUrl settlePolicy).follows_trace
    fun _ _ h => ⟨fun e he => checksTerms_of_calledOn (h.calledOn.1 e he), trivial⟩

/-! ## The checks carry over -/

omit [Platform] in
theorem of_getD {α : Type} {p : α → Prop} {o : Option α} {top : α} (htop : p top)
    (hset : ∀ a, o = some a → p a) : p (o.getD top) := by
  cases o with
  | none => exact htop
  | some a => exact hset a rfl

omit [Platform] in
theorem windowSecs_of_validate {tier : FreeTierConfig} {context : String}
    (h : tier.validate context = .ok ()) : 0 < tier.windowSecs := by
  unfold FreeTierConfig.validate at h
  split_ifs at h with hzero
  exact Nat.pos_of_ne_zero hzero

omit [Platform] in
theorem paidTier_of_validate {tier : PaidTierConfig} {context : String}
    (h : tier.validate context = .ok ()) : 0 < tier.quota ∧ 0 < tier.durationSecs := by
  unfold PaidTierConfig.validate at h
  split_ifs at h with hduration hquota
  exact ⟨Nat.pos_of_ne_zero hquota, Nat.pos_of_ne_zero hduration⟩

theorem payTo_of_validate {payTo : String} (h : validatePayTo payTo = .ok ()) :
    ∃ digits : String, payTo = "0x" ++ digits ∧ digits.length = 64 ∧
      (∀ c ∈ digits.toList, isAsciiHexdigit c = true) ∧ ∃ c ∈ digits.toList, c ≠ '0' := by
  obtain ⟨digits, rfl, hsize, hdigits, hzero⟩ := digits_of_validatePayTo h
  have hall : ∀ c ∈ digits.toList, isAsciiHexdigit c = true := List.all_eq_true.mp hdigits
  refine ⟨digits, rfl, ?_, hall, by simpa using hzero⟩
  rw [← String.length_toList, ← utf8ByteSize_of_hexdigits _ hall, String.ofList_toList]
  exact hsize

/-- What an override sets is as good as the top-level terms. -/
structure PaymentOverride.Checked (override : PaymentOverride) : Prop where
  payTo : ∀ payTo, override.payTo = some payTo → validatePayTo payTo = .ok ()
  amount : ∀ amount, override.amount = some amount → parseUnsigned u128Bound amount ≠ none
  freeTier : ∀ tier, override.freeTier = some tier → 0 < tier.windowSecs
  paidTier : ∀ tier, override.paidTier = some tier → 0 < tier.quota ∧ 0 < tier.durationSecs

theorem checked_of_override {override : PaymentOverride} {context : String}
    (h : override.validate context = .ok ()) : override.Checked := by
  obtain ⟨hpayTo, hamount, hfree, hpaid⟩ := PaymentOverride.validate_eq_ok.mp h
  exact ⟨hpayTo, hamount, fun tier hset => windowSecs_of_validate (hfree tier hset),
    fun tier hset => paidTier_of_validate (hpaid tier hset)⟩

theorem checked_of_defaults {config : Config} (h : config.validate = .ok ()) :
    parseUnsigned u128Bound config.payment.amount ≠ none ∧ 0 < config.freeTier.windowSecs ∧
      0 < config.paidTier.quota ∧ 0 < config.paidTier.durationSecs := by
  obtain ⟨-, hamount, -, hfree, hpaid, -⟩ := Config.validate_eq_ok.mp h
  exact ⟨hamount, windowSecs_of_validate hfree, paidTier_of_validate hpaid⟩

theorem checked_overrideOf {config : Config} (h : config.validate = .ok ()) (path : String)
    (policy : Option String) :
    (config.overrideOf (config.entryFor path policy)).Checked := by
  have hchecked := checked_of_validate h
  unfold Config.entryFor
  cases hname : policy.filter fun name => (config.policies.get? name).isSome with
  | some name =>
    obtain ⟨override, hget⟩ := Option.isSome_iff_exists.mp (Option.filter_eq_some_iff.mp hname).2
    simpa [Config.overrideOf, hget] using checked_of_override (hchecked.policy name override hget)
  | none =>
    cases hroute : config.routeFor path with
    | none =>
      constructor <;>
      · intro _ h
        cases h
    | some route =>
      exact checked_of_override (hchecked.route route (longest_of_routeFor hroute).mem).2

/-- **Every route is safe to run.** Whatever path and policy name a request has, its terms under a
validated config are sound, and the limiter is asked with a window that is not empty. -/
theorem validate_establishes {config : Config} (h : config.validate = .ok ()) (path : String)
    (policy : Option String) :
    (config.policyFor path policy).Sound ∧
      ∀ (svc : Service) (headers : HeaderView) (clientIp : Option IpAddr) (resourceUrl : String)
        (settlePolicy : SettlePolicy) (answer : Answers), svc.config = config →
        ∀ e ∈ ((svc.decide headers clientIp path policy resourceUrl settlePolicy).eval answer).2,
          ∀ label ip maxRequests windowSecs, e.1 = .check label ip maxRequests windowSecs →
            0 < windowSecs := by
  obtain ⟨hamount, hwindow, hquota, hduration⟩ := checked_of_defaults h
  have hoverride := checked_overrideOf h path policy
  have hsound : (config.policyFor path policy).Sound := by
    rw [policyFor_eq]
    generalize config.overrideOf (config.entryFor path policy) = override at hoverride
    exact {
      windowSecs := of_getD (p := fun tier : FreeTierConfig => 0 < tier.windowSecs) hwindow
        hoverride.freeTier
      quota := of_getD (p := fun tier : PaidTierConfig => 0 < tier.quota) hquota
        fun tier hset => (hoverride.paidTier tier hset).1
      durationSecs := of_getD (p := fun tier : PaidTierConfig => 0 < tier.durationSecs) hduration
        fun tier hset => (hoverride.paidTier tier hset).2
      payTo := payTo_of_validate
        (of_getD (p := fun payTo => validatePayTo payTo = .ok ()) (checked_of_validate h).payTo
          hoverride.payTo)
      amount := Option.ne_none_iff_exists'.mp
        (of_getD (p := fun amount => parseUnsigned u128Bound amount ≠ none) hamount
          hoverride.amount) }
  refine ⟨hsound, fun svc headers clientIp resourceUrl settlePolicy answer hconfig e he label ip
    maxRequests windowSecs hcheck => ?_⟩
  subst hconfig
  have hunder := ((checks_decide svc headers clientIp path policy resourceUrl settlePolicy []).eval
    answer).2 e he
  rw [hcheck] at hunder
  rw [hunder.2.2]
  exact hsound.windowSecs

/-- A policy with a free tier of its own, and a route with a price of its own. -/
def layeredConfig : Config :=
  { exampleConfig .suiGrpc with
    policies := Table.insert ∅ "gold-tier" { freeTier := some { maxRequests := 2, windowSecs := 30 } }
    routes := [{ pathPrefix := "/premium", overrides := { amount := some "2000" } }] }

omit [Platform] in
theorem validate_establishes_example :
    let _ : Platform := examplePlatform
    let svc := Service.ofConfig layeredConfig
    let gold := svc.config.policyFor "/" (some "gold-tier")
    let premium := svc.config.policyFor "/premium/a" none
    (gold.freeTier.windowSecs, gold.payment.amount) = (30, "1000") ∧
      (premium.freeTier.windowSecs, premium.payment.amount) = (60, "2000") ∧
      gold.Sound ∧ premium.Sound ∧
      ∀ answer : Answers,
        ∀ e ∈ ((svc.decide ⟨none⟩ (some exampleAddress) "/" (some "gold-tier") "/" .deferred).eval
          answer).2,
          ∀ label ip maxRequests windowSecs, e.1 = .check label ip maxRequests windowSecs →
            0 < windowSecs := by
  intro _ svc _ _
  have hvalid : layeredConfig.validate = .ok () := rfl
  obtain ⟨hgold, hchecks⟩ := validate_establishes hvalid "/" (some "gold-tier")
  exact ⟨by decide, by decide, hgold, (validate_establishes hvalid "/premium/a" none).1,
    fun answer => hchecks svc ⟨none⟩ (some exampleAddress) "/" .deferred answer rfl⟩

/-! ## File order -/

/-- The entry whose terms a request is to be sold on: the policy its name defines, or else a route
under the longest prefix of its path, or else the defaults. -/
inductive Config.Governs (config : Config) (path : String) : Option String → Entry → Prop
  | named {name : String} (defined : config.defines (some name) = true) :
      Governs config path (some name) (.named name)
  | prefixed {policy : Option String} {route : RouteOverride}
      (undefined : config.defines policy = false) (longest : config.Longest path route) :
      Governs config path policy (.prefixed route)
  | defaults {policy : Option String} (undefined : config.defines policy = false)
      (uncovered : ∀ route ∈ config.routes, startsWith path route.pathPrefix = false) :
      Governs config path policy .defaults

/-- The terms of an entry: what it sets, and the top level for everything else. -/
structure Config.Layers (config : Config) (entry : Entry) (resolved : ResolvedPolicy) : Prop where
  label : resolved.label = entry.label
  payTo : resolved.payment.payTo =
    ((config.overrideOf entry).payTo).getD config.payment.payTo
  amount : resolved.payment.amount =
    ((config.overrideOf entry).amount).getD config.payment.amount
  asset : resolved.payment.asset =
    ((config.overrideOf entry).asset).getD config.payment.asset
  assetDecimals : resolved.payment.assetDecimals =
    ((config.overrideOf entry).assetDecimals).getD config.payment.assetDecimals
  description : resolved.payment.description =
    ((config.overrideOf entry).description).getD config.payment.description
  freeTier : resolved.freeTier = ((config.overrideOf entry).freeTier).getD config.freeTier
  paidTier : resolved.paidTier = ((config.overrideOf entry).paidTier).getD config.paidTier
  others : { resolved.payment with
    payTo := config.payment.payTo
    amount := config.payment.amount
    asset := config.payment.asset
    assetDecimals := config.payment.assetDecimals
    description := config.payment.description } = config.payment

omit [Platform] in
theorem layers_policyFor (config : Config) (path : String) (policy : Option String) :
    config.Layers (config.entryFor path policy) (config.policyFor path policy) := by
  rw [policyFor_eq]
  exact ⟨rfl, rfl, rfl, rfl, rfl, rfl, rfl, rfl, rfl⟩

omit [Platform] in
theorem entryFor_of_defines {config : Config} {name : String} (path : String)
    (h : config.defines (some name) = true) : config.entryFor path (some name) = .named name := by
  have hget : (config.policies.get? name).isSome = true := h
  simp [Config.entryFor, Option.filter, hget]

omit [Platform] in
theorem entryFor_of_not_defines {config : Config} {policy : Option String} (path : String)
    (h : config.defines policy = false) :
    config.entryFor path policy = match config.routeFor path with
      | some route => .prefixed route
      | none => .defaults := by
  have hnone : policy.filter (fun name => (config.policies.get? name).isSome) = none := by
    cases policy with
    | none => rfl
    | some name =>
      have hget : (config.policies.get? name).isSome = false := h
      simp [Option.filter, hget]
  rw [Config.entryFor, hnone]

omit [Platform] in
theorem governs_entryFor (config : Config) (path : String) (policy : Option String) :
    config.Governs path policy (config.entryFor path policy) := by
  cases hdefines : config.defines policy with
  | true =>
    cases policy with
    | none => cases hdefines
    | some name =>
      rw [entryFor_of_defines path hdefines]
      exact .named hdefines
  | false =>
    rw [entryFor_of_not_defines path hdefines]
    cases hroute : config.routeFor path with
    | none => exact .defaults hdefines (routeFor_eq_none.mp hroute)
    | some route => exact .prefixed hdefines (longest_of_routeFor hroute)

/-- The config with its routes in this order. -/
abbrev Config.reordered (config : Config) (routes : List RouteOverride) : Config :=
  { config with routes := routes }

section Reordered

omit [Platform]

variable {config : Config} {routes : List RouteOverride} (hperm : routes.Perm config.routes)
  {path : String}

include hperm

theorem Config.Longest.of_reordered {route : RouteOverride}
    (h : (config.reordered routes).Longest path route) : config.Longest path route :=
  ⟨hperm.mem_iff.mp h.mem, h.covers, fun other hother =>
    h.longest other (hperm.mem_iff.mpr hother)⟩

theorem Config.Governs.of_reordered {policy : Option String} {entry : Entry}
    (h : (config.reordered routes).Governs path policy entry) :
    config.Governs path policy entry := by
  cases h with
  | named defined => exact .named defined
  | prefixed undefined longest => exact .prefixed undefined (longest.of_reordered hperm)
  | defaults undefined uncovered =>
    exact .defaults undefined fun route hroute => uncovered route (hperm.mem_iff.mpr hroute)

omit hperm in
theorem Config.Layers.of_reordered {entry : Entry} {resolved : ResolvedPolicy}
    (h : (config.reordered routes).Layers entry resolved) : config.Layers entry resolved :=
  ⟨h.label, h.payTo, h.amount, h.asset, h.assetDecimals, h.description, h.freeTier, h.paidTier,
    h.others⟩

end Reordered

omit [Platform] in
/-- Entries that govern one request have one label, and one set of terms if the routes agree. -/
theorem Config.Governs.terms_eq {config : Config} {path : String} {policy : Option String}
    {entry entry' : Entry} (h : config.Governs path policy entry)
    (h' : config.Governs path policy entry')
    (hagree : config.defines policy = true ∨
      ∀ route other, config.Longest path route → config.Longest path other →
        route.overrides.applyTo config.defaultPolicy =
          other.overrides.applyTo config.defaultPolicy) :
    entry.label = entry'.label ∧ (config.overrideOf entry).applyTo config.defaultPolicy =
      (config.overrideOf entry').applyTo config.defaultPolicy := by
  cases h with
  | named defined =>
    cases h' with
    | named _ => exact ⟨rfl, rfl⟩
    | prefixed undefined _ => exact nomatch defined.symm.trans undefined
    | defaults undefined _ => exact nomatch defined.symm.trans undefined
  | prefixed undefined longest =>
    cases h' with
    | named defined => exact nomatch defined.symm.trans undefined
    | prefixed _ longest' =>
      have hroutes := hagree.resolve_left fun defined => nomatch defined.symm.trans undefined
      exact ⟨longest.pathPrefix_eq longest', hroutes _ _ longest longest'⟩
    | defaults _ uncovered => exact nomatch longest.covers.symm.trans (uncovered _ longest.mem)
  | defaults undefined uncovered =>
    cases h' with
    | named defined => exact nomatch defined.symm.trans undefined
    | prefixed _ longest => exact nomatch longest.covers.symm.trans (uncovered _ longest.mem)
    | defaults _ _ => exact ⟨rfl, rfl⟩

/-- Whatever the order of the routes, the request resolves to the terms of the entry that governs
it. -/
def Config.FileOrderFree (config : Config) (path : String) (policy : Option String) : Prop :=
  ∀ routes, routes.Perm config.routes →
    (config.reordered routes).policyFor path policy = config.policyFor path policy ∧
      ∃ entry, config.Governs path policy entry ∧
        config.Layers entry ((config.reordered routes).policyFor path policy)

omit [Platform] in
/-- A route under the longest prefix is the one in force when it is the last in the file. -/
theorem policyFor_last {config : Config} {path : String} {policy : Option String}
    (hundefined : config.defines policy = false) {route : RouteOverride}
    (h : config.Longest path route) :
    (config.reordered (config.routes.erase route ++ [route])).policyFor path policy =
      { route.overrides.applyTo config.defaultPolicy with label := route.pathPrefix } := by
  have hroute : (config.reordered (config.routes.erase route ++ [route])).routeFor path =
      some route := by
    rw [Config.routeFor, List.filter_append, List.filter_singleton, h.covers]
    refine longestPrefix_concat fun other hother => ?_
    obtain ⟨hmem, hcovers⟩ := List.mem_filter.mp hother
    exact h.longest other (List.mem_of_mem_erase hmem) hcovers
  have hundefined' : (config.reordered (config.routes.erase route ++ [route])).defines policy =
      false := hundefined
  rw [policyFor_eq, entryFor_of_not_defines path hundefined', hroute]
  rfl

omit [Platform] in
/-- **Route resolution does not depend on file order**, exactly if the policy's name is known or the
routes under the longest matching prefix set the same terms. -/
theorem resolution_order_free_iff (config : Config) (path : String) (policy : Option String) :
    config.FileOrderFree path policy ↔
      config.defines policy = true ∨
        ∀ route other, config.Longest path route → config.Longest path other →
          route.overrides.applyTo config.defaultPolicy =
            other.overrides.applyTo config.defaultPolicy := by
  constructor
  · intro hfree
    refine or_iff_not_imp_left.mpr fun hdefines route other hroute hother => ?_
    have hundefined : config.defines policy = false := Bool.eq_false_iff.mpr hdefines
    have hlast : ∀ r, config.Longest path r →
        { r.overrides.applyTo config.defaultPolicy with label := r.pathPrefix } =
          config.policyFor path policy := by
      intro r hr
      rw [← policyFor_last hundefined hr]
      refine (hfree _ ?_).1
      exact (List.perm_append_comm.trans (List.perm_cons_erase hr.mem).symm)
    have hsame := (hlast route hroute).trans (hlast other hother).symm
    -- the label is layered last, so the terms below it agree
    exact congrArg (fun resolved : ResolvedPolicy => { resolved with label := defaultPolicyLabel })
      hsame
  · intro hcond routes hperm
    have hentry := (governs_entryFor (config.reordered routes) path policy).of_reordered hperm
    have hlayers := layers_policyFor (config.reordered routes) path policy
    refine ⟨?_, _, hentry, hlayers.of_reordered⟩
    obtain ⟨hlabel, hterms⟩ :=
      hentry.terms_eq (governs_entryFor config path policy) hcond
    rw [policyFor_eq, policyFor_eq config, ← hlabel, ← hterms]
    rfl

/-- Two routes under one prefix, at two prices. -/
def twicePricedConfig : Config :=
  { exampleConfig .suiGrpc with
    routes :=
      [{ pathPrefix := "/v1", overrides := { amount := some "5" } },
        { pathPrefix := "/v1", overrides := { amount := some "7" } }] }

omit [Platform] in
/-- Swapping them changes the price. -/
theorem repeated_prefix_depends_on_order :
    @Config.validate examplePlatform twicePricedConfig = .ok () ∧
      ¬ twicePricedConfig.FileOrderFree "/v1/x" none := by
  refine ⟨rfl, fun h => ?_⟩
  have hswapped := (h twicePricedConfig.routes.reverse (List.reverse_perm _)).1
  have hprices : ((twicePricedConfig.reordered twicePricedConfig.routes.reverse).policyFor "/v1/x"
      none).payment.amount ≠ (twicePricedConfig.policyFor "/v1/x" none).payment.amount := by
    decide +kernel
  exact hprices (by rw [hswapped])

end X402Verifier
