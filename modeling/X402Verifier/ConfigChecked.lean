import X402Verifier.Config
import X402Verifier.RustStd.Result

/-!
# What a validated config promises

`Config.validate` refuses at startup. It passes exactly the configs that pass each check
(`Config.validate_eq_ok`); this is what it leaves for the rest of the service to rely on (`Checked`),
for the top-level terms and for whatever policy or route a request resolves to.
-/

namespace X402Verifier

open RustStd

/-! ## The route of a path -/

theorem longestPrefix_mem {routes : List RouteOverride} {route : RouteOverride}
    (h : longestPrefix routes = some route) : route ∈ routes := by
  induction routes with
  | nil => cases h
  | cons first rest ih =>
    rw [longestPrefix] at h
    cases hbest : longestPrefix rest with
    | none =>
      rw [hbest] at h
      cases h
      exact List.mem_cons_self
    | some best =>
      rw [hbest] at h
      dsimp only at h
      split_ifs at h
      · cases h
        exact List.mem_cons_self
      · cases h
        exact List.mem_cons_of_mem _ (ih hbest)

/-! ## The checks -/

theorem withContext_eq_ok {α : Type} {context : String} {e : Except Messages α} {a : α} :
    withContext context e = .ok a ↔ e = .ok a := by
  cases e <;> simp [withContext]

theorem whenSet_eq_ok {α : Type} {o : Option α} {check : α → Except Messages Unit} :
    whenSet o check = .ok () ↔ ∀ a, o = some a → check a = .ok () := by
  cases o <;> simp [whenSet]

section Checks

variable [Platform]

theorem digits_of_validatePayTo {payTo : String} (h : validatePayTo payTo = .ok ()) :
    ∃ digits : String, payTo = "0x" ++ digits ∧ digits.utf8ByteSize = suiAddressHexLen ∧
      digits.toList.all isAsciiHexdigit = true ∧ ¬ digits.toList.all (· == '0') = true := by
  unfold validatePayTo at h
  cases hstrip : stripPrefix payTo "0x" with
  | none =>
    rw [hstrip] at h
    cases h
  | some digits =>
    rw [hstrip] at h
    obtain ⟨hform, hzero, -⟩ := by simpa only [Except.check_eq_ok] using h
    obtain ⟨hsize, hdigits⟩ := not_or.mp hform
    exact ⟨digits, eq_append_of_stripPrefix hstrip, not_not.mp hsize, not_not.mp hdigits, hzero⟩

theorem PaymentOverride.validate_eq_ok {override : PaymentOverride} {context : String} :
    override.validate context = .ok () ↔
      (∀ payTo, override.payTo = some payTo → validatePayTo payTo = .ok ()) ∧
      (∀ amount, override.amount = some amount → parseUnsigned u128Bound amount ≠ none) ∧
      (∀ tier, override.freeTier = some tier → tier.validate (context ++ " free_tier") = .ok ()) ∧
      ∀ tier, override.paidTier = some tier → tier.validate (context ++ " paid_tier") = .ok () := by
  simp only [validate, Except.bind_unit_eq_ok, whenSet_eq_ok, withContext_eq_ok,
    Except.check_eq_ok, and_true, ne_eq]

theorem Config.validate_eq_ok {config : Config} :
    config.validate = .ok () ↔
      config.payment.scheme = "exact" ∧
      parseUnsigned u128Bound config.payment.amount ≠ none ∧
      validatePayTo config.payment.payTo = .ok () ∧
      config.freeTier.validate "free_tier" = .ok () ∧
      config.paidTier.validate "paid_tier" = .ok () ∧
      config.validateDiscoveryMetadata = .ok () ∧
      (∀ entry ∈ config.policies.toPairs,
        entry.2.validate ("policy " ++ debugStr entry.1) = .ok ()) ∧
      (∀ route ∈ config.routes, route.pathPrefix ≠ "" ∧
        route.overrides.validate ("route " ++ debugStr route.pathPrefix) = .ok ()) ∧
      ¬(config.store.backend = .redis ∧ config.store.redisUrl = "") ∧
      ∃ key, config.hmacKey = .ok key := by
  simp only [validate, Except.bind_unit_eq_ok, Except.check_eq_ok, Except.forM_eq_ok,
    Except.error_bind, String.isEmpty_iff, ne_eq, not_not]
  simp only [Except.bind_eq_ok, pure, Except.pure, and_true]

/-- The parts of validation that later code relies on. -/
structure Config.Checked (config : Config) : Prop where
  payTo : validatePayTo config.payment.payTo = .ok ()
  policy : ∀ name override, config.policies.get? name = some override →
    override.validate ("policy " ++ debugStr name) = .ok ()
  route : ∀ route ∈ config.routes, route.pathPrefix ≠ "" ∧
    route.overrides.validate ("route " ++ debugStr route.pathPrefix) = .ok ()

theorem checked_of_validate {config : Config} (h : config.validate = .ok ()) : config.Checked := by
  obtain ⟨-, -, hpayTo, -, -, -, hpolicies, hroutes, -⟩ := Config.validate_eq_ok.mp h
  exact ⟨hpayTo, fun name override hget =>
    hpolicies (name, override) (Table.mem_toPairs_iff.mpr hget), hroutes⟩

/-! ## The terms of a request -/

/-- What a request resolves to: the top-level terms, or those under an override of the config. -/
theorem payment_policyFor {config : Config} (h : config.Checked) (path : String)
    (policy : Option String) :
    (config.policyFor path policy).payment = config.payment ∨
      ∃ override : PaymentOverride, (∃ context, override.validate context = .ok ()) ∧
        (config.policyFor path policy).payment =
          (override.applyTo config.defaultPolicy).payment := by
  unfold Config.policyFor
  cases hnamed : policy.bind fun name =>
      (config.policies.get? name).map fun override => (name, override) with
  | some named =>
    obtain ⟨name, -, hmap⟩ := Option.bind_eq_some_iff.mp hnamed
    obtain ⟨override, hget, rfl⟩ := Option.map_eq_some_iff.mp hmap
    exact .inr ⟨override, ⟨_, h.policy name override hget⟩, rfl⟩
  | none =>
    cases hroute : config.routeFor path with
    | none => exact .inl rfl
    | some route =>
      have hmem := List.mem_of_mem_filter (longestPrefix_mem hroute)
      exact .inr ⟨route.overrides, ⟨_, (h.route route hmem).2⟩, rfl⟩

theorem network_policyFor {config : Config} (h : config.Checked) (path : String)
    (policy : Option String) :
    (config.policyFor path policy).payment.network = config.payment.network := by
  rcases payment_policyFor h path policy with heq | ⟨override, -, heq⟩
  · rw [heq]
  · rw [heq]
    rfl

theorem scheme_policyFor {config : Config} (h : config.validate = .ok ()) (path : String)
    (policy : Option String) : (config.policyFor path policy).payment.scheme = "exact" := by
  have hscheme : config.payment.scheme = "exact" := (Config.validate_eq_ok.mp h).1
  rcases payment_policyFor (checked_of_validate h) path policy with heq | ⟨override, -, heq⟩
  · rw [heq, hscheme]
  · rw [heq]
    exact hscheme

theorem maxTimeoutSeconds_policyFor {config : Config} (h : config.Checked) (path : String)
    (policy : Option String) :
    (config.policyFor path policy).payment.maxTimeoutSeconds =
      config.payment.maxTimeoutSeconds := by
  rcases payment_policyFor h path policy with heq | ⟨override, -, heq⟩
  · rw [heq]
  · rw [heq]
    rfl

/-- **Every price has a receiver.** Whatever a request resolves to pays a usable address. -/
theorem validatePayTo_policyFor {config : Config} (h : config.Checked) (path : String)
    (policy : Option String) :
    validatePayTo (config.policyFor path policy).payment.payTo = .ok () := by
  rcases payment_policyFor h path policy with heq | ⟨override, ⟨context, hoverride⟩, heq⟩
  · rw [heq]
    exact h.payTo
  · rw [heq]
    show validatePayTo (override.payTo.getD config.payment.payTo) = .ok ()
    cases hset : override.payTo with
    | none => exact h.payTo
    | some payTo => exact (PaymentOverride.validate_eq_ok.mp hoverride).1 payTo hset

end Checks

end X402Verifier
