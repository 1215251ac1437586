import Mathlib.Data.List.Sort
import X402Verifier.ConfigChecked
import X402Verifier.PolicyResolution
import X402Verifier.RequestCalls
import X402Verifier.SessionScope

/-!
# The policy table

`GET /policies` and `GET /supported` of `facilitator_api.rs`: what the service says of its prices to
anyone who asks, without spending a free request on it.

**Rows.** One for each named policy, by name: the order the map is iterated in does not show
(`apiPolicies_congr`).

**The table is kept** (`published_terms_are_kept`). A row is read at the empty path, but a defined
policy outranks every route, so it holds at all of them: whoever the gateway matched to the policy is
counted, asked to pay, verified, settled and sold a session by its row, in every run.

**So is the other list** (`challenges_are_supported`): a validated service asks for payments of the one
kind it supports.
-/

namespace X402Verifier

open RustStd Interaction

/-! ## The table -/

/-- One row of the effective policy table. -/
structure PolicyView where
  name : String
  amount : String
  asset : String
  payTo : String
  network : String
  description : String
  freeRequests : Nat
  freeWindowSecs : Nat
  sessionQuota : Nat
  sessionDurationSecs : Nat
  deriving DecidableEq

def Config.policyView (config : Config) (name : String) : PolicyView :=
  let resolved := config.policyFor "" (some name)
  { name := name
    amount := resolved.payment.amount
    asset := resolved.payment.asset
    payTo := resolved.payment.payTo
    network := resolved.payment.network
    description := resolved.payment.description
    freeRequests := resolved.freeTier.maxRequests
    freeWindowSecs := resolved.freeTier.windowSecs
    sessionQuota := resolved.paidTier.quota
    sessionDurationSecs := resolved.paidTier.durationSecs }

/-- Rows compare by name. -/
def PolicyView.Before (a b : PolicyView) : Prop := a.name ≤ b.name

instance : DecidableRel PolicyView.Before := fun a b => inferInstanceAs (Decidable (a.name ≤ b.name))

instance : Std.Total PolicyView.Before := ⟨fun a b => String.le_total a.name b.name⟩

instance : IsTrans PolicyView PolicyView.Before := ⟨fun _ _ _ hab hbc => String.le_trans hab hbc⟩

/-- `GET /policies`. -/
def Service.apiPolicies (svc : Service) : List PolicyView :=
  (svc.config.policies.keys.map svc.config.policyView).insertionSort PolicyView.Before

theorem mem_apiPolicies {svc : Service} {row : PolicyView} :
    row ∈ svc.apiPolicies ↔
      ∃ name, (svc.config.policies.get? name).isSome ∧ svc.config.policyView name = row := by
  simp only [Service.apiPolicies, List.mem_insertionSort, List.mem_map, Table.mem_keys_iff]

/-- **Sorted by name**, and no name twice. -/
theorem apiPolicies_sorted (svc : Service) :
    svc.apiPolicies.Pairwise fun a b => a.name < b.name := by
  have hnames : svc.apiPolicies.Pairwise fun a b => a.name ≠ b.name := by
    have hperm := (List.perm_insertionSort PolicyView.Before
      (svc.config.policies.keys.map svc.config.policyView)).map (·.name)
    rw [List.map_map] at hperm
    have hkeys : svc.config.policies.keys.map ((·.name) ∘ svc.config.policyView) =
        svc.config.policies.keys := List.map_id' _
    exact List.pairwise_map.mp (hperm.nodup_iff.mpr (hkeys.symm ▸ svc.config.policies.keys_nodup))
  have hsorted : svc.apiPolicies.Pairwise PolicyView.Before := List.pairwise_insertionSort _ _
  exact hsorted.imp₂
    (fun a b hle hne => String.not_le.mp fun hge => hne (String.le_antisymm hle hge)) hnames

/-- **The order of the map does not show.** -/
theorem apiPolicies_congr (svc : Service) (policies : Table String PaymentOverride)
    (h : ∀ name, policies.get? name = svc.config.policies.get? name) :
    Service.apiPolicies { svc with config := { svc.config with policies := policies } } =
      svc.apiPolicies := by
  have hview : ∀ name, Config.policyView { svc.config with policies := policies } name =
      svc.config.policyView name := fun name => by
    simp only [Config.policyView, Config.policyFor, h]
    rfl
  have hrows : ∀ row, row ∈ Service.apiPolicies
      { svc with config := { svc.config with policies := policies } } ↔ row ∈ svc.apiPolicies := by
    intro row
    simp only [mem_apiPolicies, h, hview]
  have hnodup : ∀ svc : Service, svc.apiPolicies.Nodup := fun svc =>
    (apiPolicies_sorted svc).imp fun {a b} hlt (heq : a = b) => by
      subst heq
      exact String.lt_irrefl _ hlt
  exact ((List.perm_ext_iff_of_nodup (hnodup _) (hnodup _)).mpr hrows).eq_of_pairwise
    (fun a b _ _ hab hba => (String.lt_asymm hab hba).elim) (apiPolicies_sorted _) (apiPolicies_sorted _)

theorem policyFor_named {config : Config} {name : String}
    (hname : (config.policies.get? name).isSome) (path : String) :
    config.policyFor path (some name) = config.policyFor "" (some name) := by
  obtain ⟨override, hget⟩ := Option.isSome_iff_exists.mp hname
  simp [Config.policyFor, hget]

/-! ## What is kept -/

variable [Platform]

/-- What the gateway sends of requests it matched to a policy. -/
def Message.Under (name : String) : Message → Prop
  | .check request => request.contextExtensions.get? policyContextKey = some name
  | .processing ⟨attributes, .requestHeaders _⟩ _ => policyFromAttributes attributes = some name
  | .processing _ _ | .hangUp | .tick => True
  | .postVerify _ | .postSettle _ => False

/-- A payment of this row. -/
structure PolicyView.Prices (row : PolicyView) (requirements : PaymentRequirements) : Prop where
  amount : requirements.amount = row.amount
  asset : requirements.asset = row.asset
  payTo : requirements.payTo = row.payTo
  network : requirements.network = row.network

/-- A call that keeps to this row. -/
def PolicyView.Keeps (row : PolicyView) : Op → Prop
  | .check label _ maxRequests windowSecs =>
    label = row.name ∧ maxRequests = row.freeRequests ∧ windowSecs = row.freeWindowSecs
  | .verify _ requirements | .settle _ requirements => row.Prices requirements
  | .createSession _ policy quota ttlSecs =>
    policy = some row.name ∧ quota = row.sessionQuota ∧ ttlSecs = row.sessionDurationSecs
  | .consume _ policy => policy = some row.name
  | _ => True

/-- A challenge that asks for one payment of this row, and offers its session. -/
structure PolicyView.Offers (row : PolicyView) (challenge : PaymentRequired) : Prop where
  accepts : ∃ requirements, challenge.accepts = [requirements] ∧ row.Prices requirements
  description : challenge.resource.description = some row.description
  session : challenge.extensions = some (sessionExtensionAdvertisement row.sessionQuota
    row.sessionDurationSecs headerPaymentSession)

omit [Platform] in
theorem policy_of_asksFor {name : String} {msg : Message} {path : String} {policy : Option String}
    (hunder : msg.Under name) (hasksFor : AsksFor msg path policy) : policy = some name := by
  cases hasksFor with
  | check request => exact hunder
  | stream attributes headers elapsedMs => exact hunder

section Row

variable {svc : Service} {name : String} (hname : (svc.config.policies.get? name).isSome)

include hname

omit [Platform] in
theorem label_named (path : String) : (svc.config.policyFor path (some name)).label = name := by
  obtain ⟨override, hget⟩ := Option.isSome_iff_exists.mp hname
  simp [Config.policyFor, hget]

omit [Platform] in
theorem prices_named (path : String) : (svc.config.policyView name).Prices
    (.fromConfig (svc.config.policyFor path (some name)).payment) := by
  rw [policyFor_named hname]
  exact ⟨rfl, rfl, rfl, rfl⟩

omit [Platform] in
theorem keeps_of_asks {path : String} {op : Op} (h : Asks svc path (some name) op) :
    (svc.config.policyView name).Keeps op := by
  cases h with
  | consume token => rfl
  | createSession payer =>
    rw [policyFor_named hname]
    exact ⟨rfl, rfl, rfl⟩
  | check ip =>
    refine ⟨label_named hname path, ?_⟩
    rw [policyFor_named hname]
    exact ⟨rfl, rfl⟩
  | verify payload | settle payload => exact prices_named hname path
  | nowEpochSecs | claimPayment | releasePayment | breakerState | breakerRecord => trivial

omit [Platform] in
theorem offers_of_challengeOf {path : String} {challenge : PaymentRequired}
    (h : ChallengeOf svc path (some name) challenge) :
    (svc.config.policyView name).Offers challenge := by
  obtain ⟨resourceUrl, error, rfl⟩ := h
  have hresolved : (svc.termsFor path (some name) resourceUrl).resolved =
      svc.config.policyFor "" (some name) := policyFor_named hname path
  refine ⟨⟨_, rfl, prices_named hname path⟩, ?_, ?_⟩
  · show some (svc.config.policyFor path (some name)).payment.description = _
    rw [policyFor_named hname]
    rfl
  · show some (sessionExtensionAdvertisement
      (svc.termsFor path (some name) resourceUrl).resolved.paidTier.quota _ _) = _
    rw [hresolved]
    rfl

end Row

/-- Every call of such an actor keeps to the row. -/
theorem keeps_of_run {svc : Service} {name : String}
    (hname : (svc.config.policies.get? name).isSome) (shared : AppState) {acts : List SystemAction}
    {a : Nat} (hunder : ∀ msg, .deliver a msg ∈ acts → msg.Under name) {op : Op} {answer : op.Ret}
    (hmem : (a, ⟨op, answer⟩) ∈ (svc.front.run (frontStart shared) acts).log) :
    (svc.config.policyView name).Keeps op := by
  cases (front_on_terms svc shared acts).2 _ hmem with
  | request hsent hasksFor hasks =>
    obtain rfl := policy_of_asksFor (hunder _ hsent) hasksFor
    exact keeps_of_asks hname hasks
  | postVerify hsent | postClaim hsent | postSettle hsent | postRelease hsent =>
    exact (hunder _ hsent).elim
  | cleanupExpired | cleanupIdle => trivial

/-- **Published terms are kept.** In every run, whoever the gateway matched to a listed policy is
counted, asked to pay, verified, settled and sold a session by the one row of that policy, whatever
path it asks for. -/
theorem published_terms_are_kept (svc : Service) (shared : AppState) (acts : List SystemAction)
    {a : Nat} {name : String} (hname : (svc.config.policies.get? name).isSome)
    (hunder : ∀ msg, .deliver a msg ∈ acts → msg.Under name) :
    ∃ row, (∀ other, other ∈ svc.apiPolicies ∧ other.name = name ↔ other = row) ∧
      (∀ op answer, (a, ⟨op, answer⟩) ∈ (svc.front.run (frontStart shared) acts).log →
        row.Keeps op) ∧
      ∀ caller, (svc.front.run (frontStart shared) acts).task a = .idle caller →
        ∀ told ∈ caller.told, told.Quotes row.Offers := by
  refine ⟨svc.config.policyView name, fun other => ?_, fun op answer hmem => ?_,
    fun caller hcaller told htold text htext => ?_⟩
  · rw [mem_apiPolicies]
    constructor
    · rintro ⟨⟨name', -, rfl⟩, rfl⟩
      rfl
    · rintro rfl
      exact ⟨⟨name, hname, rfl⟩, rfl⟩
  · exact keeps_of_run hname shared hunder hmem
  · -- Whichever request the challenge is for, it came under the policy.
    obtain ⟨challenge, ⟨msg, path, policy, hsent, hasksFor, hof⟩, heq⟩ :=
      challenges_are_asked_for svc shared acts hcaller told htold text htext
    obtain rfl := policy_of_asksFor (hunder _ hsent) hasksFor
    exact ⟨challenge, offers_of_challengeOf hname hof, heq⟩

/-- A policy of its own price. -/
def goldConfig : Config :=
  { exampleConfig .stubAcceptAll with
    policies := Table.insert ∅ "gold-tier" { amount := some "2000" } }

/-- A request without an address, matched to the policy: it is asked to pay. -/
def goldRun : List SystemAction :=
  [.deliver 0 (.check ⟨none, none, Table.insert ∅ policyContextKey "gold-tier"⟩)]

/-- The same, and then a request that pays the price. -/
def goldPaidRun : List SystemAction :=
  goldRun ++ .deliver 1 (.check (rootRequest (paymentHeaders "2000")
    (Table.insert ∅ policyContextKey "gold-tier"))) ::
      List.replicate 3 (.advance 1 (exampleEnv 1000))

omit [Platform] in
theorem receipted_goldPaidRun :
    let _ : Platform := paymentPlatform "2000"
    let svc := Service.ofConfig goldConfig
    (svc.front.run (frontStart (.ofConfig goldConfig [])) goldPaidRun).log.countP
      (receipted ·.2) = 1 := by
  intro _ svc
  have hne : utf8 (paymentText "2000") ≠ [] := by decide +kernel
  have htell := svc.tell_check_of_payment
    (rootRequest (paymentHeaders "2000") (Table.insert ∅ policyContextKey "gold-tier"))
    (presentedToken_paymentHeaders "2000" hne) (presentedPayment_paymentHeaders "2000" hne)
  rw [goldPaidRun, Machine.run_append, Machine.run_cons,
    Machine.step_deliver (l := ⟨.fresh, []⟩) rfl]
  rw [show ∀ msg, svc.front.handle ⟨.fresh, []⟩ msg = (svc.tell .fresh msg).bind _ from
    fun _ => rfl, htell]
  decide +kernel

omit [Platform] in
theorem published_terms_are_kept_example :
    let _ : Platform := paymentPlatform "2000"
    let svc := Service.ofConfig goldConfig
    let front := svc.front.run (frontStart (.ofConfig goldConfig [])) goldPaidRun
    front.log.countP (receipted ·.2) = 1 ∧ ∀ a,
      ∃ row, (∀ other, other ∈ svc.apiPolicies ∧ other.name = "gold-tier" ↔ other = row) ∧
        (∀ op answer, (a, ⟨op, answer⟩) ∈ front.log → row.Keeps op) ∧
        ∀ caller, front.task a = .idle caller → ∀ told ∈ caller.told, told.Quotes row.Offers := by
  intro _
  refine ⟨receipted_goldPaidRun, fun a => ?_⟩
  refine published_terms_are_kept (Service.ofConfig goldConfig) _ goldPaidRun rfl ?_
  intro msg hmem
  simp [goldPaidRun, goldRun] at hmem
  rcases hmem with ⟨-, rfl⟩ | ⟨-, rfl⟩ <;> rfl

/-! ## What is supported -/

structure SupportedKind where
  x402Version : Nat
  scheme : String
  network : String
  extra : Option Json

/-- The answer of `/supported`. No key is held, so there is no signer. -/
structure SupportedResponse where
  kinds : List SupportedKind
  extensions : List String
  signers : Table String (List String)

omit [Platform] in
def Facilitator.supported (f : Facilitator) : SupportedResponse :=
  { kinds := [{ x402Version := x402Version, scheme := "exact", network := f.network, extra := none }]
    extensions := [sessionExtension]
    signers := ∅ }

/-- `GET /supported`. -/
def Service.apiSupported (svc : Service) : SupportedResponse := svc.facilitator.supported

/-- A challenge that asks for one payment, of a kind and with extensions that are supported, at a
wallet that can be paid. -/
structure SupportedResponse.Covers (supported : SupportedResponse) (challenge : PaymentRequired) :
    Prop where
  accepts : ∃ requirements, challenge.accepts = [requirements] ∧
    validatePayTo requirements.payTo = .ok () ∧
    ∃ kind ∈ supported.kinds, kind.x402Version = challenge.x402Version ∧
      kind.scheme = requirements.scheme ∧ kind.network = requirements.network
  extensions : ∃ fields, challenge.extensions = some (.obj fields) ∧
    fields.map (·.1) = supported.extensions

theorem covers_of_challengeOf {config : Config} (h : config.validate = .ok ()) {path : String}
    {policy : Option String} {challenge : PaymentRequired}
    (hof : ChallengeOf (.ofConfig config) path policy challenge) :
    (Service.ofConfig config).apiSupported.Covers challenge := by
  obtain ⟨resourceUrl, error, rfl⟩ := hof
  refine ⟨⟨_, rfl, validatePayTo_policyFor (checked_of_validate h) path policy, _,
    List.mem_singleton_self _, rfl, ?_, ?_⟩, ⟨_, rfl, rfl⟩⟩
  · exact (scheme_policyFor h path policy).symm
  · exact (network_policyFor (checked_of_validate h) path policy).symm

/-- **Challenges are supported.** In every run of a validated service, whoever is asked to pay is asked
for one payment of a kind, and offered an extension, that `/supported` lists, and it pays a valid
wallet. -/
theorem challenges_are_supported {config : Config} (h : config.validate = .ok ()) (shared : AppState)
    (acts : List SystemAction) {a : Nat} {caller : Caller}
    (hcaller : ((Service.ofConfig config).front.run (frontStart shared) acts).task a = .idle caller) :
    ∀ told ∈ caller.told, told.Quotes (Service.ofConfig config).apiSupported.Covers := by
  intro told htold text htext
  obtain ⟨challenge, ⟨msg, path, policy, -, -, hof⟩, heq⟩ :=
    challenges_are_asked_for _ shared acts hcaller told htold text htext
  exact ⟨challenge, covers_of_challengeOf h hof, heq⟩

omit [Platform] in
theorem challenges_are_supported_example :
    let _ : Platform := examplePlatform
    let svc := Service.ofConfig goldConfig
    goldConfig.validate = .ok () ∧ ∃ caller,
      (svc.front.run (frontStart (.ofConfig goldConfig [])) goldRun).task 0 = .idle caller ∧
      caller.told ≠ [] ∧ ∀ told ∈ caller.told, told.Quotes svc.apiSupported.Covers := by
  intro _ svc
  have hvalid : goldConfig.validate = .ok () := rfl
  obtain ⟨caller, hcaller, htold⟩ : ∃ caller,
      (svc.front.run (frontStart (.ofConfig goldConfig [])) goldRun).task 0 = .idle caller ∧
        caller.told ≠ [] := ⟨_, rfl, by simp⟩
  exact ⟨hvalid, caller, hcaller, htold, challenges_are_supported hvalid _ goldRun hcaller⟩

end X402Verifier
