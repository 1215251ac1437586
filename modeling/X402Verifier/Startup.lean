import X402Verifier.ConfigChecked
import X402Verifier.PolicyResolution
import X402Verifier.RequestCalls
import X402Verifier.SessionScope

/-!
# Starting

`Config::load` of `config.rs`, `check_chain` of `sui.rs` and the first half of `main.rs`: the
environment is laid over the file, the result is validated, and the fullnode and the store are asked
before anything is served. Reading and parsing the file is left to the caller of `start`.

What a started service rests on is `Grounded`. Whom it lets a payment pay is read off the file and the
environment alone (`operatorWallet`): the variable of the policy wins over what the file says of the
policy, and that over the common variable and the top-level wallet. `settlements_are_on_own_terms` is
about every run of it: what an actor settles for a client is on the terms of that client's own request,
and pays the wallet the operator named for them.
-/

namespace X402Verifier

open RustStd Interaction

/-! ## The environment over the file -/

/-- The variables the process was started with. -/
abbrev Environment : Type := Table String String

def envPayToPrefix : String := "X402_PAY_TO_"

/-- The variable that carries the receiving wallet of a policy. -/
def payToEnvVar (policy : String) : String :=
  envPayToPrefix ++ replaceChar (toAsciiUppercase policy) '-' '_'

/-- The fields of the file, with those only `main` reads. -/
structure ConfigFile extends Config where
  suiGrpcUrl : String
  suiChain : String

/-- The environment wins over the file. -/
def Config.overriddenBy (config : Config) (vars : Environment) : Config :=
  { config with
    sessionHmacSecret := (vars.get? envHmacSecret).getD config.sessionHmacSecret
    payment :=
      { config.payment with payTo := (vars.get? envPayTo).getD config.payment.payTo }
    policies := config.policies.mapValues fun name policy =>
      { policy with payTo := (vars.get? (payToEnvVar name)).or policy.payTo } }

variable [Platform]

/-- `Config::load`, of a file that was read and parsed. -/
def ConfigFile.load (parsed : Except Messages ConfigFile) (vars : Environment) :
    Except Messages ConfigFile := do
  let file ← parsed
  let file := { file with toConfig := file.overriddenBy vars }
  file.validate
  pure file

/-! ## The fullnode -/

/-- The configured chain against the one the node reports. -/
inductive ChainCheck where
  | matches
  | notReported
  deriving DecidableEq

omit [Platform] in
def checkChain (configured : String) (reported : Option String) :
    Except FacilitatorError ChainCheck :=
  match (reported.map trim).filter (! ·.isEmpty) with
  | none => .ok .notReported
  | some reported =>
    if eqIgnoreAsciiCase reported (trim configured) then .ok .matches
    else .error (.chainMismatch reported configured)

/-- What the process meets while it starts: the environment, the fullnode's client and its
`GetServiceInfo`, and what Redis holds. -/
structure Surroundings where
  vars : Environment
  client : Except String Unit
  serviceInfo : Except String (Option String)
  redisSessions : Except String (Table String (Expiring RedisSession) × Table String (Expiring Nat))
  redisLimiter : Except String (Table String (Expiring Nat))

def SuiVerifier.connect (grpcUrl network : String) (outside : Surroundings) :
    Except FacilitatorError SuiVerifier :=
  match outside.client with
  | .error e => .error (.rpc ("connecting to " ++ grpcUrl ++ ": " ++ e))
  | .ok () => .ok ⟨network⟩

/-- Ask the node which chain it is serving. -/
def reportedChain (outside : Surroundings) : Except FacilitatorError (Option String) :=
  match outside.serviceInfo with
  | .error e => .error (.rpc ("GetServiceInfo: " ++ e))
  | .ok chain => .ok chain

def Facilitator.new (mode : VerificationMode) (grpcUrl network : String) (outside : Surroundings) :
    Except FacilitatorError Facilitator :=
  match mode with
  | .stubAcceptAll => .ok ⟨mode, network, none⟩
  | .suiGrpc => do
    let sui ← SuiVerifier.connect grpcUrl network outside
    pure ⟨mode, network, some sui⟩

/-- Confirm the fullnode is serving the expected chain. In stub mode there is none to ask. -/
def Facilitator.verifyChain (f : Facilitator) (expected : String) (outside : Surroundings) :
    Except FacilitatorError ChainCheck :=
  match f.sui with
  | none => .ok .notReported
  | some _ => do
    let reported ← reportedChain outside
    checkChain expected reported

/-! ## `main` -/

/-- What `main` serves. -/
structure Started where
  service : Service
  state : AppState

/-- Connect the state store. -/
def connectStore (store : StoreConfig) (paidTier : PaidTierConfig) (hmacKey : Bytes)
    (outside : Surroundings) : Except Messages AppState :=
  match store.backend with
  | .memory =>
    .ok { sessions := .memory { codec := ⟨hmacKey⟩, replayRetentionSecs := paidTier.durationSecs }
          limiter := .memory {} }
  | .redis =>
    let context := "connecting to redis at " ++ store.redisUrl
    match outside.redisSessions with
    | .error e => .error [context, StoreError.display (.redis e)]
    | .ok (sessions, seen) =>
      match outside.redisLimiter with
      | .error e => .error [context, e]
      | .ok counters =>
        .ok { sessions := .redis { sessions := sessions, seen := seen, codec := ⟨hmacKey⟩ }
              limiter := .redis ⟨counters⟩ }

/-- A failure of the facilitator, in the words of `main`. -/
def inWords {α : Type} (words : String → Messages) : Except FacilitatorError α → Except Messages α
  | .ok a => .ok a
  | .error e => .error (words e.display)

/-- `main`, up to the point where it serves. -/
def start (configPath : String) (parsed : Except Messages ConfigFile) (outside : Surroundings) :
    Except Messages Started := do
  let file ← withContext ("loading configuration from " ++ configPath)
    (ConfigFile.load parsed outside.vars)
  let hmacKey ← file.hmacKey
  let facilitator ← inWords (fun e => ["connecting to the Sui fullnode at " ++ file.suiGrpcUrl, e])
    (Facilitator.new file.verificationMode file.suiGrpcUrl file.payment.network outside)
  let _ ← inWords (fun e =>
      ["the fullnode at " ++ file.suiGrpcUrl ++ " is not serving the configured chain: " ++ e ++
        ". Fix sui_grpc_url or sui_chain — serving mainnet terms from a testnet node sells " ++
        "real access for worthless funds."])
    (facilitator.verifyChain file.suiChain outside)
  let state ← connectStore file.store file.paidTier hmacKey outside
  pure ⟨⟨file.toConfig, facilitator⟩, state⟩

/-! ## What a started service rests on -/

/-- Two names of a chain. -/
def SameChain (configured reported : String) : Prop :=
  eqIgnoreAsciiCase (trim reported) (trim configured) = true

/-- The key tokens are signed with. -/
def SessionStore.hmacKey : SessionStore → Bytes
  | .memory m => m.codec.hmacKey
  | .redis r => r.codec.hmacKey

/-- A service that serves: its configuration was validated as the environment left it, its key is the
configured one, and a fullnode that says which chain it serves says the configured one. -/
structure Grounded (file : ConfigFile) (outside : Surroundings) (started : Started) : Prop where
  service : started.service = .ofConfig (file.overriddenBy outside.vars)
  valid : started.service.config.validate = .ok ()
  key : started.service.config.hmacKey = .ok started.state.sessions.hmacKey
  chain : file.verificationMode = .suiGrpc →
    ∃ reported, outside.serviceInfo = .ok reported ∧
      ∀ chain, reported = some chain → isBlank chain = false → SameChain file.suiChain chain

omit [Platform] in
theorem sameChain_of_checkChain {configured : String} {reported : Option String} {check : ChainCheck}
    (h : checkChain configured reported = .ok check) :
    ∀ chain, reported = some chain → isBlank chain = false → SameChain configured chain := by
  rintro chain rfl hblank
  have hsome : (Option.map trim (some chain)).filter (! ·.isEmpty) = some (trim chain) := by
    rw [Option.map_some, Option.filter, ← isBlank, hblank]
    rfl
  unfold checkChain at h
  rw [hsome] at h
  dsimp only at h
  split_ifs at h with hsame
  exact hsame

omit [Platform] in
theorem hmacKey_of_connectStore {store : StoreConfig} {paidTier : PaidTierConfig} {hmacKey : Bytes}
    {outside : Surroundings} {state : AppState}
    (h : connectStore store paidTier hmacKey outside = .ok state) :
    state.sessions.hmacKey = hmacKey := by
  unfold connectStore at h
  cases hbackend : store.backend with
  | memory =>
    rw [hbackend] at h
    cases h
    rfl
  | redis =>
    rw [hbackend] at h
    dsimp only at h
    split at h
    · cases h
    · split at h
      · cases h
      · cases h
        rfl

theorem inWords_eq_ok {α : Type} {words : String → Messages} {x : Except FacilitatorError α} {a : α} :
    inWords words x = .ok a ↔ x = .ok a := by
  cases x <;> simp [inWords]

omit [Platform] in
theorem new_eq_ok {config : Config} {grpcUrl : String} {outside : Surroundings} {f : Facilitator}
    (h : Facilitator.new config.verificationMode grpcUrl config.payment.network outside = .ok f) :
    f = .ofConfig config := by
  unfold Facilitator.ofConfig
  cases hmode : config.verificationMode with
  | stubAcceptAll =>
    rw [hmode] at h
    cases h
    rfl
  | suiGrpc =>
    rw [hmode] at h
    obtain ⟨sui, hsui, hf⟩ := Except.bind_eq_ok.mp h
    unfold SuiVerifier.connect at hsui
    split at hsui
    · cases hsui
    · cases hsui
      cases hf
      rfl

/-- **What starts is grounded.** -/
theorem grounded_of_start {configPath : String} {parsed : Except Messages ConfigFile}
    {outside : Surroundings} {started : Started} (h : start configPath parsed outside = .ok started) :
    ∃ file, parsed = .ok file ∧ Grounded file outside started := by
  obtain ⟨loaded, hload, h⟩ := Except.bind_eq_ok.mp h
  obtain ⟨hmacKey, hkey, h⟩ := Except.bind_eq_ok.mp h
  obtain ⟨facilitator, hnew, h⟩ := Except.bind_eq_ok.mp h
  obtain ⟨check, hchain, h⟩ := Except.bind_eq_ok.mp h
  obtain ⟨state, hstore, h⟩ := Except.bind_eq_ok.mp h
  cases h
  obtain ⟨file, hparsed, hload⟩ := Except.bind_eq_ok.mp (withContext_eq_ok.mp hload)
  obtain ⟨hvalid, hload⟩ := Except.bind_unit_eq_ok.mp hload
  cases hload
  obtain rfl := new_eq_ok (inWords_eq_ok.mp hnew)
  refine ⟨file, hparsed, rfl, hvalid, ?_, fun hmode => ?_⟩
  · rw [hmacKey_of_connectStore hstore]
    exact hkey
  · have hsui : (Facilitator.ofConfig (file.overriddenBy outside.vars)).sui =
        some ⟨(file.overriddenBy outside.vars).payment.network⟩ := by
      rw [Facilitator.ofConfig, show (file.overriddenBy outside.vars).verificationMode = .suiGrpc from hmode]
    have hverified := inWords_eq_ok.mp hchain
    rw [Facilitator.verifyChain, hsui] at hverified
    obtain ⟨reported, hreported, hsame⟩ := Except.bind_eq_ok.mp hverified
    refine ⟨reported, ?_, sameChain_of_checkChain hsame⟩
    unfold reportedChain at hreported
    split at hreported
    · cases hreported
    · rename_i chain hinfo
      cases hreported
      exact hinfo

/-! ## Whom a payment pays -/

/-- The wallet the operator named for an entry. -/
def operatorWallet (file : Config) (vars : Environment) (entry : Entry) : String :=
  let top := (vars.get? envPayTo).getD file.payment.payTo
  match entry with
  | .named name => ((vars.get? (payToEnvVar name)).or (file.overrideOf entry).payTo).getD top
  | .prefixed _ | .defaults => ((file.overrideOf entry).payTo).getD top

omit [Platform] in
theorem entryFor_overriddenBy (file : Config) (vars : Environment) (path : String)
    (policy : Option String) :
    (file.overriddenBy vars).entryFor path policy = file.entryFor path policy := by
  have hdefined : ∀ name, ((file.overriddenBy vars).policies.get? name).isSome =
      (file.policies.get? name).isSome := fun name => by
    rw [Config.overriddenBy, Table.get?_mapValues, Option.isSome_map]
  simp only [Config.entryFor, hdefined]
  rfl

omit [Platform] in
/-- **The operator's wallet.** A request is sold to the wallet of its entry. -/
theorem payTo_policyFor_overriddenBy (file : Config) (vars : Environment) (path : String)
    (policy : Option String) :
    ((file.overriddenBy vars).policyFor path policy).payment.payTo =
      operatorWallet file vars (file.entryFor path policy) := by
  rw [(layers_policyFor (file.overriddenBy vars) path policy).payTo, entryFor_overriddenBy]
  cases hentry : file.entryFor path policy with
  | prefixed route => rfl
  | defaults => rfl
  | named name =>
    have hgoverns := hentry ▸ governs_entryFor file path policy
    cases hgoverns with
    | named defined =>
      obtain ⟨override, hget⟩ := Option.isSome_iff_exists.mp defined
      simp only [Config.overrideOf, Config.overriddenBy, Table.get?_mapValues, hget, operatorWallet,
        Option.map_some, Option.getD_some]

/-! ## What is settled -/

/-- **Settlements are on the client's own terms.** In every run of a service that started, what an
actor settles is on terms that its own call of `/settle` named, or on those of a request it was sent:
for the wallet, valid and not the placeholder, that the operator named for it. -/
theorem settlements_are_on_own_terms {configPath : String} {parsed : Except Messages ConfigFile}
    {outside : Surroundings} {started : Started}
    (h : start configPath parsed outside = .ok started) (acts : List SystemAction) :
    ∃ file, parsed = .ok file ∧ Grounded file outside started ∧
      ∀ a payload requirements answer,
        (a, ⟨.settle payload requirements, answer⟩) ∈
          (started.service.machine.run (SystemState.start started.state) acts).log →
        (∃ request, .deliver a (.postSettle request) ∈ acts ∧
          requirements = request.paymentRequirements) ∨
        ∃ msg path policy, .deliver a msg ∈ acts ∧ AsksFor msg path policy ∧
          requirements = .fromConfig (started.service.config.policyFor path policy).payment ∧
          requirements.payTo = operatorWallet file.toConfig outside.vars (file.entryFor path policy) ∧
          validatePayTo requirements.payTo = .ok () := by
  obtain ⟨file, hparsed, hgrounded⟩ := grounded_of_start h
  refine ⟨file, hparsed, hgrounded, fun a payload requirements answer hmem => ?_⟩
  -- Only a request and `/settle` account for a settlement.
  cases calls_are_asked_for _ _ acts _ hmem with
  | postSettle hsent => exact .inl ⟨_, hsent, rfl⟩
  | request hsent hasksFor hasks =>
    cases hasks
    refine .inr ⟨_, _, _, hsent, hasksFor, rfl, ?_,
      validatePayTo_policyFor (checked_of_validate hgrounded.valid) _ _⟩
    rw [hgrounded.service]
    exact payTo_policyFor_overriddenBy file.toConfig outside.vars _ _

/-- A file with one policy of its own. -/
def exampleFile : ConfigFile :=
  { exampleConfig .suiGrpc with
    policies := Table.insert ∅ "gold-tier" { amount := some "2000" }
    suiGrpcUrl := "https://fullnode.example"
    suiChain := "testnet" }

/-- A wallet for the policy in the environment, and a fullnode that shouts its chain. -/
def exampleSurroundings : Surroundings :=
  { vars := Table.insert ∅ "X402_PAY_TO_GOLD_TIER"
      "0x3333333333333333333333333333333333333333333333333333333333333333"
    client := .ok ()
    serviceInfo := .ok (some " TESTNET\n")
    redisSessions := .error "no redis"
    redisLimiter := .error "no redis" }

example : operatorWallet exampleFile.toConfig exampleSurroundings.vars (.named "gold-tier") =
    "0x3333333333333333333333333333333333333333333333333333333333333333" := by decide

/-- What the service starts as. -/
def startedService : Service := .ofConfig (exampleFile.overriddenBy exampleSurroundings.vars)

def startedState : AppState :=
  .ofConfig (exampleFile.overriddenBy exampleSurroundings.vars) exampleKey

omit [Platform] in
theorem start_exampleFile :
    let _ : Platform := chainTreePlatform
    start "config.yaml" (.ok exampleFile) exampleSurroundings =
      .ok ⟨startedService, startedState⟩ := by
  rfl

/-- A request that pays on the default terms, on chain. -/
def paidRequest : CheckRequest := rootRequest ⟨some (headerMap (treeHeaders chainTree))⟩ ∅

def paidCheck : List SystemAction :=
  .deliver 0 (.check paidRequest) :: List.replicate 3 (.advance 0 (executedEnv 1000))

omit [Platform] in
theorem receipted_paidCheck :
    let _ : Platform := chainTreePlatform
    (startedService.machine.run (SystemState.start startedState) paidCheck).log.countP
      (receipted ·.2) = 1 := by
  intro _
  have hhandle : startedService.machine.handle .fresh (.check paidRequest) = _ :=
    startedService.handle_check_of_payment paidRequest presentedToken_chainTree
      presentedPayment_chainTree
  rw [paidCheck, Machine.run_cons, Machine.step_deliver (l := .fresh) rfl, hhandle]
  decide +kernel

omit [Platform] in
theorem settlements_are_on_own_terms_example :
    let _ : Platform := chainTreePlatform
    let log := (startedService.machine.run (SystemState.start startedState) paidCheck).log
    start "config.yaml" (.ok exampleFile) exampleSurroundings =
        .ok ⟨startedService, startedState⟩ ∧
      log.countP (receipted ·.2) = 1 ∧
      ∃ file, (Except.ok exampleFile : Except Messages ConfigFile) = .ok file ∧
        Grounded file exampleSurroundings ⟨startedService, startedState⟩ ∧
        ∀ a payload requirements answer, (a, ⟨.settle payload requirements, answer⟩) ∈ log →
          (∃ request, .deliver a (.postSettle request) ∈ paidCheck ∧
            requirements = request.paymentRequirements) ∨
          ∃ msg path policy, .deliver a msg ∈ paidCheck ∧ AsksFor msg path policy ∧
            requirements = .fromConfig (startedService.config.policyFor path policy).payment ∧
            requirements.payTo =
              operatorWallet file.toConfig exampleSurroundings.vars (file.entryFor path policy) ∧
            validatePayTo requirements.payTo = .ok () := by
  intro _ _
  exact ⟨start_exampleFile, receipted_paidCheck,
    settlements_are_on_own_terms start_exampleFile paidCheck⟩

end X402Verifier
