import X402Verifier.Platform
import X402Verifier.RustStd.Table

/-!
# Configuration

`config.rs`: what an operator writes, the checks that refuse it at startup (`Config.validate`),
and the resolution of one request's terms (`Config.policyFor`).

An `anyhow` error is the list of its messages, outermost first. Fields that only choose listen
addresses or endpoints are left out, and so is the warning about low prices, which refuses
nothing.
-/

namespace X402Verifier

open RustStd

def envHmacSecret : String := "X402_SESSION_HMAC_SECRET"

def envPayTo : String := "X402_PAY_TO"

def suiAddressHexLen : Nat := 64

/-- The HMAC secret shipped in every example config. -/
def placeholderHmacSecret : String :=
  "abababababababababababababababababababababababababababababababab"

def minHmacKeyBytes : Nat := 32

/-- Smallest transfer Sui's gasless stablecoin path will execute: 0.01 of the asset. -/
def gaslessMinimumBaseUnits (decimals : Nat) : Nat := min (10 ^ decimals) (u128Bound - 1) / 100

inductive VerificationMode where
  | stubAcceptAll
  | suiGrpc
  deriving DecidableEq

/-- Payment terms advertised in the challenge. -/
structure PaymentConfig where
  scheme : String
  network : String
  amount : String
  asset : String
  assetDecimals : Nat := 6
  payTo : String
  maxTimeoutSeconds : Nat
  description : String
  serviceName : Option String := none
  tags : List String := []
  iconUrl : Option String := none
  gasStation : Option String := none
  deriving DecidableEq

/-- Anonymous tier limits. -/
structure FreeTierConfig where
  maxRequests : Nat
  windowSecs : Nat
  deriving DecidableEq

/-- What one payment buys. -/
structure PaidTierConfig where
  quota : Nat
  durationSecs : Nat
  deriving DecidableEq

/-- Terms and tiers that differ from the defaults. -/
structure PaymentOverride where
  payTo : Option String := none
  amount : Option String := none
  asset : Option String := none
  assetDecimals : Option Nat := none
  description : Option String := none
  freeTier : Option FreeTierConfig := none
  paidTier : Option PaidTierConfig := none
  deriving DecidableEq

/-- The terms in force for one request. -/
structure ResolvedPolicy where
  label : String
  payment : PaymentConfig
  freeTier : FreeTierConfig
  paidTier : PaidTierConfig
  deriving DecidableEq

def defaultPolicyLabel : String := "default"

structure RouteOverride where
  pathPrefix : String
  overrides : PaymentOverride
  deriving DecidableEq

inductive StoreBackend where
  | memory
  | redis
  deriving DecidableEq

structure StoreConfig where
  backend : StoreBackend := .memory
  redisUrl : String := ""
  deriving DecidableEq

structure Config where
  verificationMode : VerificationMode
  payment : PaymentConfig
  policies : Table String PaymentOverride := ∅
  routes : List RouteOverride := []
  freeTier : FreeTierConfig
  paidTier : PaidTierConfig
  store : StoreConfig := {}
  sessionHmacSecret : String := ""

/-! ## Validation -/

/-- The messages of an error, outermost first. -/
abbrev Messages : Type := List String

/-- `anyhow::Context`. -/
def withContext {α : Type} (context : String) : Except Messages α → Except Messages α
  | .ok a => .ok a
  | .error causes => .error (context :: causes)

section Validate

variable [Platform]

open Platform

/-- Reject anything that is not a usable Sui receiving address. -/
def validatePayTo (payTo : String) : Except Messages Unit :=
  match stripPrefix payTo "0x" with
  | none =>
    .error ["payment.pay_to must be a 0x-prefixed Sui address, got " ++ debugStr payTo]
  | some hexPart =>
    if hexPart.utf8ByteSize ≠ suiAddressHexLen ∨ ¬ hexPart.toList.all isAsciiHexdigit then
      .error ["payment.pay_to must be 0x followed by " ++ toString suiAddressHexLen ++
        " hex characters, got " ++ debugStr payTo]
    else if hexPart.toList.all (· == '0') then
      .error ["payment.pay_to is the zero address — this is the placeholder from " ++
        "config.example.yaml. Set a real receiving wallet in the config or via " ++ envPayTo ++ "."]
    else .ok ()

def FreeTierConfig.validate (tier : FreeTierConfig) (context : String) : Except Messages Unit :=
  if tier.windowSecs = 0 then .error [context ++ ": window_secs must be greater than zero"]
  else .ok ()

def PaidTierConfig.validate (tier : PaidTierConfig) (context : String) : Except Messages Unit :=
  if tier.durationSecs = 0 then .error [context ++ ": duration_secs must be greater than zero"]
  else if tier.quota = 0 then .error [context ++ ": quota must be greater than zero"]
  else .ok ()

/-- Validate an optional field when it is set. -/
def whenSet {α : Type} (o : Option α) (check : α → Except Messages Unit) : Except Messages Unit :=
  match o with
  | none => .ok ()
  | some a => check a

def PaymentOverride.validate (override : PaymentOverride) (context : String) :
    Except Messages Unit := do
  whenSet override.payTo fun payTo => withContext context (validatePayTo payTo)
  whenSet override.amount fun amount =>
    if parseUnsigned u128Bound amount = none then
      .error [context ++ ": amount must be a decimal integer string, got " ++ debugStr amount]
    else .ok ()
  whenSet override.freeTier fun tier => tier.validate (context ++ " free_tier")
  whenSet override.paidTier fun tier => tier.validate (context ++ " paid_tier")

/-- The bounds on discovery metadata. Lengths are in bytes. -/
def Config.validateDiscoveryMetadata (config : Config) : Except Messages Unit := do
  whenSet config.payment.serviceName fun name =>
    if name.utf8ByteSize > 32 ∨ ¬ isAscii name then
      .error ["payment.service_name must be printable ASCII and at most 32 " ++
        "characters (§5.1.2), got " ++ toString name.utf8ByteSize ++ " characters"]
    else .ok ()
  if config.payment.tags.length > 5 then
    .error ["payment.tags allows at most 5 entries (§5.1.2), got " ++
      toString config.payment.tags.length]
  config.payment.tags.forM fun tag =>
    if tag.utf8ByteSize > 32 ∨ ¬ isAscii tag then
      .error ["payment.tags entry " ++ debugStr tag ++ " must be printable ASCII and at most " ++
        "32 characters (§5.1.2)"]
    else .ok ()
  whenSet config.payment.iconUrl fun icon =>
    if icon.utf8ByteSize > 2048 then
      .error ["payment.icon_url must be at most 2048 characters (§5.1.2)"]
    else if ¬ startsWith icon "http://" ∧ ¬ startsWith icon "https://" then
      .error ["payment.icon_url must be an absolute http(s) URL (§5.1.2), got " ++ debugStr icon]
    else .ok ()

/-- Decode the configured HMAC secret into raw key bytes. -/
def Config.hmacKey (config : Config) : Except Messages Bytes :=
  if config.sessionHmacSecret.isEmpty then
    .error ["session HMAC secret is empty; set it in the config file or via " ++ envHmacSecret]
  else if trim config.sessionHmacSecret = placeholderHmacSecret then
    .error ["session HMAC secret is the placeholder from the example config, which is " ++
      "published and therefore public. Anyone could forge session tokens against " ++
      "this deployment. Generate a real one:\n\n    " ++
      "export " ++ envHmacSecret ++ "=$(openssl rand -hex 32)"]
  else
    match hexDecode config.sessionHmacSecret with
    | .error e =>
      .error ["session HMAC secret must be hex-encoded (generate with: openssl rand -hex 32)", e]
    | .ok key =>
      if key.length < minHmacKeyBytes then
        .error ["session HMAC secret must be at least " ++ toString minHmacKeyBytes ++ " bytes (" ++
          toString (minHmacKeyBytes * 2) ++ " hex chars), got " ++ toString key.length]
      else .ok key

/-- Reject configurations that would be unsafe or nonsensical at runtime. -/
def Config.validate (config : Config) : Except Messages Unit := do
  if config.payment.scheme ≠ "exact" then
    .error ["unsupported payment scheme " ++ debugStr config.payment.scheme ++
      "; only \"exact\" is implemented"]
  if parseUnsigned u128Bound config.payment.amount = none then
    .error ["payment.amount must be a decimal integer string, got " ++
      debugStr config.payment.amount]
  validatePayTo config.payment.payTo
  config.freeTier.validate "free_tier"
  config.paidTier.validate "paid_tier"
  config.validateDiscoveryMetadata
  config.policies.toPairs.forM fun (name, policy) =>
    policy.validate ("policy " ++ debugStr name)
  config.routes.forM fun route => do
    if route.pathPrefix.isEmpty then .error ["routes[].path_prefix must not be empty"]
    route.overrides.validate ("route " ++ debugStr route.pathPrefix)
  if config.store.backend = .redis ∧ config.store.redisUrl.isEmpty then
    .error ["store.redis_url is required when store.backend is \"redis\""]
  let _ ← config.hmacKey

end Validate

/-! ## Resolution -/

/-- Layer this override onto resolved terms. -/
def PaymentOverride.applyTo (override : PaymentOverride) (resolved : ResolvedPolicy) :
    ResolvedPolicy :=
  { resolved with
    payment :=
      { resolved.payment with
        payTo := override.payTo.getD resolved.payment.payTo
        amount := override.amount.getD resolved.payment.amount
        asset := override.asset.getD resolved.payment.asset
        assetDecimals := override.assetDecimals.getD resolved.payment.assetDecimals
        description := override.description.getD resolved.payment.description }
    freeTier := override.freeTier.getD resolved.freeTier
    paidTier := override.paidTier.getD resolved.paidTier }

/-- `Iterator::max_by_key` on the prefix length: of several longest, the last. -/
def longestPrefix : List RouteOverride → Option RouteOverride
  | [] => none
  | route :: rest =>
    match longestPrefix rest with
    | none => some route
    | some best =>
      if best.pathPrefix.utf8ByteSize < route.pathPrefix.utf8ByteSize then some route
      else some best

/-- The route a path falls under when no named policy decides. -/
def Config.routeFor (config : Config) (path : String) : Option RouteOverride :=
  longestPrefix (config.routes.filter fun r => startsWith path r.pathPrefix)

def Config.defaultPolicy (config : Config) : ResolvedPolicy :=
  { label := defaultPolicyLabel
    payment := config.payment
    freeTier := config.freeTier
    paidTier := config.paidTier }

/-- Resolve the payment terms for a request: the named policy if the config defines it, else the
longest matching path prefix, else the defaults. -/
def Config.policyFor (config : Config) (path : String) (policy : Option String) :
    ResolvedPolicy :=
  match policy.bind fun name => (config.policies.get? name).map fun override => (name, override) with
  | some (name, override) => { override.applyTo config.defaultPolicy with label := name }
  | none =>
    match config.routeFor path with
    | some route =>
      { route.overrides.applyTo config.defaultPolicy with label := route.pathPrefix }
    | none => config.defaultPolicy

end X402Verifier
