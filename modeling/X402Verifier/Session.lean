import X402Verifier.RustStd.Table
import X402Verifier.X402

/-!
# Sessions and the replay cache

`session.rs`: the token codec, and the two stores behind `SessionStore`. The memory store keeps a
claim as the second it was first seen and ages it against whatever TTL the next caller brings; the
Redis store gives each key its own expiry.

A Redis operation is one indivisible script or pipeline, performed at the server's own clock. The
connection can lose it on the way there, or lose its reply on the way back (`RedisFate`).
-/

namespace X402Verifier

open RustStd

/-- Server-side state for one paid session. -/
structure Session where
  payer : String
  policy : Option String
  expiresAt : Nat
  quota : Nat
  quotaRemaining : Nat
  deriving DecidableEq

/-- Why a presented session token was not honored. -/
inductive SessionRejection where
  | malformed
  | expired
  | unknown
  | wrongPolicy
  | quotaExhausted
  | backend
  deriving DecidableEq

inductive SessionOutcome where
  | accepted (payer : String) (remaining quota expiresAt : Nat)
  | rejected (reason : SessionRejection)
  deriving DecidableEq

inductive StoreError where
  | redis (e : String)
  deriving DecidableEq

def StoreError.display : StoreError → String
  | .redis e => "redis error: " ++ e

/-- Claims carried by an authenticated session token. -/
structure TokenClaims where
  payer : String
  expiresAt : Nat
  sessionId : String
  deriving DecidableEq

/-! ## Tokens -/

/-- Mints and authenticates session tokens. -/
structure TokenCodec where
  hmacKey : Bytes
  deriving DecidableEq

namespace TokenCodec

/-- `<payer>:<expires>:<session_id>`, the text the MAC covers. -/
def signedPart (payer expires sessionId : String) : String :=
  payer ++ ":" ++ expires ++ ":" ++ sessionId

variable [Platform]

open Platform

def mac (codec : TokenCodec) (signedPart : String) : Bytes :=
  hmacSha256 codec.hmacKey (utf8 signedPart)

def mint (codec : TokenCodec) (payer : String) (expiresAt : Nat) (sessionId : String) : String :=
  let signed := signedPart payer (toString expiresAt) sessionId
  signed ++ ":" ++ hexEncode (codec.mac signed)

/-- Authenticate a token and extract its claims. The MAC is verified before any field is used. -/
def verify (codec : TokenCodec) (token : String) (now : Nat) :
    Except SessionRejection TokenClaims :=
  match split (trim token) ':' with
  | [payer, expiresRaw, sessionId, macHex] =>
    match hexDecode macHex with
    | .error _ => .error .malformed
    | .ok presentedMac =>
      if presentedMac ≠ codec.mac (signedPart payer expiresRaw sessionId) then .error .malformed
      else
        match parseUnsigned u64Bound expiresRaw with
        | none => .error .malformed
        | some expiresAt =>
          if expiresAt ≤ now then .error .expired
          else .ok { payer := payer, expiresAt := expiresAt, sessionId := sessionId }
  | _ => .error .malformed

end TokenCodec

/-- A session identifier from sixteen random bytes. -/
def newSessionId [Platform] (raw : Bytes) : String := Platform.hexEncode raw

/-- Outcome of claiming a payment against the replay cache. -/
inductive PaymentClaim where
  | fresh
  | replay (firstSeen : Nat)
  | backend
  deriving DecidableEq

/-- Decrement a quota counter, refusing to go below zero. -/
def spendOne (counter : Nat) : Option Nat :=
  if counter = 0 then none else some (counter - 1)

/-! ## The memory store -/

/-- In-memory store of live paid sessions. `seenPayments` holds when each payment was first
seen. -/
structure MemorySessionStore where
  sessions : Table String Session := ∅
  seenPayments : Table String Nat := ∅
  codec : TokenCodec
  replayRetentionSecs : Nat

namespace MemorySessionStore

/-- Record first use of a payment, or report it as a replay. -/
def claimPaymentAt (s : MemorySessionStore) (paymentId : String) (ttlSecs now : Nat) :
    PaymentClaim × MemorySessionStore :=
  match s.seenPayments.get? paymentId with
  | some firstSeen =>
    if ttlSecs ≤ now - firstSeen then
      (.fresh, { s with seenPayments := s.seenPayments.insert paymentId now })
    else (.replay firstSeen, s)
  | none => (.fresh, { s with seenPayments := s.seenPayments.insert paymentId now })

/-- Undo a claim, so an unspent payment can be retried. -/
def releasePayment (s : MemorySessionStore) (paymentId : String) : MemorySessionStore :=
  { s with seenPayments := s.seenPayments.remove paymentId }

/-- Drop sessions whose deadline has passed, and replay records older than the retention. -/
def cleanupExpiredAt (s : MemorySessionStore) (now : Nat) : Nat × MemorySessionStore :=
  let sessions := s.sessions.retain fun _ session => now < session.expiresAt
  (s.sessions.len - sessions.len,
    { s with
      sessions := sessions
      seenPayments := s.seenPayments.retain fun _ firstSeen =>
        now - firstSeen < s.replayRetentionSecs })

variable [Platform]

/-- Mint a session for `payer` under `policy`, granting `quota` requests for `ttlSecs`. -/
def createSessionAt (s : MemorySessionStore) (payer : String) (policy : Option String)
    (quota ttlSecs now : Nat) (raw : Bytes) : String × MemorySessionStore :=
  let sessionId := newSessionId raw
  let expiresAt := saturatingAdd now ttlSecs
  let session : Session :=
    { payer := payer, policy := policy, expiresAt := expiresAt, quota := quota,
      quotaRemaining := quota }
  (s.codec.mint payer expiresAt sessionId,
    { s with sessions := s.sessions.insert sessionId session })

/-- Authenticate `token` and, if everything checks out, spend one request. -/
def consumeAt (s : MemorySessionStore) (token : String) (policy : Option String) (now : Nat) :
    SessionOutcome × MemorySessionStore :=
  match s.codec.verify token now with
  | .error rejection => (.rejected rejection, s)
  | .ok claims =>
    match s.sessions.get? claims.sessionId with
    | none => (.rejected .unknown, s)
    | some session =>
      if session.expiresAt ≤ now then (.rejected .expired, s)
      else if session.policy ≠ policy then (.rejected .wrongPolicy, s)
      else
        match spendOne session.quotaRemaining with
        | none => (.rejected .quotaExhausted, s)
        | some remaining =>
          (.accepted session.payer remaining session.quota session.expiresAt,
            { s with
              sessions := s.sessions.insert claims.sessionId
                { session with quotaRemaining := remaining } })

end MemorySessionStore

/-! ## The Redis store -/

/-- What becomes of one Redis operation: answered, never performed, or performed with its reply
lost. -/
inductive RedisFate where
  | answered
  | unreached (e : String)
  | replyLost (e : String)
  deriving DecidableEq

structure RedisEnv where
  serverNow : Nat
  fate : RedisFate
  deriving DecidableEq

/-- What the caller sees of an operation, and the state it leaves. -/
def RedisFate.apply {α σ : Type} (fate : RedisFate) (before : σ) (reply : Except String α × σ) :
    Except String α × σ :=
  match fate with
  | .answered => reply
  | .unreached e => (.error e, before)
  | .replyLost e => (.error e, reply.2)

def i64Bound : Nat := 2 ^ 63

/-- A Lua number is a double: the one nearest to `n`, and of two the even one. -/
def luaNumber (n : Nat) : Nat :=
  let ulp := 2 ^ (n.log2 - 52)
  let rest := n % ulp
  if 2 * rest < ulp ∨ (2 * rest = ulp ∧ n / ulp % 2 = 0) then n - rest else n - rest + ulp

/-- A key's value with the second it expires at, if ever. -/
structure Expiring (β : Type) where
  value : β
  expiresAt : Option Nat
  deriving DecidableEq

/-- Redis refuses an expiry that is not positive or does not fit its millisecond clock. -/
def validExpiry (ttlSecs serverNow : Nat) : Bool :=
  0 < ttlSecs && 1000 * (serverNow + ttlSecs) < i64Bound

/-- `EXPIRE` reads a `u64` as an `i64` and takes it for a deadline that is past: it is zero, or it is
read as negative. Below `i64::MIN / 1000` it is refused. -/
def pastExpiry (ttlSecs : Nat) : Bool := ttlSecs = 0 || u64Bound ≤ ttlSecs + i64Bound / 1000

/-- `GET`: an expired key is absent. -/
def redisGet {β : Type} (t : Table String (Expiring β)) (key : String) (serverNow : Nat) :
    Option β :=
  match t.get? key with
  | none => none
  | some entry =>
    match entry.expiresAt with
    | none => some entry.value
    | some expiresAt => if serverNow < expiresAt then some entry.value else none

/-- The fields of a session's hash. -/
structure RedisSession where
  payer : String
  quota : Nat
  granted : Nat
  policy : String
  deriving DecidableEq

/-- Redis-backed session store, shared across replicas. -/
structure RedisSessionStore where
  sessions : Table String (Expiring RedisSession) := ∅
  seen : Table String (Expiring Nat) := ∅
  codec : TokenCodec

namespace RedisSessionStore

def redisSessionPrefix : String := "x402:sess:"

def redisReplayPrefix : String := "x402:seen:"

def key (sessionId : String) : String := redisSessionPrefix ++ sessionId

def replayKey (paymentId : String) : String := redisReplayPrefix ++ paymentId

/-- `CLAIM_SCRIPT`: whether the key was set, and when the payment was first seen. Its `tonumber` keeps
a TTL up to `2 ^ 53` as it is. -/
def claimScript (s : RedisSessionStore) (key : String) (now ttlSecs serverNow : Nat) :
    Except String (Bool × Nat) × RedisSessionStore :=
  match redisGet s.seen key serverNow with
  | some existing => (.ok (false, existing), s)
  | none =>
    if validExpiry ttlSecs serverNow then
      (.ok (true, now), { s with seen := s.seen.insert key ⟨now, some (serverNow + ttlSecs)⟩ })
    else (.error "ERR invalid expire time in 'set' command", s)

def claimPayment (s : RedisSessionStore) (paymentId : String) (ttlSecs now : Nat)
    (env : RedisEnv) : PaymentClaim × RedisSessionStore :=
  match env.fate.apply s (s.claimScript (replayKey paymentId) now ttlSecs env.serverNow) with
  | (.ok (true, _), s) => (.fresh, s)
  | (.ok (false, firstSeen), s) => (.replay firstSeen, s)
  | (.error _, s) => (.backend, s)

/-- An error only costs the client a retry: the claim then expires on its own. -/
def releasePayment (s : RedisSessionStore) (paymentId : String) (env : RedisEnv) :
    RedisSessionStore :=
  (env.fate.apply s (.ok (), { s with seen := s.seen.remove (replayKey paymentId) })).2

/-- What `SPEND_SCRIPT` reports: a sentinel, or what is left, the payer and the grant. -/
inductive Spend where
  | unknown
  | wrongPolicy
  | exhausted
  | spent (remaining : Nat) (payer : String) (granted : Nat)
  deriving DecidableEq

/-- `SPEND_SCRIPT`. A counter that does not fit Redis's integers cannot be decremented. What is left
and the grant are replied as Lua numbers. -/
def spendScript (s : RedisSessionStore) (key policy : String) (serverNow : Nat) :
    Except String Spend × RedisSessionStore :=
  match redisGet s.sessions key serverNow with
  | none => (.ok .unknown, s)
  | some session =>
    if session.policy ≠ policy then (.ok .wrongPolicy, s)
    else if session.quota = 0 then (.ok .exhausted, s)
    else if i64Bound ≤ session.quota then (.error "ERR hash value is not an integer", s)
    else
      let entry : Expiring RedisSession :=
        ⟨{ session with quota := session.quota - 1 }, (s.sessions.get? key).bind (·.expiresAt)⟩
      let remaining := luaNumber (luaNumber session.quota - 1)
      -- A number past the range is replied as `i64::MIN`, of which the caller keeps zero.
      (.ok (.spent (if remaining < i64Bound then remaining else 0) session.payer
        (luaNumber session.granted)), { s with sessions := s.sessions.insert key entry })

/-- The pipeline of `create_session`. An expiry that is past deletes the key, and one that Redis
refuses fails the pipeline after the session is written. -/
def createPipeline (s : RedisSessionStore) (key : String) (session : RedisSession)
    (ttlSecs serverNow : Nat) : Except String Unit × RedisSessionStore :=
  let store (expiresAt : Option Nat) : RedisSessionStore :=
    { s with sessions := s.sessions.insert key ⟨session, expiresAt⟩ }
  if pastExpiry ttlSecs then (.ok (), { s with sessions := s.sessions.remove key })
  else if validExpiry ttlSecs serverNow then (.ok (), store (some (serverNow + ttlSecs)))
  else (.error "ERR invalid expire time in 'expire' command", store none)

variable [Platform]

def createSession (s : RedisSessionStore) (payer : String) (policy : Option String)
    (quota ttlSecs now : Nat) (raw : Bytes) (env : RedisEnv) :
    Except StoreError String × RedisSessionStore :=
  let sessionId := newSessionId raw
  let expiresAt := saturatingAdd now ttlSecs
  let session : RedisSession :=
    { payer := payer, quota := quota, granted := quota, policy := policy.getD "" }
  match env.fate.apply s (s.createPipeline (key sessionId) session ttlSecs env.serverNow) with
  | (.ok (), s) => (.ok (s.codec.mint payer expiresAt sessionId), s)
  | (.error e, s) => (.error (.redis e), s)

def consume (s : RedisSessionStore) (token : String) (policy : Option String) (now : Nat)
    (env : RedisEnv) : SessionOutcome × RedisSessionStore :=
  match s.codec.verify token now with
  | .error rejection => (.rejected rejection, s)
  | .ok claims =>
    match env.fate.apply s
      (s.spendScript (key claims.sessionId) (policy.getD "") env.serverNow) with
    | (.ok .unknown, s) => (.rejected .unknown, s)
    | (.ok .wrongPolicy, s) => (.rejected .wrongPolicy, s)
    | (.ok .exhausted, s) => (.rejected .quotaExhausted, s)
    | (.ok (.spent remaining payer granted), s) =>
      (.accepted payer remaining granted claims.expiresAt, s)
    | (.error _, s) => (.rejected .backend, s)

end RedisSessionStore

/-! ## Either store -/

/-- Session storage backend. -/
inductive SessionStore where
  | memory (s : MemorySessionStore)
  | redis (s : RedisSessionStore)

/-- What one store operation takes from outside: the clock, the random bytes of a session id, and
Redis. -/
structure StoreEnv where
  now : Nat
  raw : Bytes := []
  redis : RedisEnv := ⟨now, .answered⟩
  deriving DecidableEq

namespace SessionStore

/-- Claim a payment so it can only be spent once. -/
def claimPayment (s : SessionStore) (env : StoreEnv) (paymentId : String) (ttlSecs : Nat) :
    PaymentClaim × SessionStore :=
  match s with
  | .memory m => (m.claimPaymentAt paymentId ttlSecs env.now).map id .memory
  | .redis r => (r.claimPayment paymentId ttlSecs env.now env.redis).map id .redis

/-- Release a claimed payment that was never settled. -/
def releasePayment (s : SessionStore) (env : StoreEnv) (paymentId : String) : SessionStore :=
  match s with
  | .memory m => .memory (m.releasePayment paymentId)
  | .redis r => .redis (r.releasePayment paymentId env.redis)

/-- Reap expired sessions. Redis does this itself. -/
def cleanupExpired (s : SessionStore) (env : StoreEnv) : Nat × SessionStore :=
  match s with
  | .memory m => (m.cleanupExpiredAt env.now).map id .memory
  | .redis r => (0, .redis r)

variable [Platform]

/-- Mint a session for `payer`, granting `quota` requests for `ttlSecs`. -/
def createSession (s : SessionStore) (env : StoreEnv) (payer : String) (policy : Option String)
    (quota ttlSecs : Nat) : Except StoreError String × SessionStore :=
  match s with
  | .memory m => (m.createSessionAt payer policy quota ttlSecs env.now env.raw).map .ok .memory
  | .redis r =>
    (r.createSession payer policy quota ttlSecs env.now env.raw env.redis).map id .redis

/-- Authenticate a token and spend one request, scoped to `policy`. -/
def consume (s : SessionStore) (env : StoreEnv) (token : String) (policy : Option String) :
    SessionOutcome × SessionStore :=
  match s with
  | .memory m => (m.consumeAt token policy env.now).map id .memory
  | .redis r => (r.consume token policy env.now env.redis).map id .redis

end SessionStore

end X402Verifier
