import Mathlib.Data.Rat.Floor
import X402Verifier.Session

/-!
# Free-tier rate limiting

`ratelimit.rs`: a sliding window counter for each (policy, source IP). The previous window counts
in proportion to how much of it still overlaps the trailing window; that fraction is kept exact.

Clock readings need not arrive in order, so subtraction and multiplication wrap as they do in a
release build. `Config.validate` refuses a window of zero seconds, on which the source panics.
-/

namespace X402Verifier

open RustStd

/-- What the free tier had left after considering one request. -/
structure Allowance where
  allowed : Bool
  remaining : Nat
  limit : Nat
  resetSecs : Nat
  deriving DecidableEq

/-- Collapse an address to the unit the free tier is metered on: an IPv4 address, or the /64 of an
IPv6 address. -/
def bucket : IpAddr → IpAddr
  | .v4 octets => .v4 octets
  | .v6 s => .v6 #v[s[0], s[1], s[2], s[3], 0, 0, 0, 0]

/-- One counter per (policy, client). -/
def keyFor (policy : String) (ip : IpAddr) : String :=
  policy ++ "|" ++ ipAddrToString (bucket ip)

def remainingAfter (limit : Nat) (estimated : Rat) : Nat := limit - ⌈estimated⌉.toNat

/-- The fraction of the previous window that still counts. -/
def carryFraction (windowSecs elapsed : Nat) : Rat :=
  (wrappingSub windowSecs elapsed : Rat) / windowSecs

/-! ## The memory limiter -/

/-- Per-key counters for the current and preceding window. -/
structure RateWindow where
  start : Nat
  current : Nat
  previous : Nat
  windowSecs : Nat
  deriving DecidableEq

/-- Roll the counters forward to the window that starts at `windowStart`. -/
def RateWindow.rollTo (w : RateWindow) (windowStart windowSecs : Nat) : RateWindow :=
  if w.start < windowStart then
    { start := windowStart
      current := 0
      previous := if windowStart - w.start = windowSecs then w.current else 0
      windowSecs := windowSecs }
  else { w with windowSecs := windowSecs }

/-- In-process sliding-window rate limiter. -/
structure MemoryRateLimiter where
  windows : Table String RateWindow := ∅

namespace MemoryRateLimiter

/-- Drop keys that have been idle for two windows. -/
def cleanupIdleAt (l : MemoryRateLimiter) (now : Nat) : Nat × MemoryRateLimiter :=
  let windows := l.windows.retain fun _ w => now - wrappingMul w.windowSecs 2 ≤ w.start
  (l.windows.len - windows.len, ⟨windows⟩)

/-- Record a request from `ip` under `policy` and report the allowance. A denied request is not
counted. -/
def checkAt (l : MemoryRateLimiter) (policy : String) (ip : IpAddr)
    (maxRequests windowSecs now : Nat) : Allowance × MemoryRateLimiter :=
  let windowStart := now - now % windowSecs
  let key := keyFor policy ip
  let w := ((l.windows.get? key).getD ⟨windowStart, 0, 0, windowSecs⟩).rollTo windowStart windowSecs
  let elapsed := wrappingSub now w.start
  let estimated : Rat := w.current + w.previous * carryFraction windowSecs elapsed
  let resetSecs := wrappingSub windowSecs elapsed
  if (maxRequests : Rat) ≤ estimated then
    (⟨false, 0, maxRequests, resetSecs⟩, ⟨l.windows.insert key w⟩)
  else
    (⟨true, remainingAfter maxRequests (estimated + 1), maxRequests, resetSecs⟩,
      ⟨l.windows.insert key { w with current := w.current + 1 }⟩)

end MemoryRateLimiter

/-! ## The Redis limiter -/

/-- Redis-backed sliding-window rate limiter shared across replicas. -/
structure RedisRateLimiter where
  counters : Table String (Expiring Nat) := ∅

namespace RedisRateLimiter

def redisRatelimitPrefix : String := "x402:rl:"

def counterKey (key : String) (windowStart : Nat) : String :=
  redisRatelimitPrefix ++ key ++ ":" ++ toString windowStart

/-- `CHECK_SCRIPT`: whether the request was admitted, and what remains. -/
def checkScript (l : RedisRateLimiter) (current previous : String) (limit ttlSecs : Nat)
    (carry : Rat) (serverNow : Nat) : Except String (Bool × Nat) × RedisRateLimiter :=
  let cur := (redisGet l.counters current serverNow).getD 0
  let prev := (redisGet l.counters previous serverNow).getD 0
  let est : Rat := cur + prev * carry
  if (limit : Rat) ≤ est then (.ok (false, 0), l)
  else
    let store (expiresAt : Option Nat) : RedisRateLimiter :=
      ⟨l.counters.insert current ⟨cur + 1, expiresAt⟩⟩
    -- `EXPIRE` with 0 deletes the counter that was just raised.
    if ttlSecs = 0 then (.ok (true, limit - ⌈est + 1⌉.toNat), ⟨l.counters.remove current⟩)
    else if validExpiry ttlSecs serverNow then
      (.ok (true, limit - ⌈est + 1⌉.toNat), store (some (serverNow + ttlSecs)))
    else
      let expiresAt := (redisGet l.counters current serverNow).bind fun _ =>
        (l.counters.get? current).bind (·.expiresAt)
      (.error "ERR invalid expire time in 'expire' command", store expiresAt)

def checkAt (l : RedisRateLimiter) (policy : String) (ip : IpAddr)
    (maxRequests windowSecs now : Nat) (env : RedisEnv) : Allowance × RedisRateLimiter :=
  let key := keyFor policy ip
  let windowStart := now - now % windowSecs
  let previousStart := windowStart - windowSecs
  let elapsed := wrappingSub now windowStart
  let carry := carryFraction windowSecs elapsed
  let resetSecs := wrappingSub windowSecs elapsed
  match env.fate.apply l
    (l.checkScript (counterKey key windowStart) (counterKey key previousStart) maxRequests
      (wrappingMul windowSecs 2) carry env.serverNow) with
  | (.ok (allowed, remaining), l) =>
    (⟨allowed, if allowed then remaining else 0, maxRequests, resetSecs⟩, l)
  | (.error _, l) => (⟨false, 0, maxRequests, resetSecs⟩, l)

end RedisRateLimiter

/-! ## Either limiter -/

/-- Rate-limiting backend. -/
inductive RateLimiter where
  | memory (l : MemoryRateLimiter)
  | redis (l : RedisRateLimiter)

namespace RateLimiter

def check (l : RateLimiter) (env : StoreEnv) (policy : String) (ip : IpAddr)
    (maxRequests windowSecs : Nat) : Allowance × RateLimiter :=
  match l with
  | .memory m => (m.checkAt policy ip maxRequests windowSecs env.now).map id .memory
  | .redis r => (r.checkAt policy ip maxRequests windowSecs env.now env.redis).map id .redis

/-- Reap idle keys. Redis expires its own counters. -/
def cleanupIdle (l : RateLimiter) (env : StoreEnv) : Nat × RateLimiter :=
  match l with
  | .memory m => (m.cleanupIdleAt env.now).map id .memory
  | .redis r => (0, .redis r)

end RateLimiter

end X402Verifier
