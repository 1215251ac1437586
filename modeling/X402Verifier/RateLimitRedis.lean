import X402Verifier.RateLimitReference

/-!
# The Redis limiter and the memory limiter

Redis keeps one counter for each key and window, which expires two windows after its last increment.
`Tallies` says that the counter of a window is what the log has in that window, and that it outlives
the window after it. So at a check both counters are still there, and the Redis limiter answers like
the reference, and with it like the memory limiter.

Redis runs on the callers' clock, its scripts are indivisible and reach it, and arithmetic is exact.
-/

namespace X402Verifier

open RustStd Interaction SlidingWindow RedisRateLimiter

variable {windowOf : String → Nat}

/-- One call, performed at its own second. A sweep does nothing. -/
def RedisRateLimiter.perform (windowOf : String → Nat) (l : RedisRateLimiter)
    (c : Timed LimiterCall) : Option Allowance × RedisRateLimiter :=
  match c.call with
  | .check policy ip maxRequests =>
    (l.checkAt policy ip maxRequests (windowOf policy) c.now ⟨c.now, .answered⟩).map some id
  | .cleanup => (none, l)

/-- The key of a client's counter for window `i`. -/
def windowKey (windowOf : String → Nat) (policy : String) (ip : IpAddr) (i : Nat) : String :=
  counterKey (keyFor policy ip) (windowOf policy * i)

/-- The text of a key says whom and which window it is for. -/
theorem windowKey_inj (hw : ∀ policy, 0 < windowOf policy)
    {policy policy' : String} {ip ip' : IpAddr} {i i' : Nat}
    (h : windowKey windowOf policy ip i = windowKey windowOf policy' ip' i') :
    clientOf policy ip = clientOf policy' ip' ∧ i = i' := by
  obtain ⟨hkey, hstart⟩ := counterKey_inj.mp h
  have hclient := keyFor_inj.mp hkey
  obtain rfl : policy = policy' := congrArg Prod.fst hclient
  exact ⟨hclient, Nat.eq_of_mul_eq_mul_left (hw policy) hstart⟩

/-- The counter of a window is what the log has in it, and outlives the window after it. -/
def Tallies (windowOf : String → Nat) (l : RedisRateLimiter) (log : List (Admission Client)) : Prop :=
  ∀ policy ip i,
    match l.counters.get? (windowKey windowOf policy ip i) with
    | none => inWindow log (clientOf policy ip) (windowOf policy) i = 0
    | some entry =>
      entry.value = inWindow log (clientOf policy ip) (windowOf policy) i ∧
        ∃ expiresAt, entry.expiresAt = some expiresAt ∧ windowOf policy * (i + 2) ≤ expiresAt

theorem tallies_empty (windowOf : String → Nat) : Tallies windowOf {} [] := by
  intro policy ip i
  simp [inWindow]

/-- In its window and the one after, the counter is what the log has. -/
theorem Tallies.read {l : RedisRateLimiter} {log : List (Admission Client)}
    (h : Tallies windowOf l log) (policy : String) (ip : IpAddr) {i now : Nat}
    (hnow : now < windowOf policy * (i + 2)) :
    (redisGet l.counters (windowKey windowOf policy ip i) now).getD 0 =
      inWindow log (clientOf policy ip) (windowOf policy) i := by
  have hentry := h policy ip i
  cases hget : l.counters.get? (windowKey windowOf policy ip i) with
  | none =>
    rw [hget] at hentry
    simpa [redisGet, hget] using hentry.symm
  | some entry =>
    rw [hget] at hentry
    obtain ⟨hvalue, expiresAt, hexpires, hle⟩ := hentry
    simp [redisGet, hget, hexpires, hnow.trans_le hle, hvalue]

/-- The counter of the current window is replaced, by one more of the client's admissions. -/
theorem Tallies.admit (hw : ∀ policy, 0 < windowOf policy)
    {l : RedisRateLimiter} {log : List (Admission Client)} (h : Tallies windowOf l log)
    (policy : String) (ip : IpAddr) (now : Nat) :
    Tallies windowOf
      ⟨l.counters.insert (windowKey windowOf policy ip (now / windowOf policy))
        ⟨inWindow log (clientOf policy ip) (windowOf policy) (now / windowOf policy) + 1,
          some (now + windowOf policy * 2)⟩⟩
      (⟨clientOf policy ip, now⟩ :: log) := by
  intro policy' ip' i
  by_cases hkey : windowKey windowOf policy' ip' i =
      windowKey windowOf policy ip (now / windowOf policy)
  · obtain ⟨hclient, rfl⟩ := windowKey_inj hw hkey
    obtain rfl : policy' = policy := congrArg Prod.fst hclient
    rw [hkey, Table.get?_insert_self, hclient]
    refine ⟨?_, _, rfl, ?_⟩
    · rw [inWindow_cons_self, if_pos rfl]
    · have := Nat.mul_div_le now (windowOf policy')
      rw [Nat.mul_add]
      omega
  · have hsame : inWindow (⟨clientOf policy ip, now⟩ :: log) (clientOf policy' ip')
        (windowOf policy') i = inWindow log (clientOf policy' ip') (windowOf policy') i := by
      by_cases hclient : clientOf policy ip = clientOf policy' ip'
      · obtain rfl : policy = policy' := congrArg Prod.fst hclient
        have hother : now / windowOf policy ≠ i := by
          rintro rfl
          rw [windowKey, windowKey, keyFor_inj.mpr hclient] at hkey
          exact hkey rfl
        rw [hclient, inWindow_cons_self, if_neg hother, Nat.add_zero]
      · have hother : (⟨clientOf policy ip, now⟩ : Admission Client).key ≠ clientOf policy' ip' :=
          hclient
        exact inWindow_cons_ne hother
    rw [Table.get?_insert_ne _ _ hkey, hsame]
    exact h policy' ip' i

/-! ## Checks -/

/-- **One check**, past the first window. It is answered like the reference, and the counters tally
with its log. -/
theorem Tallies.check (hw : ∀ policy, 0 < windowOf policy)
    {l : RedisRateLimiter} {log : List (Admission Client)} (h : Tallies windowOf l log)
    {policy : String} {now : Nat} (hdouble : windowOf policy * 2 < u64Bound)
    (hnow : now < u64Bound) (hpast : windowOf policy ≤ now)
    (hexpiry : validExpiry (windowOf policy * 2) now = true) (ip : IpAddr) (maxRequests : Nat) :
    let w := windowOf policy
    (l.checkAt policy ip maxRequests w now ⟨now, .answered⟩).1 =
        (referenceCheck log policy ip maxRequests w now).1 ∧
      Tallies windowOf (l.checkAt policy ip maxRequests w now ⟨now, .answered⟩).2
        (referenceCheck log policy ip maxRequests w now).2 := by
  intro w
  have hpos : 0 < w := hw policy
  have hbound : w < u64Bound := by omega
  obtain ⟨j, hj⟩ : ∃ j, now / w = j + 1 :=
    Nat.exists_eq_add_one.mpr (Nat.div_pos hpast hpos)
  have hend : now < w * (j + 1 + 1) := by
    rw [← hj]
    exact Nat.lt_mul_div_succ now hpos
  -- The script's two counters are the reference's two windows.
  have hcurrent : (redisGet l.counters (windowKey windowOf policy ip (j + 1)) now).getD 0 =
      inWindow log (clientOf policy ip) w (j + 1) :=
    h.read policy ip (hend.trans_le (Nat.mul_le_mul_left w (Nat.le_succ _)))
  have hprevious : (redisGet l.counters (windowKey windowOf policy ip j) now).getD 0 =
      beforeWindow log (clientOf policy ip) w (j + 1) :=
    (h.read policy ip hend).trans beforeWindow_succ.symm
  -- Past the first window none of the script's subtractions wraps.
  have hstart : now - now % w = w * (j + 1) := by rw [sub_mod_eq, hj]
  have hbefore : w * (j + 1) - w = w * j := by rw [Nat.mul_succ, Nat.add_sub_cancel]
  have helapsed : wrappingSub now (w * (j + 1)) = now % w := by
    rw [← hstart, wrappingSub_of_le (Nat.sub_le _ _) hnow]
    have := Nat.mod_le now w
    omega
  have hreset : wrappingSub w (now % w) = w - now % w :=
    wrappingSub_of_le (Nat.mod_lt now hpos).le hbound
  have htwice : wrappingMul w 2 = w * 2 := wrappingMul_of_lt hdouble
  have hvalid : validExpiry (w * 2) now = true := hexpiry
  have hnonzero : w * 2 ≠ 0 := by omega
  have hestimate : (inWindow log (clientOf policy ip) w (j + 1) : Rat) +
      beforeWindow log (clientOf policy ip) w (j + 1) * carryFraction w (now % w) =
      estimate log (clientOf policy ip) w now := by
    rw [estimate, carryFraction, fractionLeft, hreset, hj]
  have hadmit := h.admit hw policy ip now
  rw [hj] at hadmit
  simp only [RedisRateLimiter.checkAt, checkScript, referenceCheck, RedisFate.apply, hstart,
    hbefore, helapsed, hreset, htwice, hnonzero, hvalid, if_true, if_false]
  rw [windowKey] at hcurrent hprevious hadmit
  rw [hcurrent, hprevious, hestimate]
  -- Both compare the same estimate with the same limit.
  split_ifs with hfull
  · exact ⟨rfl, h⟩
  · exact ⟨rfl, hadmit⟩

/-- Every check is at least one window past the epoch. -/
def PastFirstWindow (windowOf : String → Nat) (c : Timed LimiterCall) : Prop :=
  ∀ policy ip n, c.call = .check policy ip n → windowOf policy ≤ c.now

/-- Redis accepts the expiry that a check sets. -/
def ExpiryAccepted (windowOf : String → Nat) (c : Timed LimiterCall) : Prop :=
  ∀ policy ip n, c.call = .check policy ip n → validExpiry (windowOf policy * 2) c.now = true

/-- What the Redis limiter is to be called with. -/
structure RedisCall (windowOf : String → Nat) (c : Timed LimiterCall) : Prop where
  bounded : c.now < u64Bound
  past : PastFirstWindow windowOf c
  expiry : ExpiryAccepted windowOf c

theorem redis_simulates (hw : ∀ policy, 0 < windowOf policy)
    (hdouble : ∀ policy, windowOf policy * 2 < u64Bound) :
    Simulates (RedisRateLimiter.perform windowOf) windowOf (RedisCall windowOf)
      fun l log _ => Tallies windowOf l log where
  later h _ := h
  step {l log c} h hcall := by
    obtain ⟨now, call⟩ := c
    cases call with
    | check policy ip maxRequests =>
      obtain ⟨hanswer, htallies⟩ := h.check hw (hdouble policy) hcall.bounded
        (hcall.past policy ip maxRequests rfl) (hcall.expiry policy ip maxRequests rfl) ip
        maxRequests
      exact ⟨congrArg some hanswer, htallies⟩
    | cleanup => exact ⟨rfl, h⟩

/-- **Redis and memory.** With every policy's window fixed and positive, and arithmetic that is exact
(twice a window fits into 64 bits, and Redis accepts the expiry): on all checks at nondecreasing
readings of the clock that are at least one window past the epoch, with sweeps anywhere, the two
limiters give the same answers. -/
theorem redis_matches_memory (windowOf : String → Nat)
    (hw : ∀ policy, 0 < windowOf policy) (hdouble : ∀ policy, windowOf policy * 2 < u64Bound)
    (calls : List (Timed LimiterCall)) (hpaced : Paced calls)
    (hpast : ∀ c ∈ calls, PastFirstWindow windowOf c)
    (hexpiry : ∀ c ∈ calls, ExpiryAccepted windowOf c) :
    answers (RedisRateLimiter.perform windowOf) {} calls =
      answers (MemoryRateLimiter.perform windowOf) {} calls := by
  have hfits : ∀ policy, windowOf policy < 2 ^ 63 := by
    intro policy
    have := hdouble policy
    simp only [u64Bound] at this
    omega
  have hredis := ((redis_simulates hw hdouble).run (tallies_empty windowOf)
    hpaced.ordered (fun _ _ => Nat.zero_le _)
    fun c hc => ⟨hpaced.bounded c hc, hpast c hc, hexpiry c hc⟩).1
  have hmemory := ((memory_simulates hw hfits).run (meters_empty windowOf 0)
    hpaced.ordered (fun _ _ => Nat.zero_le _) hpaced.bounded).1
  exact hredis.trans hmemory.symm

/-- Two checks of one minute's window and a sweep between them. -/
def checksAcrossWindow : List (Timed LimiterCall) :=
  [⟨120, .check "standard" exampleAddress 1⟩, ⟨121, .cleanup⟩,
    ⟨185, .check "standard" exampleAddress 1⟩]

theorem paced_checksAcrossWindow : Paced checksAcrossWindow :=
  ⟨by decide, by decide⟩

theorem redis_matches_memory_example :
    Paced checksAcrossWindow ∧
      answers (RedisRateLimiter.perform fun _ => 60) {} checksAcrossWindow =
        answers (MemoryRateLimiter.perform fun _ => 60) {} checksAcrossWindow := by
  have hpast : ∀ c ∈ checksAcrossWindow, PastFirstWindow (fun _ => 60) c := by
    simp [checksAcrossWindow, PastFirstWindow]
  have hexpiry : ∀ c ∈ checksAcrossWindow, ExpiryAccepted (fun _ => 60) c := by
    simp only [checksAcrossWindow, ExpiryAccepted, List.forall_mem_cons]
    refine ⟨fun _ _ _ _ => by decide, nofun, fun _ _ _ _ => by decide, nofun⟩
  exact ⟨paced_checksAcrossWindow, redis_matches_memory
    _ (fun _ => by decide) (fun _ => by decide) _
    paced_checksAcrossWindow hpast hexpiry⟩

end X402Verifier
