import X402Verifier.Interaction.Gauge
import X402Verifier.RateLimitReference

/-!
# The published meter

An admitted request is told how many are left. Both limiters compute it by rounding the estimate up,
while they admit against the estimate itself: what the window before still counts for need not be a
whole number, and then one more request is admitted than was reported. Each limiter is a `Gauge`
whose level is the estimate, which says exactly when the report is right (`meter_exact_iff`).

The script reads two counters. In the first window since the epoch they are one and the same, so
that every admission raises the estimate twice. And an expiry of zero seconds, which is what the
window wraps to from `2 ^ 63` seconds on, deletes the counter it has just raised: nothing is ever
counted, and whatever is admitted once is admitted for good.
-/

namespace X402Verifier

open RustStd Interaction

/-- What the window before still counts for. -/
def RateWindow.carried (w : RateWindow) (windowSecs now : Nat) : Rat :=
  w.previous * carryFraction windowSecs (wrappingSub now w.start)

theorem carryFraction_nonneg (windowSecs elapsed : Nat) : 0 ≤ carryFraction windowSecs elapsed :=
  div_nonneg (Nat.cast_nonneg _) (Nat.cast_nonneg _)

namespace MemoryRateLimiter

variable {policy : String} {ip : IpAddr} {limit windowSecs now : Nat}

/-- The counters of a key, as a check at `now` finds them. -/
def countersAt (l : MemoryRateLimiter) (policy : String) (ip : IpAddr) (windowSecs now : Nat) :
    RateWindow :=
  let windowStart := now - now % windowSecs
  ((l.windows.get? (keyFor policy ip)).getD ⟨windowStart, 0, 0, windowSecs⟩).rollTo windowStart
    windowSecs

/-- The estimate a check at `now` compares with the limit. -/
def estimateAt (l : MemoryRateLimiter) (policy : String) (ip : IpAddr) (windowSecs now : Nat) :
    Rat :=
  let w := l.countersAt policy ip windowSecs now
  w.current + w.carried windowSecs now

/-- A check, by whether it was admitted and what it reports as remaining. -/
def attempt (policy : String) (ip : IpAddr) (limit windowSecs now : Nat) (l : MemoryRateLimiter) :
    Option (Bool × Nat) × MemoryRateLimiter :=
  (l.checkAt policy ip limit windowSecs now).map (fun a => some (a.allowed, a.remaining)) id

theorem rollTo_rollTo (w : RateWindow) (current windowStart : Nat) :
    ({ w.rollTo windowStart windowSecs with current := current }).rollTo windowStart windowSecs =
      { w.rollTo windowStart windowSecs with current := current } := by
  by_cases h : w.start < windowStart <;> simp [RateWindow.rollTo, h]

/-- A check leaves its key with the counters it found, but for the request it admits. -/
theorem countersAt_insert (l l' : MemoryRateLimiter) (current : Nat)
    (h : l'.windows.get? (keyFor policy ip) =
      some { l.countersAt policy ip windowSecs now with current := current }) :
    l'.countersAt policy ip windowSecs now =
      { l.countersAt policy ip windowSecs now with current := current } := by
  rw [countersAt, h, Option.getD_some]
  exact rollTo_rollTo _ _ _

theorem estimateAt_nonneg (l : MemoryRateLimiter) : 0 ≤ l.estimateAt policy ip windowSecs now :=
  add_nonneg (Nat.cast_nonneg _) (mul_nonneg (Nat.cast_nonneg _) (carryFraction_nonneg _ _))

/-- The memory limiter is a gauge whose level rises by one. -/
theorem gauge_attempt (policy : String) (ip : IpAddr) (limit windowSecs now : Nat) :
    Gauge (attempt policy ip limit windowSecs now) limit 0
      (fun l => l.estimateAt policy ip windowSecs now) where
  admits {l} hlt := by
    have hbelow : ¬ (limit : Rat) ≤ l.estimateAt policy ip windowSecs now := not_le.mpr hlt
    have hcheck : l.checkAt policy ip limit windowSecs now =
        (⟨true, remainingAfter limit (l.estimateAt policy ip windowSecs now + 1), limit,
          wrappingSub windowSecs (wrappingSub now (l.countersAt policy ip windowSecs now).start)⟩,
        ⟨l.windows.insert (keyFor policy ip) { l.countersAt policy ip windowSecs now with
          current := (l.countersAt policy ip windowSecs now).current + 1 }⟩) := if_neg hbelow
    refine ⟨by rw [attempt, hcheck]; rfl, ?_⟩
    have hcounters := countersAt_insert l (attempt policy ip limit windowSecs now l).2
      ((l.countersAt policy ip windowSecs now).current + 1)
      (by rw [attempt, hcheck]; exact Table.get?_insert_self _ _ _)
    simp only [estimateAt, hcounters, RateWindow.carried]
    push_cast
    ring
  refuses {l} hfull := by
    have hcheck : l.checkAt policy ip limit windowSecs now =
        (⟨false, 0, limit,
          wrappingSub windowSecs (wrappingSub now (l.countersAt policy ip windowSecs now).start)⟩,
        ⟨l.windows.insert (keyFor policy ip) (l.countersAt policy ip windowSecs now)⟩) :=
      if_pos hfull
    refine ⟨by rw [attempt, hcheck]; rfl, ?_⟩
    have hcounters := countersAt_insert l (attempt policy ip limit windowSecs now l).2
      (l.countersAt policy ip windowSecs now).current
      (by rw [attempt, hcheck]; exact Table.get?_insert_self _ _ _)
    simp only [estimateAt, hcounters, RateWindow.carried]

/-- The estimate is a whole number where what is carried over is. -/
theorem ceil_estimateAt_iff (l : MemoryRateLimiter) :
    (⌈l.estimateAt policy ip windowSecs now⌉ : Rat) = l.estimateAt policy ip windowSecs now ↔
      (⌈(l.countersAt policy ip windowSecs now).carried windowSecs now⌉ : Rat) =
        (l.countersAt policy ip windowSecs now).carried windowSecs now := by
  simp only [estimateAt, Int.ceil_natCast_add]
  push_cast
  exact add_right_inj _

end MemoryRateLimiter

namespace RedisRateLimiter

def counterAt (l : RedisRateLimiter) (key : String) (serverNow : Nat) : Nat :=
  (redisGet l.counters key serverNow).getD 0

def scriptEstimate (l : RedisRateLimiter) (current previous : String) (carry : Rat)
    (serverNow : Nat) : Rat :=
  l.counterAt current serverNow + l.counterAt previous serverNow * carry

/-- `CHECK_SCRIPT`, run with the weight of a window. A script that fails returns no value. -/
def scriptAttempt (current previous : String) (limit ttlSecs : Nat) (carry : Rat) (serverNow : Nat)
    (l : RedisRateLimiter) : Option (Bool × Nat) × RedisRateLimiter :=
  (l.checkScript current previous limit ttlSecs carry serverNow).map Except.toOption id

theorem counterAt_insert (l : RedisRateLimiter) (current key : String) (n ttlSecs serverNow : Nat)
    (hexpiry : validExpiry ttlSecs serverNow = true) :
    counterAt ⟨l.counters.insert current ⟨n, some (serverNow + ttlSecs)⟩⟩ key serverNow =
      if key = current then n else l.counterAt key serverNow := by
  have httl : 0 < ttlSecs := by
    simp only [validExpiry, Bool.and_eq_true, decide_eq_true_eq] at hexpiry
    exact hexpiry.1
  unfold counterAt redisGet
  rw [Table.get?_insert]
  split_ifs with hkey
  · simp [httl]
  · rfl

theorem counterAt_remove (l : RedisRateLimiter) (current key : String) (serverNow : Nat) :
    counterAt ⟨l.counters.remove current⟩ key serverNow =
      if key = current then 0 else l.counterAt key serverNow := by
  unfold counterAt redisGet
  rw [Table.get?_remove]
  split_ifs <;> rfl

theorem scriptAttempt_of_full {l : RedisRateLimiter} {current previous : String} {limit : Nat}
    {carry : Rat} {serverNow : Nat} (ttlSecs : Nat)
    (hfull : (limit : Rat) ≤ l.scriptEstimate current previous carry serverNow) :
    scriptAttempt current previous limit ttlSecs carry serverNow l = (some (false, 0), l) := by
  simp only [scriptEstimate, counterAt] at hfull
  simp [scriptAttempt, checkScript, hfull, Except.toOption]

theorem gauge_scriptAttempt (current previous : String) (limit : Nat) {ttlSecs serverNow : Nat}
    (carry : Rat) (hexpiry : validExpiry ttlSecs serverNow = true) :
    Gauge (scriptAttempt current previous limit ttlSecs carry serverNow) limit
      (if current = previous then carry else 0)
      (fun l => l.scriptEstimate current previous carry serverNow) where
  admits {l} hlt := by
    have hbelow : ¬ (limit : Rat) ≤ l.scriptEstimate current previous carry serverNow :=
      not_le.mpr hlt
    have hne : ttlSecs ≠ 0 := by
      rintro rfl
      simp [validExpiry] at hexpiry
    have hscript : scriptAttempt current previous limit ttlSecs carry serverNow l =
        (some (true, limit - ⌈l.scriptEstimate current previous carry serverNow + 1⌉.toNat),
          ⟨l.counters.insert current
            ⟨l.counterAt current serverNow + 1, some (serverNow + ttlSecs)⟩⟩) := by
      simp only [scriptEstimate, counterAt] at hbelow
      simp [scriptAttempt, checkScript, scriptEstimate, counterAt, hbelow, hne, hexpiry,
        Except.toOption]
    refine ⟨by rw [hscript], ?_⟩
    rw [hscript]
    simp only [scriptEstimate, counterAt_insert l _ _ _ _ _ hexpiry, if_true]
    by_cases hkeys : current = previous
    · subst hkeys
      simp only [if_true]
      push_cast
      ring
    · rw [if_neg (Ne.symm hkeys), if_neg hkeys]
      push_cast
      ring
  refuses {l} hfull := by
    rw [scriptAttempt_of_full ttlSecs hfull]
    exact ⟨rfl, rfl⟩

/-- A script that refuses is exact: the next refuses as well. -/
theorem reportsExactly_of_full {l : RedisRateLimiter} {current previous : String} {limit : Nat}
    {carry : Rat} {serverNow : Nat} (ttlSecs : Nat)
    (hfull : (limit : Rat) ≤ l.scriptEstimate current previous carry serverNow) :
    ReportsExactly (scriptAttempt current previous limit ttlSecs carry serverNow) l := by
  have hscript := scriptAttempt_of_full ttlSecs hfull
  simp [ReportsExactly, hscript, admission]

/-- An expiry that Redis refuses leaves the script without a value, or refusing. -/
theorem reportsExactly_of_refused_expiry (l : RedisRateLimiter) (current previous : String)
    (limit : Nat) {ttlSecs serverNow : Nat} (carry : Rat) (hne : ttlSecs ≠ 0)
    (hexpiry : validExpiry ttlSecs serverNow = false) :
    ReportsExactly (scriptAttempt current previous limit ttlSecs carry serverNow) l := by
  by_cases hfull : (limit : Rat) ≤ l.scriptEstimate current previous carry serverNow
  · exact reportsExactly_of_full ttlSecs hfull
  · have hreply : (scriptAttempt current previous limit ttlSecs carry serverNow l).1 = none := by
      simp only [scriptEstimate, counterAt] at hfull
      simp [scriptAttempt, checkScript, hfull, hne, hexpiry, Except.toOption]
    simp [ReportsExactly, hreply]

/-- Deleting a counter does not raise the estimate. -/
theorem scriptEstimate_remove_le (l : RedisRateLimiter) (current previous : String) {carry : Rat}
    (serverNow : Nat) (hcarry : 0 ≤ carry) :
    scriptEstimate ⟨l.counters.remove current⟩ current previous carry serverNow ≤
      l.scriptEstimate current previous carry serverNow := by
  have hle : ∀ key, counterAt ⟨l.counters.remove current⟩ key serverNow ≤
      l.counterAt key serverNow := by
    intro key
    rw [counterAt_remove]
    split_ifs
    · exact Nat.zero_le _
    · exact le_rfl
  have hcurrent := hle current
  have hprevious := hle previous
  unfold scriptEstimate
  gcongr

/-- An expiry of zero seconds is exact only for what is refused: nothing is counted. -/
theorem reportsExactly_of_no_expiry_iff (l : RedisRateLimiter) (current previous : String)
    (limit : Nat) {carry : Rat} (serverNow : Nat) (hcarry : 0 ≤ carry) :
    ReportsExactly (scriptAttempt current previous limit 0 carry serverNow) l ↔
      (limit : Rat) ≤ l.scriptEstimate current previous carry serverNow := by
  have hscript : ∀ l : RedisRateLimiter,
      l.scriptEstimate current previous carry serverNow < limit →
      scriptAttempt current previous limit 0 carry serverNow l =
        (some (true, limit - ⌈l.scriptEstimate current previous carry serverNow + 1⌉.toNat),
          ⟨l.counters.remove current⟩) := by
    intro l hlt
    have hbelow := not_le.mpr hlt
    simp only [scriptEstimate, counterAt] at hbelow
    simp [scriptAttempt, checkScript, scriptEstimate, counterAt, hbelow, Except.toOption]
  have hstays : ∀ l : RedisRateLimiter,
      l.scriptEstimate current previous carry serverNow < limit →
      admission (scriptAttempt current previous limit 0 carry serverNow l).1 = some true ∧
        (scriptAttempt current previous limit 0 carry serverNow l).2.scriptEstimate current previous
          carry serverNow < limit := by
    intro l hlt
    rw [hscript l hlt]
    exact ⟨rfl, (l.scriptEstimate_remove_le current previous serverNow hcarry).trans_lt hlt⟩
  constructor
  · intro hexact
    by_contra hfull
    have hlt := not_le.mp hfull
    rw [ReportsExactly, hscript l hlt] at hexact
    refine not_admitsExactly hstays ?_ _ hexact
    exact (l.scriptEstimate_remove_le current previous serverNow hcarry).trans_lt hlt
  · exact reportsExactly_of_full 0

end RedisRateLimiter

open MemoryRateLimiter RedisRateLimiter

/-- **When the published meter is exact.** In memory: when what the window before still counts for
is a whole number, or at most one request fits under the limit. In Redis: when the script refuses, or
its expiry does not delete what it counts and either Redis refuses that expiry, so that the script
fails, or the estimate rounds up exactly, where each admission counts a second time if the two
counters are one. -/
theorem meter_exact_iff (limit windowSecs : Nat) :
    (∀ (l : MemoryRateLimiter) (policy : String) (ip : IpAddr) (now : Nat),
      let w := l.countersAt policy ip windowSecs now
      ReportsExactly (attempt policy ip limit windowSecs now) l ↔
        (⌈w.carried windowSecs now⌉ : Rat) = w.carried windowSecs now ∨
          (limit : Rat) ≤ w.current + w.carried windowSecs now + 1) ∧
    (∀ (l : RedisRateLimiter) (current previous : String) (ttlSecs elapsed serverNow : Nat),
      let carry := carryFraction windowSecs elapsed
      let estimate := l.scriptEstimate current previous carry serverNow
      ReportsExactly (scriptAttempt current previous limit ttlSecs carry serverNow) l ↔
        (limit : Rat) ≤ estimate ∨
          ttlSecs ≠ 0 ∧ (validExpiry ttlSecs serverNow = false ∨
            RoundsUpExactly limit estimate (if current = previous then carry else 0))) := by
  constructor
  · intro l policy ip now w
    rw [(gauge_attempt policy ip limit windowSecs now).reportsExactly_iff l.estimateAt_nonneg le_rfl,
      roundsUpExactly_zero, l.ceil_estimateAt_iff]
    rfl
  · intro l current previous ttlSecs elapsed serverNow carry estimate
    have hcarry : 0 ≤ carry := carryFraction_nonneg windowSecs elapsed
    -- An expiry of zero deletes what the script counts, so the next check finds no less room.
    by_cases hzero : ttlSecs = 0
    · subst hzero
      simpa using reportsExactly_of_no_expiry_iff l current previous limit serverNow hcarry
    · by_cases hfull : (limit : Rat) ≤ estimate
      · exact iff_of_true (reportsExactly_of_full ttlSecs hfull) (.inl hfull)
      simp only [hfull, ne_eq, hzero, not_false_eq_true, true_and, false_or]
      cases hexpiry : validExpiry ttlSecs serverNow with
      | false =>
        simp only [true_or, iff_true]
        exact reportsExactly_of_refused_expiry l current previous limit carry hzero hexpiry
      | true =>
        -- Otherwise the script is a gauge, which rises by more than one where its two keys are one.
        have hlevel : 0 ≤ estimate :=
          add_nonneg (Nat.cast_nonneg _) (mul_nonneg (Nat.cast_nonneg _) hcarry)
        have hextra : 0 ≤ if current = previous then carry else 0 := by
          split_ifs
          · exact hcarry
          · exact le_rfl
        rw [(gauge_scriptAttempt current previous limit carry hexpiry).reportsExactly_iff hlevel
          hextra]
        simp [estimate]

/-- A request in one minute, and two half a minute into the next with a limit of two: the first of
these is told that none is left, and the second is admitted. -/
theorem half_a_request_left :
    let l := (({} : MemoryRateLimiter).checkAt "graphql" exampleAddress 2 60 60).2
    let told := attempt "graphql" exampleAddress 2 60 150 l
    told.1 = some (true, 0) ∧
      admission (attempt "graphql" exampleAddress 2 60 150 told.2).1 = some true := by
  decide +kernel

/-- **One request short.** -/
theorem remaining_one_short :
    ¬ ∀ (l : MemoryRateLimiter) (policy : String) (ip : IpAddr)
      (limit windowSecs now : Nat), ReportsExactly (attempt policy ip limit windowSecs now) l := by
  intro h
  obtain ⟨htold, hadmitted⟩ := half_a_request_left
  have hexact := h
    (({} : MemoryRateLimiter).checkAt "graphql" exampleAddress 2 60 60).2 "graphql" exampleAddress
    2 60 150
  rw [ReportsExactly, htold] at hexact
  exact absurd (hadmitted.symm.trans hexact.refused) (by decide)

end X402Verifier
