import X402Verifier.RateLimitReference

/-!
# The limiter's arithmetic

A check reads the clock before it holds its key's counters, so a reading may be older than the
window that another check has already rolled them to. The limiter's subtractions rely on that not
happening, and the sweep doubles a window. `checkAtChecked` and `cleanupIdleAtChecked` are the two
functions as a debug build runs them, which panics where a release build wraps (`none`).

A check is exact exactly when its reading is not before the start of its counters, and a sweep when
twice every window it meets fits into 64 bits (`arithmetic_exact_iff`).
-/

namespace X402Verifier

open RustStd Interaction

/-! ## With overflow checks -/

/-- `rollTo`, with overflow checks. -/
def RateWindow.rollToChecked (w : RateWindow) (windowStart windowSecs : Nat) : Option RateWindow :=
  if w.start < windowStart then do
    let between ← checkedSub windowStart w.start
    some
      { start := windowStart
        current := 0
        previous := if between = windowSecs then w.current else 0
        windowSecs := windowSecs }
  else some { w with windowSecs := windowSecs }

namespace MemoryRateLimiter

/-- `checkAt`, with overflow checks. -/
def checkAtChecked (l : MemoryRateLimiter) (policy : String) (ip : IpAddr)
    (maxRequests windowSecs now : Nat) : Option (Allowance × MemoryRateLimiter) := do
  let windowStart ← checkedSub now (now % windowSecs)
  let key := keyFor policy ip
  let w ← ((l.windows.get? key).getD ⟨windowStart, 0, 0, windowSecs⟩).rollToChecked windowStart
    windowSecs
  let elapsed ← checkedSub now w.start
  let left ← checkedSub windowSecs elapsed
  let estimated : Rat := w.current + w.previous * ((left : Rat) / windowSecs)
  let resetSecs ← checkedSub windowSecs elapsed
  if (maxRequests : Rat) ≤ estimated then
    some (⟨false, 0, maxRequests, resetSecs⟩, ⟨l.windows.insert key w⟩)
  else
    some (⟨true, remainingAfter maxRequests (estimated + 1), maxRequests, resetSecs⟩,
      ⟨l.windows.insert key { w with current := w.current + 1 }⟩)

/-- `cleanupIdleAt`, with overflow checks. -/
def cleanupIdleAtChecked (l : MemoryRateLimiter) (now : Nat) : Option (Nat × MemoryRateLimiter) := do
  guard (l.windows.toPairs.all fun e => (checkedMul e.2.windowSecs 2).isSome)
  let windows := l.windows.retain fun _ w => now - w.windowSecs * 2 ≤ w.start
  let removed ← checkedSub l.windows.len windows.len
  some (removed, ⟨windows⟩)

/-- No operation of the call wraps, and a check reports a reset within its window. -/
def ExactCall (windowOf : String → Nat) (l : MemoryRateLimiter)
    (c : Timed LimiterCall) : Prop :=
  match c.call with
  | .check policy ip maxRequests =>
    let answer := l.checkAt policy ip maxRequests (windowOf policy) c.now
    l.checkAtChecked policy ip maxRequests (windowOf policy) c.now = some answer ∧
      1 ≤ answer.1.resetSecs ∧ answer.1.resetSecs ≤ windowOf policy
  | .cleanup => l.cleanupIdleAtChecked c.now = some (l.cleanupIdleAt c.now)

/-- A check's reading is not before the window its counters are for, and a sweep meets no window of
`2 ^ 63` seconds or more. -/
def InOrder (l : MemoryRateLimiter) (c : Timed LimiterCall) : Prop :=
  match c.call with
  | .check policy ip _ => ∀ w, l.windows.get? (keyFor policy ip) = some w → w.start ≤ c.now
  | .cleanup => ∀ key w, l.windows.get? key = some w → w.windowSecs * 2 < u64Bound

/-! ## One call -/

/-- Rolling forward never wraps: it subtracts what is smaller. -/
theorem rollToChecked_eq (w : RateWindow) (windowStart windowSecs : Nat) :
    w.rollToChecked windowStart windowSecs = some (w.rollTo windowStart windowSecs) := by
  by_cases h : w.start < windowStart
  · simp [RateWindow.rollToChecked, RateWindow.rollTo, h, checkedSub_of_le h.le]
  · simp [RateWindow.rollToChecked, RateWindow.rollTo, h]

/-- Rolled forward, the counters start at the aligned reading or where they were. -/
theorem start_rollTo (w : RateWindow) (windowStart windowSecs : Nat) :
    (w.rollTo windowStart windowSecs).start = max w.start windowStart := by
  by_cases h : w.start < windowStart
  · rw [RateWindow.rollTo, if_pos h, max_eq_right h.le]
  · rw [RateWindow.rollTo, if_neg h, max_eq_left (not_lt.mp h)]

section Check

variable {l : MemoryRateLimiter} {policy : String} {ip : IpAddr}
  {maxRequests windowSecs now : Nat}

/-- A check whose reading is in order subtracts what is smaller, throughout. -/
theorem checkAtChecked_of_le (hwindow : windowSecs < u64Bound) (hnow : now < u64Bound)
    (hpos : 0 < windowSecs)
    (horder : ∀ w, l.windows.get? (keyFor policy ip) = some w → w.start ≤ now) :
    l.checkAtChecked policy ip maxRequests windowSecs now =
        some (l.checkAt policy ip maxRequests windowSecs now) ∧
      1 ≤ (l.checkAt policy ip maxRequests windowSecs now).1.resetSecs ∧
      (l.checkAt policy ip maxRequests windowSecs now).1.resetSecs ≤ windowSecs := by
  have haligned : checkedSub now (now % windowSecs) = some (now - now % windowSecs) :=
    checkedSub_of_le (Nat.mod_le _ _)
  have hmod : now % windowSecs < windowSecs := Nat.mod_lt now hpos
  have hmodle : now % windowSecs ≤ now := Nat.mod_le _ _
  simp only [checkAtChecked, checkAt, haligned, Option.bind_eq_bind, Option.bind_some,
    rollToChecked_eq, carryFraction]
  generalize hw : ((l.windows.get? (keyFor policy ip)).getD
    ⟨now - now % windowSecs, 0, 0, windowSecs⟩).rollTo (now - now % windowSecs) windowSecs = w
  -- the counters start at or before the reading, and not before the aligned one
  have hstart : now - now % windowSecs ≤ w.start ∧ w.start ≤ now := by
    rw [← hw, start_rollTo]
    refine ⟨le_max_right _ _, max_le ?_ (Nat.sub_le _ _)⟩
    cases hget : l.windows.get? (keyFor policy ip) with
    | none => exact Nat.sub_le _ _
    | some found => exact horder found hget
  have helapsed : wrappingSub now w.start = now - w.start := wrappingSub_of_le hstart.2 hnow
  have hwithin : now - w.start < windowSecs := by omega
  have hleft : wrappingSub windowSecs (now - w.start) = windowSecs - (now - w.start) :=
    wrappingSub_of_le hwithin.le hwindow
  simp only [checkedSub_of_le hstart.2, checkedSub_of_le hwithin.le, Option.bind_some, helapsed,
    hleft]
  split_ifs
  · exact ⟨rfl, Nat.sub_pos_of_lt hwithin, Nat.sub_le _ _⟩
  · exact ⟨rfl, Nat.sub_pos_of_lt hwithin, Nat.sub_le _ _⟩

/-- A reading from before the counters' window underflows. -/
theorem checkAtChecked_of_lt {w : RateWindow}
    (hget : l.windows.get? (keyFor policy ip) = some w) (hlt : now < w.start) :
    l.checkAtChecked policy ip maxRequests windowSecs now = none := by
  have hstays : (w.rollTo (now - now % windowSecs) windowSecs).start = w.start := by
    rw [start_rollTo]
    exact max_eq_left ((Nat.sub_le _ _).trans hlt.le)
  simp only [checkAtChecked, checkedSub_of_le (Nat.mod_le now windowSecs), hget,
    Option.bind_eq_bind, Option.bind_some, Option.getD_some, rollToChecked_eq,
    checkedSub_of_lt (hstays ▸ hlt), Option.bind_none]

end Check

theorem cleanupIdleAtChecked_of_lt {l : MemoryRateLimiter} (now : Nat)
    (hfits : ∀ key w, l.windows.get? key = some w → w.windowSecs * 2 < u64Bound) :
    l.cleanupIdleAtChecked now = some (l.cleanupIdleAt now) := by
  have hall : (l.windows.toPairs.all fun e => (checkedMul e.2.windowSecs 2).isSome) = true := by
    rw [List.all_eq_true]
    intro e he
    rw [isSome_checkedMul]
    exact hfits e.1 e.2 (Table.mem_toPairs_iff.mp he)
  have hretain : (l.windows.retain fun _ w => now - w.windowSecs * 2 ≤ w.start) =
      l.windows.retain fun _ w => now - wrappingMul w.windowSecs 2 ≤ w.start := by
    refine Table.retain_congr fun key w hget => ?_
    rw [wrappingMul_of_lt (hfits key w hget)]
  have hlen : ∀ p, (l.windows.retain p).len ≤ l.windows.len := fun p => List.length_filter_le _ _
  simp only [cleanupIdleAtChecked, hall, guard_true, Option.bind_eq_bind, hretain,
    checkedSub_of_le (hlen _), cleanupIdleAt]
  rfl

theorem cleanupIdleAtChecked_of_le {l : MemoryRateLimiter} (now : Nat) {key : String}
    {w : RateWindow} (hget : l.windows.get? key = some w) (hwraps : u64Bound ≤ w.windowSecs * 2) :
    l.cleanupIdleAtChecked now = none := by
  have hnot : (l.windows.toPairs.all fun e => (checkedMul e.2.windowSecs 2).isSome) = false := by
    rw [List.all_eq_false]
    refine ⟨(key, w), Table.mem_toPairs_iff.mpr hget, ?_⟩
    rw [isSome_checkedMul]
    exact not_lt.mpr hwraps
  simp [cleanupIdleAtChecked, hnot]

variable {windowOf : String → Nat}

/-- **One call** is exact exactly when it is in order. -/
theorem exactCall_iff (hwindow : ∀ policy, 0 < windowOf policy ∧ windowOf policy < u64Bound)
    (l : MemoryRateLimiter) {c : Timed LimiterCall} (hnow : c.now < u64Bound) :
    l.ExactCall windowOf c ↔ l.InOrder c := by
  obtain ⟨now, call⟩ := c
  cases call with
  | check policy ip maxRequests =>
    constructor
    · intro hexact w hget
      by_contra hlt
      exact absurd ((checkAtChecked_of_lt hget (not_le.mp hlt)).symm.trans hexact.1) nofun
    · exact fun horder =>
        checkAtChecked_of_le (hwindow policy).2 hnow (hwindow policy).1 horder
  | cleanup =>
    constructor
    · intro hexact key w hget
      by_contra hwraps
      have hnone := cleanupIdleAtChecked_of_le now hget (not_lt.mp hwraps)
      exact absurd (hnone.symm.trans hexact) nofun
    · exact fun hfits => cleanupIdleAtChecked_of_lt now hfits

/-- **The arithmetic of a run.** Checks and sweeps at any readings of the clock, in any order: no
operation wraps and every reset lies within its window, exactly when no check's reading is before
the window that its counters are for, and no sweep meets a window of `2 ^ 63` seconds or more. -/
theorem arithmetic_exact_iff
    (hwindow : ∀ policy, 0 < windowOf policy ∧ windowOf policy < u64Bound)
    (calls : List (Timed LimiterCall)) (hread : ∀ c ∈ calls, c.now < u64Bound) :
    Along (fun l c => (l.perform windowOf c).2) (ExactCall windowOf) {} calls ↔
      Along (fun l c => (l.perform windowOf c).2) InOrder {} calls :=
  along_congr fun l _ hc => exactCall_iff hwindow l (hread _ hc)

theorem arithmetic_exact_iff_example :
    (∀ policy : String, 0 < (fun _ => 60) policy ∧ (fun _ => 60) policy < u64Bound) ∧
      (∀ c ∈ sweepBetween "graphql" exampleAddress 200, c.now < u64Bound) ∧
      (Along (fun l c => (l.perform (fun _ => 60) c).2) (ExactCall fun _ => 60) {}
          (sweepBetween "graphql" exampleAddress 200) ↔
        Along (fun l c => (l.perform (fun _ => 60) c).2) InOrder {}
          (sweepBetween "graphql" exampleAddress 200)) := by
  have hwindow : ∀ _ : String, 0 < 60 ∧ 60 < u64Bound := fun _ => by decide
  have hlater : 200 < u64Bound := by decide
  have hread := (paced_sweepBetween "graphql" exampleAddress hlater).bounded
  exact ⟨hwindow, hread, arithmetic_exact_iff hwindow _ hread⟩

/-- Two checks at seconds 120 and 119, the later reading applied first: the second of them reports a
reset of 61 seconds in a window of 60, and panics with overflow checks. -/
theorem reading_before_its_window :
    let l := (({} : MemoryRateLimiter).checkAt "graphql" exampleAddress 2 60 120).2
    (l.checkAt "graphql" exampleAddress 2 60 119).1.resetSecs = 61 ∧
      (l.checkAtChecked "graphql" exampleAddress 2 60 119).isNone = true := by
  decide +kernel

/-- **A reading from before the rollover.** -/
theorem check_underflows_at_a_rollover :
    ¬ ∀ (windowOf : String → Nat) (calls : List (Timed LimiterCall)),
      (∀ policy, 0 < windowOf policy ∧ windowOf policy < u64Bound) →
      (∀ c ∈ calls, c.now < u64Bound) →
      Along (fun l c => (l.perform windowOf c).2) (ExactCall windowOf) {} calls := by
  intro h
  have hrun := h (fun _ => 60)
    [⟨120, .check "graphql" exampleAddress 2⟩, ⟨119, .check "graphql" exampleAddress 2⟩]
    (fun _ => by decide) (by decide)
  have hreset := hrun.2.1.2.2
  exact absurd (reading_before_its_window.1.symm.trans_le hreset) (by decide)

end MemoryRateLimiter

end X402Verifier
