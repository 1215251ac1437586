import X402Verifier.Interaction.Run
import X402Verifier.SlidingWindow
import X402Verifier.RateLimit
import X402Verifier.Reference

/-!
# The limiter that forgets nothing

`MemoryRateLimiter` keeps two counters and a second for each key, rolls them over at a check, and
drops a key that has been idle. It is to answer like a limiter that remembers every admitted request
forever (`referenceCheck`). `Meters` relates the two: a key's counters stand for the log at the window
they were last rolled to, and a key without counters has nothing in the log that still counts.

A sweep keeps the relation while twice the window fits into 64 bits. From `2 ^ 63` seconds on the
product wraps, and a sweep drops counters that still count.
-/

namespace X402Verifier

open RustStd Interaction SlidingWindow

/-! ## Clients -/

/-- Whom a counter is for: a policy, and an address as far as it is metered. -/
abbrev Client : Type := String × IpAddr

def clientOf (policy : String) (ip : IpAddr) : Client := (policy, bucket ip)

/-- The text of a key says whom it is for. The policy may contain bars, the address does not. -/
theorem keyFor_inj {policy policy' : String} {ip ip' : IpAddr} :
    keyFor policy ip = keyFor policy' ip' ↔ clientOf policy ip = clientOf policy' ip' := by
  constructor
  · intro h
    have hlist : policy.toList ++ '|' :: (ipAddrToString (bucket ip)).toList =
        policy'.toList ++ '|' :: (ipAddrToString (bucket ip')).toList := by
      simpa [keyFor] using congrArg String.toList h
    have hbar : ∀ ip, '|' ∉ (ipAddrToString ip).toList :=
      not_mem_ipAddrToString (by decide) (by decide) (by decide)
    obtain ⟨hpolicy, haddress⟩ := append_sep_last_inj (hbar _) (hbar _) hlist
    exact Prod.ext (String.toList_inj.mp hpolicy)
      (ipAddrToString_injective (String.toList_inj.mp haddress))
  · intro h
    obtain ⟨rfl, hbucket⟩ := Prod.mk.inj h
    rw [keyFor, keyFor, hbucket]

/-- The text of a counter's key says which bucket and which window it is for. The number has no
colon. -/
theorem counterKey_inj {key key' : String} {start start' : Nat} :
    RedisRateLimiter.counterKey key start = RedisRateLimiter.counterKey key' start' ↔
      key = key' ∧ start = start' := by
  constructor
  · intro h
    have hlist :
        (RedisRateLimiter.redisRatelimitPrefix ++ key).toList ++ ':' :: (toString start).toList =
          (RedisRateLimiter.redisRatelimitPrefix ++ key').toList ++
            ':' :: (toString start').toList := by
      simpa [RedisRateLimiter.counterKey] using congrArg String.toList h
    have hcolon : ∀ n : Nat, ':' ∉ (toString n).toList := not_mem_toString (by decide)
    obtain ⟨hkey, hstart⟩ := append_sep_last_inj (hcolon _) (hcolon _) hlist
    rw [toList_toString, toList_toString] at hstart
    exact ⟨String.toList_inj.mp (by simpa using hkey), toDigits_inj hstart⟩
  · rintro ⟨rfl, rfl⟩
    rfl

/-! ## Calls on a limiter -/

/-- A call on a limiter. -/
inductive LimiterCall where
  | check (policy : String) (ip : IpAddr) (maxRequests : Nat)
  | cleanup

/-- Perform calls one after the other, and collect the answers; only a check answers anything. -/
def answers {σ : Type} (perform : σ → Timed LimiterCall → Option Allowance × σ) :
    σ → List (Timed LimiterCall) → List (Option Allowance)
  | _, [] => []
  | s, c :: calls => (perform s c).1 :: answers perform (perform s c).2 calls

/-- The state they leave. -/
def after {σ : Type} (perform : σ → Timed LimiterCall → Option Allowance × σ) (s : σ)
    (calls : List (Timed LimiterCall)) : σ := calls.foldl (fun s c => (perform s c).2) s

/-- The checks of one client that were admitted. -/
def admittedCalls {σ : Type} (perform : σ → Timed LimiterCall → Option Allowance × σ)
    (client : Client) : σ → List (Timed LimiterCall) → List (Timed LimiterCall)
  | _, [] => []
  | s, c :: calls =>
    let later := admittedCalls perform client (perform s c).2 calls
    match c.call with
    | .check policy ip _ =>
      if clientOf policy ip = client ∧ (perform s c).1.any (·.allowed) then c :: later else later
    | .cleanup => later

/-- The clock: a 64-bit reading that does not go back. -/
structure Paced (calls : List (Timed LimiterCall)) : Prop where
  ordered : calls.Pairwise (·.now ≤ ·.now)
  bounded : ∀ c ∈ calls, c.now < u64Bound

/-- Every policy has one window and one limit. -/
def MemoryRateLimiter.perform (windowOf : String → Nat) (l : MemoryRateLimiter)
    (c : Timed LimiterCall) : Option Allowance × MemoryRateLimiter :=
  match c.call with
  | .check policy ip maxRequests =>
    (l.checkAt policy ip maxRequests (windowOf policy) c.now).map some id
  | .cleanup => (none, (l.cleanupIdleAt c.now).2)

theorem MemoryRateLimiter.perform_cleanup (windowOf : String → Nat)
    (l : MemoryRateLimiter) (now : Nat) :
    l.perform windowOf ⟨now, .cleanup⟩ = (none, (l.cleanupIdleAt now).2) := rfl

/-- The reference: a check against the log of everything admitted. -/
def referenceCheck (log : List (Admission Client)) (policy : String) (ip : IpAddr)
    (maxRequests windowSecs now : Nat) : Allowance × List (Admission Client) :=
  let estimated := estimate log (clientOf policy ip) windowSecs now
  let resetSecs := windowSecs - now % windowSecs
  if (maxRequests : Rat) ≤ estimated then (⟨false, 0, maxRequests, resetSecs⟩, log)
  else
    (⟨true, remainingAfter maxRequests (estimated + 1), maxRequests, resetSecs⟩,
      ⟨clientOf policy ip, now⟩ :: log)

def referencePerform (windowOf : String → Nat) (log : List (Admission Client))
    (c : Timed LimiterCall) : Option Allowance × List (Admission Client) :=
  match c.call with
  | .check policy ip maxRequests =>
    (referenceCheck log policy ip maxRequests (windowOf policy) c.now).map some id
  | .cleanup => (none, log)

theorem referencePerform_check (windowOf : String → Nat) (log : List (Admission Client))
    (policy : String) (ip : IpAddr) (maxRequests now : Nat) :
    referencePerform windowOf log ⟨now, .check policy ip maxRequests⟩ =
      (some (referenceCheck log policy ip maxRequests (windowOf policy) now).1,
        (referenceCheck log policy ip maxRequests (windowOf policy) now).2) := rfl

theorem referencePerform_cleanup (windowOf : String → Nat) (log : List (Admission Client))
    (now : Nat) : referencePerform windowOf log ⟨now, .cleanup⟩ = (none, log) := rfl

/-! ## The counters stand for the log -/

/-- At the second `now`, the limiter's counters are those of the log. -/
structure Meters (windowOf : String → Nat) (l : MemoryRateLimiter)
    (log : List (Admission Client)) (now : Nat) : Prop where
  absent : ∀ policy ip, l.windows.get? (keyFor policy ip) = none →
    ∀ a ∈ log, a.key = clientOf policy ip → a.time / windowOf policy + 1 < now / windowOf policy
  counted : ∀ policy ip v, l.windows.get? (keyFor policy ip) = some v →
    v.windowSecs = windowOf policy ∧ ∃ i, i ≤ now / windowOf policy ∧ v.start = windowOf policy * i ∧
      Counts log (clientOf policy ip) (windowOf policy) i v.current v.previous

theorem meters_empty (windowOf : String → Nat) (now : Nat) :
    Meters windowOf {} [] now :=
  ⟨fun _ _ _ _ h => absurd h List.not_mem_nil, fun _ _ _ h => by simp at h⟩

theorem Meters.later {windowOf : String → Nat} {l : MemoryRateLimiter}
    {log : List (Admission Client)} {now now' : Nat} (h : Meters windowOf l log now)
    (hle : now ≤ now') : Meters windowOf l log now' := by
  refine ⟨fun policy ip hnone a ha hkey => ?_, fun policy ip v hv => ?_⟩
  · exact (h.absent policy ip hnone a ha hkey).trans_le (Nat.div_le_div_right hle)
  · obtain ⟨hsecs, i, hi, hstart, hcounts⟩ := h.counted policy ip v hv
    exact ⟨hsecs, i, hi.trans (Nat.div_le_div_right hle), hstart, hcounts⟩

theorem sub_mod_eq (now w : Nat) : now - now % w = w * (now / w) := by
  have := Nat.div_add_mod now w
  omega

theorem counts_rollTo {log : List (Admission Client)} {client : Client} {w i now : Nat}
    {v : RateWindow} (hw : 0 < w) (hi : i ≤ now / w) (hstart : v.start = w * i)
    (hcounts : Counts log client w i v.current v.previous) :
    let rolled := v.rollTo (now - now % w) w
    rolled.start = w * (now / w) ∧ rolled.windowSecs = w ∧
      Counts log client w (now / w) rolled.current rolled.previous := by
  intro rolled
  simp only [rolled, RateWindow.rollTo, sub_mod_eq, hstart]
  rcases Nat.eq_or_lt_of_le hi with rfl | hlt
  · rw [if_neg (lt_irrefl _)]
    exact ⟨rfl, rfl, hcounts⟩
  · rw [if_pos (Nat.mul_lt_mul_of_pos_left hlt hw)]
    refine ⟨rfl, rfl, ?_⟩
    have hnext : w * (now / w) - w * i = w ↔ i + 1 = now / w := by
      rw [← Nat.mul_sub]
      constructor
      · intro h
        have hone : now / w - i = 1 := Nat.eq_of_mul_eq_mul_left hw (by rw [h, Nat.mul_one])
        omega
      · intro h
        have hone : now / w - i = 1 := by omega
        rw [hone, Nat.mul_one]
    simpa only [hnext] using hcounts.roll hlt

/-- The counters a check works on: those of the key, or new ones, rolled to the current window. -/
theorem Meters.rolled {windowOf : String → Nat} {l : MemoryRateLimiter}
    {log : List (Admission Client)} {now : Nat} (h : Meters windowOf l log now) {policy : String}
    (hw : 0 < windowOf policy) (ip : IpAddr) :
    let w := windowOf policy
    let rolled := ((l.windows.get? (keyFor policy ip)).getD ⟨now - now % w, 0, 0, w⟩).rollTo
      (now - now % w) w
    rolled.start = w * (now / w) ∧ rolled.windowSecs = w ∧
      Counts log (clientOf policy ip) w (now / w) rolled.current rolled.previous := by
  intro w
  cases hv : l.windows.get? (keyFor policy ip) with
  | none =>
    exact counts_rollTo hw le_rfl (sub_mod_eq now w) (Counts.stale (h.absent policy ip hv))
  | some v =>
    obtain ⟨-, i, hi, hstart, hcounts⟩ := h.counted policy ip v hv
    exact counts_rollTo hw hi hstart hcounts

theorem estimate_eq {log : List (Admission Client)} {client : Client}
    {w now current previous : Nat} (hw : 0 < w) (hbound : w < u64Bound)
    (hcounts : Counts log client w (now / w) current previous) :
    (current : Rat) + previous * carryFraction w (now % w) = estimate log client w now := by
  rw [estimate, ← hcounts.current, ← hcounts.previous, carryFraction, fractionLeft,
    wrappingSub_of_le (Nat.mod_lt now hw).le hbound]

/-- The counters of one key are replaced, by those of a log with more of that key's requests. -/
theorem Meters.insert {windowOf : String → Nat}
    {l : MemoryRateLimiter} {log log' : List (Admission Client)} {now : Nat}
    (h : Meters windowOf l log now) {policy : String} {ip : IpAddr} {v : RateWindow}
    (hsecs : v.windowSecs = windowOf policy)
    (hstart : v.start = windowOf policy * (now / windowOf policy))
    (hcounts : Counts log' (clientOf policy ip) (windowOf policy) (now / windowOf policy) v.current
      v.previous)
    (hlog : log' = log ∨ ∃ time, log' = ⟨clientOf policy ip, time⟩ :: log) :
    Meters windowOf ⟨l.windows.insert (keyFor policy ip) v⟩ log' now := by
  have hother : ∀ policy' ip' a, keyFor policy' ip' ≠ keyFor policy ip → a ∈ log' →
      a.key = clientOf policy' ip' → a ∈ log := by
    intro policy' ip' a hne ha hkey
    rcases hlog with rfl | ⟨time, rfl⟩
    · exact ha
    · rcases List.mem_cons.mp ha with rfl | ha
      · exact absurd (keyFor_inj.mpr hkey.symm) hne
      · exact ha
  refine ⟨fun policy' ip' hnone a ha hkey => ?_, fun policy' ip' v' hv' => ?_⟩
  · have hne : keyFor policy' ip' ≠ keyFor policy ip := by
      intro heq
      simp [heq] at hnone
    rw [Table.get?_insert_ne _ _ hne] at hnone
    exact h.absent policy' ip' hnone a (hother policy' ip' a hne ha hkey) hkey
  · rw [Table.get?_insert] at hv'
    split_ifs at hv' with heq
    · cases hv'
      have hclient := keyFor_inj.mp heq
      obtain rfl : policy' = policy := congrArg Prod.fst hclient
      rw [hclient]
      exact ⟨hsecs, _, le_rfl, hstart, hcounts⟩
    · obtain ⟨hsecs', i, hi, hstart', hcounts'⟩ := h.counted policy' ip' v' hv'
      refine ⟨hsecs', i, hi, hstart', ?_⟩
      rcases hlog with rfl | ⟨time, rfl⟩
      · exact hcounts'
      · exact hcounts'.other fun hkey => heq (keyFor_inj.mpr hkey.symm)

/-- **One check.** It is answered like the reference, and the counters stand for its log. -/
theorem Meters.check {windowOf : String → Nat}
    {l : MemoryRateLimiter} {log : List (Admission Client)} {now : Nat}
    (h : Meters windowOf l log now) {policy : String} (hw : 0 < windowOf policy)
    (hbound : windowOf policy < u64Bound) (hnow : now < u64Bound) (ip : IpAddr)
    (maxRequests : Nat) :
    let w := windowOf policy
    (l.checkAt policy ip maxRequests w now).1 = (referenceCheck log policy ip maxRequests w now).1 ∧
      Meters windowOf (l.checkAt policy ip maxRequests w now).2
        (referenceCheck log policy ip maxRequests w now).2 now := by
  intro w
  obtain ⟨hstart, hsecs, hcounts⟩ := h.rolled hw ip
  have helapsed : wrappingSub now (w * (now / w)) = now % w := by
    rw [wrappingSub_of_le (Nat.mul_div_le now w) hnow, ← sub_mod_eq]
    have := Nat.mod_le now w
    omega
  have hreset : wrappingSub w (now % w) = w - now % w :=
    wrappingSub_of_le (Nat.mod_lt now hw).le hbound
  simp only [MemoryRateLimiter.checkAt, referenceCheck]
  generalize ((l.windows.get? (keyFor policy ip)).getD ⟨now - now % w, 0, 0, w⟩).rollTo
    (now - now % w) w = v at hstart hsecs hcounts ⊢
  rw [hstart, helapsed, hreset, estimate_eq hw hbound hcounts]
  split_ifs with hfull
  · exact ⟨rfl, h.insert hsecs hstart hcounts (.inl rfl)⟩
  · exact ⟨rfl, h.insert hsecs rfl hcounts.admit (.inr ⟨now, rfl⟩)⟩

theorem get?_cleanupIdleAt (l : MemoryRateLimiter) (now : Nat) (key : String) :
    (l.cleanupIdleAt now).2.windows.get? key =
      (l.windows.get? key).filter fun v => now - wrappingMul v.windowSecs 2 ≤ v.start :=
  Table.get?_retain ..

/-- **One sweep.** What it drops no longer counts, if twice the window does not wrap. -/
theorem Meters.cleanup {windowOf : String → Nat} {l : MemoryRateLimiter}
    {log : List (Admission Client)} {now : Nat} (h : Meters windowOf l log now)
    (hw : ∀ policy, 0 < windowOf policy) (hfits : ∀ policy, windowOf policy < 2 ^ 63) :
    Meters windowOf (l.cleanupIdleAt now).2 log now := by
  refine ⟨fun policy ip hnone => ?_, fun policy ip v hv => ?_⟩
  · rw [get?_cleanupIdleAt] at hnone
    cases hv : l.windows.get? (keyFor policy ip) with
    | none => exact h.absent policy ip hv
    | some v =>
      obtain ⟨hsecs, i, -, hstart, hcounts⟩ := h.counted policy ip v hv
      have hdouble : wrappingMul (windowOf policy) 2 = windowOf policy * 2 :=
        wrappingMul_of_lt (by have := hfits policy; simp only [u64Bound]; omega)
      have hidle : v.start + windowOf policy * 2 < now := by
        simpa [hv, hsecs, hdouble, Option.filter] using hnone
      -- Two whole windows lie between the counters and now.
      have hgap : i + 2 ≤ now / windowOf policy := by
        rw [Nat.le_div_iff_mul_le (hw policy), Nat.add_mul, Nat.mul_comm i]
        omega
      intro a ha hkey
      have := hcounts.latest a ha hkey
      omega
  · rw [get?_cleanupIdleAt] at hv
    exact h.counted policy ip v (Option.eq_some_of_filter_eq_some hv)

/-! ## Simulations of the reference -/

/-- A limiter whose states stand for logs answers like the reference, on the calls that are `ok`. -/
structure Simulates {σ : Type} (perform : σ → Timed LimiterCall → Option Allowance × σ)
    (windowOf : String → Nat) (ok : Timed LimiterCall → Prop)
    (R : σ → List (Admission Client) → Nat → Prop) : Prop where
  later : ∀ {s log now now'}, R s log now → now ≤ now' → R s log now'
  step : ∀ {s log c}, R s log c.now → ok c →
    (perform s c).1 = (referencePerform windowOf log c).1 ∧
      R (perform s c).2 (referencePerform windowOf log c).2 c.now

section Run

variable {σ : Type} {perform : σ → Timed LimiterCall → Option Allowance × σ}
  {windowOf : String → Nat} {ok : Timed LimiterCall → Prop}
  {R : σ → List (Admission Client) → Nat → Prop} {s : σ} {log : List (Admission Client)}
  {now : Nat} {calls : List (Timed LimiterCall)}

/-- **One run.** Every answer is the reference's, the same calls are admitted, and afterwards the
state stands for the log. -/
theorem Simulates.run (h : Simulates perform windowOf ok R) (hs : R s log now)
    (hordered : calls.Pairwise (·.now ≤ ·.now)) (hnow : ∀ c ∈ calls, now ≤ c.now)
    (hok : ∀ c ∈ calls, ok c) :
    answers perform s calls = answers (referencePerform windowOf) log calls ∧
      (∀ client, admittedCalls perform client s calls =
        admittedCalls (referencePerform windowOf) client log calls) ∧
      ∀ later, now ≤ later → (∀ c ∈ calls, c.now ≤ later) →
        R (after perform s calls) (after (referencePerform windowOf) log calls) later := by
  induction calls generalizing s log now with
  | nil => exact ⟨rfl, fun _ => rfl, fun later hlater _ => h.later hs hlater⟩
  | cons c calls ih =>
    obtain ⟨hanswer, hstep⟩ := h.step (h.later hs (hnow c List.mem_cons_self))
      (hok c List.mem_cons_self)
    obtain ⟨hfirst, hordered⟩ := List.pairwise_cons.mp hordered
    obtain ⟨hanswers, hadmitted, hafter⟩ := ih hstep hordered hfirst
      fun c' hc' => hok c' (List.mem_cons_of_mem _ hc')
    refine ⟨?_, fun client => ?_, fun later _ hlater => ?_⟩
    · rw [answers, answers, hanswer, hanswers]
    · simp only [admittedCalls, hanswer, hadmitted client]
    · exact hafter later (hlater c List.mem_cons_self)
        fun c' hc' => hlater c' (List.mem_cons_of_mem _ hc')

end Run

/-- The memory limiter, while twice every window fits into 64 bits. -/
theorem memory_simulates {windowOf : String → Nat}
    (hw : ∀ policy, 0 < windowOf policy) (hfits : ∀ policy, windowOf policy < 2 ^ 63) :
    Simulates (MemoryRateLimiter.perform windowOf) windowOf (·.now < u64Bound)
      (Meters windowOf) where
  later h hle := h.later hle
  step {l log c} h hnow := by
    obtain ⟨now, call⟩ := c
    cases call with
    | check policy ip maxRequests =>
      have hbound : windowOf policy < u64Bound := (hfits policy).trans (by decide)
      obtain ⟨hanswer, hmeters⟩ := h.check (hw policy) hbound hnow ip maxRequests
      exact ⟨congrArg some hanswer, hmeters⟩
    | cleanup => exact ⟨rfl, h.cleanup hw hfits⟩

/-! ## What the reference keeps to -/

section Reference

variable {windowOf : String → Nat} {log log' : List (Admission Client)} {client : Client}

/-- A check is denied and leaves the log, or is admitted and joins it. -/
theorem referenceCheck_cases (log : List (Admission Client)) (policy : String) (ip : IpAddr)
    (maxRequests windowSecs now : Nat) :
    let r := referenceCheck log policy ip maxRequests windowSecs now
    r.1.allowed = false ∧ r.2 = log ∨
      r.1.allowed = true ∧ r.2 = ⟨clientOf policy ip, now⟩ :: log ∧
        estimate log (clientOf policy ip) windowSecs now < maxRequests := by
  simp only [referenceCheck]
  split_ifs with hfull
  · exact .inl ⟨rfl, rfl⟩
  · exact .inr ⟨rfl, rfl, not_le.mp hfull⟩

/-- The answer depends on the client's own admissions alone. -/
theorem referenceCheck_congr {policy : String} {ip : IpAddr} (hclient : clientOf policy ip = client)
    (hlog : (log.filter fun a => a.key = client) = log'.filter fun a => a.key = client)
    (maxRequests windowSecs now : Nat) :
    (referenceCheck log policy ip maxRequests windowSecs now).1 =
      (referenceCheck log' policy ip maxRequests windowSecs now).1 := by
  have hestimate : estimate log client windowSecs now = estimate log' client windowSecs now := by
    rw [← estimate_filter log, hlog, estimate_filter]
  simp only [referenceCheck, hclient, hestimate]
  split_ifs <;> rfl

/-- **What an answer depends on.** The client's admitted checks alone leave the same admissions of
the client as all calls. -/
theorem filter_after_admittedCalls (calls : List (Timed LimiterCall))
    (hlog : (log.filter fun a => a.key = client) = log'.filter fun a => a.key = client) :
    (after (referencePerform windowOf) log' (admittedCalls (referencePerform windowOf) client log
        calls)).filter (fun a => a.key = client) =
      (after (referencePerform windowOf) log calls).filter fun a => a.key = client := by
  induction calls generalizing log log' with
  | nil => exact hlog.symm
  | cons c calls ih =>
    obtain ⟨now, call⟩ := c
    cases call with
    | cleanup => exact ih hlog
    | check policy ip maxRequests =>
      simp only [admittedCalls]
      split_ifs with hadmitted
      · obtain ⟨hclient, hallowed⟩ := hadmitted
        refine ih ?_
        have hcongr := referenceCheck_congr hclient hlog maxRequests (windowOf policy) now
        rcases referenceCheck_cases log policy ip maxRequests (windowOf policy) now with
          ⟨hdenied, -⟩ | ⟨-, hcons, -⟩
        · simp [referencePerform, hdenied] at hallowed
        · rcases referenceCheck_cases log' policy ip maxRequests (windowOf policy) now with
            ⟨hdenied, -⟩ | ⟨-, hcons', -⟩
          · rw [← hcongr] at hdenied
            simp [referencePerform, hdenied] at hallowed
          · simp [referencePerform, hcons, hcons', hclient, hlog]
      · refine ih (.trans ?_ hlog)
        rcases referenceCheck_cases log policy ip maxRequests (windowOf policy) now with
          ⟨-, hsame⟩ | ⟨hallowed, hcons, -⟩
        · simp [referencePerform, hsame]
        · have hother : clientOf policy ip ≠ client := by
            rintro hclient
            exact hadmitted ⟨hclient, by simp [referencePerform, hallowed]⟩
          simp [referencePerform, hcons, hother]

/-- The admitted checks of a client in a window are those the log has gained. -/
theorem inWindow_after (calls : List (Timed LimiterCall)) (w i : Nat) :
    inWindow (after (referencePerform windowOf) log calls) client w i =
      inWindow log client w i +
        (admittedCalls (referencePerform windowOf) client log calls).countP fun c => c.now / w = i := by
  induction calls generalizing log with
  | nil => rfl
  | cons c calls ih =>
    obtain ⟨now, call⟩ := c
    cases call with
    | cleanup => exact ih
    | check policy ip maxRequests =>
      refine ih.trans ?_
      simp only [admittedCalls]
      rcases referenceCheck_cases log policy ip maxRequests (windowOf policy) now with
        ⟨hdenied, hsame⟩ | ⟨hallowed, hcons, -⟩
      · simp [referencePerform, hdenied, hsame]
      · by_cases hclient : clientOf policy ip = client
        · subst hclient
          simp only [referencePerform, hallowed, hcons, Prod.map_fst, Prod.map_snd, id_eq,
            Option.any_some, and_self, if_true, inWindow_cons_self, List.countP_cons,
            decide_eq_true_eq]
          omega
        · have hother : (⟨clientOf policy ip, now⟩ : Admission Client).key ≠ client := hclient
          simp only [referencePerform, hcons, hclient, Prod.map_snd, id_eq, false_and, if_false,
            inWindow_cons_ne hother]

/-- No window of the client has more admissions than its limit. -/
theorem inWindow_after_le {policy : String} {ip : IpAddr} {limit : Nat}
    {calls : List (Timed LimiterCall)}
    (hlimit : ∀ c ∈ calls, ∀ ip' n, c.call = .check policy ip' n → n = limit)
    (hlog : ∀ i, inWindow log (clientOf policy ip) (windowOf policy) i ≤ limit) (i : Nat) :
    inWindow (after (referencePerform windowOf) log calls) (clientOf policy ip) (windowOf policy) i ≤
      limit := by
  induction calls generalizing log with
  | nil => exact hlog i
  | cons c calls ih =>
    refine ih (fun c' hc' => hlimit c' (List.mem_cons_of_mem _ hc')) fun j => ?_
    have hthis := hlimit c List.mem_cons_self
    obtain ⟨now, call⟩ := c
    cases call with
    | cleanup => exact hlog j
    | check policy' ip' maxRequests =>
      rcases referenceCheck_cases log policy' ip' maxRequests (windowOf policy') now with
        ⟨-, hsame⟩ | ⟨-, hcons, hbelow⟩
      · simpa [referencePerform, hsame] using hlog j
      · simp only [referencePerform, hcons, Prod.map_snd, id_eq]
        by_cases hclient : clientOf policy' ip' = clientOf policy ip
        · obtain rfl : policy' = policy := congrArg Prod.fst hclient
          obtain rfl : maxRequests = limit := hthis ip' maxRequests rfl
          rw [hclient] at hbelow ⊢
          rw [inWindow_cons_self]
          split_ifs with hj
          · exact hj ▸ inWindow_lt_of_estimate_lt hbelow
          · exact hlog j
        · rw [inWindow_cons_ne hclient]
          exact hlog j

end Reference

/-! ## The memory limiter and the reference -/

section Memory

variable {windowOf limitOf : String → Nat} {calls : List (Timed LimiterCall)}

/-- Every check of a policy brings the policy's limit. -/
def FixedLimits (limitOf : String → Nat) (calls : List (Timed LimiterCall)) : Prop :=
  ∀ c ∈ calls, ∀ policy ip n, c.call = .check policy ip n → n = limitOf policy

/-- The memory limiter admits what the reference admits. Its next answer to a client depends on the
client's admitted checks alone, and no window has more of these than the limit. -/
structure MatchesReference (windowOf limitOf : String → Nat) (calls : List (Timed LimiterCall)) :
    Prop where
  allowed : (answers (MemoryRateLimiter.perform windowOf) {} calls).map (·.map (·.allowed)) =
    (answers (referencePerform windowOf) [] calls).map (·.map (·.allowed))
  independent : ∀ now policy ip,
    let next : Timed LimiterCall := ⟨now, .check policy ip (limitOf policy)⟩
    let perform := MemoryRateLimiter.perform windowOf
    let own := admittedCalls perform (clientOf policy ip) {} calls
    Paced (calls ++ [next]) →
      (perform (after perform {} calls) next).1 = (perform (after perform {} own) next).1
  bounded : ∀ policy ip i,
    ((admittedCalls (MemoryRateLimiter.perform windowOf) (clientOf policy ip) {} calls).countP
      fun c => c.now / windowOf policy = i) ≤ limitOf policy

theorem Paced.le_last {c : Timed LimiterCall} (h : Paced (calls ++ [c])) :
    ∀ c' ∈ calls, c'.now ≤ c.now :=
  fun c' hc' => (List.pairwise_append.mp h.ordered).2.2 c' hc' c (List.mem_singleton_self c)

theorem Paced.sublist {calls' : List (Timed LimiterCall)} (h : Paced calls)
    (hsub : calls'.Sublist calls) : Paced calls' :=
  ⟨h.ordered.sublist hsub, fun c hc => h.bounded c (hsub.subset hc)⟩

theorem admittedCalls_sublist {σ : Type}
    (perform : σ → Timed LimiterCall → Option Allowance × σ) (client : Client) (s : σ)
    (calls : List (Timed LimiterCall)) :
    (admittedCalls perform client s calls).Sublist calls := by
  induction calls generalizing s with
  | nil => exact .slnil
  | cons c calls ih =>
    obtain ⟨now, call⟩ := c
    cases call with
    | cleanup => exact (ih _).cons _
    | check policy ip maxRequests =>
      simp only [admittedCalls]
      split_ifs
      · exact (ih _).cons_cons _
      · exact (ih _).cons _

/-- While twice every window fits, the next answer is the reference's. -/
theorem memory_next (hw : ∀ policy, 0 < windowOf policy)
    (hfits : ∀ policy, windowOf policy < 2 ^ 63) {next : Timed LimiterCall}
    (hpaced : Paced (calls ++ [next])) :
    (MemoryRateLimiter.perform windowOf (after (MemoryRateLimiter.perform windowOf) {} calls)
        next).1 =
      (referencePerform windowOf (after (referencePerform windowOf) [] calls) next).1 := by
  have hsim := memory_simulates hw hfits
  have hcalls := hpaced.sublist (List.sublist_append_left calls [next])
  have hmeters := (hsim.run (meters_empty windowOf 0) hcalls.ordered (fun _ _ => Nat.zero_le _)
    hcalls.bounded).2.2 next.now (Nat.zero_le _) hpaced.le_last
  exact (hsim.step hmeters (hpaced.bounded next (by simp))).1

theorem matchesReference (hw : ∀ policy, 0 < windowOf policy)
    (hfits : ∀ policy, windowOf policy < 2 ^ 63) (hpaced : Paced calls)
    (hlimits : FixedLimits limitOf calls) : MatchesReference windowOf limitOf calls := by
  obtain ⟨hanswers, hadmitted, -⟩ := (memory_simulates hw hfits).run
    (meters_empty windowOf 0) hpaced.ordered (fun _ _ => Nat.zero_le _) hpaced.bounded
  refine ⟨by rw [hanswers], ?_, ?_⟩
  · intro now policy ip next perform own hnext
    have hown : Paced (own ++ [next]) :=
      hnext.sublist ((admittedCalls_sublist _ _ _ _).append (.refl _))
    rw [memory_next hw hfits hnext, memory_next hw hfits hown]
    have hsame := @filter_after_admittedCalls windowOf [] [] (clientOf policy ip) calls rfl
    rw [← hadmitted (clientOf policy ip)] at hsame
    exact congrArg some (referenceCheck_congr rfl hsame.symm _ _ _)
  · intro policy ip i
    have hle := @inWindow_after_le windowOf [] policy ip (limitOf policy) calls
      (fun c hc ip' n hcall => hlimits c hc policy ip' n hcall) (fun _ => Nat.zero_le _) i
    rw [inWindow_after] at hle
    rw [hadmitted (clientOf policy ip)]
    exact (Nat.le_add_left _ _).trans hle

/-! ### A window whose double wraps -/

/-- A key without counters is admitted, and counted at the start of the current window. -/
theorem perform_of_absent {l : MemoryRateLimiter} {policy : String} {ip : IpAddr}
    (h : l.windows.get? (keyFor policy ip) = none) {maxRequests : Nat} (hmax : 0 < maxRequests)
    (now : Nat) :
    (∃ answer, (l.perform windowOf ⟨now, .check policy ip maxRequests⟩).1 = some answer ∧
      answer.allowed = true) ∧
    (l.perform windowOf ⟨now, .check policy ip maxRequests⟩).2.windows.get? (keyFor policy ip) =
      some ⟨now - now % windowOf policy, 1, 0, windowOf policy⟩ := by
  have hbelow : ¬ (maxRequests : Rat) ≤ 0 := by exact_mod_cast hmax.not_ge
  simp [MemoryRateLimiter.perform, MemoryRateLimiter.checkAt, h, RateWindow.rollTo, hbelow]

/-- The first request of a client is admitted, whatever the window. -/
theorem referenceCheck_nil (policy : String) (ip : IpAddr) {maxRequests : Nat}
    (hmax : 0 < maxRequests) (w now : Nat) :
    (referenceCheck [] policy ip maxRequests w now).1.allowed = true ∧
      (referenceCheck [] policy ip maxRequests w now).2 = [⟨clientOf policy ip, now⟩] := by
  have hbelow : ¬ (maxRequests : Rat) ≤ 0 := by exact_mod_cast hmax.not_ge
  simp [referenceCheck, estimate, inWindow, beforeWindow, hbelow]

/-- A request admitted at second 0 counts in full until the first window has ended. -/
theorem estimate_of_first (client : Client) {w now : Nat} (hw : 0 < w) (hnow : now ≤ w) :
    estimate [⟨client, 0⟩] client w now = 1 := by
  rcases Nat.eq_or_lt_of_le hnow with rfl | hlt
  · have hwhole : ((now : Nat) : Rat) / now = 1 := div_self (by exact_mod_cast hw.ne')
    simp [estimate, inWindow, beforeWindow, fractionLeft, Nat.div_self hw, hwhole]
  · simp [estimate, inWindow, beforeWindow, Nat.div_eq_of_lt hlt]

/-- A request at second 0, and a sweep and a request later. -/
def sweepBetween (policy : String) (ip : IpAddr) (later : Nat) : List (Timed LimiterCall) :=
  [⟨0, .check policy ip 1⟩, ⟨later, .cleanup⟩, ⟨later, .check policy ip 1⟩]

theorem paced_sweepBetween (policy : String) (ip : IpAddr) {later : Nat} (h : later < u64Bound) :
    Paced (sweepBetween policy ip later) := by
  refine ⟨by simp [sweepBetween], ?_⟩
  simp only [sweepBetween, List.mem_cons, List.not_mem_nil, or_false]
  rintro call (rfl | rfl | rfl)
  · exact Nat.zero_lt_of_lt h
  · exact h
  · exact h

theorem fixedLimits_sweepBetween (policy : String) (ip : IpAddr) (later : Nat) :
    FixedLimits (fun _ => 1) (sweepBetween policy ip later) := by
  simp only [FixedLimits, sweepBetween, List.mem_cons, List.not_mem_nil, or_false]
  rintro call (rfl | rfl | rfl) policy' ip n hcall <;> cases hcall <;> rfl

theorem answers_sweepBetween {σ : Type}
    (perform : σ → Timed LimiterCall → Option Allowance × σ) (s : σ) (policy : String) (ip : IpAddr)
    (later : Nat) :
    answers perform s (sweepBetween policy ip later) =
      let first := perform s ⟨0, .check policy ip 1⟩
      let swept := perform first.2 ⟨later, .cleanup⟩
      [first.1, swept.1, (perform swept.2 ⟨later, .check policy ip 1⟩).1] := rfl

/-- The sweep drops the first request, so that the second is admitted. -/
theorem not_matchesReference_of_wraps {policy : String} {c : Nat}
    (hdouble : wrappingMul (windowOf policy) 2 = c) (hc : c < windowOf policy) (ip : IpAddr) :
    ¬ MatchesReference windowOf (fun _ => 1) (sweepBetween policy ip (c + 1)) := by
  intro h
  have hallowed := h.allowed
  rw [answers_sweepBetween, answers_sweepBetween] at hallowed
  dsimp only at hallowed
  have hcounted : (MemoryRateLimiter.perform windowOf {} ⟨0, .check policy ip 1⟩).2.windows.get?
      (keyFor policy ip) = some ⟨0 - 0 % windowOf policy, 1, 0, windowOf policy⟩ :=
    (perform_of_absent (Table.get?_empty _) one_pos 0).2
  generalize MemoryRateLimiter.perform windowOf {} ⟨0, .check policy ip 1⟩ = first at *
  have hswept : (first.2.perform windowOf ⟨c + 1, .cleanup⟩).2.windows.get? (keyFor policy ip) =
      none := by
    rw [MemoryRateLimiter.perform_cleanup, get?_cleanupIdleAt, hcounted, Option.filter_some,
      hdouble, Nat.add_sub_cancel_left, Nat.zero_sub]
    rfl
  generalize first.2.perform windowOf ⟨c + 1, .cleanup⟩ = swept at *
  obtain ⟨⟨answer, hanswer, hadmitted⟩, -⟩ :=
    @perform_of_absent windowOf _ _ _ hswept _ one_pos (c + 1)
  have hlog : (referencePerform windowOf [] ⟨0, .check policy ip 1⟩).2 =
      [⟨clientOf policy ip, 0⟩] := by
    rw [referencePerform_check]
    exact (referenceCheck_nil policy ip one_pos (windowOf policy) 0).2
  have hdenied : (referenceCheck [⟨clientOf policy ip, 0⟩] policy ip 1 (windowOf policy)
      (c + 1)).1.allowed = false := by
    simp [referenceCheck, estimate_of_first (clientOf policy ip) (Nat.zero_lt_of_lt hc) hc]
  generalize referencePerform windowOf [] ⟨0, .check policy ip 1⟩ = logged at *
  simp [referencePerform_cleanup, referencePerform_check, hanswer, hadmitted, hlog, hdenied]
    at hallowed

theorem wrappingMul_two_lt {w : Nat} (hwraps : 2 ^ 63 ≤ w) (hbound : w < u64Bound) :
    wrappingMul w 2 < w := by
  simp only [wrappingMul, u64Bound] at hbound ⊢
  omega

/-- **The limiter and its reference.** For all windows that the configuration may give its policies:
the limiter admits what the reference admits, on all calls with fixed limits at nondecreasing
readings of the clock and with sweeps anywhere, just when twice every window fits into 64 bits. -/
theorem matchesReference_iff (windowOf : String → Nat)
    (hwindow : ∀ policy, 0 < windowOf policy ∧ windowOf policy < u64Bound) :
    (∀ limitOf calls, Paced calls → FixedLimits limitOf calls →
      MatchesReference windowOf limitOf calls) ↔ ∀ policy, windowOf policy < 2 ^ 63 := by
  constructor
  · intro h policy
    by_contra hwraps
    have hbound := (hwindow policy).2
    have hc := wrappingMul_two_lt (not_lt.mp hwraps) hbound
    generalize hdouble : wrappingMul (windowOf policy) 2 = c at hc
    have hpaced := paced_sweepBetween policy exampleAddress (Nat.lt_of_le_of_lt hc hbound)
    exact not_matchesReference_of_wraps hdouble hc exampleAddress
      (h _ _ hpaced (fixedLimits_sweepBetween policy exampleAddress (c + 1)))
  · intro hfits limitOf calls hpaced hlimits
    exact matchesReference (fun policy => (hwindow policy).1) hfits hpaced hlimits

end Memory

/-! ## A window of 2 ^ 63 seconds -/

/-- Where every policy has a window of a minute, the limiter always admits what the reference
admits. -/
theorem matchesReference_iff_example :
    (∀ policy : String, 0 < (fun _ => 60) policy ∧ (fun _ => 60) policy < u64Bound) ∧
    ((∀ limitOf calls, Paced calls → FixedLimits limitOf calls →
      MatchesReference (fun _ => 60) limitOf calls) ↔ ∀ policy : String, (fun _ => 60) policy < 2 ^ 63) := by
  have hwindow : ∀ _ : String, 0 < 60 ∧ 60 < u64Bound := fun _ => by decide
  exact ⟨hwindow, matchesReference_iff _ hwindow⟩

/-- **A sweep that forgets.** Twice a window of 2 ^ 63 seconds wraps to none, so the sweep drops
counters of the current window, and the client is admitted beyond its limit. -/
theorem swept_window_still_counts :
    ¬ ∀ (windowOf limitOf : String → Nat) (calls : List (Timed LimiterCall)),
      (∀ policy, 0 < windowOf policy ∧ windowOf policy < u64Bound) →
      Paced calls → FixedLimits limitOf calls → MatchesReference windowOf limitOf calls := by
  intro h
  have hwindow : ∀ _ : String, 0 < 2 ^ 63 ∧ 2 ^ 63 < u64Bound := fun _ => by decide
  have hdouble : wrappingMul (2 ^ 63) 2 = 0 := by decide
  exact not_matchesReference_of_wraps hdouble (by decide) exampleAddress
    (h (fun _ => 2 ^ 63) (fun _ => 1) _ hwindow
      (paced_sweepBetween "" exampleAddress (by decide))
      (fixedLimits_sweepBetween "" exampleAddress (0 + 1)))

end X402Verifier
