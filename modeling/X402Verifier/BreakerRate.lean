import Mathlib.Data.List.Induction
import X402Verifier.Breaker
import X402Verifier.Interaction.Run

/-!
# When the breaker opens

The breaker is documented to open past a failure rate: at least `minSamples` of the last `window`
outcomes are there, and half of them failed (`Unhealthy`). The window it decides on is cleared by
every success, so what it really measures is a run of failures: until it first opens, its outcomes
are exactly the failures since the last success (`windowOf_run`), and it opens with the
`minSamples`-th of them (`isOpen_run_iff`). The two agree after an outcome exactly when the last
`minSamples` outcomes all failed if and only if the rate is reached (`opens_at_rate_iff`).
-/

namespace X402Verifier

open Interaction

/-- A call on the breaker: `state` before a payment, `record` after a settlement. -/
inductive BreakerCall where
  | state (policy : String)
  | record (policy : String) (failed : Bool)
  deriving DecidableEq

namespace SettlementBreaker

/-- The breaker refuses payments of the policy, or admits a probe of it. -/
def IsOpen (b : SettlementBreaker) (policy : String) : Prop := (b.windowOf policy).openedAt.isSome

instance (b : SettlementBreaker) (policy : String) : Decidable (b.IsOpen policy) :=
  inferInstanceAs (Decidable ((b.windowOf policy).openedAt.isSome = true))

def step (b : SettlementBreaker) (timed : Timed BreakerCall) : SettlementBreaker :=
  match timed.call with
  | .state policy => (b.stateAt policy timed.now).2
  | .record policy failed => b.recordAt policy failed timed.now

/-- The breaker after the calls, from an empty one. -/
def run (calls : List (Timed BreakerCall)) : SettlementBreaker := calls.foldl step {}

/-- The policy has not opened before any of the calls. -/
def NotYetOpened (policy : String) (calls : List (Timed BreakerCall)) : Prop :=
  Along step (fun b _ => ¬ b.IsOpen policy) {} calls

instance (policy : String) (calls : List (Timed BreakerCall)) :
    Decidable (NotYetOpened policy calls) :=
  inferInstanceAs (Decidable (Along _ _ _ _))

theorem run_concat (calls : List (Timed BreakerCall)) (timed : Timed BreakerCall) :
    run (calls ++ [timed]) = (run calls).step timed := by
  simp [run]

theorem notYetOpened_concat {policy : String} {calls : List (Timed BreakerCall)}
    {timed : Timed BreakerCall} :
    NotYetOpened policy (calls ++ [timed]) ↔
      NotYetOpened policy calls ∧ ¬ (run calls).IsOpen policy := along_concat

end SettlementBreaker

/-! ## The outcomes recorded -/

/-- The outcomes recorded on a policy, oldest first; `true` for a failure. -/
def outcomesOn (policy : String) (calls : List (Timed BreakerCall)) : List Bool :=
  calls.filterMap fun timed => match timed.call with
    | .record policy' failed => if policy' = policy then some failed else none
    | .state _ => none

/-- The documented condition: at least `minSamples` of the last `window` outcomes are there and at
least half of them are failures. -/
def Unhealthy (history : List Bool) : Prop :=
  let recent := history.drop (history.length - window)
  minSamples ≤ recent.length ∧ recent.length ≤ 2 * recent.count true

instance (history : List Bool) : Decidable (Unhealthy history) :=
  inferInstanceAs (Decidable (_ ∧ _))

/-- The number of failures since the last success. -/
def trailingFailures (history : List Bool) : Nat := (history.reverse.takeWhile id).length

@[simp] theorem trailingFailures_nil : trailingFailures [] = 0 := rfl

@[simp] theorem trailingFailures_failure (history : List Bool) :
    trailingFailures (history ++ [true]) = trailingFailures history + 1 := by
  simp [trailingFailures]

@[simp] theorem trailingFailures_success (history : List Bool) :
    trailingFailures (history ++ [false]) = 0 := by
  simp [trailingFailures]

/-- The last `minSamples` outcomes all failed. -/
def LastAllFailed (history : List Bool) : Prop :=
  history.reverse.take minSamples = List.replicate minSamples true

instance (history : List Bool) : Decidable (LastAllFailed history) :=
  inferInstanceAs (Decidable (_ = _))

theorem le_length_takeWhile_iff (outcomes : List Bool) (k : Nat) :
    k ≤ (outcomes.takeWhile id).length ↔ outcomes.take k = List.replicate k true := by
  induction outcomes generalizing k with
  | nil => cases k <;> simp [List.replicate_succ]
  | cons failed outcomes ih =>
    cases k with
    | zero => simp
    | succ k => cases failed <;> simp [List.replicate_succ, ih]

theorem lastAllFailed_iff (history : List Bool) :
    LastAllFailed history ↔ minSamples ≤ trailingFailures history := by
  rw [trailingFailures, le_length_takeWhile_iff, LastAllFailed]

theorem outcomesOn_concat (policy : String) (calls : List (Timed BreakerCall))
    (timed : Timed BreakerCall) :
    outcomesOn policy (calls ++ [timed]) = outcomesOn policy calls ++ outcomesOn policy [timed] := by
  simp [outcomesOn]

/-! ## What the window measures -/

namespace SettlementBreaker

/-- The window of a policy that has failed `failures` times since its last success and is closed. -/
def closedWindow (failures : Nat) : Window := { outcomes := List.replicate failures true }

theorem tripped_bounded_replicate (failures : Nat) :
    tripped (bounded (List.replicate failures true)) ↔ minSamples ≤ failures := by
  simp [tripped, bounded, minSamples, window]
  omega

theorem windowOf_recordAt (b : SettlementBreaker) (policy : String) (failed : Bool) (now : Nat)
    (policy' : String) (h : policy' ≠ policy) :
    (b.recordAt policy failed now).windowOf policy' = b.windowOf policy' := by
  unfold recordAt
  cases failed <;> simp [windowOf_setWindow, h]

theorem windowOf_stateAt (b : SettlementBreaker) (policy : String) (now : Nat) (policy' : String)
    (h : ¬ b.IsOpen policy') : (b.stateAt policy now).2.windowOf policy' = b.windowOf policy' := by
  by_cases heq : policy' = policy
  · subst heq
    have hnone : (b.windowOf policy').openedAt = none := by simpa [IsOpen] using h
    simp [stateAt, hnone]
  · cases hopened : (b.windowOf policy).openedAt with
    | none => simp [stateAt, hopened, windowOf_setWindow, heq]
    | some openedAt =>
      simp only [stateAt, hopened]
      split_ifs <;> simp [windowOf_setWindow, heq]

/-- One call on a policy that is closed after `history`: its window still counts the failures since
the last success, unless the `minSamples`-th of them has opened it. -/
theorem step_closedWindow {b : SettlementBreaker} {policy : String} {history : List Bool}
    (hwindow : b.windowOf policy = closedWindow (trailingFailures history))
    (timed : Timed BreakerCall) (hlt : trailingFailures history < minSamples) :
    let failures := trailingFailures (history ++ outcomesOn policy [timed])
    ((b.step timed).IsOpen policy ↔ minSamples ≤ failures) ∧
      (¬ (b.step timed).IsOpen policy →
        (b.step timed).windowOf policy = closedWindow failures) := by
  have hclosed : ¬ b.IsOpen policy := by simp [IsOpen, hwindow, closedWindow]
  obtain ⟨now, call⟩ := timed
  cases call with
  | state policy' =>
    have hsame := windowOf_stateAt b policy' now policy hclosed
    simp [step, IsOpen, outcomesOn, hsame, hwindow, closedWindow, hlt]
  | record policy' failed =>
    by_cases heq : policy' = policy
    · subst heq
      cases failed with
      | false => simp [step, recordAt, IsOpen, outcomesOn, closedWindow, minSamples]
      | true =>
        have hbounded : bounded (List.replicate (trailingFailures history + 1) true) =
            List.replicate (trailingFailures history + 1) true := by
          simp only [minSamples] at hlt
          simp [bounded, window]
          omega
        have htripped := tripped_bounded_replicate (trailingFailures history + 1)
        rw [hbounded] at htripped
        by_cases h : minSamples ≤ trailingFailures history + 1 <;>
          simp [step, recordAt, IsOpen, outcomesOn, hwindow, closedWindow,
            ← List.replicate_succ', hbounded, htripped, h]
    · have hsame := windowOf_recordAt b policy' failed now policy (Ne.symm heq)
      simp [step, IsOpen, outcomesOn, heq, hsame, hwindow, closedWindow, hlt]

/-- **Until the breaker first opens its window is the run of failures since the last success.** -/
theorem windowOf_run {policy : String} {calls : List (Timed BreakerCall)}
    (hnew : NotYetOpened policy calls) (hclosed : ¬ (run calls).IsOpen policy) :
    (run calls).windowOf policy = closedWindow (trailingFailures (outcomesOn policy calls)) ∧
      trailingFailures (outcomesOn policy calls) < minSamples := by
  induction calls using List.reverseRecOn with
  | nil => exact ⟨rfl, by simp [outcomesOn, minSamples]⟩
  | append_singleton calls timed ih =>
    obtain ⟨hearlier, hbefore⟩ := notYetOpened_concat.mp hnew
    obtain ⟨hwindow, hlt⟩ := ih hearlier hbefore
    rw [run_concat] at hclosed ⊢
    rw [outcomesOn_concat]
    obtain ⟨hopen, hstays⟩ := step_closedWindow hwindow timed hlt
    exact ⟨hstays hclosed, by simpa [hopen] using hclosed⟩

/-- **It opens with the `minSamples`-th failure in a row.** -/
theorem isOpen_run_iff {policy : String} {calls : List (Timed BreakerCall)}
    {timed : Timed BreakerCall} (hnew : NotYetOpened policy (calls ++ [timed])) :
    (run (calls ++ [timed])).IsOpen policy ↔
      LastAllFailed (outcomesOn policy (calls ++ [timed])) := by
  obtain ⟨hearlier, hbefore⟩ := notYetOpened_concat.mp hnew
  obtain ⟨hwindow, hlt⟩ := windowOf_run hearlier hbefore
  rw [run_concat, outcomesOn_concat, lastAllFailed_iff]
  exact (step_closedWindow hwindow timed hlt).1

/-- **The breaker measures a rate only where a run of failures is one.** After an outcome of a
policy that had not yet opened, the breaker is open exactly when the documented rate is reached if
and only if the last `minSamples` outcomes all failed exactly when it is. -/
theorem opens_at_rate_iff (policy : String) (calls : List (Timed BreakerCall)) (failed : Bool)
    (now : Nat) (hnew : NotYetOpened policy (calls ++ [⟨now, .record policy failed⟩])) :
    ((run (calls ++ [⟨now, .record policy failed⟩])).IsOpen policy ↔
        Unhealthy (outcomesOn policy calls ++ [failed])) ↔
      (LastAllFailed (outcomesOn policy calls ++ [failed]) ↔
        Unhealthy (outcomesOn policy calls ++ [failed])) := by
  have hopen := isOpen_run_iff hnew
  rw [outcomesOn_concat] at hopen
  rw [hopen]
  simp [outcomesOn]

/-- Two successes, two failures, a success, and `minSamples` failures in a row: a rate measured, and
the breaker that opens on it. -/
def servedThenDown : List (Timed BreakerCall) :=
  [false, false, true, true, false, true, true, true, true].map fun failed =>
    ⟨1, .record "graphql" failed⟩

theorem opens_at_rate_iff_example :
    (run (servedThenDown ++ [⟨2, .record "graphql" true⟩])).IsOpen "graphql" ∧
      (((run (servedThenDown ++ [⟨2, .record "graphql" true⟩])).IsOpen "graphql" ↔
          Unhealthy (outcomesOn "graphql" servedThenDown ++ [true])) ↔
        (LastAllFailed (outcomesOn "graphql" servedThenDown ++ [true]) ↔
          Unhealthy (outcomesOn "graphql" servedThenDown ++ [true]))) :=
  ⟨by decide +kernel,
    opens_at_rate_iff "graphql" servedThenDown true 2 (by decide +kernel)⟩

/-- Four failures and a success are a failure rate of 80 %, and the breaker stays closed. -/
theorem four_failures_and_a_success :
    ¬ ∀ (policy : String) (calls : List (Timed BreakerCall)) (failed : Bool) (now : Nat),
      NotYetOpened policy (calls ++ [⟨now, .record policy failed⟩]) →
        ((run (calls ++ [⟨now, .record policy failed⟩])).IsOpen policy ↔
          Unhealthy (outcomesOn policy calls ++ [failed])) := by
  intro h
  have hmissed := h "graphql" (List.replicate 4 ⟨1, .record "graphql" true⟩) false 2
    (by decide +kernel)
  exact absurd hmissed (by decide +kernel)

-- The other way round: fifteen successes and five failures are a rate of 25 %, and it opens.
example :
    let calls := List.replicate 15 ⟨1, .record "graphql" false⟩ ++
      List.replicate 5 ⟨2, .record "graphql" true⟩
    (run calls).IsOpen "graphql" ∧ ¬ Unhealthy (outcomesOn "graphql" calls) := by
  decide +kernel

end SettlementBreaker

end X402Verifier
