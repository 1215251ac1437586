import X402Verifier.BreakerRate

/-!
# What the breaker answers, from its history

A policy's window holds three things that change together: the outcomes, when it opened, and whether
a probe is in flight. All three are read off what was asked and recorded on that policy
(`windowFrom`, `windowOf_run_eq`): the outcomes are the failures since the last success, up to
`window` of them, it opened at the latest of these, and a probe is in flight when `state` has
answered `halfOpen` since the last outcome. The answer to the next call follows
(`answer_determined_by_history`).
-/

namespace X402Verifier

open Interaction

/-- What a call has shown: what `state` answered, or the outcome `record` was told and when. -/
inductive Observation where
  | answered (state : BreakerState)
  | recorded (failed : Bool) (now : Nat)
  deriving DecidableEq

namespace Observation

def isAnswer : Observation → Bool
  | answered _ => true
  | recorded _ _ => false

def isSuccess : Observation → Bool
  | recorded failed _ => !failed
  | answered _ => false

def failedAt : Observation → Option Nat
  | recorded true now => some now
  | recorded false _ | answered _ => none

end Observation

def BreakerCall.policy : BreakerCall → String
  | .state policy | .record policy _ => policy

/-! ## The closed form -/

/-- The times of the failures since the last success, the latest first. -/
def failuresSinceSuccess (history : List Observation) : List Nat :=
  (history.reverse.takeWhile fun o => !o.isSuccess).filterMap Observation.failedAt

/-- `state` has answered `halfOpen` since the last outcome. -/
def probedSinceOutcome (history : List Observation) : Bool :=
  (history.reverse.takeWhile Observation.isAnswer).contains (.answered .halfOpen)

/-- The answer to `state` at `now`, after `history`. -/
def stateFrom (history : List Observation) (now : Nat) : BreakerState :=
  let failures := failuresSinceSuccess history
  if failures.length < minSamples then .closed
  else if cooldownSecs ≤ now - failures.headD 0 ∧ ¬ probedSinceOutcome history then .halfOpen
  else .opened

/-- The window after `history`. -/
def windowFrom (history : List Observation) : Window where
  outcomes := List.replicate (min (failuresSinceSuccess history).length window) true
  openedAt :=
    if (failuresSinceSuccess history).length < minSamples then none
    else (failuresSinceSuccess history).head?
  probing := probedSinceOutcome history

@[simp] theorem failuresSinceSuccess_answered (history : List Observation) (state : BreakerState) :
    failuresSinceSuccess (history ++ [.answered state]) = failuresSinceSuccess history := by
  simp [failuresSinceSuccess, Observation.isSuccess, List.filterMap_cons, Observation.failedAt]

@[simp] theorem failuresSinceSuccess_failure (history : List Observation) (now : Nat) :
    failuresSinceSuccess (history ++ [.recorded true now]) =
      now :: failuresSinceSuccess history := by
  simp [failuresSinceSuccess, Observation.isSuccess, Observation.failedAt]

@[simp] theorem failuresSinceSuccess_success (history : List Observation) (now : Nat) :
    failuresSinceSuccess (history ++ [.recorded false now]) = [] := by
  simp [failuresSinceSuccess, Observation.isSuccess]

@[simp] theorem probedSinceOutcome_answered (history : List Observation) (state : BreakerState) :
    probedSinceOutcome (history ++ [.answered state]) =
      (decide (state = .halfOpen) || probedSinceOutcome history) := by
  cases state <;> simp [probedSinceOutcome, List.takeWhile_cons, Observation.isAnswer]

@[simp] theorem probedSinceOutcome_recorded (history : List Observation) (failed : Bool)
    (now : Nat) : probedSinceOutcome (history ++ [.recorded failed now]) = false := by
  simp [probedSinceOutcome, Observation.isAnswer]

/-- An answer leaves the window as it was, and `halfOpen` marks the probe. -/
theorem windowFrom_answered (history : List Observation) (state : BreakerState) :
    windowFrom (history ++ [.answered state]) =
      { windowFrom history with
        probing := decide (state = .halfOpen) || (windowFrom history).probing } := by
  simp [windowFrom]

namespace SettlementBreaker

/-! ## One call -/

/-- What the call shows, under the policy it is about. -/
def shown (b : SettlementBreaker) (timed : Timed BreakerCall) : String × Observation :=
  match timed.call with
  | .state policy => (policy, .answered (b.stateAt policy timed.now).1)
  | .record policy failed => (policy, .recorded failed timed.now)

/-- What the calls on `policy` have shown, oldest first. -/
def historyOn (policy : String) (calls : List (Timed BreakerCall)) : List Observation :=
  (replies (fun b timed => (shown b timed, b.step timed)) {} calls).filterMap fun s =>
    if s.1 = policy then some s.2 else none

@[simp] theorem shown_fst (b : SettlementBreaker) (timed : Timed BreakerCall) :
    (b.shown timed).1 = timed.call.policy := by
  obtain ⟨now, call⟩ := timed
  cases call <;> rfl

theorem windowOf_step_ne (b : SettlementBreaker) {policy : String} {timed : Timed BreakerCall}
    (h : timed.call.policy ≠ policy) : (b.step timed).windowOf policy = b.windowOf policy := by
  obtain ⟨now, call⟩ := timed
  cases call with
  | state policy' =>
    show ((b.stateAt policy' now).2).windowOf policy = _
    have hne : policy ≠ policy' := Ne.symm h
    cases hopened : (b.windowOf policy').openedAt with
    | none => simp [stateAt, hopened, windowOf_setWindow, hne]
    | some openedAt =>
      simp only [stateAt, hopened]
      split_ifs <;> simp [windowOf_setWindow, hne]
  | record policy' failed => exact windowOf_recordAt b policy' failed now policy (Ne.symm h)

/-- The answer depends on the policy's own window. -/
theorem stateAt_congr {b b' : SettlementBreaker} {policy : String}
    (h : b.windowOf policy = b'.windowOf policy) (now : Nat) :
    (b.stateAt policy now).1 = (b'.stateAt policy now).1 ∧
      (b.stateAt policy now).2.windowOf policy = (b'.stateAt policy now).2.windowOf policy := by
  cases hopened : (b'.windowOf policy).openedAt with
  | none => simp [stateAt, h, hopened]
  | some openedAt =>
    simp only [stateAt, h, hopened]
    split_ifs <;> simp

theorem windowOf_step_congr {b b' : SettlementBreaker} {policy : String}
    (h : b.windowOf policy = b'.windowOf policy) {timed : Timed BreakerCall}
    (hown : timed.call.policy = policy) :
    (b.step timed).windowOf policy = (b'.step timed).windowOf policy := by
  obtain ⟨now, call⟩ := timed
  subst hown
  cases call with
  | state policy' => exact (stateAt_congr h now).2
  | record policy' failed =>
    have hwindow : b.windowOf policy' = b'.windowOf policy' := h
    cases failed <;> simp [step, recordAt, BreakerCall.policy, hwindow]

/-- What `state` answers for a window that follows from the history. -/
theorem stateAt_windowFrom {b : SettlementBreaker} {policy : String} {history : List Observation}
    (h : b.windowOf policy = windowFrom history) (now : Nat) :
    (b.stateAt policy now).1 = stateFrom history now := by
  unfold stateAt stateFrom
  by_cases hfew : (failuresSinceSuccess history).length < minSamples
  · simp [h, windowFrom, hfew]
  · cases hfailures : failuresSinceSuccess history with
    | nil => simp [hfailures, minSamples] at hfew
    | cons last earlier =>
      rw [hfailures, List.length_cons] at hfew
      by_cases hcooled : now - last < cooldownSecs
      · simp [h, windowFrom, hfailures, hfew, hcooled, Nat.not_le.mpr hcooled]
      · cases hprobed : probedSinceOutcome history <;>
          simp [h, windowFrom, hfailures, hfew, hcooled, hprobed, Nat.not_lt.mp hcooled]

/-- The window keeps what it says of itself, but for the probe that `halfOpen` claims. -/
theorem windowOf_stateAt_self (b : SettlementBreaker) (policy : String) (now : Nat) :
    (b.stateAt policy now).2.windowOf policy =
      { b.windowOf policy with
        probing :=
          decide ((b.stateAt policy now).1 = .halfOpen) || (b.windowOf policy).probing } := by
  rcases hwindow : b.windowOf policy with ⟨outcomes, openedAt, probing⟩
  cases openedAt with
  | none => simp [stateAt, hwindow]
  | some openedAt =>
    simp only [stateAt, hwindow]
    split_ifs <;> simp

theorem bounded_replicate (n : Nat) :
    bounded (List.replicate n true) = List.replicate (min n window) true := by
  simp only [bounded, List.length_replicate, List.drop_replicate]
  congr 1
  omega

theorem windowOf_recordAt_self {b : SettlementBreaker} {policy : String}
    {history : List Observation} (h : b.windowOf policy = windowFrom history) (failed : Bool)
    (now : Nat) :
    (b.recordAt policy failed now).windowOf policy =
      windowFrom (history ++ [.recorded failed now]) := by
  cases failed with
  | false => simp [recordAt, windowFrom, minSamples]
  | true =>
    have houtcomes : bounded (List.replicate (min (failuresSinceSuccess history).length window) true
        ++ [true]) = List.replicate (min ((failuresSinceSuccess history).length + 1) window) true := by
      rw [← List.replicate_succ', bounded_replicate]
      congr 1
      omega
    have htripped := tripped_bounded_replicate ((failuresSinceSuccess history).length + 1)
    rw [bounded_replicate] at htripped
    -- open already, opening with this failure, or still closed
    have hopened : (windowFrom history).openedAt.isSome ∨
        tripped (List.replicate (min ((failuresSinceSuccess history).length + 1) window) true) ↔
        minSamples ≤ (failuresSinceSuccess history).length + 1 := by
      rw [htripped]
      cases hfailures : failuresSinceSuccess history with
      | nil => simp [windowFrom, hfailures, minSamples]
      | cons last earlier =>
        simp only [windowFrom, hfailures, List.head?_cons]
        split_ifs with hfew
        · simp
        · simp at hfew ⊢
          omega
    simp only [recordAt, if_true, windowOf_setWindow_self, h]
    simp only [windowFrom, failuresSinceSuccess_failure, probedSinceOutcome_recorded,
      List.length_cons, List.head?_cons, houtcomes] at hopened ⊢
    by_cases hmin : minSamples ≤ (failuresSinceSuccess history).length + 1
    · simp [hopened, hmin, Nat.not_lt.mpr hmin]
    · simp [hopened, hmin, Nat.lt_of_not_le hmin]

/-! ## A run -/

theorem historyOn_concat (policy : String) (calls : List (Timed BreakerCall))
    (timed : Timed BreakerCall) :
    historyOn policy (calls ++ [timed]) = historyOn policy calls ++
      if timed.call.policy = policy then [((run calls).shown timed).2] else [] := by
  rw [historyOn, replies_concat, List.filterMap_append]
  by_cases h : timed.call.policy = policy <;> simp [historyOn, run, h]

/-- **The window is what its policy's history says.** -/
theorem windowOf_run_eq (calls : List (Timed BreakerCall)) (policy : String) :
    (run calls).windowOf policy = windowFrom (historyOn policy calls) := by
  induction calls using List.reverseRecOn with
  | nil => rfl
  | append_singleton calls timed ih =>
    rw [run_concat, historyOn_concat]
    by_cases h : timed.call.policy = policy
    · rw [if_pos h]
      obtain ⟨now, call⟩ := timed
      subst h
      cases call with
      | state policy =>
        show ((run calls).stateAt policy now).2.windowOf policy =
          windowFrom (historyOn policy calls ++ [.answered ((run calls).stateAt policy now).1])
        have hwindow : (run calls).windowOf policy = windowFrom (historyOn policy calls) := ih
        rw [windowOf_stateAt_self, windowFrom_answered, hwindow]
      | record policy failed => exact windowOf_recordAt_self ih failed now
    · rw [if_neg h, List.append_nil, windowOf_step_ne _ h, ih]

theorem windowOf_run_filter (calls : List (Timed BreakerCall)) (policy : String) :
    (run (calls.filter (·.call.policy = policy))).windowOf policy =
      (run calls).windowOf policy := by
  induction calls using List.reverseRecOn with
  | nil => rfl
  | append_singleton calls timed ih =>
    rw [List.filter_append, run_concat]
    by_cases h : timed.call.policy = policy
    · rw [List.filter_singleton, decide_eq_true h, cond_true, run_concat]
      exact windowOf_step_congr ih h
    · rw [List.filter_singleton, decide_eq_false h, cond_false, List.append_nil, ih,
        windowOf_step_ne _ h]

/-- **The breaker's answer follows from its policy's history.** It is closed below `minSamples`
failures since the last success, and then half open exactly when the cooldown from the last failure
is over and no probe was handed out since the last outcome. Calls on other policies do not change
it, and no window outgrows its bound. -/
theorem answer_determined_by_history (calls : List (Timed BreakerCall)) (policy : String)
    (now : Nat) :
    ((run calls).stateAt policy now).1 = stateFrom (historyOn policy calls) now ∧
      ((run calls).stateAt policy now).1 =
        ((run (calls.filter (·.call.policy = policy))).stateAt policy now).1 ∧
      ((run calls).windowOf policy).outcomes.length ≤ window := by
  have hwindow := windowOf_run_eq calls policy
  refine ⟨stateAt_windowFrom hwindow now, ?_, ?_⟩
  · exact (stateAt_congr (windowOf_run_filter calls policy).symm now).1
  · rw [hwindow, windowFrom, List.length_replicate]
    exact Nat.min_le_right _ _

-- Five failures open it at the fifth; after the cooldown one probe goes out and no second.
example :
    let calls := List.replicate 5 ⟨100, .record "graphql" true⟩ ++ [⟨130, .state "graphql"⟩]
    ((run (calls.take 5)).stateAt "graphql" 129).1 = .opened ∧
      ((run (calls.take 5)).stateAt "graphql" 130).1 = .halfOpen ∧
      ((run calls).stateAt "graphql" 131).1 = .opened := by
  decide +kernel

end SettlementBreaker

end X402Verifier
