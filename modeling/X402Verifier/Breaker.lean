import X402Verifier.RustStd.Table

/-!
# Circuit breaker for settlement

`breaker.rs`: the outcomes of recent settlements, per policy. `stateAt` is asked before a payment
is accepted and claims the half-open probe when one is available; `recordAt` is told how a
settlement went.
-/

namespace X402Verifier

open RustStd

/-- Outcomes remembered per policy. -/
def window : Nat := 20

/-- Minimum outcomes before the breaker may trip. -/
def minSamples : Nat := 5

/-- How long the breaker stays open before letting one request through. -/
def cooldownSecs : Nat := 30

inductive BreakerState where
  | closed
  | opened
  | halfOpen
  deriving DecidableEq

/-- Whether a payment should be accepted in this state. -/
def BreakerState.acceptsPayment : BreakerState → Bool
  | .closed | .halfOpen => true
  | .opened => false

/-- Settlement health of one policy. An outcome is `true` for a failure, oldest first. -/
structure Window where
  outcomes : List Bool := []
  openedAt : Option Nat := none
  probing : Bool := false
  deriving DecidableEq

/-- Per-policy settlement health. -/
structure SettlementBreaker where
  policies : Table String Window := ∅

namespace SettlementBreaker

def windowOf (b : SettlementBreaker) (policy : String) : Window :=
  (b.policies.get? policy).getD {}

def setWindow (b : SettlementBreaker) (policy : String) (w : Window) : SettlementBreaker :=
  ⟨b.policies.insert policy w⟩

/-- What this policy will allow right now. Answering `halfOpen` claims the probe. -/
def stateAt (b : SettlementBreaker) (policy : String) (now : Nat) :
    BreakerState × SettlementBreaker :=
  let w := b.windowOf policy
  match w.openedAt with
  | none => (.closed, b.setWindow policy w)
  | some openedAt =>
    if now - openedAt < cooldownSecs then (.opened, b.setWindow policy w)
    else if w.probing then (.opened, b.setWindow policy w)
    else (.halfOpen, b.setWindow policy { w with probing := true })

/-- Drop the oldest outcomes beyond the window. -/
def bounded (outcomes : List Bool) : List Bool := outcomes.drop (outcomes.length - window)

/-- At least half of at least `minSamples` outcomes failed. -/
def tripped (outcomes : List Bool) : Bool :=
  minSamples ≤ outcomes.length && outcomes.length ≤ 2 * (outcomes.filter id).length

/-- Record a settlement outcome. A success closes the breaker outright; a failure while it is open
restarts the cooldown. -/
def recordAt (b : SettlementBreaker) (policy : String) (failed : Bool) (now : Nat) :
    SettlementBreaker :=
  let w := b.windowOf policy
  if failed then
    let outcomes := bounded (w.outcomes ++ [true])
    let openedAt :=
      if w.openedAt.isSome ∨ tripped outcomes then some now else none
    b.setWindow policy { outcomes := outcomes, openedAt := openedAt, probing := false }
  else b.setWindow policy { outcomes := [], openedAt := none, probing := false }

@[simp] theorem windowOf_setWindow_self (b : SettlementBreaker) (policy : String) (w : Window) :
    (b.setWindow policy w).windowOf policy = w := by
  simp [windowOf, setWindow]

theorem windowOf_setWindow (b : SettlementBreaker) (policy policy' : String) (w : Window) :
    (b.setWindow policy w).windowOf policy' = if policy' = policy then w else b.windowOf policy' := by
  simp only [windowOf, setWindow, Table.get?_insert]
  split_ifs <;> rfl

end SettlementBreaker

end X402Verifier
