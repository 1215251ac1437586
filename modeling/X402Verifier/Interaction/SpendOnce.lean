import Mathlib.Data.Option.Basic

/-!
# A claim that is spent once

Any number of parties compete for one claim. A party acquires it while nothing is on record, and
from then on is its *holder*: the only party that may give the record back or spend the claim. A
spent claim stays on record, and its spender is *owed* one grant.

`SpendOnce` is such a claim together with the facts that make it safe, so every operation below
has to re-establish them and no later proof does. What it says of a system is read off the fields:
a claim is spent at most once (`spent_le`), and grants never outnumber spendings
(`granted_le_spent`).
-/

namespace Interaction

variable {ι : Type}

/-- One claim, with the parties that hold it and are owed its grant. -/
structure SpendOnce (ι : Type) where
  recorded : Bool := false
  holder : Option ι := none
  owed : Option ι := none
  spent : Nat := 0
  granted : Nat := 0
  holder_recorded : holder ≠ none → recorded = true := by decide
  spent_recorded : spent ≠ 0 → recorded = true ∧ holder = none := by decide
  spent_le : spent ≤ 1 := by decide
  granted_le : granted + (if owed = none then 0 else 1) ≤ spent := by decide

namespace SpendOnce

theorem granted_le_spent (c : SpendOnce ι) : c.granted ≤ c.spent :=
  Nat.le_trans (Nat.le_add_right _ _) c.granted_le

theorem spent_eq_zero_of_not_recorded {c : SpendOnce ι} (h : c.recorded = false) : c.spent = 0 := by
  by_contra hne
  simp [(c.spent_recorded hne).1] at h

theorem spent_eq_zero_of_holder {c : SpendOnce ι} {a : ι} (h : c.holder = some a) :
    c.spent = 0 := by
  by_contra hne
  simp [(c.spent_recorded hne).2] at h

/-- While the claim is held, nobody is owed anything. -/
theorem owed_eq_none_of_holder {c : SpendOnce ι} {a : ι} (h : c.holder = some a) :
    c.owed = none := by
  by_contra hne
  have hg := c.granted_le
  rw [if_neg hne, spent_eq_zero_of_holder h] at hg
  omega

/-- A party takes a claim that is not on record. -/
def acquire (c : SpendOnce ι) (a : ι) (h : c.recorded = false) : SpendOnce ι :=
  { c with
    recorded := true
    holder := some a
    holder_recorded := fun _ => rfl
    spent_recorded := fun hne => absurd (spent_eq_zero_of_not_recorded h) hne }

/-- The holder gives the record back unspent. -/
def release (c : SpendOnce ι) (a : ι) (h : c.holder = some a) : SpendOnce ι :=
  { c with
    recorded := false
    holder := none
    holder_recorded := fun hne => absurd rfl hne
    spent_recorded := fun hne => absurd (spent_eq_zero_of_holder h) hne }

/-- The holder spends the claim, and is owed its grant. -/
def spend (c : SpendOnce ι) (a : ι) (h : c.holder = some a) : SpendOnce ι :=
  { c with
    holder := none
    owed := some a
    spent := c.spent + 1
    holder_recorded := fun hne => absurd rfl hne
    spent_recorded := fun _ => ⟨c.holder_recorded (by simp [h]), rfl⟩
    spent_le := by simp [spent_eq_zero_of_holder h]
    granted_le := by
      have hg := c.granted_le_spent
      rw [spent_eq_zero_of_holder h] at hg ⊢
      simp [Nat.le_zero.mp hg] }

/-- The grant is given. -/
def grant (c : SpendOnce ι) (a : ι) (h : c.owed = some a) : SpendOnce ι :=
  { c with
    owed := none
    granted := c.granted + 1
    granted_le := by
      have hg := c.granted_le
      simp only [h] at hg
      simpa using hg }

end SpendOnce

end Interaction
