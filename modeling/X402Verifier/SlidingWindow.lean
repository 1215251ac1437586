import Mathlib.Algebra.Order.Ring.Rat
import Mathlib.Data.Rat.Cast.Order
import Mathlib.Tactic.Positivity

/-!
# Sliding windows

A limiter that forgets nothing. Time is cut into aligned windows of `w` seconds, and a request is
admitted while the requests admitted in the current window, and those of the window before in
proportion to what is left of the current one, stay below a limit (`estimate`). The log of what was
admitted is all it keeps.

An implementation keeps two counters for a key and the number of the window they are for. `Counts`
says that they stand for the log, and the lemmas about it are the three things an implementation
does: roll over to a later window (`roll`), admit a request (`admit`), and start from nothing where
the log has nothing that still counts (`stale`).
-/

namespace SlidingWindow

variable {κ : Type}

/-- A request that was admitted. -/
structure Admission (κ : Type) where
  key : κ
  time : Nat

section Counting

variable [DecidableEq κ] {log : List (Admission κ)} {key : κ} {w i : Nat}

/-- How many requests of the key were admitted in window `i`. -/
def inWindow (log : List (Admission κ)) (key : κ) (w i : Nat) : Nat :=
  log.countP fun a => a.key = key ∧ a.time / w = i

/-- How many were admitted in the window before. -/
def beforeWindow (log : List (Admission κ)) (key : κ) (w i : Nat) : Nat :=
  log.countP fun a => a.key = key ∧ a.time / w + 1 = i

/-- What is left of the current window. -/
def fractionLeft (w now : Nat) : Rat := (w - now % w : Nat) / w

/-- The requests that count at `now`. -/
def estimate (log : List (Admission κ)) (key : κ) (w now : Nat) : Rat :=
  inWindow log key w (now / w) + beforeWindow log key w (now / w) * fractionLeft w now

theorem fractionLeft_nonneg (w now : Nat) : 0 ≤ fractionLeft w now := by
  unfold fractionLeft
  positivity

/-- Only the requests of a key count for it. -/
theorem estimate_filter (log : List (Admission κ)) (key : κ) (w now : Nat) :
    estimate (log.filter fun a => a.key = key) key w now = estimate log key w now := by
  have hcount : ∀ p : Admission κ → Prop, ∀ [DecidablePred p],
      (log.filter fun a => a.key = key).countP (fun a => a.key = key ∧ p a) =
        log.countP fun a => a.key = key ∧ p a := by
    intro p _
    rw [List.countP_filter]
    refine List.countP_congr fun a _ => ?_
    simp only [decide_eq_true_eq, Bool.decide_and, Bool.and_eq_true]
    exact ⟨fun h => h.1, fun h => ⟨h, h.1⟩⟩
  simp only [estimate, inWindow, beforeWindow, hcount]

theorem inWindow_cons_ne {a : Admission κ} (h : a.key ≠ key) :
    inWindow (a :: log) key w i = inWindow log key w i := by
  simp [inWindow, h]

theorem beforeWindow_cons_ne {a : Admission κ} (h : a.key ≠ key) :
    beforeWindow (a :: log) key w i = beforeWindow log key w i := by
  simp [beforeWindow, h]

theorem inWindow_cons_self (time : Nat) :
    inWindow (⟨key, time⟩ :: log) key w i =
      inWindow log key w i + if time / w = i then 1 else 0 := by
  simp [inWindow, List.countP_cons]

theorem beforeWindow_cons_self (time : Nat) :
    beforeWindow (⟨key, time⟩ :: log) key w i =
      beforeWindow log key w i + if time / w + 1 = i then 1 else 0 := by
  simp [beforeWindow, List.countP_cons]

/-- What is below the limit with the window before is below it without. -/
theorem inWindow_lt_of_estimate_lt {limit now : Nat}
    (h : estimate log key w now < limit) : inWindow log key w (now / w) < limit := by
  have hcarry : (0 : Rat) ≤ beforeWindow log key w (now / w) * fractionLeft w now :=
    mul_nonneg (Nat.cast_nonneg _) (fractionLeft_nonneg w now)
  have hlt : (inWindow log key w (now / w) : Rat) < limit :=
    (le_add_of_nonneg_right hcarry).trans_lt h
  exact_mod_cast hlt

/-! ## Two counters -/

/-- The counters are those of the log at window `i`, the latest with an admission of the key. -/
structure Counts (log : List (Admission κ)) (key : κ) (w i current previous : Nat) : Prop where
  current : current = inWindow log key w i
  previous : previous = beforeWindow log key w i
  latest : ∀ a ∈ log, a.key = key → a.time / w ≤ i

variable {current previous : Nat}

theorem inWindow_eq_zero (h : ∀ a ∈ log, a.key = key → a.time / w ≠ i) :
    inWindow log key w i = 0 := by
  rw [inWindow, List.countP_eq_zero]
  intro a ha
  simpa using h a ha

theorem beforeWindow_eq_zero (h : ∀ a ∈ log, a.key = key → a.time / w + 1 ≠ i) :
    beforeWindow log key w i = 0 := by
  rw [beforeWindow, List.countP_eq_zero]
  intro a ha
  simpa using h a ha

/-- The window before is the one that ended. -/
theorem beforeWindow_succ : beforeWindow log key w (i + 1) = inWindow log key w i := by
  simp [beforeWindow, inWindow]

theorem Counts.stale (h : ∀ a ∈ log, a.key = key → a.time / w + 1 < i) :
    Counts log key w i 0 0 where
  current := (inWindow_eq_zero fun a ha hkey => by have := h a ha hkey; omega).symm
  previous := (beforeWindow_eq_zero fun a ha hkey => (h a ha hkey).ne).symm
  latest a ha hkey := by have := h a ha hkey; omega

/-- Rolled over to a later window, which may be the next. -/
theorem Counts.roll {j : Nat} (h : Counts log key w i current previous) (hlt : i < j) :
    Counts log key w j 0 (if i + 1 = j then current else 0) where
  current := (inWindow_eq_zero fun a ha hkey => by have := h.latest a ha hkey; omega).symm
  previous := by
    split_ifs with hj
    · rw [← hj, beforeWindow_succ, h.current]
    · exact (beforeWindow_eq_zero fun a ha hkey => by have := h.latest a ha hkey; omega).symm
  latest a ha hkey := (h.latest a ha hkey).trans hlt.le

theorem Counts.admit {now : Nat} (h : Counts log key w (now / w) current previous) :
    Counts (⟨key, now⟩ :: log) key w (now / w) (current + 1) previous where
  current := by rw [inWindow_cons_self, if_pos rfl, h.current]
  previous := by rw [beforeWindow_cons_self, if_neg (by omega), h.previous, Nat.add_zero]
  latest a ha hkey := by
    rcases List.mem_cons.mp ha with rfl | ha
    · exact le_rfl
    · exact h.latest a ha hkey

theorem Counts.other {a : Admission κ} (h : Counts log key w i current previous)
    (hne : a.key ≠ key) : Counts (a :: log) key w i current previous where
  current := by rw [inWindow_cons_ne hne, h.current]
  previous := by rw [beforeWindow_cons_ne hne, h.previous]
  latest b hb hkey := by
    rcases List.mem_cons.mp hb with rfl | hb
    · exact absurd hkey hne
    · exact h.latest b hb hkey

end Counting

end SlidingWindow
