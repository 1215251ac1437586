import Mathlib.Logic.Function.Basic

/-!
# Runs of a step function

A run is a left fold, over calls that may carry the second they are made at (`Timed`). `Along` says
that every step of a run meets a condition in the state it is taken in, and `foldl_invariant` is the
induction: what each such step preserves, the run preserves.
-/

namespace Interaction

/-- A call made at a second of the clock. -/
structure Timed (α : Type) where
  now : Nat
  call : α

variable {σ α : Type} {step : σ → α → σ} {ok ok' : σ → α → Prop}

/-- Every step of the run meets `ok` in the state it is taken in. -/
def Along (step : σ → α → σ) (ok : σ → α → Prop) : σ → List α → Prop
  | _, [] => True
  | s, a :: as => ok s a ∧ Along step ok (step s a) as

instance decidableAlong [∀ s a, Decidable (ok s a)] :
    (s : σ) → (as : List α) → Decidable (Along step ok s as)
  | _, [] => isTrue trivial
  | s, a :: as => @instDecidableAnd _ _ _ (decidableAlong (step s a) as)

/-- **The run rule.** What each step that meets `ok` preserves holds after every run along `ok`. -/
theorem foldl_invariant {Inv : σ → Prop} (hstep : ∀ s a, Inv s → ok s a → Inv (step s a))
    {s : σ} {as : List α} (hs : Inv s) (hok : Along step ok s as) : Inv (as.foldl step s) := by
  induction as generalizing s with
  | nil => exact hs
  | cons a as ih => exact ih (hstep s a hs hok.1) hok.2

/-- What follows from an invariant at every step that meets `ok` holds all along the run. -/
theorem Along.of_invariant {Inv : σ → Prop} (hstep : ∀ s a, Inv s → ok s a → Inv (step s a))
    (himp : ∀ s a, Inv s → ok s a → ok' s a) {s : σ} {as : List α} (hs : Inv s)
    (hok : Along step ok s as) : Along step ok' s as := by
  induction as generalizing s with
  | nil => trivial
  | cons a as ih => exact ⟨himp s a hs hok.1, ih (hstep s a hs hok.1) hok.2⟩

theorem along_congr {s : σ} {as : List α} (h : ∀ s, ∀ a ∈ as, ok s a ↔ ok' s a) :
    Along step ok s as ↔ Along step ok' s as := by
  induction as generalizing s with
  | nil => rfl
  | cons a as ih =>
    exact and_congr (h s a (List.mem_cons_self ..)) (ih fun s a' ha' => h s a' (.tail a ha'))

theorem along_append {s : σ} {as bs : List α} :
    Along step ok s (as ++ bs) ↔ Along step ok s as ∧ Along step ok (as.foldl step s) bs := by
  induction as generalizing s with
  | nil => simp [Along]
  | cons a as ih => simp [Along, ih, and_assoc]

theorem along_concat {s : σ} {as : List α} {a : α} :
    Along step ok s (as ++ [a]) ↔ Along step ok s as ∧ ok (as.foldl step s) a := by
  rw [along_append, Along, Along, and_true]

/-- The replies to calls, one after the other. -/
def replies {β : Type} (perform : σ → α → β × σ) : σ → List α → List β
  | _, [] => []
  | s, a :: as => (perform s a).1 :: replies perform (perform s a).2 as

theorem replies_concat {β : Type} (perform : σ → α → β × σ) (s : σ) (as : List α) (a : α) :
    replies perform s (as ++ [a]) =
      replies perform s as ++ [(perform (as.foldl (fun s a => (perform s a).2) s) a).1] := by
  induction as generalizing s with
  | nil => rfl
  | cons a' as ih => simp [replies, ih]

/-- A run that is not along `ok` has a step that does not meet it. -/
theorem exists_of_not_along {s : σ} {as : List α} (h : ¬ Along step ok s as) :
    ∃ earlier a later, as = earlier ++ a :: later ∧ ¬ ok (earlier.foldl step s) a := by
  induction as generalizing s with
  | nil => exact absurd trivial h
  | cons a as ih =>
    by_cases ha : ok s a
    · obtain ⟨earlier, a', later, rfl, hnot⟩ := ih fun hok => h ⟨ha, hok⟩
      exact ⟨a :: earlier, a', later, rfl, hnot⟩
    · exact ⟨[], a, as, rfl, ha⟩

end Interaction
