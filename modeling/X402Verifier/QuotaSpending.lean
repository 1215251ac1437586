import X402Verifier.Interaction.CompareExchange
import X402Verifier.Session
import Mathlib.Data.Fintype.Card

/-!
# Spending a quota concurrently

`spend_one` takes one request off a session's counter. In the source it is a compare-exchange loop
that any number of requests run on the same `AtomicU64`; in the store's model it is one step,
`spendOne`. The loop is the general one at `lowered`, and its histories are histories of `spendOne`,
so that a session grants what its quota says whatever the schedule (`quota_spent_exactly`).
-/

namespace X402Verifier

open Interaction

/-- What the loop exchanges a count for. -/
def lowered (current : UInt64) : Option UInt64 := if current = 0 then none else some (current - 1)

/-- `n` calls of `spend_one` on a counter, after these of their steps. -/
def spendConcurrently (q : UInt64) {n : ℕ} (moves : List (Move (Fin n))) : Shared (Fin n) UInt64 :=
  (Shared.fresh q).run lowered moves

/-! ## Counts -/

theorem lowered_eq_none {v : UInt64} : lowered v = none ↔ v = 0 := by
  simp [lowered]

theorem toNat_ne_zero {v : UInt64} : v.toNat ≠ 0 ↔ v ≠ 0 :=
  not_congr (UInt64.toNat_inj (b := 0))

/-- Above zero the loop takes one off, and does not wrap. -/
theorem toNat_of_lowered {v w : UInt64} (h : lowered v = some w) : w.toNat + 1 = v.toNat := by
  unfold lowered at h
  split_ifs at h with hv
  obtain rfl := Option.some.inj h
  have hpos : v.toNat ≠ 0 := toNat_ne_zero.mpr hv
  have hle : (1 : UInt64) ≤ v := UInt64.le_iff_toNat_le.mpr (Nat.one_le_iff_ne_zero.mpr hpos)
  rw [UInt64.toNat_sub_of_le _ _ hle]
  exact Nat.sub_add_cancel (Nat.one_le_iff_ne_zero.mpr hpos)

/-- The loop's turn is the store's step. -/
theorem spendOne_toNat (v : UInt64) : spendOne v.toNat = (lowered v).map UInt64.toNat := by
  cases hv : lowered v with
  | none =>
    rw [lowered_eq_none.mp hv]
    rfl
  | some w =>
    have hw := toNat_of_lowered hv
    rw [spendOne, if_neg (by omega), ← hw]
    rfl

/-- Spending one at a time counts down. -/
theorem countdown_of_sequential {q cell : ℕ} {vs : List ℕ} (h : Sequential spendOne q vs cell) :
    cell + vs.length = q ∧ vs.reverse = List.range' cell vs.length := by
  induction h with
  | nil => exact ⟨rfl, rfl⟩
  | @concat vs cell v _ hv ih =>
    obtain ⟨hcount, hvalues⟩ := ih
    unfold spendOne at hv
    split_ifs at hv with hpos
    have hcell : cell = v + 1 := by
      have := Option.some.inj hv
      omega
    subst hcell
    constructor
    · rw [List.length_append, List.length_singleton]
      omega
    · rw [List.reverse_append, List.length_append, hvalues]
      rfl

/-! ## Runs -/

section Linear

variable {q : UInt64} {n : ℕ} {s : Shared (Fin n) UInt64} {log : List (Fin n × UInt64)}
  (h : s.Linear lowered q log)

include h

theorem counts_of_linear : s.cell.toNat + log.length = q.toNat ∧
    (log.map fun e => e.2.toNat).reverse = List.range' s.cell.toNat log.length := by
  have hspent := countdown_of_sequential (h.sequential.map spendOne_toNat)
  rwa [List.map_map, List.length_map] at hspent

theorem cell_add_succeeded : s.cell.toNat + s.succeeded.card = q.toNat := by
  rw [h.card_succeeded]
  exact (counts_of_linear h).1

theorem returned_inj {i j : Fin n} {v : UInt64} (hi : s.callers i = .returned (some v))
    (hj : s.callers j = .returned (some v)) : i = j := by
  have hnodup : (log.map fun e => e.2.toNat).Nodup := by
    rw [← List.nodup_reverse, (counts_of_linear h).2]
    exact List.nodup_range'
  have heq := List.inj_on_of_nodup_map hnodup ((h.returned i v).mp hi) ((h.returned j v).mp hj) rfl
  exact congrArg Prod.fst heq

theorem exists_returned_iff (v : UInt64) : (∃ i, s.callers i = .returned (some v)) ↔
    s.cell.toNat ≤ v.toNat ∧ v.toNat < q.toNat := by
  obtain ⟨hcount, hvalues⟩ := counts_of_linear h
  have hmem : v.toNat ∈ log.map (fun e => e.2.toNat) ↔
      s.cell.toNat ≤ v.toNat ∧ v.toNat < q.toNat := by
    rw [← List.mem_reverse, hvalues, List.mem_range'_1, hcount]
  rw [← hmem, List.mem_map]
  constructor
  · rintro ⟨i, hi⟩
    exact ⟨(i, v), (h.returned i v).mp hi, rfl⟩
  · rintro ⟨⟨i, w⟩, he, hw⟩
    obtain rfl := UInt64.toNat_inj.mp hw
    exact ⟨i, (h.returned i w).mpr he⟩

/-- When all are back, the quota is spent, or everyone has got one. -/
theorem card_succeeded_of_isBack (hback : ∀ i, (s.callers i).isBack = true) :
    s.succeeded.card = min n q.toNat := by
  have hcell := cell_add_succeeded h
  have hle : s.succeeded.card ≤ n := (Finset.card_le_univ _).trans_eq (Fintype.card_fin n)
  by_cases hrefused : ∃ i, s.callers i = .returned none
  · obtain ⟨i, hi⟩ := hrefused
    rw [lowered_eq_none.mp (h.refused i hi)] at hcell
    have hspent : s.succeeded.card = q.toNat := (Nat.zero_add _).symm.trans hcell
    omega
  · have hall : s.succeeded = Finset.univ := by
      refine Finset.filter_true_of_mem fun i _ => ?_
      obtain ⟨result, hi⟩ := Caller.isBack_iff.mp (hback i)
      cases result with
      | none => exact absurd ⟨i, hi⟩ hrefused
      | some v => exact Caller.succeeded_iff.mpr ⟨v, hi⟩
    have hcard : s.succeeded.card = n := by rw [hall, Finset.card_univ, Fintype.card_fin]
    omega

theorem step_cell (move : Move (Fin n)) : (s.step lowered move).cell = s.cell ∨
    (s.step lowered move).cell.toNat + 1 = s.cell.toNat := by
  rcases (Shared.steps_step lowered s move).cell_eq with hcell | ⟨v, hi, hcell⟩
  · exact .inl hcell
  · rw [hcell]
    exact .inr (toNat_of_lowered (h.prepared _ _ _ hi))

end Linear

/-- **The quota is spent exactly.** -/
theorem quota_spent_exactly (q : UInt64) (n : ℕ) (moves : List (Move (Fin n))) :
    let s := spendConcurrently q moves
    (s.cell.toNat + s.succeeded.card = q.toNat ∧
      ∀ move, (s.step lowered move).cell = s.cell ∨
        (s.step lowered move).cell.toNat + 1 = s.cell.toNat) ∧
    (∀ i j v, s.callers i = .returned (some v) → s.callers j = .returned (some v) → i = j) ∧
    (∀ v : UInt64, (∃ i, s.callers i = .returned (some v)) ↔
      q.toNat - s.succeeded.card ≤ v.toNat ∧ v.toNat < q.toNat) ∧
    (∀ i, s.callers i = .returned none → ∃ before move after, moves = before ++ move :: after ∧
      move.caller = i ∧ ((spendConcurrently q before).callers i).isBack = false ∧
      (spendConcurrently q before).cell = 0) ∧
    ((∀ i, (s.callers i).isBack = true) → s.succeeded.card = min n q.toNat) := by
  intro s
  obtain ⟨log, hlog⟩ := Shared.exists_linear_run lowered q moves
  have hcell : s.cell.toNat + s.succeeded.card = q.toNat := cell_add_succeeded hlog
  refine ⟨⟨hcell, step_cell hlog⟩, fun i j v => returned_inj hlog, fun v => ?_,
    fun i hi => ?_, card_succeeded_of_isBack hlog⟩
  · rw [show q.toNat - s.succeeded.card = s.cell.toNat by omega]
    exact exists_returned_iff hlog v
  · obtain ⟨before, move, after, hmoves, hcaller, hback, hnone⟩ :=
      Shared.exists_look_of_refused moves rfl hi
    exact ⟨before, move, after, hmoves, hcaller, hback, lowered_eq_none.mp hnone⟩

end X402Verifier
