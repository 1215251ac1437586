import Mathlib.Data.Rat.Floor
import Mathlib.Tactic.Linarith
import Mathlib.Tactic.Ring

/-!
# Gauges

An attempt is admitted or refused, and reports how many more would be admitted. A `Gauge` admits
attempts while its level is below a limit, each of them raises the level by the same step, and the
report is what is left below the limit once the level is rounded up. `reportsExactly_iff` says when
that report is the number of further attempts that are admitted.
-/

namespace Interaction

variable {σ : Type}

/-- The state after `n` more of the same attempt. -/
def again {β : Type} (attempt : σ → β × σ) (s : σ) : Nat → σ
  | 0 => s
  | n + 1 => (attempt (again attempt s n)).2

/-- Was the attempt admitted, if it was answered at all? -/
def admission (reply : Option (Bool × Nat)) : Option Bool := reply.map Prod.fst

/-- The next `r` attempts are admitted, and the one after them is refused. -/
structure AdmitsExactly (attempt : σ → Option (Bool × Nat) × σ) (s : σ) (r : Nat) : Prop where
  admitted : ∀ k < r, admission (attempt (again attempt s k)).1 = some true
  refused : admission (attempt (again attempt s r)).1 = some false

/-- An admitted attempt reports how many more are admitted. A refused one reports none, and the next
is refused. -/
def ReportsExactly (attempt : σ → Option (Bool × Nat) × σ) (s : σ) : Prop :=
  match (attempt s).1 with
  | some (true, remaining) => AdmitsExactly attempt (attempt s).2 remaining
  | some (false, remaining) =>
    remaining = 0 ∧ admission (attempt (attempt s).2).1 = some false
  | none => True

/-- No number is exact where an attempt that was admitted is always admitted again. -/
theorem not_admitsExactly {attempt : σ → Option (Bool × Nat) × σ} {admits : σ → Prop}
    (hadmits : ∀ s, admits s → admission (attempt s).1 = some true ∧ admits (attempt s).2) {s : σ}
    (hs : admits s) (r : Nat) : ¬ AdmitsExactly attempt s r := by
  have hagain : ∀ n, admits (again attempt s n) := by
    intro n
    induction n with
    | zero => exact hs
    | succ n ih => exact (hadmits _ ih).2
  intro hexact
  have hadmitted := (hadmits _ (hagain r)).1
  rw [hexact.refused] at hadmitted
  cases hadmitted

/-- Attempts that are admitted below `limit` and raise the level by `1 + extra`. -/
structure Gauge (attempt : σ → Option (Bool × Nat) × σ) (limit : Nat) (extra : Rat)
    (level : σ → Rat) : Prop where
  admits : ∀ {s}, level s < limit →
    (attempt s).1 = some (true, limit - ⌈level s + 1⌉.toNat) ∧
      level (attempt s).2 = level s + (1 + extra)
  refuses : ∀ {s}, (limit : Rat) ≤ level s →
    (attempt s).1 = some (false, 0) ∧ level (attempt s).2 = level s

/-- Rounding `x` up to a whole number leaves as many steps of `1 + extra` below `limit` as it leaves
ones. -/
def RoundsUpExactly (limit : Nat) (x extra : Rat) : Prop :=
  (limit : ℤ) ≤ ⌈x⌉ ∨
    (⌈x⌉ - x ≤ (limit - ⌈x⌉) * extra ∧ (limit - ⌈x⌉ - 1) * extra < 1 + (⌈x⌉ - x))

/-- Steps of one are left exactly when nothing was rounded, or at most one of them is. -/
theorem roundsUpExactly_zero {limit : Nat} {x : Rat} :
    RoundsUpExactly limit x 0 ↔ (⌈x⌉ : Rat) = x ∨ (limit : Rat) ≤ x + 1 := by
  have hle : x ≤ ⌈x⌉ := Int.le_ceil x
  have hlt : (⌈x⌉ : Rat) < x + 1 := Int.ceil_lt_add_one x
  simp only [RoundsUpExactly, mul_zero]
  constructor
  · rintro (hfull | ⟨hround, -⟩)
    · have : (limit : Rat) ≤ ⌈x⌉ := by exact_mod_cast hfull
      exact .inr (by linarith)
    · exact .inl (by linarith)
  · rintro (hround | hfull)
    · exact .inr ⟨by linarith, by linarith⟩
    · by_cases hround : (⌈x⌉ : Rat) = x
      · exact .inr ⟨by linarith, by linarith⟩
      · refine .inl (Int.le_of_lt_add_one ?_)
        have hstrict : x < ⌈x⌉ := lt_of_le_of_ne hle (Ne.symm hround)
        have : (limit : Rat) < ⌈x⌉ + 1 := by linarith
        exact_mod_cast this

namespace Gauge

variable {attempt : σ → Option (Bool × Nat) × σ} {limit : Nat} {extra : Rat} {level : σ → Rat}
  {s : σ}

theorem level_again (h : Gauge attempt limit extra level) {n : Nat}
    (hbelow : ∀ k < n, level s + k * (1 + extra) < limit) :
    level (again attempt s n) = level s + n * (1 + extra) := by
  induction n with
  | zero => simp [again]
  | succ n ih =>
    have hn := ih fun k hk => hbelow k (Nat.lt_succ_of_lt hk)
    have hlt : level (again attempt s n) < limit := hn ▸ hbelow n n.lt_succ_self
    show level (attempt (again attempt s n)).2 = _
    rw [(h.admits hlt).2, hn]
    push_cast
    ring

theorem admission_iff (h : Gauge attempt limit extra level) :
    admission (attempt s).1 = some true ↔ level s < limit := by
  by_cases hlt : level s < limit
  · simp [admission, (h.admits hlt).1, hlt]
  · simp [admission, (h.refuses (not_lt.mp hlt)).1, hlt]

theorem refusal_iff (h : Gauge attempt limit extra level) :
    admission (attempt s).1 = some false ↔ (limit : Rat) ≤ level s := by
  by_cases hlt : level s < limit
  · simp [admission, (h.admits hlt).1, hlt]
  · simp [admission, (h.refuses (not_lt.mp hlt)).1, not_lt.mp hlt]

/-- Attempts are admitted as long as the steps stay below the limit. -/
theorem admitsExactly_iff (h : Gauge attempt limit extra level) {r : Nat} :
    AdmitsExactly attempt s r ↔
      (∀ k < r, level s + k * (1 + extra) < limit) ∧ (limit : Rat) ≤ level s + r * (1 + extra) := by
  constructor
  · rintro ⟨hadmitted, hrefused⟩
    have hbelow : ∀ n ≤ r, ∀ k < n, level s + k * (1 + extra) < limit := by
      intro n
      induction n with
      | zero => exact fun _ k hk => absurd hk k.not_lt_zero
      | succ n ih =>
        intro hn k hk
        have hearlier := ih (Nat.le_of_succ_le hn)
        rcases Nat.lt_succ_iff_lt_or_eq.mp hk with hk | rfl
        · exact hearlier k hk
        · rw [← h.level_again hearlier]
          exact h.admission_iff.mp (hadmitted k hn)
    refine ⟨hbelow r le_rfl, ?_⟩
    rw [← h.level_again (hbelow r le_rfl)]
    exact h.refusal_iff.mp hrefused
  · rintro ⟨hbelow, hfull⟩
    constructor
    · intro k hk
      rw [h.admission_iff, h.level_again fun j hj => hbelow j (hj.trans hk)]
      exact hbelow k hk
    · rw [h.refusal_iff, h.level_again hbelow]
      exact hfull

/-- How many steps fit below the limit, against what rounding leaves. -/
theorem steps_iff {x : Rat} (hx : 0 ≤ x) (hextra : 0 ≤ extra) (hlt : x < limit) :
    (∀ k < limit - ⌈x + 1⌉.toNat, x + (1 + extra) + k * (1 + extra) < limit) ∧
        (limit : Rat) ≤ x + (1 + extra) + (limit - ⌈x + 1⌉.toNat : Nat) * (1 + extra) ↔
      RoundsUpExactly limit x extra := by
  obtain ⟨n, hn⟩ := Int.eq_ofNat_of_zero_le (Int.ceil_nonneg hx)
  have hround : ⌈x + 1⌉.toNat = n + 1 := by rw [Int.ceil_add_one, hn]; rfl
  have hle : x ≤ n := by simpa [hn] using Int.le_ceil x
  have hgap : (n : Rat) < x + 1 := by simpa [hn] using Int.ceil_lt_add_one x
  rw [hround, RoundsUpExactly, hn]
  by_cases hfull : limit ≤ n
  · have hcast : (limit : Rat) ≤ n := by exact_mod_cast hfull
    have hnone : limit - (n + 1) = 0 := by omega
    have : (limit : ℤ) ≤ (n : ℤ) := by exact_mod_cast hfull
    rw [hnone]
    simp only [this, true_or, iff_true]
    exact ⟨fun k hk => absurd hk k.not_lt_zero, by push_cast; linarith⟩
  · -- `r` whole steps are left above the one just admitted
    obtain ⟨r, rfl⟩ : ∃ r, limit = n + 1 + r := Nat.exists_eq_add_of_lt (not_le.mp hfull) |>.imp
      fun k hk => by omega
    have hleft : n + 1 + r - (n + 1) = r := by omega
    have hnot : ¬ ((n + 1 + r : Nat) : ℤ) ≤ (n : ℤ) := by omega
    rw [hleft, or_iff_right (by exact_mod_cast hnot)]
    push_cast
    constructor
    · rintro ⟨hbelow, habove⟩
      refine ⟨by linarith, ?_⟩
      cases r with
      | zero => simp; linarith
      | succ r =>
        have := hbelow r r.lt_succ_self
        push_cast at this ⊢
        linarith
    · rintro ⟨habove, hbelow⟩
      refine ⟨fun k hk => ?_, by linarith⟩
      have hk : (k : Rat) + 1 ≤ r := by exact_mod_cast hk
      have := mul_le_mul_of_nonneg_right hk hextra
      linarith

/-- **When a gauge reports exactly.** -/
theorem reportsExactly_iff (h : Gauge attempt limit extra level) (hlevel : 0 ≤ level s)
    (hextra : 0 ≤ extra) :
    ReportsExactly attempt s ↔ RoundsUpExactly limit (level s) extra := by
  unfold ReportsExactly
  by_cases hlt : level s < limit
  · obtain ⟨hreply, hrises⟩ := h.admits hlt
    rw [hreply]
    show AdmitsExactly attempt (attempt s).2 _ ↔ _
    rw [h.admitsExactly_iff, hrises]
    exact steps_iff hlevel hextra hlt
  · obtain ⟨hreply, hstays⟩ := h.refuses (not_lt.mp hlt)
    have hagain := h.refusal_iff.mpr (hstays ▸ not_lt.mp hlt)
    have hfull : (limit : ℤ) ≤ ⌈level s⌉ := by
      have := (not_lt.mp hlt).trans (Int.le_ceil (level s))
      exact_mod_cast this
    rw [hreply]
    exact ⟨fun _ => .inl hfull, fun _ => ⟨rfl, hagain⟩⟩

end Gauge

end Interaction
