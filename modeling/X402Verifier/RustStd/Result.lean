import Mathlib.Data.List.Basic

/-!
# What a `Result` that is `Ok` went through

A function with `?` in it is a chain of binds, and returns `Ok` when each part did
(`Except.bind_eq_ok`). A check that returns early was passed (`Except.check_eq_ok`), and a loop of
checks was passed by every element (`Except.forM_eq_ok`). Rewriting with these turns a validator
into the list of what it establishes.
-/

namespace RustStd

variable {ε α β : Type}

@[simp]
theorem Except.ok_bind (a : α) (f : α → Except ε β) : (Except.ok a >>= f) = f a :=
  rfl

theorem Except.error_bind (e : ε) (f : α → Except ε β) : (Except.error e >>= f) = .error e :=
  rfl

theorem Except.bind_eq_ok {x : Except ε α} {f : α → Except ε β} {b : β} :
    (x >>= f) = .ok b ↔ ∃ a, x = .ok a ∧ f a = .ok b := by
  cases x with
  | error e =>
    constructor
    · intro h
      cases h
    · rintro ⟨a, h, -⟩
      cases h
  | ok a => simp [Except.ok_bind]

theorem Except.bind_unit_eq_ok {x : Except ε Unit} {f : Unit → Except ε β} {b : β} :
    (x >>= f) = .ok b ↔ x = .ok () ∧ f () = .ok b :=
  Except.bind_eq_ok.trans ⟨fun ⟨_, h⟩ => h, fun h => ⟨(), h⟩⟩

theorem Except.check_eq_ok {p : Prop} [Decidable p] {e : ε} {x : Except ε α} {a : α} :
    (if p then .error e else x) = .ok a ↔ ¬ p ∧ x = .ok a := by
  by_cases hp : p <;> simp [hp]

theorem Except.forM_eq_ok {f : α → Except ε Unit} {l : List α} :
    l.forM f = .ok () ↔ ∀ a ∈ l, f a = .ok () := by
  induction l with
  | nil => exact ⟨fun _ _ h => absurd h List.not_mem_nil, fun _ => rfl⟩
  | cons b l ih =>
    change (f b >>= fun _ => l.forM f) = .ok () ↔ _
    rw [Except.bind_unit_eq_ok, ih, List.forall_mem_cons]

theorem Except.eq_ok_of_map_some {x : Except ε α} {a : α} (h : some <$> x = .ok (some a)) :
    x = .ok a := by
  cases x with
  | error e => cases h
  | ok b =>
    obtain rfl := Option.some.inj (Except.ok.inj h)
    rfl

end RustStd
