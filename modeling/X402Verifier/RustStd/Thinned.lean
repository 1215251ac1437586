import X402Verifier.RustStd.Table

/-!
# Tables that lack dead entries

A table is thinned by dropping entries that no lookup will use again. Which ones those are is a
predicate of the key and the value.
-/

namespace RustStd.Table

variable {α β : Type} [DecidableEq α] {dead dead' : α → β → Prop} {t t' : Table α β} {a : α}

/-- The first table lacks some entries of the second, all of them dead. -/
def Thinned (dead : α → β → Prop) (t t' : Table α β) : Prop :=
  ∀ a, t.get? a = t'.get? a ∨ (t.get? a = none ∧ ∃ b, t'.get? a = some b ∧ dead a b)

theorem Thinned.refl (t : Table α β) : Thinned dead t t := fun _ => .inl rfl

theorem Thinned.mono (h : Thinned dead t t') (hdead : ∀ a b, dead a b → dead' a b) :
    Thinned dead' t t' := fun a =>
  (h a).imp id fun ⟨hnone, b, hsome, hb⟩ => ⟨hnone, b, hsome, hdead a b hb⟩

theorem Thinned.insert (h : Thinned dead t t') (a : α) (b : β) :
    Thinned dead (t.insert a b) (t'.insert a b) := by
  intro a'
  rw [get?_insert, get?_insert]
  split_ifs
  · exact .inl rfl
  · exact h a'

theorem Thinned.remove (h : Thinned dead t t') (a : α) :
    Thinned dead (t.remove a) (t'.remove a) := by
  intro a'
  rw [get?_remove, get?_remove]
  split_ifs
  · exact .inl rfl
  · exact h a'

theorem Thinned.retain {p : α → β → Bool} (h : Thinned dead t t')
    (hp : ∀ a b, t'.get? a = some b → p a b = false → dead a b) :
    Thinned dead (t.retain p) t' := by
  intro a
  rw [get?_retain]
  rcases h a with heq | ⟨hnone, hdead⟩
  · rw [heq]
    cases hget : t'.get? a with
    | none => exact .inl rfl
    | some b =>
      cases hkept : p a b with
      | true => exact .inl (by simp [hkept])
      | false => exact .inr ⟨by simp [hkept], b, rfl, hp a b hget hkept⟩
  · exact .inr ⟨by rw [hnone]; rfl, hdead⟩

theorem Thinned.retain_both {p : α → β → Bool} (h : Thinned dead t t') :
    Thinned dead (t.retain p) (t'.retain p) := by
  intro a
  rw [get?_retain, get?_retain]
  rcases h a with heq | ⟨hnone, b, hsome, hdead⟩
  · exact .inl (by rw [heq])
  · rw [hnone, hsome]
    cases hkept : p a b with
    | true => exact .inr ⟨rfl, b, by simp [hkept], hdead⟩
    | false => exact .inl (by simp [Option.filter, hkept])

end RustStd.Table
