import Mathlib.Data.List.AList

/-!
# Tables

A `Table` is a finite map with at most one entry for a key, kept in iteration order. It is
Mathlib's `AList` at a constant value type; what is added here is the conditional form of its
lookup lemmas, and `retain`.
-/

namespace RustStd

/-- A finite map from `α` to `β`, in iteration order. -/
abbrev Table (α β : Type) : Type := AList fun _ : α => β

namespace Table

variable {α β : Type} [DecidableEq α]

def get? (t : Table α β) (a : α) : Option β := AList.lookup a t

def insert (t : Table α β) (a : α) (b : β) : Table α β := AList.insert a b t

def remove (t : Table α β) (a : α) : Table α β := AList.erase a t

/-- Keep the entries that satisfy `p`. -/
def retain (t : Table α β) (p : α → β → Bool) : Table α β where
  entries := t.entries.filter fun e => p e.1 e.2
  nodupKeys := t.nodupKeys.sublist List.filter_sublist

/-- Change every value, by its key. -/
def mapValues {γ : Type} (t : Table α β) (f : α → β → γ) : Table α γ where
  entries := t.entries.map fun e => ⟨e.1, f e.1 e.2⟩
  nodupKeys := by
    have hkeys : (t.entries.map fun e => (⟨e.1, f e.1 e.2⟩ : Σ _ : α, γ)).keys = t.entries.keys := by
      simp [List.keys, Function.comp_def]
    rw [List.NodupKeys, hkeys]
    exact t.nodupKeys

def len (t : Table α β) : Nat := t.entries.length

/-- The entries as pairs. -/
def toPairs (t : Table α β) : List (α × β) := t.entries.map fun e => (e.1, e.2)

@[simp] theorem get?_empty (a : α) : get? (∅ : Table α β) a = none := AList.lookup_empty a

theorem get?_insert (t : Table α β) (a a' : α) (b : β) :
    (t.insert a b).get? a' = if a' = a then some b else t.get? a' := by
  split_ifs with h
  · subst h
    exact AList.lookup_insert t
  · exact AList.lookup_insert_ne h

@[simp] theorem get?_insert_self (t : Table α β) (a : α) (b : β) :
    (t.insert a b).get? a = some b := AList.lookup_insert t

theorem get?_insert_ne (t : Table α β) {a a' : α} (b : β) (h : a' ≠ a) :
    (t.insert a b).get? a' = t.get? a' := AList.lookup_insert_ne h

theorem get?_remove (t : Table α β) (a a' : α) :
    (t.remove a).get? a' = if a' = a then none else t.get? a' := by
  split_ifs with h
  · subst h
    exact AList.lookup_erase a' t
  · exact AList.lookup_erase_ne h

@[simp] theorem get?_remove_self (t : Table α β) (a : α) : (t.remove a).get? a = none :=
  AList.lookup_erase a t

theorem get?_remove_ne (t : Table α β) {a a' : α} (h : a' ≠ a) :
    (t.remove a).get? a' = t.get? a' := AList.lookup_erase_ne h

theorem get?_eq_some_iff {t : Table α β} {a : α} {b : β} :
    t.get? a = some b ↔ (⟨a, b⟩ : Σ _ : α, β) ∈ t.entries := AList.mem_lookup_iff

theorem mem_keys_iff {t : Table α β} {a : α} : a ∈ t.keys ↔ (t.get? a).isSome := by
  rw [get?, AList.lookup_isSome, AList.mem_keys]

theorem get?_retain (t : Table α β) (p : α → β → Bool) (a : α) :
    (t.retain p).get? a = (t.get? a).filter (p a) := by
  refine Option.ext fun b => ?_
  rw [get?_eq_some_iff, Option.filter_eq_some_iff, get?_eq_some_iff]
  simp [retain]

theorem get?_mapValues {γ : Type} (t : Table α β) (f : α → β → γ) (a : α) :
    (t.mapValues f).get? a = (t.get? a).map (f a) := by
  refine Option.ext fun b => ?_
  rw [get?_eq_some_iff, Option.map_eq_some_iff]
  simp only [mapValues, List.mem_map, get?_eq_some_iff]
  constructor
  · rintro ⟨⟨a', b'⟩, hmem, heq⟩
    cases heq
    exact ⟨b', hmem, rfl⟩
  · rintro ⟨b', hmem, rfl⟩
    exact ⟨_, hmem, rfl⟩

theorem retain_congr {t : Table α β} {p q : α → β → Bool}
    (h : ∀ a b, t.get? a = some b → p a b = q a b) : t.retain p = t.retain q := by
  refine AList.ext (List.filter_congr fun e he => ?_)
  exact h e.1 e.2 (get?_eq_some_iff.mpr he)

/-! ### As pairs -/

theorem mem_toPairs_iff {t : Table α β} {a : α} {b : β} :
    (a, b) ∈ t.toPairs ↔ t.get? a = some b := by
  rw [get?_eq_some_iff, toPairs, List.mem_map]
  constructor
  · rintro ⟨e, he, heq⟩
    obtain ⟨rfl, rfl⟩ := Prod.mk.inj heq
    exact he
  · exact fun he => ⟨_, he, rfl⟩

theorem get?_eq_find? (t : Table α β) (a : α) :
    t.get? a = (t.toPairs.find? fun e => e.1 = a).map (·.2) := by
  obtain ⟨entries, hnodup⟩ := t
  show entries.dlookup a = _
  simp only [toPairs]
  clear hnodup
  induction entries with
  | nil => rfl
  | cons e entries ih =>
    obtain ⟨b, v⟩ := e
    by_cases h : a = b
    · subst h
      simp
    · rw [List.dlookup_cons_ne _ _ h, ih]
      simp [Ne.symm h]

/-- The new entry comes first, and the rest keep their order. -/
theorem toPairs_insert (t : Table α β) (a : α) (b : β) :
    (t.insert a b).toPairs = (a, b) :: t.toPairs.filter fun e => e.1 ≠ a := by
  obtain ⟨entries, hnodup⟩ := t
  show ((⟨a, b⟩ : Σ _ : α, β) :: entries.kerase a).map _ = _
  simp only [List.map_cons, toPairs, List.cons.injEq, true_and]
  induction entries with
  | nil => rfl
  | cons e entries ih =>
    obtain ⟨hnot, hnodup⟩ := List.nodupKeys_cons.mp hnodup
    by_cases h : a = e.1
    · have hkeep : ∀ e' ∈ entries, e'.1 ≠ a := by
        intro e' he' heq
        exact hnot (h ▸ heq ▸ List.mem_map_of_mem he')
      rw [List.kerase_cons_eq h]
      simp only [List.map_cons, List.filter_cons, ← h, ne_eq, not_true_eq_false, decide_false,
        Bool.false_eq_true, if_false]
      refine (List.filter_eq_self.mpr fun e' he' => ?_).symm
      obtain ⟨e'', he'', rfl⟩ := List.mem_map.mp he'
      simpa using hkeep e'' he''
    · rw [List.kerase_cons_ne h, List.map_cons, List.map_cons, ih hnodup]
      simp [Ne.symm h]

end Table

end RustStd
