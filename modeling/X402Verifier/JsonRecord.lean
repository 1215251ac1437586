import X402Verifier.PayClient
import X402Verifier.RustStd.Result

/-!
# Records as JSON objects

A record is printed slot by slot, absent options left out, and read field by field. What a reader
finds in a printed record is what was printed under the field's name, whatever else is there
(`required_self`, `optional_self`); the names are told apart by `simp`. In the other direction, what
a record was read from says what its fields are (`required_eq_ok`, `optional_eq_ok`).

A `serde_json::Value` is carried as it is once it is a value: `toValue_toValue`.
-/

namespace X402Verifier

open RustStd

namespace Json

/-! ## Printed records -/

/-- Nothing is printed under this name. -/
def Unprinted (name : String) (slots : List (Option (String × Json))) : Prop :=
  (slots.filterMap id).filter (fun f => f.1 == name) = []

section Slots

variable {name n : String} {t : Struct} {i : ℕ} {slots : List (Option (String × Json))} {α : Type}
  {o : Option α} {write : α → Json} {v : Json}

@[simp]
theorem unprinted_nil : Unprinted name [] := rfl

@[simp]
theorem unprinted_always (h : n ≠ name) :
    Unprinted name (always n v :: slots) ↔ Unprinted name slots := by
  simp [Unprinted, always, h]

@[simp]
theorem unprinted_ifSome (h : n ≠ name) :
    Unprinted name (ifSome n o write :: slots) ↔ Unprinted name slots := by
  cases o <;> simp [Unprinted, ifSome, h]

theorem field?_always_self (h : Unprinted name slots) :
    (fields (always name v :: slots)).field? t i name = .ok (some v) := by
  have hfilter : ((always name v :: slots).filterMap id).filter (fun f => f.1 == name) =
      [(name, v)] := by
    rw [always, List.filterMap_cons_some (f := id) rfl, List.filter_cons_of_pos (by simp), h]
  simp only [field?, fields, hfilter]

theorem field?_of_unprinted (h : Unprinted name slots) :
    (fields slots).field? t i name = .ok none := by
  have hfilter : (slots.filterMap id).filter (fun f => f.1 == name) = [] := h
  simp only [field?, fields, hfilter]

theorem field?_always_of_ne (h : n ≠ name) :
    (fields (always n v :: slots)).field? t i name = (fields slots).field? t i name := by
  simp [field?, fields, always, h]

theorem field?_ifSome_of_ne (h : n ≠ name) :
    (fields (ifSome n o write :: slots)).field? t i name =
      (fields slots).field? t i name := by
  cases o <;> simp [field?, fields, ifSome, h]

end Slots

/-- What is printed of an optional field is read back, and is not taken for its absence. -/
def ReadsBack {α : Type} (read : Json → Except String α) (write : α → Json) (o : Option α) : Prop :=
  ∀ a, o = some a → write a ≠ .null ∧ read (write a) = .ok a

section Read

variable {name n : String} {t : Struct} {i : ℕ} {slots : List (Option (String × Json))} {α β : Type}
  {read : Json → Except String α} {o : Option α} {write : α → Json} {o' : Option β}
  {write' : β → Json} {j v : Json} {a : α}

theorem optional_of_none (hfield : j.field? t i name = .ok none) :
    j.optional t i name read = .ok none := by
  rw [optional, hfield]
  rfl

theorem optional_of_some (hfield : j.field? t i name = .ok (some v)) (hnull : v ≠ .null)
    (hread : read v = .ok a) : j.optional t i name read = .ok (some a) := by
  rw [optional, hfield]
  cases v with
  | null => exact absurd rfl hnull
  | _ =>
    show some <$> read _ = _
    rw [hread]
    rfl

@[simp]
theorem required_self (h : Unprinted name slots) :
    (fields (always name v :: slots)).required t i name read = read v := by
  rw [required, field?_always_self h]
  rfl

@[simp]
theorem required_always_of_ne (h : n ≠ name) :
    (fields (always n v :: slots)).required t i name read =
      (fields slots).required t i name read := by
  rw [required, required, field?_always_of_ne h]
  rfl

@[simp]
theorem required_ifSome_of_ne (h : n ≠ name) :
    (fields (ifSome n o' write' :: slots)).required t i name read =
      (fields slots).required t i name read := by
  rw [required, required, field?_ifSome_of_ne h]
  rfl

@[simp]
theorem optional_self (h : Unprinted name slots) (hread : ReadsBack read write o) :
    (fields (ifSome name o write :: slots)).optional t i name read = .ok o := by
  cases o with
  | none => exact optional_of_none (field?_of_unprinted h)
  | some a => exact optional_of_some (field?_always_self h) (hread a rfl).1 (hread a rfl).2

@[simp]
theorem optional_always_of_ne (h : n ≠ name) :
    (fields (always n v :: slots)).optional t i name read =
      (fields slots).optional t i name read := by
  rw [optional, optional, field?_always_of_ne h]

@[simp]
theorem optional_ifSome_of_ne (h : n ≠ name) :
    (fields (ifSome n o' write' :: slots)).optional t i name read =
      (fields slots).optional t i name read := by
  rw [optional, optional, field?_ifSome_of_ne h]

theorem closed_obj {entries : List (String × Json)} {surplus : ℕ → String} {read : Except String α} :
    (obj entries).closed t surplus read = read := by
  cases read <;> rfl

@[simp]
theorem closed_fields {surplus : ℕ → String} {read : Except String α} :
    (fields slots).closed t surplus read = read := closed_obj

/-! ## Read records -/

theorem eq_ok_of_closed {surplus : ℕ → String} {read : Except String α}
    (h : j.closed t surplus read = .ok a) : read = .ok a := by
  cases read with
  | error e => cases j <;> cases h
  | ok b =>
    cases j with
    | arr items =>
      simp only [closed] at h
      split_ifs at h
      exact h
    | _ => exact h

theorem required_eq_ok (h : j.required t i name read = .ok a) : ∃ v, read v = .ok a := by
  obtain ⟨o, -, ho⟩ := Except.bind_eq_ok.mp h
  cases o with
  | none => cases ho
  | some v => exact ⟨v, ho⟩

theorem optional_eq_ok (h : j.optional t i name read = .ok (some a)) :
    ∃ v, v ≠ .null ∧ read v = .ok a := by
  obtain ⟨o, -, ho⟩ := Except.bind_eq_ok.mp h
  rcases o with - | v
  · cases ho
  · have hread : v ≠ .null ∧ some <$> read v = .ok (some a) := by
      cases v with
      | null => cases ho
      | _ => exact ⟨by simp, ho⟩
    exact ⟨v, hread.1, Except.eq_ok_of_map_some hread.2⟩

end Read

/-! ## Readers -/

theorem readVec_map {α β : Type} {read : Json → Except String α} {write : β → Json}
    {f : β → α} {l : List β} (h : ∀ b ∈ l, read (write b) = .ok (f b)) :
    readVec read (.arr (l.map write)) = .ok (l.map f) := by
  show (l.map write).mapM read = .ok (l.map f)
  induction l with
  | nil => rfl
  | cons b l ih =>
    obtain ⟨hb, hl⟩ := List.forall_mem_cons.mp h
    rw [List.map_cons, List.mapM_cons, hb, ih hl]
    rfl

theorem mem_of_readVec {α : Type} {read : Json → Except String α} {j : Json} {l : List α}
    (h : readVec read j = .ok l) {a : α} (ha : a ∈ l) : ∃ v, read v = .ok a := by
  cases j with
  | arr items =>
    have hitems : items.mapM read = .ok l := h
    clear h
    induction items generalizing l with
    | nil =>
      obtain rfl := Except.ok.inj hitems
      cases ha
    | cons v items ih =>
      rw [List.mapM_cons] at hitems
      obtain ⟨b, hb, hrest⟩ := Except.bind_eq_ok.mp hitems
      obtain ⟨l', hl', heq⟩ := Except.bind_eq_ok.mp hrest
      obtain rfl := Except.ok.inj heq
      rcases List.mem_cons.mp ha with rfl | ha
      · exact ⟨v, hb⟩
      · exact ih ha hl'
  | _ => cases h

theorem readUnsigned_nat {type : String} {bound n : ℕ} (h : n < bound) :
    readUnsigned type bound (.nat n) = .ok n := if_pos h

theorem lt_of_readUnsigned {type : String} {bound n : ℕ} {j : Json}
    (h : readUnsigned type bound j = .ok n) : n < bound := by
  unfold readUnsigned at h
  split at h
  · split_ifs at h with hlt
    obtain rfl := Except.ok.inj h
    exact hlt
  · cases h
  · cases h

@[simp]
theorem readsBack_str (o : Option String) : ReadsBack readString .str o :=
  fun _ _ => ⟨by simp, rfl⟩

/-! ## Values -/

theorem toFields_eq_map (entries : List (String × Json)) :
    toFields entries = entries.map (Prod.map id toValue) := by
  induction entries with
  | nil => rfl
  | cons e entries ih =>
    show (e.1, toValue e.2) :: toFields entries = _
    rw [ih]
    rfl

theorem lastWins_cons (e : String × Json) (entries : List (String × Json)) :
    lastWins (e :: entries) =
      if (lastWins entries).any (·.1 == e.1) then lastWins entries else e :: lastWins entries :=
  rfl

theorem lastWins_map (f : Json → Json) (entries : List (String × Json)) :
    lastWins (entries.map (Prod.map id f)) = (lastWins entries).map (Prod.map id f) := by
  induction entries with
  | nil => rfl
  | cons e entries ih =>
    have hany : ((lastWins entries).map (Prod.map id f)).any (·.1 == e.1) =
        (lastWins entries).any (·.1 == e.1) := by
      rw [List.any_map]
      rfl
    rw [List.map_cons, lastWins_cons, ih, lastWins_cons]
    show (if ((lastWins entries).map (Prod.map id f)).any (·.1 == e.1) = true then _ else _) = _
    rw [hany]
    split_ifs <;> rfl

theorem lastWins_lastWins (entries : List (String × Json)) :
    lastWins (lastWins entries) = lastWins entries := by
  induction entries with
  | nil => rfl
  | cons e entries ih =>
    rw [lastWins_cons]
    split_ifs with hany
    · exact ih
    · rw [lastWins_cons, ih, if_neg hany]

mutual

theorem toValue_toValue (j : Json) : j.toValue.toValue = j.toValue := by
  cases j with
  | arr items =>
    show Json.arr (toValues (toValues items)) = .arr (toValues items)
    rw [toValues_toValues items]
  | obj entries =>
    show Json.obj (lastWins (toFields (lastWins (toFields entries)))) =
      .obj (lastWins (toFields entries))
    rw [toFields_eq_map (lastWins _), ← lastWins_map, ← toFields_eq_map, toFields_toFields entries,
      lastWins_lastWins]
  | _ => rfl

theorem toValues_toValues (items : List Json) : toValues (toValues items) = toValues items := by
  cases items with
  | nil => rfl
  | cons j items =>
    show j.toValue.toValue :: toValues (toValues items) = j.toValue :: toValues items
    rw [toValue_toValue j, toValues_toValues items]

theorem toFields_toFields (entries : List (String × Json)) :
    toFields (toFields entries) = toFields entries := by
  rcases entries with - | ⟨⟨key, j⟩, entries⟩
  · rfl
  · show (key, j.toValue.toValue) :: toFields (toFields entries) =
      (key, j.toValue) :: toFields entries
    rw [toValue_toValue j, toFields_toFields entries]

end

theorem toValue_ne_null {j : Json} (h : j ≠ .null) : j.toValue ≠ .null := by
  cases j with
  | null => exact h
  | _ => simp [toValue]

/-- A `Value` field that is carried as it is: `null` would be read as no field at all. -/
def Carried (o : Option Json) : Prop := ∀ v, o = some v → v ≠ .null ∧ v.toValue = v

theorem readsBack_value {o : Option Json} (h : Carried o) : ReadsBack readValue id o :=
  fun v hv => ⟨(h v hv).1, congrArg Except.ok (h v hv).2⟩

theorem carried_of_optional {j : Json} {t : Struct} {name : String} {i : ℕ} {o : Option Json}
    (h : j.optional t i name readValue = .ok o) : Carried o := by
  rintro v rfl
  obtain ⟨w, hw, hread⟩ := optional_eq_ok h
  obtain rfl := Except.ok.inj hread
  exact ⟨toValue_ne_null hw, toValue_toValue w⟩

end Json

end X402Verifier
