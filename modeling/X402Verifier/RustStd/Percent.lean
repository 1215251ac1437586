import Mathlib.Data.List.Basic

/-!
# Percent-encoding

A byte is written as it is, or as `%` and two digits; which are kept is a parameter. Reading takes
`%` with two digits for a byte and leaves a `%` without them alone. As long as `%` itself is not
kept, what is read is what was written (`percentDecode_percentEncode`).
-/

namespace RustStd

/-! ## Digits -/

/-- A digit, in upper case. -/
def upperHexDigit (n : Nat) : UInt8 := UInt8.ofNat (if n < 10 then 48 + n else 55 + n)

/-- The value of a digit of either case. -/
def hexDigit? (b : UInt8) : Option Nat :=
  if 48 ≤ b.toNat ∧ b.toNat ≤ 57 then some (b.toNat - 48)
  else if 65 ≤ b.toNat ∧ b.toNat ≤ 70 then some (b.toNat - 55)
  else if 97 ≤ b.toNat ∧ b.toNat ≤ 102 then some (b.toNat - 87)
  else none

/-- `0` to `9` and `A` to `F`. -/
def IsUpperHexDigit (b : UInt8) : Prop :=
  (48 ≤ b.toNat ∧ b.toNat ≤ 57) ∨ (65 ≤ b.toNat ∧ b.toNat ≤ 70)

theorem toNat_upperHexDigit {n : Nat} (h : n < 16) :
    (upperHexDigit n).toNat = if n < 10 then 48 + n else 55 + n := by
  unfold upperHexDigit
  rw [UInt8.toNat_ofNat']
  exact Nat.mod_eq_of_lt (by split_ifs <;> omega)

theorem isUpperHexDigit_upperHexDigit {n : Nat} (h : n < 16) : IsUpperHexDigit (upperHexDigit n) := by
  unfold IsUpperHexDigit
  rw [toNat_upperHexDigit h]
  split_ifs <;> omega

theorem hexDigit?_upperHexDigit {n : Nat} (h : n < 16) : hexDigit? (upperHexDigit n) = some n := by
  unfold hexDigit?
  rw [toNat_upperHexDigit h]
  by_cases hn : n < 10
  · rw [if_pos hn, if_pos (by omega), Nat.add_sub_cancel_left]
  · rw [if_neg hn, if_neg (by omega), if_pos (by omega), Nat.add_sub_cancel_left]

theorem IsUpperHexDigit.ne_percent {b : UInt8} (h : IsUpperHexDigit b) : b ≠ 0x25 := by
  rintro rfl
  unfold IsUpperHexDigit at h
  revert h
  decide

/-! ## Writing and reading -/

variable (keep : UInt8 → Bool)

/-- A byte that is not kept, as `%` and its digits. -/
def percentEscape (b : UInt8) : List UInt8 :=
  [0x25, upperHexDigit (b.toNat / 16), upperHexDigit (b.toNat % 16)]

def percentEncode (bytes : List UInt8) : List UInt8 :=
  bytes.flatMap fun b => if keep b then [b] else percentEscape b

def percentDecode : List UInt8 → List UInt8
  | b :: x :: y :: rest =>
    if b = 0x25 then
      match hexDigit? x, hexDigit? y with
      | some high, some low => UInt8.ofNat (16 * high + low) :: percentDecode rest
      | _, _ => b :: percentDecode (x :: y :: rest)
    else b :: percentDecode (x :: y :: rest)
  | bytes => bytes

theorem percentDecode_cons {b : UInt8} (h : b ≠ 0x25) (rest : List UInt8) :
    percentDecode (b :: rest) = b :: percentDecode rest := by
  rcases rest with - | ⟨x, - | ⟨y, rest⟩⟩
  · rfl
  · rfl
  · rw [percentDecode, if_neg h]

theorem percentDecode_escape (b : UInt8) (rest : List UInt8) :
    percentDecode (percentEscape b ++ rest) = b :: percentDecode rest := by
  have hb : b.toNat < 256 := b.toNat_lt
  show percentDecode (0x25 :: upperHexDigit (b.toNat / 16) :: upperHexDigit (b.toNat % 16) :: rest) = _
  rw [percentDecode, if_pos rfl, hexDigit?_upperHexDigit (by omega),
    hexDigit?_upperHexDigit (by omega)]
  dsimp only
  rw [Nat.div_add_mod, UInt8.ofNat_toNat]

variable {keep}

/-- **The round trip.** What is read is what was written. -/
theorem percentDecode_percentEncode (hkeep : keep 0x25 = false) (bytes : List UInt8) :
    percentDecode (percentEncode keep bytes) = bytes := by
  induction bytes with
  | nil => rfl
  | cons b bytes ih =>
    rw [percentEncode, List.flatMap_cons, ← percentEncode]
    by_cases hb : keep b = true
    · have hne : b ≠ 0x25 := by
        rintro rfl
        rw [hkeep] at hb
        cases hb
      rw [if_pos hb, List.singleton_append, percentDecode_cons hne, ih]
    · rw [if_neg hb, percentDecode_escape, ih]

theorem mem_percentEncode {bytes : List UInt8} {b : UInt8} (h : b ∈ percentEncode keep bytes) :
    keep b = true ∨ b = 0x25 ∨ IsUpperHexDigit b := by
  obtain ⟨a, -, hb⟩ := List.mem_flatMap.mp h
  have ha : a.toNat < 256 := a.toNat_lt
  split_ifs at hb with hkeep
  · rw [List.mem_singleton.mp hb]
    exact .inl hkeep
  · simp only [percentEscape, List.mem_cons, List.not_mem_nil, or_false] at hb
    rcases hb with rfl | rfl | rfl
    · exact .inr (.inl rfl)
    · exact .inr (.inr (isUpperHexDigit_upperHexDigit (by omega)))
    · exact .inr (.inr (isUpperHexDigit_upperHexDigit (by omega)))

/-! ## Escapes -/

/-- Every `%` is followed by two digits in upper case. -/
def EscapesComplete (bytes : List UInt8) : Prop :=
  ∀ before after, bytes = before ++ 0x25 :: after →
    ∃ x y rest, after = x :: y :: rest ∧ IsUpperHexDigit x ∧ IsUpperHexDigit y

theorem EscapesComplete.cons {b : UInt8} {bytes : List UInt8} (h : EscapesComplete bytes)
    (hb : b = 0x25 → ∃ x y rest, bytes = x :: y :: rest ∧ IsUpperHexDigit x ∧ IsUpperHexDigit y) :
    EscapesComplete (b :: bytes) := by
  intro before after heq
  cases before with
  | nil =>
    obtain ⟨rfl, rfl⟩ := List.cons.inj heq
    exact hb rfl
  | cons c before => exact h before after (List.cons.inj heq).2

theorem EscapesComplete.escape {bytes : List UInt8} (h : EscapesComplete bytes) (b : UInt8) :
    EscapesComplete (percentEscape b ++ bytes) := by
  have hb : b.toNat < 256 := b.toNat_lt
  have hhigh : IsUpperHexDigit (upperHexDigit (b.toNat / 16)) :=
    isUpperHexDigit_upperHexDigit (by omega)
  have hlow : IsUpperHexDigit (upperHexDigit (b.toNat % 16)) :=
    isUpperHexDigit_upperHexDigit (by omega)
  refine ((h.cons fun heq => absurd heq hlow.ne_percent).cons
    fun heq => absurd heq hhigh.ne_percent).cons fun _ => ?_
  exact ⟨_, _, _, rfl, hhigh, hlow⟩

theorem escapesComplete_percentEncode (hkeep : keep 0x25 = false) (bytes : List UInt8) :
    EscapesComplete (percentEncode keep bytes) := by
  induction bytes with
  | nil =>
    intro before after heq
    exact absurd heq (List.append_ne_nil_of_right_ne_nil before (List.cons_ne_nil _ _)).symm
  | cons b bytes ih =>
    rw [percentEncode, List.flatMap_cons, ← percentEncode]
    by_cases hb : keep b = true
    · rw [if_pos hb]
      refine ih.cons fun heq => ?_
      rw [heq, hkeep] at hb
      cases hb
    · rw [if_neg hb]
      exact ih.escape b

end RustStd
