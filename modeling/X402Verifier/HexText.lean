import X402Verifier.Reference

/-!
# Hex text

`hexBytes` decodes as the `hex` crate does: an even number of digits, of either case. Many texts are
one value; they are the same but for case (`hexBytes_eq_ok_iff`).
-/

namespace X402Verifier

open RustStd

/-! ## Digits -/

theorem isAsciiHexdigit_iff {c : Char} : isAsciiHexdigit c = true ↔
    (48 ≤ c.toNat ∧ c.toNat ≤ 57) ∨ (97 ≤ c.toNat ∧ c.toNat ≤ 102) ∨
      (65 ≤ c.toNat ∧ c.toNat ≤ 70) := by
  simp [isAsciiHexdigit, Char.isDigit, Char.le_def, UInt32.le_iff_toNat_le, or_assoc]

theorem utf8Size_of_hexdigit {c : Char} (h : isAsciiHexdigit c = true) : c.utf8Size = 1 := by
  rw [Char.utf8Size_eq_one_iff, UInt32.le_iff_toNat_le]
  have hc := isAsciiHexdigit_iff.mp h
  show c.toNat ≤ 127
  omega

theorem nibble?_of_hexdigit {c : Char} (h : isAsciiHexdigit c = true) : ∃ n, nibble? c = some n := by
  have hc := isAsciiHexdigit_iff.mp h
  unfold nibble?
  dsimp only
  split_ifs with h1 h2 h3
  · exact ⟨_, rfl⟩
  · exact ⟨_, rfl⟩
  · exact ⟨_, rfl⟩
  · exact absurd hc (by omega)

theorem hexBytes_of_hexdigits (cs : List Char) (h : ∀ c ∈ cs, isAsciiHexdigit c = true)
    (heven : cs.length % 2 = 0) : ∃ bytes, hexBytes cs = .ok bytes := by
  fun_induction hexBytes cs with
  | case1 => exact ⟨[], rfl⟩
  | case2 c => cases heven
  | case3 a b rest x y hx hy ih =>
    obtain ⟨hhead, hrest⟩ := List.forall_mem_cons.mp (List.forall_mem_cons.mp h).2
    obtain ⟨bytes, hbytes⟩ := ih hrest (by simp only [List.length_cons] at heven; omega)
    rw [hbytes]
    exact ⟨_, rfl⟩
  | case4 a b rest hnone =>
    obtain ⟨x, hx⟩ := nibble?_of_hexdigit (h a List.mem_cons_self)
    obtain ⟨y, hy⟩ := nibble?_of_hexdigit (h b (List.mem_cons_of_mem _ List.mem_cons_self))
    exact absurd hy (hnone x y hx)

theorem utf8ByteSize_of_hexdigits (cs : List Char) (h : ∀ c ∈ cs, isAsciiHexdigit c = true) :
    (String.ofList cs).utf8ByteSize = cs.length := by
  induction cs with
  | nil => rfl
  | cons c cs ih =>
    obtain ⟨hc, hcs⟩ := List.forall_mem_cons.mp h
    rw [String.ofList_cons, String.utf8ByteSize_append, String.utf8ByteSize_singleton,
      utf8Size_of_hexdigit hc, ih hcs, List.length_cons, Nat.add_comm]

theorem length_hexChars (bytes : Bytes) : (hexChars bytes).length = 2 * bytes.length := by
  induction bytes with
  | nil => rfl
  | cons b bytes ih =>
    show (hexChars bytes).length + 1 + 1 = _
    rw [ih, List.length_cons]
    omega

/-! ## Letter case -/

/-- The digit a value is written with, in lower case. -/
theorem toLower_of_nibble? {c : Char} {n : Nat} (h : nibble? c = some n) :
    c.toLower = nibbleChar n ∧ n < 16 := by
  have hn : n < 16 := by
    unfold nibble? at h
    dsimp only at h
    split_ifs at h <;> cases h <;> omega
  refine ⟨Char.toNat_inj.mp ?_, hn⟩
  have hdigit : ∀ n < 16, (nibbleChar n).toNat = if n < 10 then n + 48 else n + 87 := by decide
  rw [toNat_toLower, hdigit n hn]
  unfold nibble? at h
  dsimp only at h
  split_ifs at h <;> cases h <;> split_ifs <;> omega

theorem nibble?_toLower (c : Char) : nibble? c.toLower = nibble? c := by
  unfold nibble?
  rw [toNat_toLower]
  dsimp only
  split_ifs <;> first
    | (rw [Option.some.injEq]; omega)
    | omega
    | rfl

theorem hexBytes_toLower (cs : List Char) : hexBytes (cs.map Char.toLower) = hexBytes cs := by
  fun_induction hexBytes cs with
  | case1 => rfl
  | case2 c => rfl
  | case3 a b rest x y hx hy ih =>
    simp only [List.map_cons, hexBytes, nibble?_toLower, hx, hy, ih]
  | case4 a b rest hnone =>
    simp only [List.map_cons, hexBytes, nibble?_toLower]

/-- **Spellings of a value.** The texts that decode to these bytes are their lowercase text, but for
case. -/
theorem hexBytes_eq_ok_iff {cs : List Char} {bytes : Bytes} :
    hexBytes cs = .ok bytes ↔ cs.map Char.toLower = hexChars bytes := by
  constructor
  · intro h
    fun_induction hexBytes cs generalizing bytes with
    | case1 =>
      cases h
      rfl
    | case2 c => cases h
    | case3 a b rest x y hx hy ih =>
      cases hrest : hexBytes rest with
      | error e =>
        rw [hrest] at h
        cases h
      | ok tail =>
        rw [hrest] at h
        obtain rfl := Except.ok.inj h
        obtain ⟨ha, hx16⟩ := toLower_of_nibble? hx
        obtain ⟨hb, hy16⟩ := toLower_of_nibble? hy
        have hbyte : (UInt8.ofNat (16 * x + y)).toNat = 16 * x + y := by
          rw [UInt8.toNat_ofNat']
          omega
        have hhigh : (16 * x + y) / 16 = x := by omega
        have hlow : (16 * x + y) % 16 = y := by omega
        rw [List.map_cons, List.map_cons, ha, hb, ih hrest]
        show _ = [nibbleChar _, nibbleChar _] ++ hexChars tail
        rw [hbyte, hhigh, hlow]
        rfl
    | case4 a b rest hnone => cases h
  · intro h
    rw [← hexBytes_toLower, h, hexBytes_hexChars]

/-! ## Addresses -/

/-- Sui's text of an address. -/
def addressText (address : Bytes) : String := "0x" ++ String.ofList (hexChars address)

end X402Verifier
