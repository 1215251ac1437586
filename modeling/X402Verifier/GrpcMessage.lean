import X402Verifier.Auth
import X402Verifier.RustStd.Percent

/-!
# The `grpc-message` header

A gRPC refusal carries its reason in a header, and the reason may quote what the client sent.
`grpcMessage` is percent-encoding that keeps printable ASCII except `%` (`utf8_grpcMessage`), so the
header is printable whatever the reason is, and reading it gives back the reason and nothing else.
-/

namespace X402Verifier

open RustStd

/-- The bytes `grpc_message` writes as they are. -/
def grpcPlain (b : UInt8) : Bool := 0x20 ≤ b ∧ b ≤ 0x7E ∧ b ≠ 0x25

theorem grpcPlain_iff {b : UInt8} : grpcPlain b = true ↔ 0x20 ≤ b ∧ b ≤ 0x7E ∧ b ≠ 0x25 :=
  decide_eq_true_iff

/-! ## Bytes -/

theorem utf8_ofList (cs : List Char) :
    utf8 (String.ofList cs) = cs.flatMap String.utf8EncodeChar := by
  show (String.ofList cs).toByteArray.toList = _
  rw [ByteArray.toList, byteArray_toList_loop, String.toByteArray_ofList]
  exact List.toList_data_toByteArray

theorem toNat_ofNat_of_ascii {n : ℕ} (h : n < 128) : (Char.ofNat n).toNat = n := by
  have hvalid : n.isValidChar := .inl (by omega)
  rw [Char.ofNat, dif_pos hvalid]
  rfl

theorem utf8EncodeChar_ofNat {n : ℕ} (h : n < 128) :
    String.utf8EncodeChar (Char.ofNat n) = [UInt8.ofNat n] := by
  have hval : (Char.ofNat n).toNat = n := toNat_ofNat_of_ascii h
  have hsize : (Char.ofNat n).utf8Size = 1 := by
    rw [Char.utf8Size_eq_one_iff, UInt32.le_iff_toNat_le]
    show (Char.ofNat n).toNat ≤ 127
    omega
  rw [String.utf8EncodeChar_eq_singleton hsize, List.singleton_inj]
  apply UInt8.toNat_inj.mp
  rw [UInt32.toNat_toUInt8, UInt8.toNat_ofNat']
  exact congrArg (· % 2 ^ 8) hval

theorem utf8EncodeChar_upperHexByte (b : UInt8) :
    ('%' :: upperHexByte b).flatMap String.utf8EncodeChar = percentEscape b := by
  have hb : b.toNat < 256 := b.toNat_lt
  have hdigit : ∀ n < 16, String.utf8EncodeChar (Char.ofNat (if n < 10 then 48 + n else 55 + n)) =
      [upperHexDigit n] := by
    intro n hn
    rw [utf8EncodeChar_ofNat (by split_ifs <;> omega)]
    rfl
  rw [upperHexByte, List.flatMap_cons, List.flatMap_cons, List.flatMap_cons, List.flatMap_nil,
    hdigit _ (by omega), hdigit _ (by omega)]
  rfl

theorem utf8_grpcMessage (reason : String) :
    utf8 (grpcMessage reason) = percentEncode grpcPlain (utf8 reason) := by
  rw [grpcMessage, utf8_ofList, List.flatMap_assoc, percentEncode]
  congr 1
  funext b
  by_cases hb : 0x20 ≤ b ∧ b ≤ 0x7E ∧ b ≠ 0x25
  · have hlt : b.toNat < 128 := by
      have hle : b.toNat ≤ 126 := UInt8.le_iff_toNat_le.mp hb.2.1
      omega
    rw [if_pos hb, if_pos (grpcPlain_iff.mpr hb), List.flatMap_singleton, utf8EncodeChar_ofNat hlt,
      UInt8.ofNat_toNat]
  · rw [if_neg hb, if_neg (hb ∘ grpcPlain_iff.mp), utf8EncodeChar_upperHexByte]

/-! ## The header -/

theorem printable_of_mem {reason : String} {b : UInt8} (h : b ∈ utf8 (grpcMessage reason)) :
    0x20 ≤ b ∧ b ≤ 0x7E := by
  rw [utf8_grpcMessage] at h
  rcases mem_percentEncode h with hplain | rfl | hdigit
  · obtain ⟨hlow, hhigh, -⟩ := grpcPlain_iff.mp hplain
    exact ⟨hlow, hhigh⟩
  · decide
  · rw [UInt8.le_iff_toNat_le, UInt8.le_iff_toNat_le]
    show 32 ≤ b.toNat ∧ b.toNat ≤ 126
    unfold IsUpperHexDigit at hdigit
    omega

theorem percentDecode_grpcMessage (reason : String) :
    percentDecode (utf8 (grpcMessage reason)) = utf8 reason := by
  rw [utf8_grpcMessage]
  exact percentDecode_percentEncode rfl (utf8 reason)

theorem grpcMessage_injective : Function.Injective grpcMessage := by
  intro reason other h
  apply utf8_injective
  rw [← percentDecode_grpcMessage, h, percentDecode_grpcMessage]

/-- **The reason survives the header.** The header is printable, with `%` only where two digits
follow; it decodes to the bytes of its reason, so no two reasons share one. -/
theorem grpc_message_round_trips :
    (∀ reason, (∀ b ∈ utf8 (grpcMessage reason), 0x20 ≤ b ∧ b ≤ 0x7E) ∧
      EscapesComplete (utf8 (grpcMessage reason)) ∧
      percentDecode (utf8 (grpcMessage reason)) = utf8 reason) ∧
    Function.Injective grpcMessage := by
  refine ⟨fun reason => ⟨fun b hb => printable_of_mem hb, ?_, percentDecode_grpcMessage reason⟩,
    grpcMessage_injective⟩
  rw [utf8_grpcMessage]
  exact escapesComplete_percentEncode rfl _

end X402Verifier
