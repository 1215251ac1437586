import X402Verifier.ConfigChecked
import X402Verifier.HexText

/-!
# The session signing key

The key shipped in every example config is published, so `Config.hmacKey` refuses its text. The key
itself is what the text decodes to, and hex has a text for every choice of letter case: all of them
but the published one are let through (`signing_key_unpublished_iff`).
-/

namespace X402Verifier

open RustStd

variable [Platform]

open Platform

/-- Hex is decoded as `hexBytes` does it. -/
structure DecodesHex : Prop where
  decode : ∀ s bytes, hexDecode s = .ok bytes ↔ hexBytes s.toList = .ok bytes

/-- The texts of a value are its lowercase text, but for case. -/
theorem DecodesHex.eq_ok_iff (h : DecodesHex) {s : String} {bytes : Bytes} :
    hexDecode s = .ok bytes ↔ (toAsciiLowercase s).toList = hexChars bytes := by
  rw [h.decode, hexBytes_eq_ok_iff, toAsciiLowercase, String.toList_ofList]

theorem hmacKey_eq_ok {config : Config} {key : Bytes} :
    config.hmacKey = .ok key ↔ config.sessionHmacSecret ≠ "" ∧
      trim config.sessionHmacSecret ≠ placeholderHmacSecret ∧
      hexDecode config.sessionHmacSecret = .ok key ∧ minHmacKeyBytes ≤ key.length := by
  rw [Config.hmacKey, Except.check_eq_ok, Except.check_eq_ok, String.isEmpty_iff]
  refine and_congr_right fun _ => and_congr_right fun _ => ?_
  cases hexDecode config.sessionHmacSecret with
  | error e => simp
  | ok bytes =>
    simp only [Except.check_eq_ok, Except.ok.injEq, Nat.not_lt]
    constructor
    · rintro ⟨hlong, rfl⟩
      exact ⟨rfl, hlong⟩
    · rintro ⟨rfl, hlong⟩
      exact ⟨hlong, rfl⟩

/-- A text that decodes has no white space to trim. -/
theorem DecodesHex.trim_eq (h : DecodesHex) {s : String} {bytes : Bytes}
    (hdecode : hexDecode s = .ok bytes) : trim s = s := by
  have hlower := h.eq_ok_iff.mp hdecode
  rw [toAsciiLowercase, String.toList_ofList] at hlower
  have hspace : ∀ c : Char, isWhitespace c.toLower = false → isWhitespace c = false := by
    intro c
    by_cases hc : 65 ≤ c.toNat ∧ c.toNat ≤ 90
    · intro _
      simp [isWhitespace]
      omega
    · rw [isWhitespace, isWhitespace, toNat_toLower, if_neg hc]
      exact id
  rw [trim, trimChars_eq_self, String.ofList_toList]
  intro c hc
  refine hspace c ((tokenField_hexChars bytes) _ ?_).1
  rw [← hlower]
  exact List.mem_map_of_mem hc

/-- The placeholder's key. -/
def publishedKey : Bytes := List.replicate 32 0xab

theorem DecodesHex.placeholder (h : DecodesHex) :
    hexDecode placeholderHmacSecret = .ok publishedKey := (h.decode _ _).mpr rfl

/-- **No deployment runs on the published key**, exactly if its secret is not the placeholder with
letters in upper case. -/
theorem signing_key_unpublished_iff (h : DecodesHex) (config : Config) :
    (∀ key, config.hmacKey = .ok key →
      minHmacKeyBytes ≤ key.length ∧ hexDecode placeholderHmacSecret ≠ .ok key) ↔
    (toAsciiLowercase config.sessionHmacSecret = placeholderHmacSecret →
      config.sessionHmacSecret = placeholderHmacSecret) := by
  constructor
  · intro hsafe hlower
    by_contra hne
    have hdecode : hexDecode config.sessionHmacSecret = .ok publishedKey := by
      rw [h.eq_ok_iff, hlower]
      rfl
    have hempty : config.sessionHmacSecret ≠ "" := by
      rintro hempty
      rw [hempty] at hlower
      exact absurd hlower (by decide)
    have hkey : config.hmacKey = .ok publishedKey := hmacKey_eq_ok.mpr
      ⟨hempty, by rwa [h.trim_eq hdecode], hdecode, by decide⟩
    exact (hsafe _ hkey).2 h.placeholder
  · intro hspelt key hkey
    obtain ⟨-, htrim, hdecode, hlong⟩ := hmacKey_eq_ok.mp hkey
    refine ⟨hlong, fun hpublished => htrim ?_⟩
    rw [h.trim_eq hdecode]
    refine hspelt (String.toList_inj.mp ?_)
    rw [h.eq_ok_iff.mp hdecode, ← h.eq_ok_iff.mp hpublished]
    decide

omit [Platform] in
theorem decodesHex_examplePlatform : @DecodesHex examplePlatform :=
  @DecodesHex.mk examplePlatform fun _ _ => Iff.rfl

omit [Platform] in
theorem signing_key_unpublished_iff_example :
    let _ : Platform := examplePlatform
    let config := exampleConfig .suiGrpc
    (∀ key, config.hmacKey = .ok key →
      minHmacKeyBytes ≤ key.length ∧ hexDecode placeholderHmacSecret ≠ .ok key) ↔
    (toAsciiLowercase config.sessionHmacSecret = placeholderHmacSecret →
      config.sessionHmacSecret = placeholderHmacSecret) := by
  intro _ config
  exact signing_key_unpublished_iff decodesHex_examplePlatform config

/-- The placeholder in upper case. -/
def shoutedConfig : Config :=
  { exampleConfig .suiGrpc with
    sessionHmacSecret := "ABABABABABABABABABABABABABABABABABABABABABABABABABABABABABABABAB" }

omit [Platform] in
/-- A deployment that runs on the published key. -/
theorem published_key_in_upper_case :
    let _ : Platform := examplePlatform
    shoutedConfig.validate = .ok () ∧
    ¬ ∀ key, shoutedConfig.hmacKey = .ok key →
      minHmacKeyBytes ≤ key.length ∧ hexDecode placeholderHmacSecret ≠ .ok key := by
  intro _
  have hkey : shoutedConfig.hmacKey = .ok publishedKey := rfl
  exact ⟨rfl, fun h => (h _ hkey).2 rfl⟩

end X402Verifier
