import X402Verifier.SessionSpec
import X402Verifier.Reference

/-!
# Where a token comes from

A token is read back exactly as it was minted (`verify_mint_eq`), for payers that white space may end
but not start. Conversely the text a MAC covers says which mint it was: no two mints with different
claims sign one text. So if MACs are only ever right for texts that were signed, a token that
authenticates carries the claims of one mint (`claims_mem_of_unforged`), however it was put together.

HMAC is any keyed function. That its MACs are not found by other means is an assumption about the
token at hand (`Unforged`).
-/

namespace X402Verifier

open RustStd

/-- Arguments that `mint` can be read back from. -/
structure TokenClaims.Mintable (claims : TokenClaims) : Prop where
  payer : ':' ∉ claims.payer.toList
  start : ∀ c ∈ claims.payer.toList.head?, isWhitespace c = false
  sessionId : ':' ∉ claims.sessionId.toList
  bound : claims.expiresAt < u64Bound

/-- The text the MAC of these claims covers. -/
def TokenClaims.signedPart (claims : TokenClaims) : String :=
  TokenCodec.signedPart claims.payer (toString claims.expiresAt) claims.sessionId

variable [Platform]

/-- Hex text has no colon and no white space, and is read back. -/
structure EncodesHex : Prop where
  field : ∀ bytes, TokenField (Platform.hexEncode bytes).toList
  decode : ∀ bytes, Platform.hexDecode (Platform.hexEncode bytes) = .ok bytes

/-- One call of `mint`. -/
def TokenCodec.mintClaims (codec : TokenCodec) (claims : TokenClaims) : String :=
  codec.mint claims.payer claims.expiresAt claims.sessionId

variable {codec : TokenCodec} {claims : TokenClaims}

/-- **The round trip.** -/
theorem verify_mint_eq (hhex : EncodesHex) (h : claims.Mintable) (now : Nat) :
    codec.verify (codec.mintClaims claims) now =
      if now < claims.expiresAt then .ok claims else .error .expired := by
  rw [TokenCodec.mintClaims, TokenCodec.verify, split_mint h.payer h.start h.sessionId hhex.field]
  simp only [hhex.decode, ne_eq, not_true_eq_false, if_false, parseUnsigned_toString h.bound]
  by_cases hnow : now < claims.expiresAt
  · rw [if_neg (Nat.not_le.mpr hnow), if_pos hnow]
  · rw [if_pos (Nat.not_lt.mp hnow), if_neg hnow]

/-- The token's MAC, if it is right, is that of a text one of these mints signed. -/
def Unforged (codec : TokenCodec) (minted : List TokenClaims) (token : String) : Prop :=
  ∀ text, codec.signed? token = some text → ∃ claims ∈ minted, text = claims.signedPart

theorem signed?_mintClaims (hhex : EncodesHex) (h : claims.Mintable) :
    codec.signed? (codec.mintClaims claims) = some claims.signedPart := by
  rw [TokenCodec.mintClaims, TokenCodec.signed?,
    split_mint h.payer h.start h.sessionId hhex.field]
  simp only [hhex.decode, if_true]
  rfl

/-- **One mint.** A token that authenticates carries the claims of one mint. -/
theorem claims_mem_of_unforged {minted : List TokenClaims}
    (hminted : ∀ claims ∈ minted, claims.Mintable) {token : String} {now : Nat}
    (hunforged : Unforged codec minted token) (h : codec.verify token now = .ok claims) :
    claims ∈ minted ∧ now < claims.expiresAt := by
  obtain ⟨expires, macHex, hsplit, hsigned, hparse, hnow⟩ := TokenCodec.verify_eq_ok h
  obtain ⟨mint, hmint, htext⟩ := hunforged _ hsigned
  rw [htext] at hsigned
  obtain ⟨hpayer, hid, macHex', hsplit'⟩ := TokenCodec.verify_fields h hsigned
  -- the expiry in the token is the printed one, and is parsed back
  have hexpires : expires = toString mint.expiresAt := by
    rw [hsplit] at hsplit'
    simp only [List.cons.injEq] at hsplit'
    exact hsplit'.2.1
  rw [hexpires, parseUnsigned_toString (hminted mint hmint).bound] at hparse
  have hclaims : claims = mint := by
    obtain ⟨payer, expiresAt, sessionId⟩ := claims
    obtain rfl := hpayer
    obtain rfl := hid
    obtain rfl := Option.some.inj hparse
    rfl
  exact ⟨hclaims ▸ hmint, hnow⟩

/-- **Tokens bind their claims.** A minted token authenticates as its claims until it expires; and
whatever text is presented after any mints, unless its MAC was forged, it authenticates only as the
claims of one of them. -/
theorem tokens_bind_claims (hhex : EncodesHex) (codec : TokenCodec) :
    (∀ (claims : TokenClaims) (now : Nat), claims.Mintable →
      codec.verify (codec.mintClaims claims) now =
        if now < claims.expiresAt then .ok claims else .error .expired) ∧
    ∀ minted : List TokenClaims, (∀ claims ∈ minted, claims.Mintable) →
      ∀ (token : String) (now : Nat) (claims : TokenClaims), Unforged codec minted token →
        codec.verify token now = .ok claims → claims ∈ minted :=
  ⟨fun _ now hmintable => verify_mint_eq hhex hmintable now,
    fun _ hminted _ _ _ hunforged h => (claims_mem_of_unforged hminted hunforged h).1⟩

section Example

omit [Platform]

theorem encodesHex_signingPlatform : @EncodesHex signingPlatform :=
  @EncodesHex.mk signingPlatform (fun bytes => String.toList_ofList ▸ tokenField_hexChars bytes)
    fun bytes => (congrArg hexBytes String.toList_ofList).trans (hexBytes_hexChars bytes)

/-- The claims of two sessions. The payer of the second ends in a blank. -/
def firstClaims : TokenClaims := ⟨"0x1", 1100, "abababababababababababababababab"⟩

def secondClaims : TokenClaims := ⟨"0xa ", 2000, "cdcdcdcdcdcdcdcdcdcdcdcdcdcdcdcd"⟩

theorem mintable_exampleClaims : ∀ claims ∈ [firstClaims, secondClaims], claims.Mintable := by
  intro claims hclaims
  have hpayer : ∀ claims ∈ [firstClaims, secondClaims],
      ∀ c ∈ claims.payer.toList.head?, isWhitespace c = false := by
    simp [firstClaims, secondClaims, isWhitespace]
  have hfields : ∀ claims ∈ [firstClaims, secondClaims], ':' ∉ claims.payer.toList ∧
      ':' ∉ claims.sessionId.toList ∧ claims.expiresAt < u64Bound := by
    rw [List.forall_mem_cons, List.forall_mem_singleton]
    exact ⟨⟨by decide, by decide, by norm_num [firstClaims, u64Bound]⟩,
      by decide, by decide, by norm_num [secondClaims, u64Bound]⟩
  obtain ⟨hcolon, hid, hbound⟩ := hfields claims hclaims
  exact ⟨hcolon, hpayer claims hclaims, hid, hbound⟩

/-- After both mints, the token of the second is read as the second's. -/
theorem tokens_bind_claims_example :
    let _ : Platform := signingPlatform
    let codec : TokenCodec := ⟨exampleKey⟩
    codec.mintClaims secondClaims = secondToken ∧
      codec.verify (codec.mintClaims secondClaims) 1100 = .ok secondClaims ∧
      codec.verify (codec.mintClaims firstClaims) 1100 = .error .expired ∧
      secondClaims ∈ [firstClaims, secondClaims] := by
  intro _ codec
  obtain ⟨hroundTrip, hprovenance⟩ := tokens_bind_claims encodesHex_signingPlatform codec
  have hfirst : firstClaims.Mintable := mintable_exampleClaims _ (by simp)
  have hsecond : secondClaims.Mintable := mintable_exampleClaims _ (by simp)
  have haccepted := hroundTrip secondClaims 1100 hsecond
  have hunforged : Unforged codec [firstClaims, secondClaims] (codec.mintClaims secondClaims) := by
    intro text htext
    rw [signed?_mintClaims encodesHex_signingPlatform hsecond] at htext
    exact ⟨secondClaims, by simp, (Option.some.inj htext).symm⟩
  exact ⟨by decide +kernel, haccepted, hroundTrip firstClaims 1100 hfirst,
    hprovenance _ mintable_exampleClaims _ 1100 _ hunforged haccepted⟩

end Example

end X402Verifier
