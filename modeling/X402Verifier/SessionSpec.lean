import X402Verifier.Session

/-!
# What a token and a session answer for

`TokenCodec.verify` and `consume`, each said once: what must have held for the answer to be good,
and what is left unchanged when it is not. Every later fact about sessions starts from these.

**Reading a token back.** The MAC covers `payer:expires:session_id`. A token has exactly four
fields and a printed number no colon, so this text gives its three fields back
(`signedPart_inj`), whatever the payer and the id are.
-/

namespace X402Verifier

open RustStd

/-! ## The text a MAC covers -/

theorem toList_signedPart (payer expires sessionId : String) :
    (TokenCodec.signedPart payer expires sessionId).toList =
      payer.toList ++ ':' :: (expires.toList ++ ':' :: sessionId.toList) := by
  simp [TokenCodec.signedPart]

/-- Three fields without a colon are read back from the text, whichever fields it was made of. -/
theorem signedPart_inj {p e s p' s' : String} {expiresAt : Nat} (hp : ':' ∉ p.toList)
    (he : ':' ∉ e.toList) (hs : ':' ∉ s.toList)
    (h : TokenCodec.signedPart p e s = TokenCodec.signedPart p' (toString expiresAt) s') :
    p = p' ∧ e = toString expiresAt ∧ s = s' := by
  have hlist := congrArg String.toList h
  rw [toList_signedPart, toList_signedPart] at hlist
  have he' : ':' ∉ (toString expiresAt).toList := not_mem_toString (by decide) _
  -- Both sides have as many colons, so the right one has no more than its two separators.
  have hcount := congrArg (List.count ':') hlist
  simp only [List.count_append, List.count_cons_self, List.count_eq_zero_of_not_mem hp,
    List.count_eq_zero_of_not_mem he, List.count_eq_zero_of_not_mem hs,
    List.count_eq_zero_of_not_mem he'] at hcount
  have hp' : ':' ∉ p'.toList := List.count_eq_zero.mp (by omega)
  obtain ⟨hpp, hrest⟩ := append_sep_inj hp hp' hlist
  obtain ⟨hee, hss⟩ := append_sep_inj he he' hrest
  exact ⟨String.toList_inj.mp hpp, String.toList_inj.mp hee, String.toList_inj.mp hss⟩

section Tokens

variable [Platform] {codec : TokenCodec} {token : String} {now : Nat}

/-- The text a token's MAC covers, if the MAC is right. -/
def TokenCodec.signed? (codec : TokenCodec) (token : String) : Option String :=
  match split (trim token) ':' with
  | [payer, expires, sessionId, macHex] =>
    match Platform.hexDecode macHex with
    | .ok presentedMac =>
      if presentedMac = codec.mac (signedPart payer expires sessionId) then
        some (signedPart payer expires sessionId)
      else none
    | .error _ => none
  | _ => none

theorem TokenCodec.signed?_of_mac {payer expires sessionId macHex : String}
    (hsplit : split (trim token) ':' = [payer, expires, sessionId, macHex])
    (hmac : Platform.hexDecode macHex = .ok (codec.mac (signedPart payer expires sessionId))) :
    codec.signed? token = some (signedPart payer expires sessionId) := by
  rw [TokenCodec.signed?, hsplit]
  dsimp only
  rw [hmac]
  exact if_pos rfl

/-- **A token that authenticates.** Its MAC is right, and its expiry has not come. -/
theorem TokenCodec.verify_eq_ok {claims : TokenClaims} (h : codec.verify token now = .ok claims) :
    ∃ expires macHex,
      split (trim token) ':' = [claims.payer, expires, claims.sessionId, macHex] ∧
      codec.signed? token = some (signedPart claims.payer expires claims.sessionId) ∧
      parseUnsigned u64Bound expires = some claims.expiresAt ∧ now < claims.expiresAt := by
  unfold TokenCodec.verify at h
  split at h
  · rename_i payer expires sessionId macHex hsplit
    cases hhex : Platform.hexDecode macHex with
    | error e => simp [hhex] at h
    | ok presented =>
      by_cases hmac : presented = codec.mac (signedPart payer expires sessionId)
      · cases hparse : parseUnsigned u64Bound expires with
        | none => simp [hhex, hmac, hparse] at h
        | some expiresAt =>
          by_cases hexp : expiresAt ≤ now
          · simp [hhex, hmac, hparse, hexp] at h
          · simp only [hhex, hmac, hparse, hexp, ne_eq, not_true_eq_false, if_false,
              Except.ok.injEq] at h
            subst h
            exact ⟨expires, macHex, hsplit, signed?_of_mac hsplit (hmac ▸ hhex), hparse,
              Nat.not_le.mp hexp⟩
      · simp [hhex, hmac] at h
  · cases h

/-- The text an authentic token's MAC covers is that of its own fields. -/
theorem TokenCodec.verify_fields {claims : TokenClaims} (h : codec.verify token now = .ok claims)
    {payer sessionId : String} {expiresAt : Nat}
    (hsigned : codec.signed? token = some (signedPart payer (toString expiresAt) sessionId)) :
    claims.payer = payer ∧ claims.sessionId = sessionId ∧
      ∃ macHex, split (trim token) ':' = [payer, toString expiresAt, sessionId, macHex] := by
  obtain ⟨expires, macHex, hsplit, hclaims, -, -⟩ := verify_eq_ok h
  have hfree : ∀ field ∈ split (trim token) ':', ':' ∉ field.toList := by
    intro field hfield
    obtain ⟨chars, hchars, rfl⟩ := List.mem_map.mp hfield
    simpa using not_mem_of_mem_splitOn hchars
  rw [hsplit] at hfree
  obtain ⟨rfl, rfl, rfl⟩ := signedPart_inj (hfree _ (by simp)) (hfree _ (by simp))
    (hfree _ (by simp)) (Option.some.inj (hclaims.symm.trans hsigned))
  exact ⟨rfl, rfl, macHex, hsplit⟩

/-! ## A minted token -/

omit [Platform] in
/-- A text that a token carries as it is: without white space or a colon. -/
def TokenField (s : List Char) : Prop := ∀ c ∈ s, isWhitespace c = false ∧ c ≠ ':'

omit [Platform] in
theorem tokenField_iff_all {s : List Char} :
    TokenField s ↔ (s.all fun c => !isWhitespace c && c != ':') = true := by
  simp [TokenField]

omit [Platform] in
theorem TokenField.not_mem {s : List Char} (h : TokenField s) : ':' ∉ s :=
  fun hmem => (h _ hmem).2 rfl

omit [Platform] in
theorem tokenField_toString (n : Nat) : TokenField (toString n).toList := by
  intro c hc
  rw [toList_toString] at hc
  have hdigit := Nat.isDigit_of_mem_toDigits (by decide) (by decide) hc
  constructor
  · simp only [Char.isDigit, Bool.and_eq_true, decide_eq_true_eq] at hdigit
    have hlow : 48 ≤ c.toNat := by simpa using UInt32.le_iff_toNat_le.mp hdigit.1
    have hhigh : c.toNat ≤ 57 := by simpa using UInt32.le_iff_toNat_le.mp hdigit.2
    simp [isWhitespace]
    omega
  · rintro rfl
    cases hdigit

theorem toList_mint (payer sessionId : String) (expiresAt : Nat) :
    (codec.mint payer expiresAt sessionId).toList =
      payer.toList ++ ':' :: ((toString expiresAt).toList ++ ':' :: (sessionId.toList ++ ':' ::
        (Platform.hexEncode (codec.mac (TokenCodec.signedPart payer (toString expiresAt)
          sessionId))).toList)) := by
  simp [TokenCodec.mint, toList_signedPart]

section Minted

variable {payer sessionId : String} {expiresAt : Nat}

/-- A minted token has no white space. -/
theorem not_isWhitespace_mint (hpayer : TokenField payer.toList)
    (hid : TokenField sessionId.toList)
    (hhex : ∀ bytes, TokenField (Platform.hexEncode bytes).toList) :
    ∀ c ∈ (codec.mint payer expiresAt sessionId).toList, isWhitespace c = false := by
  intro c hc
  rw [toList_mint] at hc
  simp only [List.mem_append, List.mem_cons] at hc
  rcases hc with h | rfl | h | rfl | h | rfl | h
  · exact (hpayer c h).1
  · rfl
  · exact (tokenField_toString expiresAt c h).1
  · rfl
  · exact (hid c h).1
  · rfl
  · exact (hhex _ c h).1

/-- A minted token starts like its payer, and ends in hex or, without any, in a colon. -/
theorem trimChars_mint (hstart : ∀ c ∈ payer.toList.head?, isWhitespace c = false)
    (hhex : ∀ bytes, TokenField (Platform.hexEncode bytes).toList) :
    trimChars (codec.mint payer expiresAt sessionId).toList =
      (codec.mint payer expiresAt sessionId).toList := by
  rw [toList_mint]
  refine trimChars_eq_self_of_ends ?_ ?_
  · intro c hc
    cases hp : payer.toList with
    | nil =>
      rw [hp] at hc
      obtain rfl := Option.some.inj hc
      rfl
    | cons d rest =>
      rw [hp] at hc hstart
      exact hstart c hc
  · intro c hc
    rw [← List.cons_append, ← List.append_assoc, ← List.cons_append, ← List.append_assoc,
      List.getLast?_append_of_ne_nil _ (List.cons_ne_nil _ _)] at hc
    rcases List.mem_cons.mp (List.mem_of_mem_getLast? hc) with rfl | hmem
    · rfl
    · exact (hhex _ c hmem).1

/-- **Its fields are read back.** -/
theorem split_mint (hpayer : ':' ∉ payer.toList)
    (hstart : ∀ c ∈ payer.toList.head?, isWhitespace c = false) (hid : ':' ∉ sessionId.toList)
    (hhex : ∀ bytes, TokenField (Platform.hexEncode bytes).toList) :
    split (trim (codec.mint payer expiresAt sessionId)) ':' =
      [payer, toString expiresAt, sessionId,
        Platform.hexEncode (codec.mac (TokenCodec.signedPart payer (toString expiresAt)
          sessionId))] := by
  rw [split, trim, String.toList_ofList, trimChars_mint hstart hhex, toList_mint,
    List.splitOn_append_cons_self_of_not_mem hpayer,
    List.splitOn_append_cons_self_of_not_mem (tokenField_toString expiresAt).not_mem,
    List.splitOn_append_cons_self_of_not_mem hid,
    List.splitOn_eq_singleton (hhex _).not_mem]
  simp only [List.map_cons, List.map_nil, String.ofList_toList]

/-- **A round trip.** A token that was just minted authenticates as its own session. -/
theorem TokenCodec.verify_mint (hpayer : TokenField payer.toList)
    (hid : TokenField sessionId.toList)
    (hhex : ∀ bytes, TokenField (Platform.hexEncode bytes).toList)
    (hdecode : ∀ bytes, Platform.hexDecode (Platform.hexEncode bytes) = .ok bytes)
    (hbound : expiresAt < u64Bound) (hnow : now < expiresAt) :
    codec.verify (codec.mint payer expiresAt sessionId) now =
      .ok ⟨payer, expiresAt, sessionId⟩ := by
  have hstart : ∀ c ∈ payer.toList.head?, isWhitespace c = false :=
    fun c hc => (hpayer c (List.mem_of_mem_head? hc)).1
  rw [TokenCodec.verify, split_mint hpayer.not_mem hstart hid.not_mem hhex]
  simp only [hdecode, ne_eq, not_true_eq_false, if_false, parseUnsigned_toString hbound,
    Nat.not_le.mpr hnow]

theorem isBlank_mint (hpayer : TokenField payer.toList) (hid : TokenField sessionId.toList)
    (hhex : ∀ bytes, TokenField (Platform.hexEncode bytes).toList) :
    isBlank (codec.mint payer expiresAt sessionId) = false := by
  rw [isBlank, trim, trimChars_eq_self (not_isWhitespace_mint hpayer hid hhex), toList_mint]
  simp

end Minted

/-! ## Spending a request -/

/-- **What `consume` can do.** Reject and change nothing, or accept and take one request off the
session the token names: one that is stored, not expired, and of this very policy. -/
theorem MemorySessionStore.consumeAt_cases (s : MemorySessionStore) (token : String)
    (policy : Option String) (now : Nat) :
    (∃ reason, s.consumeAt token policy now = (.rejected reason, s)) ∨
    ∃ claims session remaining, s.codec.verify token now = .ok claims ∧
      s.sessions.get? claims.sessionId = some session ∧ now < session.expiresAt ∧
      session.policy = policy ∧ session.quotaRemaining = remaining + 1 ∧
      s.consumeAt token policy now =
        (.accepted session.payer remaining session.quota session.expiresAt,
          { s with
            sessions := s.sessions.insert claims.sessionId
              { session with quotaRemaining := remaining } }) := by
  unfold MemorySessionStore.consumeAt
  cases hverify : s.codec.verify token now with
  | error rejection => exact .inl ⟨rejection, rfl⟩
  | ok claims =>
    cases hget : s.sessions.get? claims.sessionId with
    | none => exact .inl ⟨.unknown, by simp [hget]⟩
    | some session =>
      by_cases hexp : session.expiresAt ≤ now
      · exact .inl ⟨.expired, by simp [hget, hexp]⟩
      by_cases hpolicy : session.policy = policy
      · cases hquota : session.quotaRemaining with
        | zero => exact .inl ⟨.quotaExhausted, by simp [hget, hexp, hpolicy, hquota, spendOne]⟩
        | succ remaining =>
          refine .inr ⟨claims, session, remaining, rfl, hget, Nat.not_le.mp hexp, hpolicy,
            hquota, ?_⟩
          simp [hget, hexp, hpolicy, hquota, spendOne]
      · exact .inl ⟨.wrongPolicy, by simp [hget, hexp, hpolicy]⟩

end Tokens

end X402Verifier
