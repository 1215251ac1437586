import X402Verifier.WireAgreement

/-!
# The header codec

Every wire type is read as it was written, whichever of its optional fields are present
(`fromJson_toJson`, a lemma for each type), and what is read is always something that can be written
so (`readable_of_fromJson`). With the text laws the same holds of headers.
-/

namespace X402Verifier

open RustStd Json

/-! ## Values that fit their types -/

/-- A challenge that fits its types. -/
structure PaymentRequired.Readable (c : PaymentRequired) : Prop where
  version : c.x402Version < u32Bound
  accepts : ∀ r ∈ c.accepts, r.Readable
  extensions : Carried c.extensions

/-- A payment that fits its types. Its payload is a value, and may be `null`. -/
structure PaymentPayload.Readable (p : PaymentPayload) : Prop where
  version : p.x402Version < u32Bound
  accepted : p.accepted.Readable
  payload : p.payload.toValue = p.payload
  extensions : Carried p.extensions

/-- A receipt that fits its types. -/
structure SettlementResponse.Readable (r : SettlementResponse) : Prop where
  extensions : Carried r.extensions

/-- A facilitator request that fits its types. -/
structure FacilitatorRequest.Readable (r : FacilitatorRequest) : Prop where
  version : r.x402Version < u32Bound
  payload : r.paymentPayload.Readable
  requirements : r.paymentRequirements.Readable

theorem readable_challenge {terms : Terms} (h : terms.requirements.Readable) (error : String) :
    (terms.challenge error).Readable where
  version := show x402Version < u32Bound by decide
  accepts r hr := by
    obtain rfl := List.mem_singleton.mp hr
    exact h
  extensions v hv := by
    obtain rfl := Option.some.inj hv
    exact ⟨by simp [sessionExtensionAdvertisement], rfl⟩

/-! ## What is written is read -/

theorem readStrings_map (tags : List String) : readStrings (.arr (tags.map .str)) = .ok tags := by
  have h : readVec readString (.arr (tags.map .str)) = .ok (tags.map id) :=
    readVec_map fun _ _ => rfl
  rwa [List.map_id] at h

theorem readsBack_strings (o : Option (List String)) :
    ReadsBack readStrings (fun tags => .arr (tags.map .str)) o :=
  fun tags _ => ⟨by simp, readStrings_map tags⟩

theorem ResourceInfo.fromJson_toJson (r : ResourceInfo) : fromJson r.toJson = .ok r := by
  simp [fromJson, toJson, readString, readsBack_strings]

theorem PaymentRequirements.fromJson_toJson {r : PaymentRequirements} (h : r.Readable) :
    fromJson r.toJson = .ok r := by
  have hextra : ReadsBack readValue id r.extra := readsBack_value h.extra
  simp [fromJson, toJson, readString, readUnsigned_nat h.timeout, hextra]

theorem PaymentRequired.fromJson_toJson {c : PaymentRequired} (h : c.Readable) :
    fromJson c.toJson = .ok c := by
  have hextensions : ReadsBack readValue id c.extensions := readsBack_value h.extensions
  have haccepts : readVec PaymentRequirements.fromJson (.arr (c.accepts.map (·.toJson))) =
      .ok (c.accepts.map id) :=
    readVec_map fun r hr => PaymentRequirements.fromJson_toJson (h.accepts r hr)
  simp [fromJson, toJson, readUnsigned_nat h.version, ResourceInfo.fromJson_toJson, haccepts,
    hextensions]

theorem PaymentPayload.fromJson_toJson {p : PaymentPayload} (h : p.Readable) :
    fromJson p.toJson = .ok p := by
  have hextensions : ReadsBack readValue id p.extensions := readsBack_value h.extensions
  have hresource : ReadsBack ResourceInfo.fromJson (·.toJson) p.resource :=
    fun r _ => ⟨by simp [ResourceInfo.toJson, fields], r.fromJson_toJson⟩
  simp [fromJson, toJson, readUnsigned_nat h.version, hresource,
    PaymentRequirements.fromJson_toJson h.accepted, readValue, h.payload, hextensions]

theorem SettlementResponse.fromJson_toJson {r : SettlementResponse} (h : r.Readable) :
    fromJson r.toJson = .ok r := by
  have hextensions : ReadsBack readValue id r.extensions := readsBack_value h.extensions
  simp [fromJson, toJson, readBool, readString, hextensions]

theorem VerifyResponse.fromJson_toJson (r : VerifyResponse) : fromJson r.toJson = .ok r := by
  simp [fromJson, toJson, readBool]

theorem FacilitatorRequest.fromJson_toJson {r : FacilitatorRequest} (h : r.Readable) :
    fromJson r.toJson = .ok r := by
  simp [fromJson, toJson, readUnsigned_nat h.version, PaymentPayload.fromJson_toJson h.payload,
    PaymentRequirements.fromJson_toJson h.requirements]

/-! ## What is read can be written -/

theorem PaymentRequirements.readable_of_fromJson {j : Json} {r : PaymentRequirements}
    (h : fromJson j = .ok r) : r.Readable := by
  replace h := eq_ok_of_closed h
  simp only [Except.bind_eq_ok] at h
  obtain ⟨scheme, -, network, -, amount, -, asset, -, payTo, -, timeout, htimeout, extra, hextra,
    heq⟩ := h
  obtain rfl := Except.ok.inj heq
  obtain ⟨v, hv⟩ := required_eq_ok htimeout
  exact ⟨lt_of_readUnsigned hv, carried_of_optional hextra⟩

theorem PaymentRequired.readable_of_fromJson {j : Json} {c : PaymentRequired}
    (h : fromJson j = .ok c) : c.Readable := by
  replace h := eq_ok_of_closed h
  simp only [Except.bind_eq_ok] at h
  obtain ⟨version, hversion, error, -, resource, -, accepts, haccepts, extensions, hextensions,
    heq⟩ := h
  obtain rfl := Except.ok.inj heq
  obtain ⟨v, hv⟩ := required_eq_ok hversion
  obtain ⟨items, hitems⟩ := required_eq_ok haccepts
  refine ⟨lt_of_readUnsigned hv, fun r hr => ?_, carried_of_optional hextensions⟩
  obtain ⟨item, hitem⟩ := mem_of_readVec hitems hr
  exact PaymentRequirements.readable_of_fromJson hitem

theorem PaymentPayload.readable_of_fromJson {j : Json} {p : PaymentPayload}
    (h : fromJson j = .ok p) : p.Readable := by
  replace h := eq_ok_of_closed h
  simp only [Except.bind_eq_ok] at h
  obtain ⟨version, hversion, resource, -, accepted, haccepted, payload, hpayload, extensions,
    hextensions, heq⟩ := h
  obtain rfl := Except.ok.inj heq
  obtain ⟨v, hv⟩ := required_eq_ok hversion
  obtain ⟨terms, hterms⟩ := required_eq_ok haccepted
  obtain ⟨body, hbody⟩ := required_eq_ok hpayload
  obtain rfl := Except.ok.inj hbody
  exact {
    version := lt_of_readUnsigned hv
    accepted := PaymentRequirements.readable_of_fromJson hterms
    payload := toValue_toValue body
    extensions := carried_of_optional hextensions }

theorem SettlementResponse.readable_of_fromJson {j : Json} {r : SettlementResponse}
    (h : fromJson j = .ok r) : r.Readable := by
  replace h := eq_ok_of_closed h
  simp only [Except.bind_eq_ok] at h
  obtain ⟨success, -, errorReason, -, payer, -, transaction, -, network, -, amount, -, extensions,
    hextensions, heq⟩ := h
  obtain rfl := Except.ok.inj heq
  exact ⟨carried_of_optional hextensions⟩

theorem FacilitatorRequest.readable_of_fromJson {j : Json} {r : FacilitatorRequest}
    (h : fromJson j = .ok r) : r.Readable := by
  replace h := eq_ok_of_closed h
  simp only [Except.bind_eq_ok] at h
  obtain ⟨version, hversion, payload, hpayload, requirements, hrequirements, heq⟩ := h
  obtain rfl := Except.ok.inj heq
  obtain ⟨v, hv⟩ := required_eq_ok hversion
  obtain ⟨p, hp⟩ := required_eq_ok hpayload
  obtain ⟨t, ht⟩ := required_eq_ok hrequirements
  exact ⟨lt_of_readUnsigned hv, PaymentPayload.readable_of_fromJson hp,
    PaymentRequirements.readable_of_fromJson ht⟩

/-! ## Headers -/

variable [Platform]

/-- Values survive a header: those that fit their type, and with them every value a header was
accepted as. -/
structure SurvivesHeaders {α : Type} (toJson : α → Json) (fromJson : Json → Except String α)
    (fits : α → Prop) : Prop where
  written : ∀ v, fits v → ReadBack (toJson v) →
    decodeHeaderAs fromJson (encodeHeader (toJson v)) = .ok v
  accepted : ∀ raw v, decodeHeaderAs fromJson raw = .ok v → ReadBack (toJson v) →
    decodeHeaderAs fromJson (encodeHeader (toJson v)) = .ok v

theorem survivesHeaders (base64 : Base64Laws) {α : Type} {toJson : α → Json}
    {fromJson : Json → Except String α} {fits : α → Prop}
    (hread : ∀ v, fits v → fromJson (toJson v) = .ok v)
    (hfits : ∀ j v, fromJson j = .ok v → fits v) : SurvivesHeaders toJson fromJson fits where
  written v hv hjson := decodeHeaderAs_encodeHeader base64 hjson (hread v hv)
  accepted raw v hraw hjson := by
    obtain ⟨bytes, tree, -, -, htree⟩ := decodeHeaderAs_eq_ok.mp hraw
    exact decodeHeaderAs_encodeHeader base64 hjson (hread v (hfits tree v htree))

/-- **The header codec.** Every wire type survives a header. -/
theorem wire_types_survive_headers (base64 : Base64Laws) :
    SurvivesHeaders PaymentRequired.toJson PaymentRequired.fromJson PaymentRequired.Readable ∧
    SurvivesHeaders PaymentPayload.toJson PaymentPayload.fromJson PaymentPayload.Readable ∧
    SurvivesHeaders SettlementResponse.toJson SettlementResponse.fromJson
      SettlementResponse.Readable ∧
    SurvivesHeaders VerifyResponse.toJson VerifyResponse.fromJson (fun _ => True) ∧
    SurvivesHeaders FacilitatorRequest.toJson FacilitatorRequest.fromJson
      FacilitatorRequest.Readable :=
  ⟨survivesHeaders base64 (fun _ => PaymentRequired.fromJson_toJson)
      fun _ _ => PaymentRequired.readable_of_fromJson,
    survivesHeaders base64 (fun _ => PaymentPayload.fromJson_toJson)
      fun _ _ => PaymentPayload.readable_of_fromJson,
    survivesHeaders base64 (fun _ => SettlementResponse.fromJson_toJson)
      fun _ _ => SettlementResponse.readable_of_fromJson,
    survivesHeaders base64 (fun r _ => VerifyResponse.fromJson_toJson r) fun _ _ _ => trivial,
    survivesHeaders base64 (fun _ => FacilitatorRequest.fromJson_toJson)
      fun _ _ => FacilitatorRequest.readable_of_fromJson⟩

omit [Platform] in
theorem wire_types_survive_headers_example :
    let _ : Platform := wirePlatform
    decodeHeaderAs PaymentRequired.fromJson (encodeHeader unmeteredChallenge.toJson) =
      .ok unmeteredChallenge := by
  intro _
  have hbase64 := base64Laws_travelPlatform exampleAnswer unmeteredChallenge.toJson
  exact (wire_types_survive_headers hbase64).1.written unmeteredChallenge
    (readable_challenge (readable_fromConfig (by decide)) _) (readBack_second print_exampleAnswer_ne)

end X402Verifier
