import X402Verifier.ConfigChecked
import X402Verifier.DecisionRun
import X402Verifier.HexText
import X402Verifier.JsonRecord
import X402Verifier.Reference
import X402Verifier.WireTypes

/-!
# Challenge, client and server agree

A refusal's challenge is read by the client through its own mirrors and answered with a payment the
client writes by hand; the server reads that with its own types, derives the payment's id and holds
it against the terms it resolves for the request. What was offered is accepted, for every validated
config and every request.

Text is assumed to be read as it was written: base64 everywhere, JSON at the two trees that travel.
-/

namespace X402Verifier

open RustStd Interaction

/-! ## What the client reads -/

/-- The fields of the terms the client keeps: all of them. -/
def Wire.PaymentRequirements.mirror (r : X402Verifier.PaymentRequirements) :
    Wire.PaymentRequirements :=
  { scheme := r.scheme
    network := r.network
    amount := r.amount
    asset := r.asset
    payTo := r.payTo
    maxTimeoutSeconds := r.maxTimeoutSeconds
    extra := r.extra }

/-- The fields of a challenge the client keeps. -/
def Wire.PaymentRequired.mirror (c : X402Verifier.PaymentRequired) : Wire.PaymentRequired :=
  { resource := ⟨c.resource.url⟩, accepts := c.accepts.map .mirror }

/-- Terms that fit their types; `null` would be read as no extras at all. -/
structure PaymentRequirements.Readable (r : PaymentRequirements) : Prop where
  timeout : r.maxTimeoutSeconds < u64Bound
  extra : ∀ v, r.extra = some v → v ≠ .null ∧ v.toValue = v

theorem Wire.fromJson_resourceInfo (r : X402Verifier.ResourceInfo) :
    Wire.ResourceInfo.fromJson r.toJson = .ok ⟨r.url⟩ := by
  simp [Wire.ResourceInfo.fromJson, ResourceInfo.toJson, Json.readString]

theorem Wire.fromJson_requirements {r : X402Verifier.PaymentRequirements} (h : r.Readable) :
    Wire.PaymentRequirements.fromJson r.toJson = .ok (.mirror r) := by
  have hextra : Json.ReadsBack Json.readValue id r.extra := Json.readsBack_value h.extra
  simp [Wire.PaymentRequirements.fromJson, Wire.PaymentRequirements.mirror,
    PaymentRequirements.toJson, Json.readString, Json.readUnsigned_nat h.timeout, hextra]

/-- **The mirror.** The client reads of a challenge just the fields it keeps. -/
theorem Wire.fromJson_required {c : X402Verifier.PaymentRequired}
    (h : ∀ r ∈ c.accepts, r.Readable) :
    Wire.PaymentRequired.fromJson c.toJson = .ok (.mirror c) := by
  have haccepts : Json.readVec Wire.PaymentRequirements.fromJson
      (.arr (c.accepts.map (·.toJson))) = .ok (c.accepts.map .mirror) :=
    Json.readVec_map fun r hr => Wire.fromJson_requirements (h r hr)
  simp [Wire.PaymentRequired.fromJson, Wire.PaymentRequired.mirror, PaymentRequired.toJson,
    Wire.fromJson_resourceInfo, haccepts]

/-- The terms of a config can be read, when its timeout fits its type. -/
theorem readable_fromConfig {payment : PaymentConfig} (h : payment.maxTimeoutSeconds < u64Bound) :
    (PaymentRequirements.fromConfig payment).Readable := by
  refine ⟨h, fun v hv => ?_⟩
  obtain ⟨url, -, rfl⟩ := Option.map_eq_some_iff.mp hv
  exact ⟨nofun, rfl⟩

/-- The client finds the gas station where the server put it. -/
theorem advertisedGasStation_fromConfig (payment : PaymentConfig) :
    advertisedGasStation (.mirror (.fromConfig payment)) = payment.gasStation := by
  unfold advertisedGasStation Wire.PaymentRequirements.mirror PaymentRequirements.fromConfig
  cases payment.gasStation <;> rfl

variable [Platform]

/-! ## What a refusal offers -/

/-- A refusal's challenge is the one of these terms. -/
def Decision.Offers (terms : Terms) : Decision → Prop
  | .allow .. => True
  | .deny challenge .. => ∃ error, challenge = terms.challenge error

theorem offers_of_keepsTo {terms : Terms} {d : Decision} (h : d.KeepsTo terms) :
    d.Offers terms := by
  cases d with
  | allow => trivial
  | deny challenge receipt meter => exact h

/-- **One offer.** Whatever a request is refused for, its challenge offers the terms resolved for
it. -/
theorem offers_decide (svc : Service) (headers : HeaderView) (clientIp : Option IpAddr)
    (path : String) (policy : Option String) (resourceUrl : String) (settlePolicy : SettlePolicy)
    (trace : List (Event Op.Ret)) :
    (svc.decide headers clientIp path policy resourceUrl settlePolicy).Follows
      (.trace (InDecision policy))
      (fun _ d => d.Offers (svc.termsFor path policy resourceUrl)) trace :=
  (calls_decide svc headers clientIp path policy resourceUrl settlePolicy).follows_trace
    fun _ _ h => ⟨fun e he => inDecision_of_calledOn (h.calledOn.1 e he),
      offers_of_keepsTo h.calledOn.2⟩

/-! ## Text -/

/-- What is relied on of base64. -/
structure Base64Laws : Prop where
  decode_encode : ∀ bytes, Platform.b64Decode (Platform.b64Encode bytes) = .ok bytes
  trim_encode : ∀ bytes, trim (Platform.b64Encode bytes) = Platform.b64Encode bytes
  encode_nil : Platform.b64Encode [] = ""

/-- The JSON text of this tree is read back. -/
def ReadBack (tree : Json) : Prop :=
  Platform.jsonFromSlice (utf8 (Platform.jsonToString tree)) = .ok tree

section Text

variable (base64 : Base64Laws)

include base64

theorem isBlank_b64Encode {bytes : Bytes} (h : bytes ≠ []) :
    isBlank (Platform.b64Encode bytes) = false := by
  by_contra hblank
  rw [Bool.not_eq_false, isBlank, base64.trim_encode, String.isEmpty_iff] at hblank
  have hround := base64.decode_encode bytes
  rw [hblank, ← base64.encode_nil, base64.decode_encode] at hround
  exact h (Except.ok.inj hround).symm

theorem readChallenge_encodeHeader {c : PaymentRequired} (hjson : ReadBack c.toJson)
    (h : ∀ r ∈ c.accepts, r.Readable) :
    readChallenge (encodeHeader c.toJson) = some (.mirror c) := by
  rw [readChallenge, encodeHeader, base64.trim_encode, base64.decode_encode]
  show ((Platform.jsonFromSlice (utf8 (Platform.jsonToString c.toJson))).toOption >>= _) = _
  rw [show Platform.jsonFromSlice _ = _ from hjson]
  show (Wire.PaymentRequired.fromJson c.toJson).toOption = _
  rw [Wire.fromJson_required h]
  rfl

theorem decodeHeaderAs_encodeHeader {α : Type} {fromJson : Json → Except String α} {tree : Json}
    {value : α} (hjson : ReadBack tree) (hread : fromJson tree = .ok value) :
    decodeHeaderAs fromJson (encodeHeader tree) = .ok value := by
  refine decodeHeaderAs_eq_ok.mpr ⟨utf8 (Platform.jsonToString tree), tree, ?_, hjson, hread⟩
  rw [encodeHeader, base64.trim_encode, base64.decode_encode]

theorem decodeHeader_encodeHeader {tree : Json} {payload : PaymentPayload} (hjson : ReadBack tree)
    (hread : PaymentPayload.fromJson tree = .ok payload) :
    decodeHeader (encodeHeader tree) = .ok payload := by
  rw [decodeHeader_eq]
  exact decodeHeaderAs_encodeHeader base64 hjson hread

end Text

/-! ## What the server reads -/

/-- The client's payment, as the server reads it. -/
def echoedPayload (resourceUrl : String) (terms : Wire.PaymentRequirements)
    (signature transaction : Bytes) : PaymentPayload :=
  { x402Version := 2
    resource := some { url := resourceUrl }
    accepted :=
      { scheme := terms.scheme
        network := terms.network
        amount := terms.amount
        asset := terms.asset
        payTo := terms.payTo
        maxTimeoutSeconds := terms.maxTimeoutSeconds }
    payload := .obj
      [("signature", .str (Platform.b64Encode signature)),
        ("transaction", .str (Platform.b64Encode transaction))] }

theorem fromJson_paymentJson (resourceUrl : String) {terms : Wire.PaymentRequirements}
    (htimeout : terms.maxTimeoutSeconds < u64Bound) (signature transaction : Bytes) :
    PaymentPayload.fromJson (paymentJson resourceUrl terms signature transaction) =
      .ok (echoedPayload resourceUrl terms signature transaction) := by
  have hread : Json.readUnsigned "u64" u64Bound (.nat terms.maxTimeoutSeconds) =
      .ok terms.maxTimeoutSeconds := if_pos htimeout
  have haccepted : PaymentRequirements.fromJson (.obj
      [("amount", .str terms.amount), ("asset", .str terms.asset),
        ("maxTimeoutSeconds", .nat terms.maxTimeoutSeconds), ("network", .str terms.network),
        ("payTo", .str terms.payTo), ("scheme", .str terms.scheme)]) =
      .ok (echoedPayload resourceUrl terms signature transaction).accepted := by
    refine Json.closed_obj.trans ?_
    show (Json.readUnsigned "u64" u64Bound (.nat terms.maxTimeoutSeconds) >>= fun n => _) = _
    rw [hread]
    rfl
  refine Json.closed_obj.trans ?_
  show (PaymentRequirements.fromJson (.obj
      [("amount", .str terms.amount), ("asset", .str terms.asset),
        ("maxTimeoutSeconds", .nat terms.maxTimeoutSeconds), ("network", .str terms.network),
        ("payTo", .str terms.payTo), ("scheme", .str terms.scheme)]) >>= fun accepted =>
    Except.ok { echoedPayload resourceUrl terms signature transaction with
      accepted := accepted }) = _
  rw [haccepted]
  rfl

section Server

variable (base64 : Base64Laws) (resourceUrl : String) (terms : Wire.PaymentRequirements)
  {signature transaction : Bytes}

include base64

theorem paymentId_echoedPayload (signature transaction : Bytes) :
    paymentId (echoedPayload resourceUrl terms signature transaction) =
      some (Platform.hexEncode (Platform.sha256 transaction)) := by
  refine paymentId_of_transaction rfl ?_
  rw [base64.trim_encode, base64.decode_encode]

/-- A payment that echoes the terms it is held against passes, on the facilitator's network. -/
theorem checkTerms_echoedPayload {f : Facilitator} {requirements : PaymentRequirements}
    (hnetwork : requirements.network = f.network) (htransaction : transaction ≠ [])
    (hsignature : signature ≠ []) :
    f.checkTerms (echoedPayload resourceUrl (.mirror requirements) signature transaction)
      requirements =
        .ok ⟨Platform.b64Encode signature, Platform.b64Encode transaction⟩ :=
  Facilitator.checkTerms_eq_ok.mpr
    { ownNetwork := hnetwork
      version := rfl
      scheme := rfl
      network := rfl
      amount := rfl
      asset := rfl
      payTo := rfl
      payload := rfl
      transaction := isBlank_b64Encode base64 htransaction
      signature := isBlank_b64Encode base64 hsignature }

end Server

/-! ## What the client writes -/

/-- The parser of addresses takes every `0x` with 64 hex digits. -/
def Wallet.ReadsAddresses (wallet : Wallet) : Prop :=
  ∀ hex : String, hex.utf8ByteSize = suiAddressHexLen → hex.toList.all isAsciiHexdigit = true →
    ∃ address, wallet.parseAddress ("0x" ++ hex) = .ok address

/-- A receiving address the config accepts is an address to the client. -/
theorem parseAddress_of_validatePayTo {wallet : Wallet} (hwallet : wallet.ReadsAddresses)
    {payTo : String} (h : validatePayTo payTo = .ok ()) :
    ∃ address, wallet.parseAddress payTo = .ok address := by
  obtain ⟨hex, rfl, hsize, hdigits, -⟩ := digits_of_validatePayTo h
  exact hwallet hex hsize hdigits

theorem buildPaymentHeader_eq {wallet : Wallet} {terms : Wire.PaymentRequirements} {amount : Nat}
    {payee transaction signature : Bytes} (resourceUrl : String)
    (hamount : parseUnsigned u64Bound terms.amount = some amount)
    (hpayee : wallet.parseAddress terms.payTo = .ok payee)
    (hbuild : wallet.buildPayment payee terms.asset amount (advertisedGasStation terms) =
      .ok transaction)
    (hsign : wallet.signTransaction transaction = .ok signature) :
    buildPaymentHeader wallet resourceUrl terms =
      .ok (encodeHeader (paymentJson resourceUrl terms signature transaction)) := by
  simp [buildPaymentHeader, withContext, hamount, hpayee, hbuild, hsign]

/-! ## The round -/

/-- The terms a client reads in the refusal of a request. -/
def Service.offered (svc : Service) (path : String) (policy : Option String) (resourceUrl : String) :
    Wire.PaymentRequirements := .mirror (svc.termsFor path policy resourceUrl).requirements

/-- **Challenge, client and server agree.** From the header of any refusal the client reads the
terms offered; the header it builds from them decodes, has an id made from the transaction alone,
and passes the terms of the same request. -/
theorem client_and_server_agree (base64 : Base64Laws) {config : Config}
    (hvalid : config.validate = .ok ()) (htimeout : config.payment.maxTimeoutSeconds < u64Bound)
    (headers : HeaderView) (clientIp : Option IpAddr) (path : String) (policy : Option String)
    (resourceUrl : String) (settlePolicy : SettlePolicy) (answer : Answers)
    {challenge : PaymentRequired} {receipt : Option SettlementResponse} {meter : Meter}
    (hdeny : (((Service.ofConfig config).decide headers clientIp path policy resourceUrl
      settlePolicy).eval answer).1 = .deny challenge receipt meter)
    (hchallenge : ReadBack challenge.toJson) {wallet : Wallet} (haddress : wallet.ReadsAddresses)
    {amount : Nat}
    (hamount : parseUnsigned u64Bound (config.policyFor path policy).payment.amount = some amount)
    {transaction signature : Bytes} (htransaction : transaction ≠ []) (hsignature : signature ≠ [])
    (hbuild : ∀ payee, wallet.buildPayment payee (config.policyFor path policy).payment.asset amount
      (config.policyFor path policy).payment.gasStation = .ok transaction)
    (hsign : wallet.signTransaction transaction = .ok signature) (paymentUrl : String)
    (hpayment : ReadBack (paymentJson paymentUrl
      ((Service.ofConfig config).offered path policy resourceUrl) signature transaction)) :
    ∃ required header payload sui,
      readChallenge (encodeHeader challenge.toJson) = some required ∧
      required.accepts.head? = some ((Service.ofConfig config).offered path policy resourceUrl) ∧
      buildPaymentHeader wallet paymentUrl
        ((Service.ofConfig config).offered path policy resourceUrl) = .ok header ∧
      decodeHeader header = .ok payload ∧
      paymentId payload = some (Platform.hexEncode (Platform.sha256 transaction)) ∧
      (Service.ofConfig config).facilitator.checkTerms payload
        ((Service.ofConfig config).termsFor path policy resourceUrl).requirements = .ok sui := by
  have hchecked := checked_of_validate hvalid
  let payment := (config.policyFor path policy).payment
  have hnetwork : payment.network = config.payment.network := network_policyFor hchecked path policy
  have hlimit : payment.maxTimeoutSeconds < u64Bound := by
    rwa [show payment.maxTimeoutSeconds = config.payment.maxTimeoutSeconds from
      maxTimeoutSeconds_policyFor hchecked path policy]
  -- the challenge offers the one set of terms
  obtain ⟨error, rfl⟩ : ∃ error, challenge =
      ((Service.ofConfig config).termsFor path policy resourceUrl).challenge error := by
    have hoffers := ((offers_decide (Service.ofConfig config) headers clientIp path policy
      resourceUrl settlePolicy []).eval answer).1
    rwa [hdeny] at hoffers
  have hreadable : ∀ r ∈ [PaymentRequirements.fromConfig payment], r.Readable :=
    fun r hr => List.mem_singleton.mp hr ▸ readable_fromConfig hlimit
  -- the client builds its header
  obtain ⟨payee, hpayee⟩ :=
    parseAddress_of_validatePayTo haddress (validatePayTo_policyFor hchecked path policy)
  have hstation : advertisedGasStation
      ((Service.ofConfig config).offered path policy resourceUrl) = payment.gasStation :=
    advertisedGasStation_fromConfig payment
  have hbuilt : wallet.buildPayment payee payment.asset amount (advertisedGasStation
      ((Service.ofConfig config).offered path policy resourceUrl)) = .ok transaction := by
    rw [hstation]
    exact hbuild payee
  have hheader : buildPaymentHeader wallet paymentUrl
      ((Service.ofConfig config).offered path policy resourceUrl) =
        .ok (encodeHeader (paymentJson paymentUrl
          ((Service.ofConfig config).offered path policy resourceUrl) signature transaction)) :=
    buildPaymentHeader_eq paymentUrl hamount hpayee hbuilt hsign
  exact ⟨_, _, _, _, readChallenge_encodeHeader base64 hchallenge hreadable, rfl, hheader,
    decodeHeader_encodeHeader base64 hpayment
      (fromJson_paymentJson paymentUrl hlimit signature transaction),
    paymentId_echoedPayload base64 _ _ _ _,
    checkTerms_echoedPayload base64 paymentUrl hnetwork htransaction hsignature⟩

/-! ## A wallet -/

/-- A wallet that builds and signs these bytes, whatever it is to pay. -/
def exampleWallet (transaction signature : Bytes) : Wallet where
  parseAddress s :=
    match stripPrefix s "0x" with
    | none => .error "address does not start with 0x"
    | some hex => hexBytes hex.toList
  buildPayment _ _ _ _ := .ok transaction
  signTransaction _ := .ok signature

omit [Platform] in
theorem readsAddresses_exampleWallet (transaction signature : Bytes) :
    (exampleWallet transaction signature).ReadsAddresses := by
  intro hex hsize hall
  have hdigits : ∀ c ∈ hex.toList, isAsciiHexdigit c = true := List.all_eq_true.mp hall
  have hlength : hex.toList.length = suiAddressHexLen := by
    rw [← utf8ByteSize_of_hexdigits hex.toList hdigits, String.ofList_toList, hsize]
  have hstrip : stripPrefix ("0x" ++ hex) "0x" = some hex := by
    simp [stripPrefix, startsWith]
  obtain ⟨bytes, hbytes⟩ := hexBytes_of_hexdigits hex.toList hdigits (by rw [hlength]; rfl)
  refine ⟨bytes, ?_⟩
  show (match stripPrefix ("0x" ++ hex) "0x" with
    | none => Except.error "address does not start with 0x"
    | some hex => hexBytes hex.toList) = _
  rw [hstrip]
  exact hbytes

/-! ## A round -/

/-- What a request without an address is refused with. -/
def unmeteredChallenge : PaymentRequired :=
  ((Service.ofConfig (exampleConfig .stubAcceptAll)).termsFor "/" none "/").challenge
    "client address unavailable; free tier cannot be metered"

/-- What the client answers it with: a transaction of three bytes, signed with three others. -/
def exampleAnswer : Json :=
  @paymentJson printingPlatform "/"
    ((Service.ofConfig (exampleConfig .stubAcceptAll)).offered "/" none "/") [1, 2, 3] [0, 0, 0]

/-- The printing platform, on which the text of two trees is read. -/
@[reducible] def travelPlatform (first second : Json) : Platform :=
  { ({ exampleTables with
      json := [(utf8 first.print, first), (utf8 second.print, second)] } : Tables).platform with
    jsonToString := Json.print }

omit [Platform] in
theorem readBack_travelPlatform {first second tree : Json}
    (h : [(utf8 first.print, first), (utf8 second.print, second)].find?
      (fun entry => entry.1 = utf8 tree.print) = some (utf8 tree.print, tree)) :
    @ReadBack (travelPlatform first second) tree :=
  Tables.jsonFromSlice_of_find h

omit [Platform] in
theorem base64Laws_travelPlatform (first second : Json) :
    @Base64Laws (travelPlatform first second) := by
  refine @Base64Laws.mk (travelPlatform first second) (fun bytes => ?_) trim_base64Encode rfl
  exact exampleTables.b64Decode_encode bytes

omit [Platform] in
theorem readBack_first (first second : Json) : @ReadBack (travelPlatform first second) first :=
  readBack_travelPlatform (List.find?_cons_of_pos (by simp))

omit [Platform] in
theorem readBack_second {first second : Json} (h : first.print ≠ second.print) :
    @ReadBack (travelPlatform first second) second := by
  have hne : utf8 first.print ≠ utf8 second.print := fun heq => h (utf8_injective heq)
  refine readBack_travelPlatform ?_
  rw [List.find?_cons_of_neg (by simpa using hne), List.find?_cons_of_pos (by simp)]

@[reducible] def wirePlatform : Platform := travelPlatform exampleAnswer unmeteredChallenge.toJson

omit [Platform] in
theorem print_exampleAnswer_ne : exampleAnswer.print ≠ unmeteredChallenge.toJson.print := by
  decide +kernel

omit [Platform] in
theorem client_and_server_agree_example :
    let _ : Platform := wirePlatform
    let svc := Service.ofConfig (exampleConfig .stubAcceptAll)
    ∃ required header payload sui,
      readChallenge (encodeHeader unmeteredChallenge.toJson) = some required ∧
      required.accepts.head? = some (svc.offered "/" none "/") ∧
      buildPaymentHeader (exampleWallet [0, 0, 0] [1, 2, 3]) "/" (svc.offered "/" none "/") =
        .ok header ∧
      decodeHeader header = .ok payload ∧
      paymentId payload = some exampleId ∧
      svc.facilitator.checkTerms payload (svc.termsFor "/" none "/").requirements = .ok sui := by
  intro _ svc
  have hvalid : (exampleConfig .stubAcceptAll).validate = .ok () := rfl
  have hamount : parseUnsigned u64Bound (svc.config.policyFor "/" none).payment.amount =
      some 1000 := by decide +kernel
  exact client_and_server_agree (base64Laws_travelPlatform _ _) hvalid (by decide) ⟨none⟩ none "/"
    none "/" .deferred (fun _ op => (svc.exec (exampleEnv 0) (.ofConfig svc.config []) op).1) rfl
    (readBack_second print_exampleAnswer_ne) (readsAddresses_exampleWallet _ _) hamount
    (List.cons_ne_nil _ _) (List.cons_ne_nil _ _) (fun _ => rfl) rfl "/" (readBack_first _ _)

end X402Verifier
