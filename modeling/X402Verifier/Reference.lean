import X402Verifier.ExtProc
import X402Verifier.SessionSpec

/-!
# A concrete platform and configuration

For runs on fixed inputs. Base64 (standard alphabet, padded, canonical) and hex are decoded as the
crates decode them. The hash functions and the JSON parser are given by tables of their values;
outside the tables they answer something of the right kind.
-/

namespace X402Verifier

open RustStd

/-! ## Base64 -/

/-- The value of a base64 digit. -/
def sextet? (c : Char) : Option Nat :=
  let n := c.toNat
  if 65 ≤ n ∧ n ≤ 90 then some (n - 65)
  else if 97 ≤ n ∧ n ≤ 122 then some (n - 71)
  else if 48 ≤ n ∧ n ≤ 57 then some (n + 4)
  else if n = 43 then some 62
  else if n = 47 then some 63
  else none

def sextetChar (n : Nat) : Char :=
  Char.ofNat <|
    if n < 26 then n + 65 else if n < 52 then n + 71 else if n < 62 then n - 4
    else if n = 62 then 43 else 47

/-- Decode groups of four digits. Only the last may be padded, and the bits it drops are zero. -/
def base64Decode : List Char → Option Bytes
  | [] => some []
  | [a, b, '=', '='] => do
    let n := (← sextet? a) * 64 + (← sextet? b)
    if n % 16 = 0 then some [.ofNat (n / 16)] else none
  | [a, b, c, '='] => do
    let n := ((← sextet? a) * 64 + (← sextet? b)) * 64 + (← sextet? c)
    if n % 4 = 0 then some [.ofNat (n / 1024), .ofNat (n / 4 % 256)] else none
  | a :: b :: c :: d :: rest => do
    let n := (((← sextet? a) * 64 + (← sextet? b)) * 64 + (← sextet? c)) * 64 + (← sextet? d)
    let tail ← base64Decode rest
    some (.ofNat (n / 65536) :: .ofNat (n / 256 % 256) :: .ofNat (n % 256) :: tail)
  | _ => none

def base64Encode : Bytes → List Char
  | [] => []
  | [a] =>
    let n := a.toNat * 16
    [sextetChar (n / 64), sextetChar (n % 64), '=', '=']
  | [a, b] =>
    let n := (a.toNat * 256 + b.toNat) * 4
    [sextetChar (n / 4096), sextetChar (n / 64 % 64), sextetChar (n % 64), '=']
  | a :: b :: c :: rest =>
    let n := (a.toNat * 256 + b.toNat) * 256 + c.toNat
    sextetChar (n / 262144) :: sextetChar (n / 4096 % 64) :: sextetChar (n / 64 % 64) ::
      sextetChar (n % 64) :: base64Encode rest

theorem sextet?_sextetChar {n : Nat} (h : n < 64) : sextet? (sextetChar n) = some n := by
  have hall : ∀ i : Fin 64, sextet? (sextetChar i) = some i.val := by decide
  exact hall ⟨n, h⟩

theorem sextetChar_ne_pad {n : Nat} (h : n < 64) : sextetChar n ≠ '=' := by
  have hall : ∀ i : Fin 64, sextetChar i ≠ '=' := by decide
  exact hall ⟨n, h⟩

theorem base64Decode_group {a b c d : Char} (rest : List Char) (hd : d ≠ '=') :
    base64Decode (a :: b :: c :: d :: rest) = (do
      let n := (((← sextet? a) * 64 + (← sextet? b)) * 64 + (← sextet? c)) * 64 + (← sextet? d)
      let tail ← base64Decode rest
      some (.ofNat (n / 65536) :: .ofNat (n / 256 % 256) :: .ofNat (n % 256) :: tail)) := by
  rw [base64Decode]
  · simp [hd]
  · simp [hd]

/-- **Round trip.** Decoding undoes encoding. -/
theorem base64Decode_base64Encode : ∀ bytes, base64Decode (base64Encode bytes) = some bytes
  | [] => rfl
  | [a] => by
    have ha := a.toNat_lt
    simp only [base64Encode, base64Decode]
    rw [sextet?_sextetChar (by omega), sextet?_sextetChar (by omega)]
    have hn : a.toNat * 16 / 64 * 64 + a.toNat * 16 % 64 = a.toNat * 16 := by omega
    simp [hn]
  | [a, b] => by
    have ha := a.toNat_lt
    have hb := b.toNat_lt
    rw [base64Encode]
    generalize hm : (a.toNat * 256 + b.toNat) * 4 = m
    rw [base64Decode]
    · rw [sextet?_sextetChar (by omega), sextet?_sextetChar (by omega),
        sextet?_sextetChar (by omega)]
      have hn : (m / 4096 * 64 + m / 64 % 64) * 64 + m % 64 = m := by omega
      have hfirst : m / 1024 = a.toNat := by omega
      have hsecond : m / 4 % 256 = b.toNat := by omega
      have hpad : m % 4 = 0 := by omega
      simp [hn, hfirst, hsecond, hpad]
    · simp [sextetChar_ne_pad (n := m % 64) (by omega)]
  | a :: b :: c :: rest => by
    have ha := a.toNat_lt
    have hb := b.toNat_lt
    have hc := c.toNat_lt
    rw [base64Encode]
    -- Three bytes are one number `m`; its sextets and its bytes determine each other.
    generalize hm : (a.toNat * 256 + b.toNat) * 256 + c.toNat = m
    rw [base64Decode_group _ (sextetChar_ne_pad (by omega)), base64Decode_base64Encode rest,
      sextet?_sextetChar (by omega), sextet?_sextetChar (by omega), sextet?_sextetChar (by omega),
      sextet?_sextetChar (by omega)]
    have hn : ((m / 262144 * 64 + m / 4096 % 64) * 64 + m / 64 % 64) * 64 + m % 64 = m := by omega
    have hfirst : m / 65536 = a.toNat := by omega
    have hsecond : m / 256 % 256 = b.toNat := by omega
    have hthird : m % 256 = c.toNat := by omega
    simp [hn, hfirst, hsecond, hthird]

theorem mem_base64Encode {c : Char} : ∀ {bytes : Bytes}, c ∈ base64Encode bytes →
    c = '=' ∨ ∃ n < 64, c = sextetChar n := by
  intro bytes
  fun_induction base64Encode bytes with
  | case1 => simp
  | case2 a n =>
    have ha := a.toNat_lt
    intro hc
    simp only [List.mem_cons, List.not_mem_nil, or_false] at hc
    rcases hc with hc | hc | hc | hc
    · exact .inr ⟨_, by omega, hc⟩
    · exact .inr ⟨_, by omega, hc⟩
    · exact .inl hc
    · exact .inl hc
  | case3 a b n =>
    have ha := a.toNat_lt
    have hb := b.toNat_lt
    intro hc
    simp only [List.mem_cons, List.not_mem_nil, or_false] at hc
    rcases hc with hc | hc | hc | hc
    · exact .inr ⟨_, by omega, hc⟩
    · exact .inr ⟨_, by omega, hc⟩
    · exact .inr ⟨_, by omega, hc⟩
    · exact .inl hc
  | case4 a b c rest n ih =>
    have ha := a.toNat_lt
    have hb := b.toNat_lt
    have hc := c.toNat_lt
    intro hmem
    simp only [List.mem_cons] at hmem
    rcases hmem with hmem | hmem | hmem | hmem | hmem
    · exact .inr ⟨_, by omega, hmem⟩
    · exact .inr ⟨_, by omega, hmem⟩
    · exact .inr ⟨_, by omega, hmem⟩
    · exact .inr ⟨_, by omega, hmem⟩
    · exact ih hmem

theorem trim_base64Encode (bytes : Bytes) :
    trim (String.ofList (base64Encode bytes)) = String.ofList (base64Encode bytes) := by
  have hdigit : ∀ n < 64, isWhitespace (sextetChar n) = false := by decide
  have hfree : ∀ c ∈ base64Encode bytes, isWhitespace c = false := by
    intro c hc
    rcases mem_base64Encode hc with rfl | ⟨n, hn, rfl⟩
    · decide
    · exact hdigit n hn
  rw [trim, String.toList_ofList, trimChars_eq_self hfree]

/-! ## Hex -/

def nibble? (c : Char) : Option Nat :=
  let n := c.toNat
  if 48 ≤ n ∧ n ≤ 57 then some (n - 48)
  else if 97 ≤ n ∧ n ≤ 102 then some (n - 87)
  else if 65 ≤ n ∧ n ≤ 70 then some (n - 55)
  else none

def nibbleChar (n : Nat) : Char := Char.ofNat (if n < 10 then n + 48 else n + 87)

def hexBytes : List Char → Except String Bytes
  | [] => .ok []
  | [_] => .error "Odd number of digits"
  | a :: b :: rest =>
    match nibble? a, nibble? b with
    | some x, some y => (UInt8.ofNat (16 * x + y) :: ·) <$> hexBytes rest
    | _, _ => .error "Invalid character"

def hexChars (bytes : Bytes) : List Char :=
  bytes.flatMap fun b => [nibbleChar (b.toNat / 16), nibbleChar (b.toNat % 16)]

theorem hexBytes_hexChars (bytes : Bytes) : hexBytes (hexChars bytes) = .ok bytes := by
  have hnibble : ∀ n < 16, nibble? (nibbleChar n) = some n := by decide
  induction bytes with
  | nil => rfl
  | cons b bytes ih =>
    have hhigh := hnibble (b.toNat / 16) (by have := b.toNat_lt; omega)
    have hlow := hnibble (b.toNat % 16) (Nat.mod_lt _ (by decide))
    have hb : UInt8.ofNat (16 * (b.toNat / 16) + b.toNat % 16) = b := by
      rw [Nat.div_add_mod, UInt8.ofNat_toNat]
    change hexBytes (nibbleChar (b.toNat / 16) :: nibbleChar (b.toNat % 16) :: hexChars bytes) = _
    simp only [hexBytes, hhigh, hlow, hb, ih]
    rfl

theorem tokenField_hexChars (bytes : Bytes) : TokenField (hexChars bytes) := by
  have hnibble : ∀ n < 16, isWhitespace (nibbleChar n) = false ∧ nibbleChar n ≠ ':' := by decide
  intro c hc
  obtain ⟨b, -, hmem⟩ := List.mem_flatMap.mp hc
  simp only [List.mem_cons, List.not_mem_nil, or_false] at hmem
  rcases hmem with rfl | rfl
  · exact hnibble _ (by have := b.toNat_lt; omega)
  · exact hnibble _ (Nat.mod_lt _ (by decide))

/-! ## The platform -/

/-- Values of the functions that are not computed here. -/
structure Tables where
  sha256 : List (Bytes × Bytes) := []
  hmacSha256 : List ((Bytes × Bytes) × Bytes) := []
  json : List (Bytes × Json) := []
  transactions : List (Bytes × Transaction) := []
  signatures : List Bytes := []

/-- The value the table gives, or a default. -/
def Tables.find {α β : Type} [DecidableEq α] (table : List (α × β)) (a : α) (default : β) : β :=
  ((table.find? fun entry => entry.1 = a).map (·.2)).getD default

/-- The platform with these values. -/
@[reducible] def Tables.platform (tables : Tables) : Platform where
  b64Encode bytes := String.ofList (base64Encode bytes)
  b64Decode s :=
    match base64Decode s.toList with
    | some bytes => .ok bytes
    | none => .error "Invalid byte"
  hexEncode bytes := String.ofList (hexChars bytes)
  hexDecode s := hexBytes s.toList
  sha256 bytes := Tables.find tables.sha256 bytes (List.replicate 32 0)
  hmacSha256 key message := Tables.find tables.hmacSha256 (key, message) (List.replicate 32 0)
  jsonFromSlice bytes :=
    match tables.json.find? fun entry => entry.1 = bytes with
    | some entry => .ok entry.2
    | none => .error "expected value at line 1 column 1"
  jsonToString _ := "null"
  jsonErrorAt _ e := e
  bcsTransaction bytes :=
    match tables.transactions.find? fun entry => entry.1 = bytes with
    | some entry => .ok entry.2
    | none => .error "unexpected end of input"
  userSignature bytes :=
    if bytes ∈ tables.signatures then .ok ⟨bytes⟩ else .error "unexpected end of input"
  charTables := { printable := fun _ => true, graphemeExtend := fun _ => false }

theorem Tables.b64Decode_encode (tables : Tables) (bytes : Bytes) :
    tables.platform.b64Decode (String.ofList (base64Encode bytes)) = .ok bytes := by
  change (match base64Decode (String.ofList (base64Encode bytes)).toList with
    | some bytes => Except.ok bytes
    | none => .error "Invalid byte") = _
  rw [String.toList_ofList, base64Decode_base64Encode]

theorem Tables.jsonFromSlice_of_find {tables : Tables} {bytes key : Bytes} {tree : Json}
    (h : tables.json.find? (fun entry => entry.1 = bytes) = some (key, tree)) :
    tables.platform.jsonFromSlice bytes = .ok tree := by
  change (match tables.json.find? fun entry => entry.1 = bytes with
    | some entry => Except.ok entry.2
    | none => .error _) = _
  rw [h]

/-- A header's text for this JSON text. -/
def encodedHeader (text : String) : String := String.ofList (base64Encode (utf8 text))

theorem isBlank_encodedHeader {text : String} (h : utf8 text ≠ []) :
    isBlank (encodedHeader text) = false := by
  have hne : base64Encode (utf8 text) ≠ [] := by
    intro hnil
    have hround := base64Decode_base64Encode (utf8 text)
    rw [hnil] at hround
    exact h (Option.some.inj hround).symm
  simpa [isBlank, encodedHeader, trim_base64Encode] using hne

/-- On a platform that knows how the JSON text reads, its header decodes to what it says. -/
theorem decodeHeader_encodedHeader (tables : Tables) {text : String} {tree : Json}
    {payload : PaymentPayload} (hread : PaymentPayload.fromJson tree = .ok payload) :
    let _ : Platform := ({ tables with json := [(utf8 text, tree)] } : Tables).platform
    decodeHeader (encodedHeader text) = .ok payload := by
  intro _
  have hbytes : Platform.b64Decode (encodedHeader text) = .ok (utf8 text) :=
    Tables.b64Decode_encode _ _
  have htree : Platform.jsonFromSlice (utf8 text) = .ok tree := by
    refine Tables.jsonFromSlice_of_find (?_ : _ = some (utf8 text, tree))
    exact List.find?_cons_of_pos (by simp)
  have htrim : trim (encodedHeader text) = encodedHeader text := trim_base64Encode _
  simp only [decodeHeader, htrim, hbytes, htree, hread]

/-! ## JSON text -/

/-- One character of a JSON string. -/
def escapeChar (c : Char) : String :=
  if c = '"' then "\\\""
  else if c = '\\' then "\\\\"
  else if c = '\n' then "\\n"
  else if c = '\r' then "\\r"
  else if c = '\t' then "\\t"
  else if c.toNat = 8 then "\\b"
  else if c.toNat = 12 then "\\f"
  else if c.toNat < 32 then "\\u00" ++ String.ofList (hexChars [UInt8.ofNat c.toNat])
  else c.toString

def quoted (s : String) : String := "\"" ++ String.join (s.toList.map escapeChar) ++ "\""

mutual

/-- `serde_json::to_string`. -/
def Json.print : Json → String
  | .null => "null"
  | .bool b => toString b
  | .num (.posInt n) => toString n
  | .num (.negInt n) => toString n
  | .num (.float text) => text
  | .str s => quoted s
  | .arr items => "[" ++ ",".intercalate (printItems items) ++ "]"
  | .obj fields => "\x7b" ++ ",".intercalate (printFields fields) ++ "\x7d"

def Json.printItems : List Json → List String
  | [] => []
  | j :: rest => j.print :: printItems rest

def Json.printFields : List (String × Json) → List String
  | [] => []
  | (key, j) :: rest => (quoted key ++ ":" ++ j.print) :: printFields rest

end

theorem Json.print_obj_ne_empty (fields : List (String × Json)) : (Json.obj fields).print ≠ "" := by
  simp [Json.print, ← String.toList_inj]

def exampleAddress : IpAddr := .v4 #v[192, 0, 2, 1]

/-! ## The configuration -/

/-- A deployment that sells one resource, with a timeout of a minute. -/
def exampleConfig (mode : VerificationMode) : Config :=
  { verificationMode := mode
    payment :=
      { scheme := "exact"
        network := "sui:testnet"
        amount := "1000"
        asset := "0x2::sui::SUI"
        payTo := "0x2222222222222222222222222222222222222222222222222222222222222222"
        maxTimeoutSeconds := 60
        description := "example" }
    freeTier := { maxRequests := 5, windowSecs := 60 }
    paidTier := { quota := 100, durationSecs := 3600 }
    sessionHmacSecret := "cdcdcdcdcdcdcdcdcdcdcdcdcdcdcdcdcdcdcdcdcdcdcdcdcdcdcdcdcdcdcdcd" }

/-- The sender of the example transaction. -/
def exampleSender : String := "0x1111111111111111111111111111111111111111111111111111111111111111"

/-- A programmable transaction without inputs, commands or gas objects. -/
def exampleTransactionBytes : Bytes :=
  [0, 0, 0, 0] ++ List.replicate 32 0x11 ++ [0] ++ List.replicate 32 0x11 ++
    [0xe8, 3, 0, 0, 0, 0, 0, 0] ++ [0x40, 0x4b, 0x4c, 0, 0, 0, 0, 0] ++ [0]

/-- An Ed25519 signature of zeros. -/
def exampleSignatureBytes : Bytes := List.replicate 97 0

/-- The example transaction and signature, and the hash of three zero bytes. -/
@[reducible] def exampleTables : Tables :=
  { sha256 :=
      [([0, 0, 0],
        [112, 158, 128, 200, 132, 135, 162, 65, 30, 30, 228, 223, 185, 242, 42, 134, 20, 146, 210,
          12, 71, 101, 21, 12, 12, 121, 74, 189, 112, 248, 20, 124])]
    transactions :=
      [(exampleTransactionBytes,
        { kind := .programmableTransaction [], sender := exampleSender, gasObjects := [] })]
    signatures := [exampleSignatureBytes] }

@[reducible] def examplePlatform : Platform := exampleTables.platform

/-- The example platform, with JSON text as it is printed. -/
@[reducible] def printingPlatform : Platform := { examplePlatform with jsonToString := Json.print }

def exampleKey : Bytes := List.replicate 32 0xcd

/-- The random bytes of a session's id, and of another's. -/
def firstRaw : Bytes := List.replicate 16 0xab

def secondRaw : Bytes := List.replicate 16 0xcd

/-- The example platform, with the MACs of two sessions' tokens: one expires at 1100, and the other,
whose payer ends in a blank, at 2000. -/
@[reducible] def signingPlatform : Platform :=
  ({ exampleTables with
    hmacSha256 :=
      [((exampleKey, utf8 "0x1:1100:abababababababababababababababab"),
        [84, 45, 61, 150, 4, 46, 13, 7, 95, 233, 116, 17, 193, 191, 198, 26, 218, 162, 33, 230, 133,
          61, 173, 191, 83, 78, 10, 45, 122, 231, 106, 18]),
      ((exampleKey, utf8 "0xa :2000:cdcdcdcdcdcdcdcdcdcdcdcdcdcdcdcd"),
        [51, 92, 103, 77, 90, 214, 236, 145, 86, 128, 21, 16, 88, 18, 38, 139, 176, 200, 88, 214,
          233, 203, 211, 248, 94, 149, 12, 200, 64, 207, 136, 38])] } : Tables).platform

/-- The tokens of these sessions. -/
def firstToken : String :=
  "0x1:1100:abababababababababababababababab:" ++
    "542d3d96042e0d075fe97411c1bfc61adaa221e6853dadbf534e0a2d7ae76a12"

def secondToken : String :=
  "0xa :2000:cdcdcdcdcdcdcdcdcdcdcdcdcdcdcdcd:" ++
    "335c674d5ad6ec91568015105812268bb0c858d6e9cbd3f85e950cc840cf8826"

/-- The id of a payment whose transaction is three zero bytes. -/
def exampleId : String := "709e80c88487a2411e1ee4dfb9f22a861492d20c4765150c0c794abd70f8147c"

/-- A fullnode that leaves every field of every answer out. -/
def emptyNode : Fullnode := fun _ call =>
  match call with
  | .verifySignature .. => .ok {}
  | .simulateTransaction _ => .ok {}
  | .getObject _ => .ok {}
  | .executeTransaction .. => .ok {}

/-- A call made at this second. -/
def exampleEnv (now : Nat) : Env := ⟨{ now := now }, emptyNode⟩

/-- A payload that accepts the example's terms, with these texts in its body. -/
def payloadOf (signature transaction : String) : PaymentPayload :=
  { x402Version := 2
    accepted := .fromConfig (exampleConfig .stubAcceptAll).payment
    payload := .obj [("signature", .str signature), ("transaction", .str transaction)] }

/-- A payload that is enough in stub mode: its transaction is three zero bytes. -/
def examplePayload : PaymentPayload := payloadOf "AA==" "AAAA"

/-- A payload with the example transaction and signature. -/
def chainPayload : PaymentPayload :=
  payloadOf (String.ofList (base64Encode exampleSignatureBytes))
    (String.ofList (base64Encode exampleTransactionBytes))

/-! ## A payment on chain -/

/-- The example platform, with the hash of the example transaction. -/
@[reducible] def chainPlatform : Platform :=
  ({ exampleTables with
    sha256 :=
      [(exampleTransactionBytes,
        [118, 101, 92, 42, 35, 56, 231, 21, 119, 195, 40, 191, 154, 24, 116, 181, 163, 213, 23, 141,
          185, 55, 44, 89, 146, 154, 84, 170, 59, 39, 67, 219])] } : Tables).platform

/-- The id of `chainPayload`. -/
def chainId : String := "76655c2a2338e71577c328bf9a1874b5a3d5178db9372c59929a54aa3b2743db"

/-- A fullnode that affirms `chainPayload`, and answers this when it is sent. -/
def sentNode (answer : Except Status TransactionResponse) : Fullnode := fun _ call =>
  match call with
  | .verifySignature .. => .ok { isValid := some true }
  | .simulateTransaction _ =>
    let payment := (exampleConfig .suiGrpc).payment
    .ok ⟨some ⟨some "example", some ⟨some ⟨some true, none⟩⟩,
      [⟨some payment.payTo, some payment.asset, some "1000"⟩]⟩⟩
  | .getObject _ => .ok {}
  | .executeTransaction .. => answer

/-- The transaction is executed. -/
def executedEnv (now : Nat) : Env :=
  ⟨{ now := now }, sentNode (.ok ⟨some ⟨some "example", some ⟨some ⟨some true, none⟩⟩, []⟩⟩)⟩

/-- The answer to it is lost. -/
def lostEnv (now : Nat) : Env := ⟨{ now := now }, sentNode (.error ⟨false, "deadline exceeded"⟩)⟩

/-- A payment was submitted, and its receipt came back. -/
def receipted : Interaction.Event Op.Ret → Bool
  | ⟨.settle .., .ok _⟩ => true
  | _ => false

/-! ## A payment in a header -/

/-- The JSON text of `examplePayload`, with this amount accepted. -/
def paymentText (amount : String) : String :=
  "\x7b\"x402Version\":2,\"accepted\":\x7b\"scheme\":\"exact\",\"network\":\"sui:testnet\",\"amount\":\"" ++
    amount ++ "\",\"asset\":\"0x2::sui::SUI\",\"payTo\":" ++
    "\"0x2222222222222222222222222222222222222222222222222222222222222222\"," ++
    "\"maxTimeoutSeconds\":60\x7d,\"payload\":\x7b\"signature\":\"AA==\",\"transaction\":\"AAAA\"\x7d\x7d"

/-- What the text reads as. -/
def paymentTree (amount : String) : Json :=
  .obj
    [("x402Version", .nat 2),
      ("accepted", .obj
        [("scheme", .str "exact"), ("network", .str "sui:testnet"), ("amount", .str amount),
          ("asset", .str "0x2::sui::SUI"),
          ("payTo", .str "0x2222222222222222222222222222222222222222222222222222222222222222"),
          ("maxTimeoutSeconds", .nat 60)]),
      ("payload", .obj [("signature", .str "AA=="), ("transaction", .str "AAAA")])]

/-- `examplePayload`, with this amount accepted. -/
def payloadAccepting (amount : String) : PaymentPayload :=
  { examplePayload with accepted := { examplePayload.accepted with amount := amount } }

theorem fromJson_paymentTree (amount : String) :
    PaymentPayload.fromJson (paymentTree amount) = .ok (payloadAccepting amount) := rfl

/-- The platform that also knows how this text reads. -/
@[reducible] def paymentPlatform (amount : String) : Platform :=
  ({ exampleTables with json := [(utf8 (paymentText amount), paymentTree amount)] } : Tables).platform

/-! ## A request that pays -/

/-- Request headers that present `paymentText`, after others. -/
def paymentRequest (amount : String) (others : List HeaderValue) : Option (List HeaderValue) :=
  some (others ++ [{ key := headerPaymentSignature, value := encodedHeader (paymentText amount) }])

theorem headerMap_paymentRequest (amount : String) (others : List HeaderValue) :
    headerMap (paymentRequest amount others) =
      (headerMap (some others)).insert headerPaymentSignature
        (encodedHeader (paymentText amount)) := by
  have hkey : toAsciiLowercase headerPaymentSignature = headerPaymentSignature := by decide +kernel
  simp [headerMap, paymentRequest, HeaderValue.text, hkey]

theorem presentedPayment_paymentRequest (amount : String) (others : List HeaderValue)
    (hne : utf8 (paymentText amount) ≠ []) :
    let _ : Platform := paymentPlatform amount
    presentedPayment ⟨some (headerMap (paymentRequest amount others))⟩ =
      some (.ok (payloadAccepting amount)) := by
  intro _
  have hget : HeaderView.get ⟨some (headerMap (paymentRequest amount others))⟩
      headerPaymentSignature = some (encodedHeader (paymentText amount)) := by
    rw [headerMap_paymentRequest]
    simp [HeaderView.get, isBlank_encodedHeader hne]
  unfold presentedPayment
  rw [hget]
  exact congrArg some (decodeHeader_encodedHeader exampleTables (fromJson_paymentTree amount))

/-- It presents no session unless the other headers do. -/
theorem presentedToken_paymentRequest (amount : String) (others : List HeaderValue)
    (hne : utf8 (paymentText amount) ≠ [])
    (hothers : HeaderView.get ⟨some (headerMap (some others))⟩ headerPaymentSession = none) :
    let _ : Platform := paymentPlatform amount
    presentedToken ⟨some (headerMap (paymentRequest amount others))⟩ = none := by
  intro _
  have hsession : HeaderView.get ⟨some (headerMap (paymentRequest amount others))⟩
      headerPaymentSession = none := by
    rw [headerMap_paymentRequest, HeaderView.get_insert_ne _ _ (by decide +kernel), hothers]
  unfold presentedToken
  rw [presentedPayment_paymentRequest amount others hne, hsession]
  rfl

/-- The headers of a request that pays with `paymentText`. -/
def paymentHeaders (amount : String) : HeaderView :=
  ⟨some (Table.insert ∅ headerPaymentSignature (encodedHeader (paymentText amount)))⟩

theorem get_paymentHeaders (amount : String) (h : utf8 (paymentText amount) ≠ []) :
    (paymentHeaders amount).get headerPaymentSignature =
      some (encodedHeader (paymentText amount)) := by
  simp [paymentHeaders, HeaderView.get, isBlank_encodedHeader h]

theorem presentedPayment_paymentHeaders (amount : String) (h : utf8 (paymentText amount) ≠ []) :
    let _ : Platform := paymentPlatform amount
    presentedPayment (paymentHeaders amount) = some (.ok (payloadAccepting amount)) := by
  intro _
  rw [presentedPayment, get_paymentHeaders amount h]
  exact congrArg some (decodeHeader_encodedHeader exampleTables (fromJson_paymentTree amount))

theorem presentedToken_paymentHeaders (amount : String) (h : utf8 (paymentText amount) ≠ []) :
    let _ : Platform := paymentPlatform amount
    presentedToken (paymentHeaders amount) = none := by
  intro _
  have hsession : (paymentHeaders amount).get headerPaymentSession = none := by
    rw [paymentHeaders, HeaderView.get_insert_ne _ _ (by decide +kernel)]
    rfl
  rw [presentedToken, presentedPayment_paymentHeaders amount h, hsession]
  rfl

/-- A request to ext_authz with these headers, for the root. -/
def rootRequest (headers : HeaderView) (contextExtensions : Table String String) : CheckRequest :=
  { http := headers.inner.map fun headers => { host := "", path := "/", scheme := "", headers }
    clientAddress := none
    contextExtensions := contextExtensions }

/-! ## A payment on chain in a header -/

/-- A payment on the example's terms as JSON, with these texts in its body. -/
def bodyTree (signature transaction : String) : Json :=
  .obj
    [("x402Version", .nat 2),
      ("accepted", .obj
        [("scheme", .str "exact"), ("network", .str "sui:testnet"), ("amount", .str "1000"),
          ("asset", .str "0x2::sui::SUI"),
          ("payTo", .str "0x2222222222222222222222222222222222222222222222222222222222222222"),
          ("maxTimeoutSeconds", .nat 60)]),
      ("payload", .obj [("signature", .str signature), ("transaction", .str transaction)])]

theorem fromJson_bodyTree (signature transaction : String) :
    PaymentPayload.fromJson (bodyTree signature transaction) =
      .ok (payloadOf signature transaction) := rfl

/-- The platform of payments on chain, on which the text of a tree is read. -/
@[reducible] def chainTextPlatform (tree : Json) : Platform :=
  { chainPlatform with
    jsonFromSlice := fun bytes =>
      if bytes = utf8 tree.print then .ok tree else .error "expected value at line 1 column 1" }

theorem decodeHeader_chainText {tree : Json} {payload : PaymentPayload}
    (hread : PaymentPayload.fromJson tree = .ok payload) :
    let _ : Platform := chainTextPlatform tree
    decodeHeader (encodedHeader tree.print) = .ok payload := by
  intro _
  have hbytes : Platform.b64Decode (encodedHeader tree.print) = .ok (utf8 tree.print) :=
    exampleTables.b64Decode_encode _
  have htree : Platform.jsonFromSlice (utf8 tree.print) = .ok tree := if_pos rfl
  have htrim : trim (encodedHeader tree.print) = encodedHeader tree.print := trim_base64Encode _
  simp only [decodeHeader, htrim, hbytes, htree, hread]

/-- Request headers that present the text. -/
def treeHeaders (tree : Json) : Option (List HeaderValue) :=
  some [{ key := headerPaymentSignature, value := encodedHeader tree.print }]

section Header

variable {signature transaction : String}

theorem get_treeHeaders :
    let view : HeaderView := ⟨some (headerMap (treeHeaders (bodyTree signature transaction)))⟩
    view.get headerPaymentSignature = some (encodedHeader (bodyTree signature transaction).print) ∧
      view.get headerPaymentSession = none := by
  have hkey : toAsciiLowercase headerPaymentSignature = headerPaymentSignature := by decide +kernel
  have hmap : headerMap (treeHeaders (bodyTree signature transaction)) =
      (headerMap (some [])).insert headerPaymentSignature
        (encodedHeader (bodyTree signature transaction).print) := by
    simp [headerMap, treeHeaders, HeaderValue.text, hkey]
  have hne : utf8 (bodyTree signature transaction).print ≠ [] := by
    intro hnil
    have hempty : utf8 "" = [] := by decide +kernel
    exact Json.print_obj_ne_empty _ (utf8_injective (hnil.trans hempty.symm))
  rw [hmap]
  exact ⟨by simp [HeaderView.get, isBlank_encodedHeader hne],
    (HeaderView.get_insert_ne _ _ (by decide +kernel)).trans (by decide +kernel)⟩

theorem presentedPayment_treeHeaders :
    let _ : Platform := chainTextPlatform (bodyTree signature transaction)
    presentedPayment ⟨some (headerMap (treeHeaders (bodyTree signature transaction)))⟩ =
      some (.ok (payloadOf signature transaction)) := by
  intro _
  unfold presentedPayment
  rw [get_treeHeaders.1]
  exact congrArg some (decodeHeader_chainText (fromJson_bodyTree signature transaction))

theorem presentedToken_treeHeaders :
    let _ : Platform := chainTextPlatform (bodyTree signature transaction)
    presentedToken ⟨some (headerMap (treeHeaders (bodyTree signature transaction)))⟩ = none := by
  intro _
  unfold presentedToken
  rw [presentedPayment_treeHeaders, get_treeHeaders.2]
  rfl

end Header

/-- `chainPayload` as JSON. -/
def chainTree : Json :=
  bodyTree (String.ofList (base64Encode exampleSignatureBytes))
    (String.ofList (base64Encode exampleTransactionBytes))

@[reducible] def chainTreePlatform : Platform := chainTextPlatform chainTree

theorem presentedPayment_chainTree :
    let _ : Platform := chainTreePlatform
    presentedPayment ⟨some (headerMap (treeHeaders chainTree))⟩ = some (.ok chainPayload) :=
  presentedPayment_treeHeaders

theorem presentedToken_chainTree :
    let _ : Platform := chainTreePlatform
    presentedToken ⟨some (headerMap (treeHeaders chainTree))⟩ = none := presentedToken_treeHeaders

end X402Verifier
