import X402Verifier.OnChain
import X402Verifier.PolicyResolution

/-!
# One price, read twice

Validation reads `pay_to` as 64 hex digits of either case and `amount` as a `u128`. Verification
compares `pay_to` with the node's lowercase text, reads every amount as an `i128`, skips those it
cannot read and adds up the rest with wrap-around. `NodeChange` is a balance change as the node
reports it, with the address and the amount it means; `paidTo` is what they add up to, and
`overlooked` the part that verification does not see.

`credits_exactly_iff` says on which payments the check decides what it is for.
-/

namespace X402Verifier

open RustStd SuiVerifier

/-! ## The node's balance changes -/

/-- The number a text denotes: an optional minus, then digits. -/
def decimalInt : List Char → Option Int
  | '-' :: rest => (digits? rest).map fun n => -(n : Int)
  | cs => (digits? cs).map Int.ofNat

/-- A balance change as the node reports it. -/
structure NodeChange where
  address : Bytes
  coinType : String
  amountText : String
  amount : Int
  isAddress : address.length = 32
  denotes : decimalInt amountText.toList = some amount

/-- What the service receives of it. -/
def NodeChange.report (change : NodeChange) : BalanceChange :=
  ⟨some (addressText change.address), some change.coinType, some change.amountText⟩

/-- Is this change a credit to this address in this asset? -/
def NodeChange.pays (address : Bytes) (asset : String) (change : NodeChange) : Bool :=
  change.address = address ∧ change.coinType = asset

/-- What is credited to this address in this asset. -/
def paidTo (address : Bytes) (asset : String) (changes : List NodeChange) : Int :=
  ((changes.filter (·.pays address asset)).map (·.amount)).sum

theorem paidTo_cons (address : Bytes) (asset : String) (change : NodeChange)
    (changes : List NodeChange) :
    paidTo address asset (change :: changes) =
      (if change.pays address asset then change.amount else 0) + paidTo address asset changes := by
  unfold paidTo
  by_cases hpays : change.pays address asset = true
  · rw [List.filter_cons_of_pos hpays, List.map_cons, List.sum_cons, if_pos hpays]
  · rw [List.filter_cons_of_neg hpays, if_neg hpays, Int.zero_add]

/-! ## Reading -/

/-- The values of an `i128`. -/
def FitsI128 (n : Int) : Prop := -(2 ^ 127) ≤ n ∧ n < 2 ^ 127

instance (n : Int) : Decidable (FitsI128 n) := inferInstanceAs (Decidable (_ ∧ _))

/-- A recipient that is written as the node writes it. -/
def SpeltInLowerCase (payTo : String) : Prop := toAsciiLowercase payTo = payTo

instance (payTo : String) : Decidable (SpeltInLowerCase payTo) := inferInstanceAs (Decidable (_ = _))

/-- A recipient's text stands for an address. -/
def DenotesAddress (payTo : String) (address : Bytes) : Prop :=
  address.length = 32 ∧ ∃ digits : String, payTo = "0x" ++ digits ∧
    hexBytes digits.toList = .ok address

/-- Two texts of one address are one text but for case. -/
theorem addressText_eq_iff {payTo : String} {address : Bytes} (h : DenotesAddress payTo address)
    {other : Bytes} : addressText other = payTo ↔ other = address ∧ SpeltInLowerCase payTo := by
  obtain ⟨-, digits, rfl, hdigits⟩ := h
  have hlower : digits.toList.map Char.toLower = hexChars address := hexBytes_eq_ok_iff.mp hdigits
  have htext : ∀ other : Bytes, addressText other = "0x" ++ digits ↔
      hexChars other = digits.toList := by
    intro other
    rw [addressText, ← String.toList_inj]
    simp
  have hcase : SpeltInLowerCase ("0x" ++ digits) ↔ hexChars address = digits.toList := by
    rw [SpeltInLowerCase, toAsciiLowercase, ← String.toList_inj, ← hlower]
    simp
  rw [htext, hcase]
  constructor
  · intro hother
    have hsame : (Except.ok other : Except String Bytes) = .ok address := by
      rw [← hdigits, ← hother, hexBytes_hexChars]
    obtain rfl := Except.ok.inj hsame
    exact ⟨rfl, hother⟩
  · rintro ⟨rfl, hother⟩
    exact hother

/-- An integer's text is read if the integer fits. -/
theorem parseI128_eq_of_decimalInt {s : String} {n : Int} (h : decimalInt s.toList = some n) :
    parseI128 s = if FitsI128 n then some n else none := by
  have hfilter : (some n).filter (fun n => decide (-(2 ^ 127) ≤ n ∧ n < 2 ^ 127)) =
      if FitsI128 n then some n else none := by
    simp only [Option.filter_some, decide_eq_true_eq]
    rfl
  unfold parseI128
  dsimp only
  rw [← hfilter, ← h]
  generalize s.toList = cs at h ⊢
  split
  · exact absurd h (by simp [decimalInt, digits?])
  · rfl
  · rename_i hminus
    rw [decimalInt]
    exact hminus

/-- A price that passed validation is read again if it is below `2 ^ 127`. -/
theorem parseI128_eq_of_parseUnsigned {s : String} {n : Nat}
    (h : parseUnsigned u128Bound s = some n) :
    parseI128 s = if n < 2 ^ 127 then some (n : Int) else none := by
  have hfilter : (some (n : Int)).filter (fun n => decide (-(2 ^ 127) ≤ n ∧ n < 2 ^ 127)) =
      if n < 2 ^ 127 then some (n : Int) else none := by
    have hfits : (-(2 ^ 127) ≤ (n : Int) ∧ (n : Int) < 2 ^ 127) ↔ n < 2 ^ 127 := by omega
    simp only [Option.filter_some, hfits, decide_eq_true_eq]
  have hbody := (Option.filter_eq_some_iff.mp h).1
  unfold parseI128
  dsimp only
  rw [← hfilter]
  refine congrArg (Option.filter _) ?_
  generalize s.toList = cs at hbody ⊢
  split
  · simpa using hbody
  · simp [digits?] at hbody
  · rename_i hplus hminus
    split at hbody
    · exact absurd rfl (hplus _)
    · rw [hbody]
      rfl

theorem wrapI128_eq_iff {n v : Int} (hv : FitsI128 v) :
    wrapI128 n = v ↔ (2 ^ 128 : Int) ∣ n - v := by
  obtain ⟨hlo, hhi⟩ := hv
  have hbounds := wrapI128_bounds n
  have hmod : (2 ^ 128 : Int) ∣ n - wrapI128 n := by
    unfold wrapI128
    exact Int.dvd_self_sub_bmod
  constructor
  · rintro rfl
    exact hmod
  · intro h
    omega

/-! ## What verification sees -/

/-- Verification does not see this change: the recipient is not written as the node writes it, or the
amount does not fit. -/
def NodeChange.overlooked (payTo : String) (change : NodeChange) : Bool :=
  ¬ SpeltInLowerCase payTo ∨ ¬ FitsI128 change.amount

/-- What is paid without being seen. -/
def overlooked (payTo : String) (address : Bytes) (asset : String) (changes : List NodeChange) : Int :=
  paidTo address asset (changes.filter (·.overlooked payTo))

theorem overlooked_cons (payTo : String) (address : Bytes) (asset : String) (change : NodeChange)
    (changes : List NodeChange) :
    overlooked payTo address asset (change :: changes) =
      (if change.pays address asset ∧ change.overlooked payTo then change.amount else 0) +
        overlooked payTo address asset changes := by
  unfold overlooked
  by_cases hmissed : change.overlooked payTo = true
  · rw [List.filter_cons_of_pos hmissed, paidTo_cons]
    simp only [hmissed, and_true]
  · rw [List.filter_cons_of_neg hmissed, if_neg fun h => hmissed h.2, Int.zero_add]

section Seen

variable {requirements : PaymentRequirements} {address : Bytes}
  (haddress : DenotesAddress requirements.payTo address)

include haddress

theorem credits_report (change : NodeChange) :
    credits requirements change.report = true ↔
      change.pays address requirements.asset = true ∧ SpeltInLowerCase requirements.payTo := by
  simp only [credits, NodeChange.report, NodeChange.pays, Bool.and_eq_true, beq_iff_eq,
    Option.some.injEq, addressText_eq_iff haddress, decide_eq_true_eq]
  tauto

/-- One change is read, overlooked, or none of this payment's. -/
theorem sum_read_cons (change : NodeChange) (reports : List BalanceChange) :
    (((change.report :: reports).filter (credits requirements)).filterMap amountOf).sum =
      (if change.pays address requirements.asset ∧ ¬ change.overlooked requirements.payTo then
        change.amount else 0) +
        ((reports.filter (credits requirements)).filterMap amountOf).sum := by
  have hcredits := credits_report haddress change
  have hamount : amountOf change.report = if FitsI128 change.amount then some change.amount
      else none := parseI128_eq_of_decimalInt change.denotes
  by_cases hcredit : credits requirements change.report = true
  · obtain ⟨hpays, hlower⟩ := hcredits.mp hcredit
    rw [List.filter_cons_of_pos hcredit]
    by_cases hfits : FitsI128 change.amount
    · have hseen : change.overlooked requirements.payTo = false := by
        simp [NodeChange.overlooked, hlower, hfits]
      rw [List.filterMap_cons_some (hamount.trans (if_pos hfits)), List.sum_cons,
        if_pos ⟨hpays, by simp [hseen]⟩]
    · have hmissed : change.overlooked requirements.payTo = true := by
        simp [NodeChange.overlooked, hfits]
      rw [List.filterMap_cons_none (hamount.trans (if_neg hfits)), if_neg (by simp [hmissed]),
        Int.zero_add]
  · have hunseen : ¬ (change.pays address requirements.asset = true ∧
        ¬ change.overlooked requirements.payTo = true) := by
      rintro ⟨hpays, hseen⟩
      refine hcredit (hcredits.mpr ⟨hpays, ?_⟩)
      by_contra hlower
      exact hseen (by simp [NodeChange.overlooked, hlower])
    rw [List.filter_cons_of_neg hcredit, if_neg hunseen, Int.zero_add]

/-- What is seen and what is overlooked make up what is paid. -/
theorem sum_read_add_overlooked (changes : List NodeChange) :
    (((changes.map (·.report)).filter (credits requirements)).filterMap amountOf).sum +
        overlooked requirements.payTo address requirements.asset changes =
      paidTo address requirements.asset changes := by
  induction changes with
  | nil => rfl
  | cons change changes ih =>
    rw [List.map_cons, sum_read_cons haddress, overlooked_cons, paidTo_cons, ← ih]
    by_cases hpays : change.pays address requirements.asset = true
    · by_cases hmissed : change.overlooked requirements.payTo = true
      · rw [if_neg fun h => h.2 hmissed, if_pos ⟨hpays, hmissed⟩, if_pos hpays]
        omega
      · rw [if_pos ⟨hpays, hmissed⟩, if_neg fun h => hmissed h.2, if_pos hpays]
        omega
    · rw [if_neg fun h => hpays h.1, if_neg fun h => hpays h.1, if_neg hpays]
      omega

/-- **What is compared with the price**: what is paid, less what is overlooked, wrapped. -/
theorem credited_report (changes : List NodeChange) :
    credited (changes.map (·.report)) requirements =
      wrapI128 (paidTo address requirements.asset changes -
        overlooked requirements.payTo address requirements.asset changes) := by
  have hzero : wrapI128 0 = 0 := by decide
  have hfold := foldl_wrapI128
    (((changes.map (·.report)).filter (credits requirements)).filterMap amountOf) 0
  rw [hzero, Int.zero_add] at hfold
  rw [credited, hfold, ← sum_read_add_overlooked haddress, Int.add_sub_cancel]

/-- **Acceptance.** The price is below `2 ^ 127`, and what is seen differs from it by a multiple of
`2 ^ 128`. -/
theorem assertCredits_report_iff [Platform] {price : Nat}
    (hprice : parseUnsigned u128Bound requirements.amount = some price) (changes : List NodeChange) :
    assertCredits (changes.map (·.report)) requirements = .ok () ↔
      price < 2 ^ 127 ∧ (2 ^ 128 : Int) ∣ paidTo address requirements.asset changes -
        overlooked requirements.payTo address requirements.asset changes - price := by
  rw [assertCredits_eq_ok, parseI128_eq_of_parseUnsigned hprice, credited_report haddress]
  by_cases hlt : price < 2 ^ 127
  · have hfits : FitsI128 price := ⟨by omega, by omega⟩
    rw [if_pos hlt, Option.some.injEq, eq_comm, wrapI128_eq_iff hfits]
    exact (and_iff_right hlt).symm
  · rw [if_neg hlt]
    exact ⟨nofun, fun h => absurd h.1 hlt⟩

end Seen

/-! ## The price and the payment -/

variable [Platform]

/-- Verification accepts these changes exactly if they add up to the price. -/
def CreditsExactly (payment : PaymentConfig) (address : Bytes) (price : Nat)
    (changes : List NodeChange) : Prop :=
  assertCredits (changes.map (·.report)) (.fromConfig payment) = .ok () ↔
    paidTo address payment.asset changes = price

omit [Platform] in
/-- What is overlooked makes no difference. If the price is paid, it is below `2 ^ 127` and what is
overlooked wraps to nothing; if another amount is paid, what is left of it does not wrap to the
price. -/
def Legible (payment : PaymentConfig) (address : Bytes) (price : Nat)
    (changes : List NodeChange) : Prop :=
  let paid := paidTo address payment.asset changes
  let missed := overlooked payment.payTo address payment.asset changes
  if paid = price then price < 2 ^ 127 ∧ (2 ^ 128 : Int) ∣ missed
  else price < 2 ^ 127 → ¬ (2 ^ 128 : Int) ∣ paid - missed - price

theorem creditsExactly_iff {payment : PaymentConfig} {address : Bytes} {price : Nat}
    (haddress : DenotesAddress payment.payTo address)
    (hprice : parseUnsigned u128Bound payment.amount = some price) (changes : List NodeChange) :
    CreditsExactly payment address price changes ↔ Legible payment address price changes := by
  have haddress' : DenotesAddress (PaymentRequirements.fromConfig payment).payTo address := haddress
  have hprice' : parseUnsigned u128Bound (PaymentRequirements.fromConfig payment).amount =
      some price := hprice
  rw [CreditsExactly, assertCredits_report_iff haddress' hprice']
  unfold Legible
  simp only [PaymentRequirements.fromConfig]
  split_ifs with hpaid
  · rw [hpaid, iff_true_right rfl]
    have hsub : (price : Int) - overlooked payment.payTo address payment.asset changes - price =
        -overlooked payment.payTo address payment.asset changes := by omega
    rw [hsub, Int.dvd_neg]
  · rw [iff_false_right hpaid, not_and]

omit [Platform] in
theorem overlooked_of_upperCase {payTo : String} (h : ¬ SpeltInLowerCase payTo) (address : Bytes)
    (asset : String) (changes : List NodeChange) :
    overlooked payTo address asset changes = paidTo address asset changes := by
  unfold overlooked
  rw [List.filter_eq_self.mpr fun change _ => by simp [NodeChange.overlooked, h]]

omit [Platform] in
/-- To a recipient that is not written in lower case, no payment of a positive price is legible. -/
theorem not_legible_of_upperCase {payment : PaymentConfig} {address : Bytes} {price : Nat}
    {changes : List NodeChange} (hupper : ¬ SpeltInLowerCase payment.payTo) (hpositive : 0 < price)
    (hpaid : paidTo address payment.asset changes = price) :
    ¬ Legible payment address price changes := by
  unfold Legible
  dsimp only
  rw [overlooked_of_upperCase hupper, if_pos hpaid, hpaid]
  rintro ⟨hprice, hdvd⟩
  omega

/-- A recipient that passed validation stands for one address. -/
theorem exists_denotesAddress {payTo : String} (h : validatePayTo payTo = .ok ()) :
    ∃ address, DenotesAddress payTo address := by
  obtain ⟨digits, rfl, hlength, hall, -⟩ := payTo_of_validate h
  have hlength' : digits.toList.length = 64 := by rw [String.length_toList, hlength]
  obtain ⟨address, haddress⟩ := hexBytes_of_hexdigits digits.toList hall (by rw [hlength'])
  refine ⟨address, ?_, digits, rfl, haddress⟩
  have hchars := congrArg List.length (hexBytes_eq_ok_iff.mp haddress)
  rw [List.length_map, hlength', length_hexChars] at hchars
  omega

/-- **Validation and verification.** Whatever terms a validated config has for a request, they stand
for an address and a price; and on any balance changes of the node, verification accepts exactly what
pays that price to that address, if and only if they are legible. -/
theorem credits_exactly_iff {config : Config} (hvalid : config.validate = .ok ()) (path : String)
    (policy : Option String) :
    let payment := (config.policyFor path policy).payment
    ∃ (address : Bytes) (price : Nat), DenotesAddress payment.payTo address ∧
      parseUnsigned u128Bound payment.amount = some price ∧
      ∀ changes : List NodeChange,
        CreditsExactly payment address price changes ↔ Legible payment address price changes := by
  intro payment
  obtain ⟨price, hprice⟩ := (validate_establishes hvalid path policy).1.amount
  obtain ⟨address, haddress⟩ := exists_denotesAddress
    (validatePayTo_policyFor (checked_of_validate hvalid) path policy)
  exact ⟨address, price, haddress, hprice, creditsExactly_iff haddress hprice⟩

section Example

omit [Platform]

/-- The example's price, credited to an address of `0xab` bytes. -/
def exampleCredit : NodeChange where
  address := List.replicate 32 0xab
  coinType := "0x2::sui::SUI"
  amountText := "1000"
  amount := 1000
  isAddress := rfl
  denotes := by decide

/-- The example, with that address in upper case. -/
def upperCaseConfig : Config :=
  let config := exampleConfig .suiGrpc
  { config with
    payment := { config.payment with
      payTo := "0xABABABABABABABABABABABABABABABABABABABABABABABABABABABABABABABAB" } }

theorem upperCaseConfig_validate : @Config.validate examplePlatform upperCaseConfig = .ok () := by
  rfl

theorem credits_exactly_iff_example :
    let _ : Platform := examplePlatform
    let payment := (upperCaseConfig.policyFor "/" none).payment
    ∃ (address : Bytes) (price : Nat), DenotesAddress payment.payTo address ∧
      parseUnsigned u128Bound payment.amount = some price ∧
      ∀ changes : List NodeChange,
        CreditsExactly payment address price changes ↔ Legible payment address price changes := by
  intro _
  exact credits_exactly_iff upperCaseConfig_validate "/" none

/-- **Paid and refused.** The price is credited to the configured recipient, and the payment is
refused. -/
theorem payment_to_upper_case_refused :
    ¬ ∀ (_ : Platform) (config : Config), config.validate = .ok () →
      ∀ (path : String) (policy : Option String) (address : Bytes) (price : Nat),
        let payment := (config.policyFor path policy).payment
        DenotesAddress payment.payTo address →
        parseUnsigned u128Bound payment.amount = some price →
        ∀ changes : List NodeChange, CreditsExactly payment address price changes := by
  intro h
  let _ : Platform := examplePlatform
  have haddress : DenotesAddress upperCaseConfig.payment.payTo (List.replicate 32 0xab) :=
    ⟨rfl, "ABABABABABABABABABABABABABABABABABABABABABABABABABABABABABABABAB", by decide +kernel, rfl⟩
  have hprice : parseUnsigned u128Bound upperCaseConfig.payment.amount = some 1000 := by
    decide +kernel
  have hexact : CreditsExactly upperCaseConfig.payment (List.replicate 32 0xab) 1000
      [exampleCredit] :=
    h examplePlatform upperCaseConfig upperCaseConfig_validate "/" none _ _ haddress hprice
      [exampleCredit]
  have hlegible : Legible upperCaseConfig.payment (List.replicate 32 0xab) 1000 [exampleCredit] :=
    (creditsExactly_iff haddress hprice _).mp hexact
  have hupper : ¬ SpeltInLowerCase upperCaseConfig.payment.payTo := by decide +kernel
  have hpaid : paidTo (List.replicate 32 0xab) upperCaseConfig.payment.asset [exampleCredit] =
      1000 := by decide +kernel
  exact not_legible_of_upperCase hupper (by decide) hpaid hlegible

end Example

end X402Verifier
