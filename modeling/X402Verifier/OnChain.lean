import X402Verifier.Facilitator

/-!
# What the fullnode has to answer

When do the steps of `SuiVerifier` return? Each is described by the answers it needs, through the
rules of `Prog.Returns`, with the calls it makes counted so that the steps after it are answered
from the right place: the signature is call 0, the simulation call 1, the pinned objects follow in
order, and the broadcast comes last.

`Parsed` is a payload whose bytes could be read. `credited_eq` says when the sum the code computes
is the sum of the amounts: when every amount can be read and the total fits 128 bits.
-/

namespace X402Verifier

open RustStd Interaction Prog

variable {α : Type} {node : Fullnode} {n : Nat}

theorem returns_liftExcept {e : Except FacilitatorError α} {b : α} :
    Returns (liftExcept e) node b n ↔ e = .ok b ∧ n = 0 := returns_mk

theorem returns_rpc_bind {r : Rpc} {f : r.Ret → Chain α} {b : α} :
    Returns (rpc r >>= f) node b n ↔
      ∃ k, Returns (f (node 0 r)) (fun i => node (i + 1)) b k ∧ n = 1 + k := by
  rw [returns_bind]
  constructor
  · rintro ⟨answer, m, k, hcall, h, rfl⟩
    obtain ⟨rfl, rfl⟩ := returns_lift_perform.mp hcall
    exact ⟨k, h, rfl⟩
  · rintro ⟨k, h, rfl⟩
    exact ⟨_, 1, k, returns_lift_perform.mpr ⟨rfl, rfl⟩, h, rfl⟩

theorem returns_liftExcept_bind {β : Type} {e : Except FacilitatorError β} {f : β → Chain α}
    {b : α} :
    Returns (liftExcept e >>= f) node b n ↔ ∃ a, e = .ok a ∧ Returns (f a) node b n := by
  rw [returns_bind]
  constructor
  · rintro ⟨a, m, k, hlift, h, rfl⟩
    obtain ⟨rfl, rfl⟩ := returns_liftExcept.mp hlift
    exact ⟨a, rfl, by simpa using h⟩
  · rintro ⟨a, rfl, h⟩
    exact ⟨a, 0, n, returns_liftExcept.mpr ⟨rfl, rfl⟩, h, by simp⟩

namespace SuiVerifier

/-! ## Credits -/

/-- The amounts of the recipient's balance changes in the required asset, unreadable ones as
`none`. -/
def creditAmounts (balanceChanges : List BalanceChange) (requirements : PaymentRequirements) :
    List (Option Int) := (balanceChanges.filter (credits requirements)).map amountOf

/-- The net credit is `expected`: every amount is there, and they add up to it. -/
def NetCredit (balanceChanges : List BalanceChange) (requirements : PaymentRequirements)
    (expected : Int) : Prop :=
  ∃ amounts : List Int,
    creditAmounts balanceChanges requirements = amounts.map some ∧ amounts.sum = expected

/-- The amounts are all there, and their sum fits an `i128`. -/
def AmountsComplete (balanceChanges : List BalanceChange) (requirements : PaymentRequirements) :
    Prop :=
  ∃ amounts : List Int, creditAmounts balanceChanges requirements = amounts.map some ∧
    -(2 ^ 127) ≤ amounts.sum ∧ amounts.sum < 2 ^ 127

theorem wrapI128_add (a b : Int) : wrapI128 (wrapI128 a + b) = wrapI128 (a + b) := by
  simp [wrapI128]

theorem wrapI128_eq_self {a : Int} (hlo : -(2 ^ 127) ≤ a) (hhi : a < 2 ^ 127) :
    wrapI128 a = a := by
  unfold wrapI128
  rw [Int.bmod_eq_of_le] <;> omega

theorem wrapI128_bounds (a : Int) : -(2 ^ 127) ≤ wrapI128 a ∧ wrapI128 a < 2 ^ 127 := by
  unfold wrapI128
  have hlo := Int.le_bmod (x := a) (m := 2 ^ 128) (by decide)
  have hhi := Int.bmod_lt (x := a) (m := 2 ^ 128) (by decide)
  omega

/-- A running sum that wraps at every step is the wrapped sum. -/
theorem foldl_wrapI128 (amounts : List Int) (start : Int) :
    amounts.foldl (fun sum amount => wrapI128 (sum + amount)) (wrapI128 start) =
      wrapI128 (start + amounts.sum) := by
  induction amounts generalizing start with
  | nil => simp
  | cons a amounts ih =>
    rw [List.foldl_cons, wrapI128_add, ih, List.sum_cons, Int.add_assoc]

/-- When every amount is there, the code computes their sum up to wrap-around. -/
theorem credited_eq {balanceChanges : List BalanceChange} {requirements : PaymentRequirements}
    {amounts : List Int} (h : creditAmounts balanceChanges requirements = amounts.map some) :
    credited balanceChanges requirements = wrapI128 amounts.sum := by
  have hread : (balanceChanges.filter (credits requirements)).filterMap amountOf = amounts := by
    calc (balanceChanges.filter (credits requirements)).filterMap amountOf
      _ = (creditAmounts balanceChanges requirements).filterMap id := by
        rw [creditAmounts, List.filterMap_map]
        rfl
      _ = amounts := by simp [h]
  rw [credited, hread]
  simpa [wrapI128] using foldl_wrapI128 amounts 0

theorem parseI128_bounds {s : String} {v : Int} (h : parseI128 s = some v) :
    -(2 ^ 127) ≤ v ∧ v < 2 ^ 127 := by
  unfold parseI128 at h
  simpa using (Option.filter_eq_some_iff.mp h).2

/-- A computed credit that matches is the net credit exactly when the amounts are complete. -/
theorem netCredit_iff_complete {balanceChanges : List BalanceChange}
    {requirements : PaymentRequirements} {expected : Int}
    (hexpected : parseI128 requirements.amount = some expected)
    (h : credited balanceChanges requirements = expected) :
    NetCredit balanceChanges requirements expected ↔
      AmountsComplete balanceChanges requirements := by
  constructor
  · rintro ⟨amounts, hamounts, rfl⟩
    exact ⟨amounts, hamounts, parseI128_bounds hexpected⟩
  · rintro ⟨amounts, hamounts, hlo, hhi⟩
    refine ⟨amounts, hamounts, ?_⟩
    rw [← wrapI128_eq_self hlo hhi, ← credited_eq hamounts, h]

/-! ## Statuses -/

/-- The answer says the transaction succeeded. -/
def Succeeded (executed : ExecutedTransaction) : Prop :=
  ∃ status, reportedStatus executed = some status ∧ status.success = some true

/-- The code takes an answer for a success when it reports no failure. -/
theorem reportedFailure_eq_none {executed : ExecutedTransaction} {default : String} :
    reportedFailure executed default = none ↔
      ∀ status, reportedStatus executed = some status → status.success = some true := by
  unfold reportedFailure
  cases reportedStatus executed with
  | none => simp
  | some status => cases h : status.success <;> simp [h]

theorem succeeded_iff_reported {executed : ExecutedTransaction} {default : String}
    (h : reportedFailure executed default = none) :
    Succeeded executed ↔ (reportedStatus executed).isSome = true := by
  rw [reportedFailure_eq_none] at h
  constructor
  · rintro ⟨status, hs, -⟩
    simp [hs]
  · intro hs
    obtain ⟨status, hs⟩ := Option.isSome_iff_exists.mp hs
    exact ⟨status, hs, h status hs⟩

/-! ## Answers -/

/-- The node affirms the signature. -/
def SignatureValid (answer : Except Status VerifySignatureResponse) : Prop :=
  ∃ response, answer = .ok response ∧ response.isValid = some true

/-- The node returns this transaction. -/
def Executed (answer : Except Status TransactionResponse) (executed : ExecutedTransaction) : Prop :=
  ∃ response, answer = .ok response ∧ response.transaction = some executed

/-- The node reports the object at this version. -/
def AtVersion (answer : Except Status GetObjectResponse) (version : Nat) : Prop :=
  ∃ response, answer = .ok response ∧ response.object.bind (·.version) = some version

/-- The `i`-th call asks for the `i`-th object, and the node reports it at its pinned version. -/
def Live (node : Fullnode) (objects : List ObjectReference) : Prop :=
  ∀ i r, objects[i]? = some r → AtVersion (node i (.getObject r.objectId)) r.version

theorem live_cons {r : ObjectReference} {rest : List ObjectReference} :
    Live node (r :: rest) ↔
      AtVersion (node 0 (.getObject r.objectId)) r.version ∧
        Live (fun i => node (i + 1)) rest := by
  constructor
  · intro h
    exact ⟨h 0 r rfl, fun i r' hr' => h (i + 1) r' hr'⟩
  · rintro ⟨h0, hrest⟩ i r' hr'
    cases i with
    | zero =>
      obtain rfl : r = r' := by simpa using hr'
      exact h0
    | succ i => exact hrest i r' hr'

theorem readOutcome_eq_ok {unanswered refused : String → FacilitatorError}
    {noTransaction noDetail : String} {answer : Except Status TransactionResponse}
    {executed : ExecutedTransaction} :
    readOutcome unanswered refused noTransaction noDetail answer = .ok executed ↔
      Executed answer executed ∧ reportedFailure executed noDetail = none := by
  unfold readOutcome Executed
  cases answer with
  | error status => simp
  | ok response =>
    cases ht : response.transaction with
    | none => simp [ht]
    | some executed' =>
      simp only [ht, Except.ok.injEq, exists_eq_left', Option.some.injEq]
      cases hf : reportedFailure executed' noDetail with
      | some detail =>
        simp only [reduceCtorEq, false_iff]
        rintro ⟨rfl, hnone⟩
        rw [hf] at hnone
        cases hnone
      | none =>
        simp only [Except.ok.injEq]
        exact ⟨fun h => ⟨h, h ▸ hf⟩, fun h => h.1⟩

/-! ## The steps -/

theorem returns_checkSignature {bytes : Bytes} {signature : UserSignature} {sender : String} :
    Returns (checkSignature bytes signature sender) node () n ↔
      SignatureValid (node 0 (.verifySignature bytes signature sender)) ∧ n = 1 := by
  unfold checkSignature SignatureValid
  rw [returns_rpc_bind]
  cases node 0 (.verifySignature bytes signature sender) with
  | error status => simp [not_returns_throw]
  | ok response =>
    cases hvalid : response.isValid.getD false with
    | false =>
      have hne : response.isValid ≠ some true := by rintro h; simp [h] at hvalid
      simp [hvalid, not_returns_throw, hne]
    | true =>
      have heq : response.isValid = some true := by
        simpa [Option.getD_eq_iff] using hvalid
      simp [returns_pure, heq]

theorem returns_simulate {bytes : Bytes} {executed : ExecutedTransaction} :
    Returns (simulate bytes) node executed n ↔
      Executed (node 0 (.simulateTransaction bytes)) executed ∧
        reportedFailure executed "transaction would not succeed" = none ∧ n = 1 := by
  unfold simulate
  rw [returns_rpc_bind]
  simp only [returns_liftExcept]
  constructor
  · rintro ⟨k, ⟨hread, rfl⟩, rfl⟩
    obtain ⟨hexec, hfail⟩ := readOutcome_eq_ok.mp hread
    exact ⟨hexec, hfail, rfl⟩
  · rintro ⟨hexec, hfail, rfl⟩
    exact ⟨0, ⟨readOutcome_eq_ok.mpr ⟨hexec, hfail⟩, rfl⟩, rfl⟩

theorem currentVersion_eq_ok_some {objectId : String} {answer : Except Status GetObjectResponse}
    {version : Nat} :
    currentVersion objectId answer = .ok (some version) ↔ AtVersion answer version := by
  unfold currentVersion AtVersion
  cases answer with
  | ok response => simp
  | error status => cases h : status.notFound <;> simp [h]

/-- Every object is asked for in turn, and each is where it was pinned. -/
theorem returns_assertPinnedAreLive {objects : List ObjectReference} :
    Returns (assertPinnedAreLive objects) node () n ↔ Live node objects ∧ n = objects.length := by
  induction objects generalizing node n with
  | nil => simp [assertPinnedAreLive, returns_pure, Live]
  | cons r rest ih =>
    unfold assertPinnedAreLive
    rw [returns_rpc_bind, live_cons]
    simp only [returns_liftExcept_bind]
    constructor
    · rintro ⟨k, ⟨current, hcurrent, h⟩, rfl⟩
      split_ifs at h with hne
      · obtain ⟨_, _, _, hthrow, -⟩ := returns_bind.mp h
        exact absurd hthrow not_returns_throw
      · obtain rfl : current = some r.version := not_not.mp hne
        obtain ⟨hlive, rfl⟩ := ih.mp h
        exact ⟨⟨currentVersion_eq_ok_some.mp hcurrent, hlive⟩, by simp [Nat.add_comm]⟩
    · rintro ⟨⟨hat, hlive⟩, rfl⟩
      refine ⟨rest.length, ⟨some r.version, currentVersion_eq_ok_some.mpr hat, ?_⟩, by
        simp [Nat.add_comm]⟩
      rw [if_neg (not_not.mpr rfl)]
      exact ih.mpr ⟨hlive, rfl⟩

variable [Platform]

theorem assertCredits_eq_ok {balanceChanges : List BalanceChange}
    {requirements : PaymentRequirements} :
    assertCredits balanceChanges requirements = .ok () ↔
      parseI128 requirements.amount = some (credited balanceChanges requirements) := by
  unfold assertCredits
  cases parseI128 requirements.amount with
  | none => simp
  | some expected =>
    by_cases h : credited balanceChanges requirements = expected
    · simp [h]
    · simp [h, Ne.symm h]

/-- A payload whose two byte strings decode and parse. -/
structure Parsed (payload : SuiExactPayload) where
  transactionBytes : Bytes
  signatureBytes : Bytes
  transaction : Transaction
  signature : UserSignature
  decoded : decode payload = .ok (transactionBytes, signatureBytes)
  transaction_parsed : parseTransaction transactionBytes = .ok transaction
  signature_parsed : parseSignature signatureBytes = .ok signature

/-- **Verification.** It returns exactly when the payload can be read and every check passes as the
code makes it. -/
theorem returns_verify {payload : SuiExactPayload} {requirements : PaymentRequirements}
    {verified : VerifiedPayment} :
    Returns (verify payload requirements) node verified n ↔
      ∃ (p : Parsed payload) (executed : ExecutedTransaction),
        SignatureValid (node 0 (.verifySignature p.transactionBytes p.signature
          p.transaction.sender)) ∧
        Executed (node 1 (.simulateTransaction p.transactionBytes)) executed ∧
        reportedFailure executed "transaction would not succeed" = none ∧
        Live (fun i => node (i + 2)) (pinned p.transaction) ∧
        assertCredits executed.balanceChanges requirements = .ok () ∧
        verified = ⟨p.transaction.sender, executed.digest.getD ""⟩ ∧
        n = 2 + (pinned p.transaction).length := by
  unfold verify
  simp only [returns_liftExcept_bind]
  constructor
  -- A run that returns is taken apart call by call; one that passes is put together likewise.
  · rintro ⟨⟨transactionBytes, signatureBytes⟩, hdecoded, transaction, htransaction, signature,
      hsignature, h⟩
    obtain ⟨_, _, _, hcheck, h₁, rfl⟩ := returns_bind.mp h
    obtain ⟨hsig, rfl⟩ := returns_checkSignature.mp hcheck
    obtain ⟨executed, _, _, hsim, h₂, rfl⟩ := returns_bind.mp h₁
    obtain ⟨hexec, hfail, rfl⟩ := returns_simulate.mp hsim
    obtain ⟨_, _, _, hinputs, h₃, rfl⟩ := returns_bind.mp h₂
    obtain ⟨hlive, rfl⟩ := returns_assertPinnedAreLive.mp hinputs
    obtain ⟨_, hcredits, h₄⟩ := returns_liftExcept_bind.mp h₃
    obtain ⟨rfl, rfl⟩ := returns_pure.mp h₄
    refine ⟨⟨transactionBytes, signatureBytes, transaction, signature, hdecoded, htransaction,
      hsignature⟩, executed, hsig, hexec, hfail, hlive, hcredits, rfl, ?_⟩
    dsimp only
    omega
  · rintro ⟨p, executed, hsig, hexec, hfail, hlive, hcredits, rfl, rfl⟩
    refine ⟨_, p.decoded, _, p.transaction_parsed, _, p.signature_parsed, ?_⟩
    refine returns_bind.mpr ⟨(), 1, 1 + (pinned p.transaction).length,
      returns_checkSignature.mpr ⟨hsig, rfl⟩, ?_, by omega⟩
    refine returns_bind.mpr ⟨executed, 1, (pinned p.transaction).length,
      returns_simulate.mpr ⟨hexec, hfail, rfl⟩, ?_, rfl⟩
    refine returns_bind.mpr ⟨(), (pinned p.transaction).length, 0,
      returns_assertPinnedAreLive.mpr ⟨hlive, rfl⟩, ?_, rfl⟩
    exact returns_liftExcept_bind.mpr ⟨(), hcredits, returns_pure.mpr ⟨rfl, rfl⟩⟩

/-- **The broadcast.** It returns exactly when the node returns a transaction and reports no
failure. -/
theorem returns_settle {payload : SuiExactPayload} {digest : String} (p : Parsed payload) :
    Returns (settle payload) node digest n ↔
      ∃ executed : ExecutedTransaction,
        Executed (node 0 (.executeTransaction p.transactionBytes [p.signature])) executed ∧
        reportedFailure executed "transaction failed on chain" = none ∧
        digest = executed.digest.getD "" ∧ n = 1 := by
  unfold settle
  rw [p.decoded]
  simp only [returns_liftExcept_bind, Except.ok.injEq, exists_eq_left', p.signature_parsed]
  unfold execute
  rw [returns_rpc_bind]
  simp only [returns_liftExcept_bind, returns_pure]
  constructor
  · rintro ⟨k, ⟨executed, hread, rfl, rfl⟩, rfl⟩
    obtain ⟨hexec, hfail⟩ := readOutcome_eq_ok.mp hread
    exact ⟨executed, hexec, hfail, rfl, rfl⟩
  · rintro ⟨executed, hexec, hfail, rfl, rfl⟩
    exact ⟨0, ⟨executed, readOutcome_eq_ok.mpr ⟨hexec, hfail⟩, rfl, rfl⟩, rfl⟩

end SuiVerifier

end X402Verifier
