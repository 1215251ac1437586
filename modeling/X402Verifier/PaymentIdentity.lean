import X402Verifier.OnChainAcceptance
import X402Verifier.ReplayClaim

/-!
# Accepted payments and their ids

The replay claim is taken under `paymentId`, and skipped for a payment that has none. Acceptance
and the id decode the same text, but not in the same way: in `sui-grpc` mode a transaction that is
not base64 is refused, while stub mode accepts it and only its id is missing.
-/

namespace X402Verifier

open RustStd Interaction

variable [Platform]

/-- Verification or settlement accepts the payment, for this fullnode. -/
def Facilitator.Accepts (f : Facilitator) (payload : PaymentPayload)
    (requirements : PaymentRequirements) (node : Fullnode) : Prop :=
  (∃ payer, ((f.verify payload requirements).run.eval node).1 = .ok payer) ∨
    ∃ receipt, ((f.settle payload requirements).run.eval node).1 = .ok receipt

/-- Stub mode is not asked to accept a transaction that is not base64. -/
def Facilitator.TransactionDecodes (f : Facilitator) (payload : PaymentPayload)
    (requirements : PaymentRequirements) : Prop :=
  f.mode = .stubAcceptAll → ∀ sui, f.checkTerms payload requirements = .ok sui →
    ∃ bytes, Platform.b64Decode (trim sui.transaction) = .ok bytes

theorem isSome_paymentId {payload : PaymentPayload} {sui : SuiExactPayload}
    (h : SuiExactPayload.fromValue payload.payload = .ok sui) :
    (paymentId payload).isSome = true ↔
      ∃ bytes, Platform.b64Decode (trim sui.transaction) = .ok bytes := by
  unfold paymentId
  rw [h]
  cases hb : Platform.b64Decode (trim sui.transaction) <;> simp [hb]

theorem decode_eq_ok {sui : SuiExactPayload} {transaction signature : Bytes}
    (h : SuiVerifier.decode sui = .ok (transaction, signature)) :
    Platform.b64Decode (trim sui.transaction) = .ok transaction := by
  unfold SuiVerifier.decode at h
  cases ht : Platform.b64Decode (trim sui.transaction) with
  | error e => simp [ht] at h
  | ok bytes =>
    cases hs : Platform.b64Decode (trim sui.signature) with
    | error e => simp [ht, hs] at h
    | ok bytes' =>
      rw [ht, hs] at h
      exact congrArg _ (Prod.ext_iff.mp (Except.ok.inj h)).1

/-- In stub mode verification accepts whatever agrees with the terms. -/
theorem stub_accepts {network : String} {client : Option SuiVerifier} {payload : PaymentPayload}
    {requirements : PaymentRequirements} {sui : SuiExactPayload}
    (h : (⟨.stubAcceptAll, network, client⟩ : Facilitator).checkTerms payload requirements = .ok sui)
    (node : Fullnode) :
    (⟨.stubAcceptAll, network, client⟩ : Facilitator).Accepts payload requirements node := by
  refine .inl ⟨stubPayer sui.transaction, Prog.exists_returns.mp ⟨0, ?_⟩⟩
  exact returns_liftExcept_bind.mpr ⟨sui, h, Prog.returns_pure.mpr ⟨rfl, rfl⟩⟩

theorem checkTerms_of_accepts {f : Facilitator} {payload : PaymentPayload}
    {requirements : PaymentRequirements} {node : Fullnode}
    (h : f.Accepts payload requirements node) :
    ∃ sui, f.checkTerms payload requirements = .ok sui := by
  rcases h with ⟨payer, h⟩ | ⟨receipt, h⟩
  · obtain ⟨n, h⟩ := Prog.exists_returns.mpr h
    obtain ⟨sui, hterms, -⟩ := returns_liftExcept_bind.mp h
    exact ⟨sui, hterms⟩
  · obtain ⟨n, h⟩ := Prog.exists_returns.mpr h
    obtain ⟨sui, hterms, -⟩ := returns_liftExcept_bind.mp h
    exact ⟨sui, hterms⟩

/-- Without a client, `sui-grpc` mode accepts nothing. -/
theorem not_accepts_without_client {network : String} {payload : PaymentPayload}
    {requirements : PaymentRequirements} {node : Fullnode} :
    ¬ (⟨.suiGrpc, network, none⟩ : Facilitator).Accepts payload requirements node := by
  rintro (⟨payer, h⟩ | ⟨receipt, h⟩)
  · obtain ⟨n, h⟩ := Prog.exists_returns.mpr h
    obtain ⟨sui, -, h⟩ := returns_liftExcept_bind.mp h
    exact Prog.not_returns_throw h
  · obtain ⟨n, h⟩ := Prog.exists_returns.mpr h
    obtain ⟨sui, -, h⟩ := returns_liftExcept_bind.mp h
    exact Prog.not_returns_throw h

/-- In `sui-grpc` mode the transaction of an accepted payment has been decoded. -/
theorem examined_of_accepts {network : String} {client : SuiVerifier} {payload : PaymentPayload}
    {requirements : PaymentRequirements} {node : Fullnode}
    (h : (⟨.suiGrpc, network, some client⟩ : Facilitator).Accepts payload requirements node) :
    Nonempty (Examined ⟨.suiGrpc, network, some client⟩ payload requirements node) := by
  rcases h with ⟨payer, h⟩ | ⟨receipt, h⟩
  · obtain ⟨x, -⟩ := verify_eq_ok.mp h
    exact ⟨x⟩
  · obtain ⟨x, -⟩ := settle_eq_ok.mp h
    exact ⟨x⟩

/-- Every accepted payment has an id, unless stub mode is asked for one that does not decode. -/
theorem accepts_has_id_iff (f : Facilitator) (payload : PaymentPayload)
    (requirements : PaymentRequirements) :
    (∀ node, f.Accepts payload requirements node → (paymentId payload).isSome = true) ↔
      f.TransactionDecodes payload requirements := by
  obtain ⟨mode, network, client⟩ := f
  cases mode with
  | stubAcceptAll =>
    constructor
    · intro h _ sui hterms
      have hbody := (Facilitator.checkTerms_eq_ok.mp hterms).payload
      exact (isSome_paymentId hbody).mp (h emptyNode (stub_accepts hterms emptyNode))
    · intro h node haccepts
      obtain ⟨sui, hterms⟩ := checkTerms_of_accepts haccepts
      have hbody := (Facilitator.checkTerms_eq_ok.mp hterms).payload
      exact (isSome_paymentId hbody).mpr (h rfl sui hterms)
  | suiGrpc =>
    constructor
    · intro _ hmode
      cases hmode
    · intro _ node haccepts
      cases client with
      | none => exact absurd haccepts not_accepts_without_client
      | some client =>
        obtain ⟨x⟩ := examined_of_accepts haccepts
        exact (isSome_paymentId x.terms.payload).mpr ⟨_, decode_eq_ok x.parsed.decoded⟩

/-- **Payment identity.** Every payment the facilitator may accept has an id exactly when stub mode
is not asked to accept a transaction that is not base64. And then every run that keeps the payment's
record mints at most one session for it. -/
theorem accepted_payment_is_claimed_iff (svc : Service) (payload : PaymentPayload)
    (requirements : PaymentRequirements) :
    ((∀ node, svc.facilitator.Accepts payload requirements node →
        (paymentId payload).isSome = true) ↔
      svc.facilitator.TransactionDecodes payload requirements) ∧
    (svc.facilitator.TransactionDecodes payload requirements →
      ∀ node, svc.facilitator.Accepts payload requirements node →
        ∃ id, paymentId payload = some id ∧
          ∀ (shared : AppState) (acts : List SystemAction),
            Machine.Along svc.machine (KeepsRecord id) (SystemState.start shared) acts →
              sessionsFor id (svc.machine.run (SystemState.start shared) acts).log ≤ 1) := by
  refine ⟨accepts_has_id_iff _ _ _, fun hdecodes node haccepts => ?_⟩
  obtain ⟨id, hid⟩ := Option.isSome_iff_exists.mp
    ((accepts_has_id_iff _ _ _).mpr hdecodes node haccepts)
  refine ⟨id, hid, fun shared acts hkeep => ?_⟩
  obtain ⟨q, c, h⟩ := tracks_run svc shared acts hkeep
  rw [h.sessions]
  exact Nat.le_trans c.granted_le_spent c.spent_le

omit [Platform] in
/-- **Accepted without an id.** Stub mode accepts a payment whose transaction is `!!`, and that has
no id. -/
theorem accepted_without_id :
    ¬ ∀ (_ : Platform) (f : Facilitator) (payload : PaymentPayload)
      (requirements : PaymentRequirements) (node : Fullnode),
      f.Accepts payload requirements node → (paymentId payload).isSome = true := by
  intro h
  let _ : Platform := examplePlatform
  have hsome := h examplePlatform (.ofConfig (exampleConfig .stubAcceptAll)) (payloadOf "AA==" "!!")
    (.fromConfig (exampleConfig .stubAcceptAll).payment) emptyNode (stub_accepts (by rfl) emptyNode)
  revert hsome
  decide +kernel

end X402Verifier
