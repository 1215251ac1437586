import X402Verifier.OnChain
import X402Verifier.Reference

/-!
# What an accepted payment has established

In `sui-grpc` mode a payment is accepted after about ten checks, several of them on fields the
fullnode may leave out. `Examined` is a payment that got past those on which the code and its
purpose agree. On two others they differ:

* `Passes` is what the code asks for: no failure is reported, and the amounts it can read wrap to
  the price;
* `Affirmed` is what acceptance is for: success is reported, and the amounts add up to the price.

They differ just where the answer leaves something out, or the amounts do not fit 128 bits
(`acceptance_affirmed_iff_answers_complete`).
-/

namespace X402Verifier

open RustStd Interaction Prog SuiVerifier

variable [Platform]

/-- A payment whose terms agree, whose bytes parse, whose signature the node affirms, whose
simulation it returns, and whose pinned objects it reports where they were pinned. -/
structure Examined (f : Facilitator) (payload : PaymentPayload)
    (requirements : PaymentRequirements) (node : Fullnode) where
  sui : SuiExactPayload
  terms : f.TermsAgree payload requirements sui
  parsed : Parsed sui
  executed : ExecutedTransaction
  signature : SignatureValid (node 0 (.verifySignature parsed.transactionBytes parsed.signature
    parsed.transaction.sender))
  simulated : Executed (node 1 (.simulateTransaction parsed.transactionBytes)) executed
  live : Live (fun i => node (i + 2)) (pinned parsed.transaction)

variable {f : Facilitator} {payload : PaymentPayload} {requirements : PaymentRequirements}
  {node : Fullnode}

namespace Examined

/-- The payer: whoever the transaction is sent by. -/
def payer (x : Examined f payload requirements node) : String := x.parsed.transaction.sender

/-- The code takes the simulation for a success that credits the price. -/
def Passes (x : Examined f payload requirements node) : Prop :=
  reportedFailure x.executed "transaction would not succeed" = none ∧
    assertCredits x.executed.balanceChanges requirements = .ok ()

/-- The simulation is reported as a success, and credits the price. -/
def Affirmed (x : Examined f payload requirements node) : Prop :=
  Succeeded x.executed ∧
    ∃ price, parseI128 requirements.amount = some price ∧
      NetCredit x.executed.balanceChanges requirements price

/-- The simulation's answer carries a status, and every amount the price is compared with. -/
def SimulationComplete (x : Examined f payload requirements node) : Prop :=
  (reportedStatus x.executed).isSome = true ∧
    AmountsComplete x.executed.balanceChanges requirements

/-- What passes is affirmed exactly when the answer is complete. -/
theorem affirmed_iff {x : Examined f payload requirements node} (h : x.Passes) :
    x.Affirmed ↔ x.SimulationComplete := by
  obtain ⟨hfail, hcredits⟩ := h
  have hprice := assertCredits_eq_ok.mp hcredits
  refine and_congr (succeeded_iff_reported hfail) ?_
  rw [← netCredit_iff_complete hprice rfl]
  constructor
  · rintro ⟨price, hparse, hcredit⟩
    obtain rfl := Option.some.inj (hprice.symm.trans hparse)
    exact hcredit
  · exact fun hcredit => ⟨_, hprice, hcredit⟩

/-- The node's answer to the broadcast, which comes after the pinned objects. -/
def broadcast (x : Examined f payload requirements node) : Except Status TransactionResponse :=
  node (2 + (pinned x.parsed.transaction).length)
    (.executeTransaction x.parsed.transactionBytes [x.parsed.signature])

end Examined

theorem parsed_unique {sui : SuiExactPayload} (p p' : Parsed sui) : p = p' := by
  obtain ⟨tb, sb, t, s, hd, ht, hs⟩ := p
  obtain ⟨tb', sb', t', s', hd', ht', hs'⟩ := p'
  obtain ⟨rfl, rfl⟩ : tb = tb' ∧ sb = sb' := by
    rw [hd] at hd'
    simpa using hd'
  obtain rfl : t = t' := by
    rw [ht] at ht'
    simpa using ht'
  obtain rfl : s = s' := by
    rw [hs] at hs'
    simpa using hs'
  rfl

omit [Platform] in
theorem executed_unique {answer : Except Status TransactionResponse}
    {executed executed' : ExecutedTransaction} (h : Executed answer executed)
    (h' : Executed answer executed') : executed = executed' := by
  obtain ⟨response, rfl, hr⟩ := h
  obtain ⟨response', heq, hr'⟩ := h'
  cases heq
  exact Option.some.inj (hr.symm.trans hr')

theorem examined_unique (x y : Examined f payload requirements node) : x = y := by
  obtain ⟨sui, terms, parsed, executed, hsig, hsim, hlive⟩ := x
  obtain ⟨sui', terms', parsed', executed', hsig', hsim', hlive'⟩ := y
  obtain rfl : sui = sui' := Except.ok.inj (terms.payload.symm.trans terms'.payload)
  obtain rfl := parsed_unique parsed parsed'
  obtain rfl := executed_unique hsim hsim'
  rfl

/-! ## What the facilitator accepts -/

/-- Verification returns for an examined payment that passes. -/
theorem Examined.Passes.returns_verify {x : Examined f payload requirements node} (h : x.Passes) :
    Returns (SuiVerifier.verify x.sui requirements) node ⟨x.payer, x.executed.digest.getD ""⟩
      (2 + (pinned x.parsed.transaction).length) :=
  SuiVerifier.returns_verify.mpr
    ⟨x.parsed, x.executed, x.signature, x.simulated, h.1, x.live, h.2, rfl, rfl⟩

/-- Verification accepts exactly the examined payments that pass, and names their payer. -/
theorem verify_eq_ok {network : String} {sui : SuiVerifier} {payer : String} :
    (((⟨.suiGrpc, network, some sui⟩ : Facilitator).verify payload requirements).run.eval node).1 =
        .ok payer ↔
      ∃ x : Examined ⟨.suiGrpc, network, some sui⟩ payload requirements node,
        x.Passes ∧ x.payer = payer := by
  rw [← exists_returns]
  unfold Facilitator.verify
  simp only [returns_liftExcept_bind, Facilitator.checkTerms_eq_ok]
  constructor
  · rintro ⟨n, body, hterms, h⟩
    obtain ⟨verified, _, _, hverify, h, rfl⟩ := returns_bind.mp h
    obtain ⟨p, executed, hsig, hexec, hfail, hlive, hcredits, rfl, rfl⟩ := returns_verify.mp hverify
    obtain ⟨rfl, rfl⟩ := returns_pure.mp h
    exact ⟨⟨body, hterms, p, executed, hsig, hexec, hlive⟩, ⟨hfail, hcredits⟩, rfl⟩
  · rintro ⟨x, hpasses, rfl⟩
    exact ⟨_, x.sui, x.terms,
      returns_bind.mpr ⟨_, _, 0, hpasses.returns_verify, returns_pure.mpr ⟨rfl, rfl⟩, rfl⟩⟩

/-- Settlement returns a receipt exactly for those whose broadcast reports no failure. -/
theorem settle_eq_ok {network : String} {sui : SuiVerifier} {receipt : SettlementResponse} :
    (((⟨.suiGrpc, network, some sui⟩ : Facilitator).settle payload requirements).run.eval node).1 =
        .ok receipt ↔
      ∃ (x : Examined ⟨.suiGrpc, network, some sui⟩ payload requirements node)
        (executed : ExecutedTransaction),
        x.Passes ∧ Executed x.broadcast executed ∧
        reportedFailure executed "transaction failed on chain" = none ∧
        receipt = (⟨.suiGrpc, network, some sui⟩ : Facilitator).successReceipt x.payer
          (executed.digest.getD "") requirements.amount := by
  rw [← exists_returns]
  unfold Facilitator.settle
  simp only [returns_liftExcept_bind, Facilitator.checkTerms_eq_ok]
  constructor
  · rintro ⟨n, body, hterms, h⟩
    obtain ⟨verified, _, _, hverify, h₁, rfl⟩ := returns_bind.mp h
    obtain ⟨p, executed, hsig, hexec, hfail, hlive, hcredits, rfl, rfl⟩ := returns_verify.mp hverify
    obtain ⟨digest, _, _, hsettle, h₂, rfl⟩ := returns_bind.mp h₁
    obtain ⟨out, hout, hok, rfl, rfl⟩ := (returns_settle p).mp hsettle
    obtain ⟨rfl, rfl⟩ := returns_pure.mp h₂
    refine ⟨⟨body, hterms, p, executed, hsig, hexec, hlive⟩, out, ⟨hfail, hcredits⟩, ?_, hok, rfl⟩
    simpa [Examined.broadcast] using hout
  · rintro ⟨x, out, hpasses, hout, hok, rfl⟩
    have hsettle : Returns (SuiVerifier.settle x.sui)
        (fun i => node (i + (2 + (pinned x.parsed.transaction).length)))
        (out.digest.getD "") 1 :=
      (returns_settle x.parsed).mpr
        ⟨out, by simpa [Examined.broadcast] using hout, hok, rfl, rfl⟩
    exact ⟨_, x.sui, x.terms, returns_bind.mpr ⟨_, _, 1 + 0, hpasses.returns_verify,
      returns_bind.mpr ⟨_, 1, 0, hsettle, returns_pure.mpr ⟨rfl, rfl⟩, rfl⟩, rfl⟩⟩

/-! ## Acceptance and its purpose -/

/-- Whatever is accepted has been affirmed: by verification, with its payer; by settlement, along
with a success of the broadcast. -/
def AcceptanceAffirmed (f : Facilitator) (payload : PaymentPayload)
    (requirements : PaymentRequirements) (node : Fullnode) : Prop :=
  (∀ payer, ((f.verify payload requirements).run.eval node).1 = .ok payer →
    ∃ x : Examined f payload requirements node, x.Affirmed ∧ x.payer = payer) ∧
  ∀ receipt, ((f.settle payload requirements).run.eval node).1 = .ok receipt →
    receipt.success = true →
      ∃ (x : Examined f payload requirements node) (executed : ExecutedTransaction),
        x.Affirmed ∧ receipt.payer = some x.payer ∧ Executed x.broadcast executed ∧
          Succeeded executed

/-- Unless a check refuses the payment, the simulation's answer is complete, and so is an answer to
the broadcast that reports no failure. -/
def AnswersComplete (f : Facilitator) (payload : PaymentPayload)
    (requirements : PaymentRequirements) (node : Fullnode) : Prop :=
  ∀ x : Examined f payload requirements node, x.Passes →
    x.SimulationComplete ∧
      ∀ executed, Executed x.broadcast executed →
        reportedFailure executed "transaction failed on chain" = none →
          (reportedStatus executed).isSome = true

/-- **Acceptance.** In `sui-grpc` mode, with the client that mode always has, what is accepted has
been affirmed exactly when the fullnode's answers leave nothing out that the decision rests on. -/
theorem acceptance_affirmed_iff_answers_complete (network : String) (sui : SuiVerifier)
    (payload : PaymentPayload) (requirements : PaymentRequirements) (node : Fullnode) :
    AcceptanceAffirmed ⟨.suiGrpc, network, some sui⟩ payload requirements node ↔
      AnswersComplete ⟨.suiGrpc, network, some sui⟩ payload requirements node := by
  constructor
  · rintro ⟨hverify, hsettle⟩ x hpasses
    have hcomplete : x.SimulationComplete := by
      obtain ⟨y, hy, -⟩ := hverify x.payer (verify_eq_ok.mpr ⟨x, hpasses, rfl⟩)
      exact (Examined.affirmed_iff hpasses).mp (examined_unique x y ▸ hy)
    refine ⟨hcomplete, fun executed hexec hfail => ?_⟩
    obtain ⟨y, executed', -, -, hexec', hsucc⟩ :=
      hsettle _ (settle_eq_ok.mpr ⟨x, executed, hpasses, hexec, hfail, rfl⟩) rfl
    obtain rfl := examined_unique x y
    obtain rfl := executed_unique hexec hexec'
    exact (succeeded_iff_reported hfail).mp hsucc
  · intro hcomplete
    constructor
    · intro payer hok
      obtain ⟨x, hpasses, hpayer⟩ := verify_eq_ok.mp hok
      exact ⟨x, (Examined.affirmed_iff hpasses).mpr (hcomplete x hpasses).1, hpayer⟩
    · intro receipt hok _
      obtain ⟨x, executed, hpasses, hexec, hfail, rfl⟩ := settle_eq_ok.mp hok
      obtain ⟨hsim, hbroadcast⟩ := hcomplete x hpasses
      exact ⟨x, executed, (Examined.affirmed_iff hpasses).mpr hsim, rfl, hexec,
        (succeeded_iff_reported hfail).mpr (hbroadcast executed hexec hfail)⟩

/-! ## An answer without a status -/

/-- A fullnode that affirms the signature and credits the price, but reports no effects. -/
def silentNode : Fullnode := fun _ call =>
  match call with
  | .verifySignature .. => .ok { isValid := some true }
  | .simulateTransaction _ =>
    let payment := (exampleConfig .suiGrpc).payment
    .ok ⟨some ⟨some "example", none, [⟨some payment.payTo, some payment.asset, some "1000"⟩]⟩⟩
  | .getObject _ => .ok {}
  | .executeTransaction .. => .ok { transaction := some {} }

omit [Platform] in
/-- **Accepted without a status.** The simulation's answer has no effects, nothing says the
transaction would execute, and the payment is accepted. -/
theorem accepted_without_status :
    ¬ ∀ (_ : Platform) (network : String) (sui : SuiVerifier) (payload : PaymentPayload)
      (requirements : PaymentRequirements) (node : Fullnode),
      AcceptanceAffirmed ⟨.suiGrpc, network, some sui⟩ payload requirements node := by
  intro h
  let _ : Platform := examplePlatform
  have hverify := (h examplePlatform "sui:testnet" ⟨"sui:testnet"⟩ chainPayload
    (.fromConfig (exampleConfig .suiGrpc).payment) silentNode).1 exampleSender (by decide +kernel)
  obtain ⟨x, ⟨⟨status, hstatus, -⟩, -⟩, -⟩ := hverify
  obtain ⟨response, hanswer, hexecuted⟩ := x.simulated
  cases hanswer
  rw [← Option.some.inj hexecuted] at hstatus
  cases hstatus

end X402Verifier
