import X402Verifier.Demo
import X402Verifier.PolicyTable

/-!
# Whom the page shows

`balances` of `x402-demo`: the wallets the demo's payments go to, read from the verifier's policy table.
The loop goes through the rows and names a wallet after every target that credits it.

**What is shown** (`listsPayees_addPayees`). Each wallet is listed once, under the names of the charged
rows that pay it, in the order of the table. **And paid** (`payees_are_paid`): in every run of the
verifier, what is settled for a charged target goes to the one wallet listed under its name.
-/

namespace X402Verifier

open RustStd Interaction

/-- One row of the verifier's policy table, as far as the demo reads it. -/
structure PolicyRow where
  name : String
  payTo : String

/-- What the demo reads of a row. -/
def PolicyView.row (view : PolicyView) : PolicyRow := ⟨view.name, view.payTo⟩

structure Payee where
  target : String
  address : String
  balance : Option Nat

/-- The wallets on both sides of the payment. -/
structure Balances where
  payer : String
  payerBalance : Option Nat
  payees : List Payee
  asset : String

/-- What the page is made of: the payer's address when there is a key, the rows of the table when it
could be read, and the balance of an address when it is one and could be read. -/
structure WalletReads where
  payer : Option String
  table : Option (List PolicyRow)
  balance : String → Option Nat

/-- Is the policy one the demo is charged for? -/
def charged (name : String) : Bool := targets.any fun t => t.id == name && !t.free

/-- One more target that credits the wallet. -/
def Payee.credit (payee : Payee) (name : String) : Payee :=
  { payee with target := payee.target ++ " + " ++ name }

def creditPayee (row : PolicyRow) : List Payee → Option (List Payee)
  | [] => none
  | payee :: rest =>
    if payee.address == row.payTo then some (payee.credit row.name :: rest)
    else (creditPayee row rest).map (payee :: ·)

def addPayee (balance : String → Option Nat) (payees : List Payee) (row : PolicyRow) : List Payee :=
  if ¬ charged row.name then payees
  else (creditPayee row payees).getD (payees ++ [⟨row.name, row.payTo, balance row.payTo⟩])

/-- `GET /balances`. There is no answer without a wallet. -/
def balances (reads : WalletReads) (asset : String) : Option Balances :=
  reads.payer.map fun payer =>
    { payer := payer
      payerBalance := reads.balance payer
      payees := (reads.table.getD []).foldl (addPayee reads.balance) []
      asset := asset }

/-! ## The loop -/

/-- The charged targets whose rows pay a wallet, in the order of the table. -/
def creditors (rows : List PolicyRow) (address : String) : List String :=
  (rows.filter fun row => charged row.name && row.payTo == address).map (·.name)

/-- Each wallet is listed once, under all of its creditors, and none is left out. -/
structure ListsPayees (balance : String → Option Nat) (rows : List PolicyRow)
    (payees : List Payee) : Prop where
  distinct : (payees.map (·.address)).Nodup
  listed : ∀ payee ∈ payees, creditors rows payee.address ≠ [] ∧
    payee.target = " + ".intercalate (creditors rows payee.address) ∧
    payee.balance = balance payee.address
  complete : ∀ row ∈ rows, charged row.name → ∃ payee ∈ payees, payee.address = row.payTo

theorem creditors_append (rows : List PolicyRow) (row : PolicyRow) (address : String) :
    creditors (rows ++ [row]) address = creditors rows address ++
      if charged row.name ∧ row.payTo = address then [row.name] else [] := by
  by_cases h : charged row.name ∧ row.payTo = address
  · simp [creditors, h]
  · simp [creditors, h]

theorem creditPayee_eq_none {row : PolicyRow} {payees : List Payee} :
    creditPayee row payees = none ↔ ∀ payee ∈ payees, payee.address ≠ row.payTo := by
  induction payees with
  | nil => simp [creditPayee]
  | cons payee rest ih =>
    by_cases h : payee.address = row.payTo
    · simp [creditPayee, h]
    · simp [creditPayee, h, ih]

/-- Exactly the wallet of the row is credited. -/
theorem creditPayee_spec {row : PolicyRow} {payees payees' : List Payee}
    (hdistinct : (payees.map (·.address)).Nodup) (h : creditPayee row payees = some payees') :
    payees'.map (·.address) = payees.map (·.address) ∧
      ∀ payee ∈ payees', (payee ∈ payees ∧ payee.address ≠ row.payTo) ∨
        ∃ old ∈ payees, old.address = row.payTo ∧ payee = old.credit row.name := by
  induction payees generalizing payees' with
  | nil => cases h
  | cons payee rest ih =>
    obtain ⟨hnot, hrest⟩ := List.nodup_cons.mp hdistinct
    by_cases haddress : payee.address = row.payTo
    · rw [creditPayee, if_pos (by simpa using haddress)] at h
      cases h
      refine ⟨rfl, fun other hother => ?_⟩
      rcases List.mem_cons.mp hother with rfl | hother
      · exact .inr ⟨payee, List.mem_cons_self, haddress, rfl⟩
      · refine .inl ⟨List.mem_cons_of_mem _ hother, fun heq => hnot ?_⟩
        exact List.mem_map.mpr ⟨other, hother, heq.trans haddress.symm⟩
    · rw [creditPayee, if_neg (by simpa using haddress)] at h
      obtain ⟨rest', hcredited, rfl⟩ := Option.map_eq_some_iff.mp h
      obtain ⟨haddresses, hmem⟩ := ih hrest hcredited
      refine ⟨congrArg (payee.address :: ·) haddresses, fun other hother => ?_⟩
      rcases List.mem_cons.mp hother with rfl | hother
      · exact .inl ⟨List.mem_cons_self, haddress⟩
      · rcases hmem other hother with ⟨hold, hne⟩ | ⟨old, hold, heq⟩
        · exact .inl ⟨List.mem_cons_of_mem _ hold, hne⟩
        · exact .inr ⟨old, List.mem_cons_of_mem _ hold, heq⟩

section Step

variable {balance : String → Option Nat} {rows : List PolicyRow} {payees : List Payee}
  (h : ListsPayees balance rows payees) {row : PolicyRow}

include h

theorem ListsPayees.skip (hcharged : ¬ charged row.name) :
    ListsPayees balance (rows ++ [row]) payees where
  distinct := h.distinct
  listed payee hpayee := by
    rw [creditors_append, if_neg fun hrow => hcharged hrow.1, List.append_nil]
    exact h.listed payee hpayee
  complete other hother hpaid := by
    rcases List.mem_append.mp hother with hother | hother
    · exact h.complete other hother hpaid
    · exact absurd (List.mem_singleton.mp hother ▸ hpaid) hcharged

theorem ListsPayees.credit {payees' : List Payee} (hcharged : charged row.name)
    (hcredited : creditPayee row payees = some payees') :
    ListsPayees balance (rows ++ [row]) payees' := by
  obtain ⟨haddresses, hmem⟩ := creditPayee_spec h.distinct hcredited
  have hsome : ∃ payee ∈ payees, payee.address = row.payTo := by
    by_contra hnone
    have hfresh : creditPayee row payees = none :=
      creditPayee_eq_none.mpr fun payee hpayee heq => hnone ⟨payee, hpayee, heq⟩
    rw [hfresh] at hcredited
    cases hcredited
  have hkept : ∀ payee ∈ payees, ∃ payee' ∈ payees', payee'.address = payee.address := by
    intro payee hpayee
    exact List.mem_map.mp (haddresses ▸ List.mem_map_of_mem hpayee)
  refine ⟨haddresses ▸ h.distinct, fun payee hpayee => ?_, fun other hother hpaid => ?_⟩
  · rw [creditors_append]
    rcases hmem payee hpayee with ⟨hold, hne⟩ | ⟨old, hold, haddress, rfl⟩
    · rw [if_neg fun hrow => hne hrow.2.symm, List.append_nil]
      exact h.listed payee hold
    · obtain ⟨hnonempty, htarget, hbalance⟩ := h.listed old hold
      have hsame : (old.credit row.name).address = old.address := rfl
      rw [hsame, if_pos ⟨hcharged, haddress.symm⟩]
      refine ⟨by simp, ?_, hbalance⟩
      rw [String.intercalate_append_of_ne_nil hnonempty (by simp), String.intercalate_singleton,
        ← htarget]
      rfl
  · rcases List.mem_append.mp hother with hother | hother
    · obtain ⟨payee, hpayee, heq⟩ := h.complete other hother hpaid
      obtain ⟨payee', hpayee', heq'⟩ := hkept payee hpayee
      exact ⟨payee', hpayee', heq'.trans heq⟩
    · obtain rfl := List.mem_singleton.mp hother
      obtain ⟨payee, hpayee, heq⟩ := hsome
      obtain ⟨payee', hpayee', heq'⟩ := hkept payee hpayee
      exact ⟨payee', hpayee', heq'.trans heq⟩

theorem ListsPayees.push (hcharged : charged row.name) (hfresh : creditPayee row payees = none) :
    ListsPayees balance (rows ++ [row]) (payees ++ [⟨row.name, row.payTo, balance row.payTo⟩]) := by
  have hnew := creditPayee_eq_none.mp hfresh
  -- Nobody was charged for this wallet before: it would have been listed.
  have hnone : creditors rows row.payTo = [] := by
    by_contra hsome
    obtain ⟨name, hname⟩ := List.exists_mem_of_ne_nil _ hsome
    obtain ⟨other, hother, -⟩ := List.mem_map.mp hname
    obtain ⟨hmem, hpaid⟩ := List.mem_filter.mp hother
    rw [Bool.and_eq_true, beq_iff_eq] at hpaid
    obtain ⟨payee, hpayee, heq⟩ := h.complete other hmem hpaid.1
    exact hnew payee hpayee (heq.trans hpaid.2)
  refine ⟨?_, fun payee hpayee => ?_, fun other hother hpaid => ?_⟩
  · rw [List.map_append, List.nodup_append]
    refine ⟨h.distinct, List.nodup_singleton _, fun address haddress other hother heq => ?_⟩
    obtain ⟨payee, hpayee, rfl⟩ := List.mem_map.mp haddress
    exact hnew payee hpayee (heq.trans (List.mem_singleton.mp hother))
  · rw [creditors_append]
    rcases List.mem_append.mp hpayee with hpayee | hpayee
    · rw [if_neg fun hrow => hnew payee hpayee hrow.2.symm, List.append_nil]
      exact h.listed payee hpayee
    · obtain rfl := List.mem_singleton.mp hpayee
      rw [if_pos ⟨hcharged, rfl⟩, hnone]
      exact ⟨by simp, by simp, rfl⟩
  · rcases List.mem_append.mp hother with hother | hother
    · obtain ⟨payee, hpayee, heq⟩ := h.complete other hother hpaid
      exact ⟨payee, List.mem_append_left _ hpayee, heq⟩
    · obtain rfl := List.mem_singleton.mp hother
      exact ⟨_, List.mem_append_right _ (List.mem_singleton_self _), rfl⟩

/-- **One row.** -/
theorem ListsPayees.addPayee :
    ListsPayees balance (rows ++ [row]) (X402Verifier.addPayee balance payees row) := by
  unfold X402Verifier.addPayee
  split_ifs with hcharged
  · cases hcredited : creditPayee row payees with
    | none => exact h.push hcharged hcredited
    | some payees' => exact h.credit hcharged hcredited
  · exact h.skip hcharged

end Step

/-- **The table.** -/
theorem listsPayees_addPayees (balance : String → Option Nat) (rows : List PolicyRow) :
    ListsPayees balance rows (rows.foldl (addPayee balance) []) := by
  induction rows using List.reverseRecOn with
  | nil => exact ⟨List.nodup_nil, nofun, nofun⟩
  | append_singleton rows row ih =>
    rw [List.foldl_concat]
    exact ih.addPayee

/-! ## Who is paid -/

variable [Platform]

omit [Platform] in
theorem mem_creditors_apiPolicies {svc : Service} {name address : String} :
    name ∈ creditors (svc.apiPolicies.map (·.row)) address ↔
      charged name ∧ (svc.config.policies.get? name).isSome ∧
        (svc.config.policyFor "" (some name)).payment.payTo = address := by
  simp only [creditors, List.mem_map, List.mem_filter, Bool.and_eq_true, beq_iff_eq]
  constructor
  · rintro ⟨row, ⟨⟨view, hview, rfl⟩, hcharged, rfl⟩, rfl⟩
    obtain ⟨name, hname, rfl⟩ := mem_apiPolicies.mp hview
    exact ⟨hcharged, hname, rfl⟩
  · rintro ⟨hcharged, hname, rfl⟩
    exact ⟨_, ⟨⟨svc.config.policyView name, mem_apiPolicies.mpr ⟨name, hname, rfl⟩, rfl⟩, hcharged,
      rfl⟩, rfl⟩

omit [Platform] in
theorem creditors_sorted (svc : Service) (address : String) :
    (creditors (svc.apiPolicies.map (·.row)) address).Pairwise (· < ·) := by
  refine List.pairwise_map.mpr (List.Pairwise.filter _ (List.pairwise_map.mpr ?_))
  exact apiPolicies_sorted svc

/-- **The payees are paid.** Read the balances off the table of a service. In every run of it, what a
request for a charged target settles goes to a wallet the page lists once, under the names, in order, of
exactly those charged targets whose payments it receives. -/
theorem payees_are_paid (svc : Service) (shared : AppState) (acts : List SystemAction) {a : Nat}
    {name : String} (hname : (svc.config.policies.get? name).isSome) (hcharged : charged name)
    (hunder : ∀ msg, .deliver a msg ∈ acts → msg.Under name) {reads : WalletReads}
    (htable : reads.table = some (svc.apiPolicies.map (·.row))) {asset : String} {shown : Balances}
    (hshown : balances reads asset = some shown) :
    ∃ payee ∈ shown.payees, (shown.payees.map (·.address)).Nodup ∧
      (∃ names, payee.target = " + ".intercalate names ∧ name ∈ names ∧ names.Pairwise (· < ·) ∧
        ∀ n, n ∈ names ↔ charged n ∧ (svc.config.policies.get? n).isSome ∧
          (svc.config.policyFor "" (some n)).payment.payTo = payee.address) ∧
      ∀ payload requirements answer,
        (a, ⟨.settle payload requirements, answer⟩) ∈ (svc.front.run (frontStart shared) acts).log →
        requirements.payTo = payee.address := by
  have hpayees : shown.payees = (svc.apiPolicies.map (·.row)).foldl (addPayee reads.balance) [] := by
    obtain ⟨payer, -, rfl⟩ := Option.map_eq_some_iff.mp hshown
    rw [htable, Option.getD_some]
  have hlists := listsPayees_addPayees reads.balance (svc.apiPolicies.map (·.row))
  rw [← hpayees] at hlists
  have hrow : (svc.config.policyView name).row ∈ svc.apiPolicies.map (·.row) :=
    List.mem_map_of_mem (mem_apiPolicies.mpr ⟨name, hname, rfl⟩)
  obtain ⟨payee, hpayee, haddress⟩ := hlists.complete _ hrow hcharged
  refine ⟨payee, hpayee, hlists.distinct, ⟨_, (hlists.listed payee hpayee).2.1, ?_,
    creditors_sorted svc _, fun n => mem_creditors_apiPolicies⟩, ?_⟩
  · exact mem_creditors_apiPolicies.mpr ⟨hcharged, hname, haddress.symm⟩
  · intro payload requirements answer hmem
    exact (keeps_of_run hname shared hunder hmem).payTo.trans haddress.symm

/-- Two targets that share a wallet. -/
def sharedConfig : Config :=
  { exampleConfig .stubAcceptAll with
    policies := Table.insert (Table.insert ∅ "graphql" {}) "spin" { amount := some "2000" } }

/-- The page of a wallet without funds. -/
def exampleReads : WalletReads :=
  { payer := some exampleSender
    table := some ((Service.ofConfig sharedConfig).apiPolicies.map (·.row))
    balance := fun _ => some 0 }

example : (balances exampleReads "0x2::sui::SUI").map (·.payees.map (·.target)) =
    some ["graphql + spin"] := by decide

/-- A request that pays for one of them. -/
def spinRun : List SystemAction :=
  .deliver 0 (.check (rootRequest (paymentHeaders "2000")
    (Table.insert ∅ policyContextKey "spin"))) :: List.replicate 3 (.advance 0 (exampleEnv 1000))

omit [Platform] in
theorem receipted_spinRun :
    let _ : Platform := paymentPlatform "2000"
    let svc := Service.ofConfig sharedConfig
    (svc.front.run (frontStart (.ofConfig sharedConfig [])) spinRun).log.countP
      (receipted ·.2) = 1 := by
  intro _ svc
  have hne : utf8 (paymentText "2000") ≠ [] := by decide +kernel
  have htell := svc.tell_check_of_payment
    (rootRequest (paymentHeaders "2000") (Table.insert ∅ policyContextKey "spin"))
    (presentedToken_paymentHeaders "2000" hne) (presentedPayment_paymentHeaders "2000" hne)
  rw [spinRun, Machine.run_cons, Machine.step_deliver (l := ⟨.fresh, []⟩) rfl]
  rw [show ∀ msg, svc.front.handle ⟨.fresh, []⟩ msg = (svc.tell .fresh msg).bind _ from
    fun _ => rfl, htell]
  decide +kernel

omit [Platform] in
theorem payees_are_paid_example :
    let _ : Platform := paymentPlatform "2000"
    let svc := Service.ofConfig sharedConfig
    let log := (svc.front.run (frontStart (.ofConfig sharedConfig [])) spinRun).log
    log.countP (receipted ·.2) = 1 ∧
      ∃ shown, balances exampleReads "0x2::sui::SUI" = some shown ∧
        ∃ payee ∈ shown.payees, (shown.payees.map (·.address)).Nodup ∧
          (∃ names, payee.target = " + ".intercalate names ∧ "spin" ∈ names ∧
            names.Pairwise (· < ·) ∧
            ∀ n, n ∈ names ↔ charged n ∧ (svc.config.policies.get? n).isSome ∧
              (svc.config.policyFor "" (some n)).payment.payTo = payee.address) ∧
          ∀ payload requirements answer, (0, ⟨.settle payload requirements, answer⟩) ∈ log →
            requirements.payTo = payee.address := by
  intro _ svc _
  have hunder : ∀ msg, .deliver 0 msg ∈ spinRun → msg.Under "spin" := by
    intro msg hmem
    simp [spinRun] at hmem
    subst hmem
    rfl
  obtain ⟨shown, hshown⟩ : ∃ shown, balances exampleReads "0x2::sui::SUI" = some shown := ⟨_, rfl⟩
  have htable : exampleReads.table = some (svc.apiPolicies.map (·.row)) := rfl
  exact ⟨receipted_spinRun, shown, hshown,
    payees_are_paid svc _ spinRun rfl (by decide) hunder htable hshown⟩

end X402Verifier
