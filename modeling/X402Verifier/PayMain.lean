import X402Verifier.Interaction.Interpret
import X402Verifier.PaymentBuilder
import X402Verifier.Proxy

/-!
# The command-line client

`x402-pay`: it asks for a resource, and when it is challenged builds a payment and asks once more.
What it prints is kept as data (`PayLine`), with the text of each line.

**Theorem (`pay_tells_the_truth`).** Run against the gateway, whatever the gateway's operations
answer, whatever is lost on the way and whatever headers the user adds: at most one payment is
settled; the client reports a settlement or a session only when the gateway settled that transaction
or created that session; and a dry run that brings no payment of its own claims, verifies and settles
nothing.

The client by itself follows a protocol of two requests (`payProtocol`). Each request is answered by
one exchange, and an exchange that settled does not answer 402; that is why the second request, which
only follows a 402, finds nothing settled.
-/

namespace X402Verifier

open RustStd Interaction

/-! ## Arguments -/

structure PayArgs where
  url : String
  method : String := "POST"
  data : String := ""
  headers : List String := []
  rpc : String := "https://fullnode.testnet.sui.io:443"
  dryRun : Bool := false
  paymentPaths : String := "gasless,sponsored,coin-object"

/-- The request, as it is first sent. -/
def PayArgs.call (args : PayArgs) (headers : RawHeaders) : HttpCall :=
  { method := args.method, url := args.url, headers := headers, body := args.data }

/-- `str::split_once`. -/
def splitOnce (s : String) (c : Char) : Option (String × String) :=
  (breakAt [c] s.toList).map fun (before, after) => (String.ofList before, String.ofList after)

/-! ## Output -/

/-- One thing the client prints. -/
inductive PayLine where
  | noPaymentRequired (code : Nat)
  | body (text : String)
  | required (resource : String) (terms : Wire.PaymentRequirements)
  | payingAs (address : String)
  | dryRun (header : String)
  | retrying
  | status (code : Nat)
  | settled (transaction network : String)
  | refused (reason : String)
  | session (token : String)
  | paidBody (text : String)

def PayLine.display : PayLine → List String
  | .noPaymentRequired code => [toString code ++ " (no payment required)"]
  | .body text => [text]
  | .required resource terms =>
    ["402 Payment Required", "  resource  " ++ resource, "  network   " ++ terms.network,
      "  amount    " ++ terms.amount ++ " of " ++ terms.asset, "  payTo     " ++ terms.payTo]
  | .payingAs address => ["  paying as " ++ address]
  | .dryRun header =>
    ["", "--dry-run: built and signed, not sent", "PAYMENT-SIGNATURE: " ++ header]
  | .retrying => ["", "retrying with payment…"]
  | .status code => [toString code]
  | .settled transaction network => ["  settled  tx " ++ transaction ++ " on " ++ network]
  | .refused reason => ["  refused  " ++ reason]
  | .session token =>
    ["  session  " ++ token,
      "           present this as `x-payment-session` to reuse the paid tier"]
  | .paidBody text => ["", text]

/-- What was printed, and the exit code or the error `main` returns. -/
structure PayOutcome where
  printed : List PayLine
  exit : Except Messages Nat

def receiptLines (receipt : Option Wire.SettlementResponse) : List PayLine :=
  match receipt with
  | none => []
  | some r =>
    if r.success then [.settled r.transaction r.network]
    else [.refused (r.errorReason.getD "no reason given")]

def paidLines (paid : Attempt) : List PayLine :=
  [.status paid.status] ++ receiptLines paid.paymentResponse ++
    (paid.session.map .session).toList ++ [.paidBody paid.body]

/-! ## The program -/

inductive PayOp where
  | send (call : HttpCall)
  | loadKey
  | buildPayment (rpc resourceUrl : String) (terms : Wire.PaymentRequirements)
      (paths : List PaymentPath)

/-- A key is answered as the address it signs for, a payment as its header. -/
def PayOp.Ret : PayOp → Type
  | .send _ => Except Messages Attempt
  | .loadKey => Except Messages String
  | .buildPayment .. => Except Messages String

abbrev Pay (α : Type) : Type := Prog PayOp PayOp.Ret α

def payCall (op : PayOp) : Pay op.Ret := Prog.perform op

section Program

variable [Platform]

open Platform

/-- A `Name: value` argument. -/
def parseHeaderArg (h : String) : Except Messages (String × String) :=
  match splitOnce h ':' with
  | some (name, value) => .ok (trim name, trim value)
  | none => .error ["header " ++ debugStr h ++ " is not `Name: value`"]

/-- One of the `--payment-paths`. -/
def PaymentPath.parse (p : String) : Except Messages PaymentPath :=
  if p = "gasless" then .ok .gasless
  else if p = "sponsored" then .ok .sponsored
  else if p = "coin-object" ∨ p = "coin_object" then .ok .coinObject
  else .error ["unknown payment path " ++ debugStr p ++
    "; expected gasless, sponsored or coin-object"]

/-- A comma-separated list of them. -/
def PaymentPath.parseList (s : String) : Except Messages (List PaymentPath) :=
  (((split s ',').map trim).filter fun p => ! p.isEmpty).mapM PaymentPath.parse

/-- Build the payment for these terms, and ask again with it. -/
def payTerms (args : PayArgs) (call : HttpCall) (resourceUrl : String)
    (terms : Wire.PaymentRequirements) : Pay PayOutcome := do
  let required := PayLine.required resourceUrl terms
  if terms.scheme ≠ "exact" then
    pure ⟨[required], .error ["this client implements the `exact` scheme; the resource wants `" ++
      terms.scheme ++ "`"]⟩
  else
    match ← payCall .loadKey with
    | .error (e : Messages) => pure ⟨[required], .error e⟩
    | .ok (address : String) =>
      let paying := [required, .payingAs address]
      match PaymentPath.parseList args.paymentPaths with
      | .error e => pure ⟨paying, .error e⟩
      | .ok paths =>
        match ← payCall (.buildPayment args.rpc resourceUrl terms paths) with
        | .error (e : Messages) => pure ⟨paying, .error e⟩
        | .ok (header : String) =>
          if args.dryRun then pure ⟨paying ++ [.dryRun header], .ok 0⟩
          else
            match ← payCall (.send { call with payment := some header }) with
            | .error (e : Messages) => pure ⟨paying ++ [.retrying], .error e⟩
            | .ok (paid : Attempt) =>
              pure ⟨paying ++ [.retrying] ++ paidLines paid,
                .ok (if paid.status ≠ 200 then 1 else 0)⟩

/-- `main`. -/
def payMain (args : PayArgs) : Pay PayOutcome :=
  match args.headers.mapM parseHeaderArg with
  | .error e => pure ⟨[], .error e⟩
  | .ok headers => do
    match ← payCall (.send (args.call headers)) with
    | .error (e : Messages) => pure ⟨[], .error e⟩
    | .ok (first : Attempt) =>
      if first.status ≠ 402 then
        pure ⟨[.noPaymentRequired first.status, .body first.body], .ok 0⟩
      else
        match first.paymentRequired with
        | none =>
          pure ⟨[], .error ["402 without a PAYMENT-REQUIRED header; is this an x402 endpoint?"]⟩
        | some challenge =>
          match challenge.accepts.head? with
          | none => pure ⟨[], .error ["challenge advertised no payment options"]⟩
          | some terms => payTerms args (args.call headers) challenge.resource.url terms

end Program

/-! ## Two requests -/

/-- What has been asked and answered. -/
inductive PayStage where
  | fresh
  | asked (first : Except Messages Attempt)
  | paid (second : Except Messages Attempt)

theorem mem_receiptLines {receipt : Option Wire.SettlementResponse} {transaction network : String}
    (h : PayLine.settled transaction network ∈ receiptLines receipt) :
    ∃ r, receipt = some r ∧ r.success = true ∧ r.transaction = transaction ∧
      r.network = network := by
  cases receipt with
  | none => cases h
  | some r =>
    simp only [receiptLines] at h
    split_ifs at h with hsuccess
    · cases List.mem_singleton.mp h
      exact ⟨r, rfl, hsuccess, rfl, rfl⟩
    · cases List.mem_singleton.mp h

/-- What is printed was read off the second attempt. -/
structure PayReport (args : PayArgs) (q : PayStage) (outcome : PayOutcome) : Prop where
  settled : ∀ transaction network, .settled transaction network ∈ outcome.printed →
    ∃ paid r, q = .paid (.ok paid) ∧ paid.paymentResponse = some r ∧ r.success = true ∧
      r.transaction = transaction ∧ r.network = network
  session : ∀ token, .session token ∈ outcome.printed →
    ∃ paid, q = .paid (.ok paid) ∧ paid.session = some token
  dryRun : args.dryRun = true → ∀ second, q ≠ .paid second

theorem PayReport.of_quiet {args : PayArgs} {q : PayStage} {outcome : PayOutcome}
    (hsettled : ∀ transaction network, .settled transaction network ∉ outcome.printed)
    (hsession : ∀ token, .session token ∉ outcome.printed)
    (hdry : args.dryRun = true → ∀ second, q ≠ .paid second) : PayReport args q outcome where
  settled transaction network hmem := absurd hmem (hsettled transaction network)
  session token hmem := absurd hmem (hsession token)
  dryRun := hdry

theorem payReport_of_paid {args : PayArgs} (hdry : ¬ args.dryRun = true) {paid : Attempt}
    {exit : Except Messages Nat} (before : List PayLine)
    (hsettled : ∀ transaction network, .settled transaction network ∉ before)
    (hsession : ∀ token, .session token ∉ before) :
    PayReport args (.paid (.ok paid)) ⟨before ++ paidLines paid, exit⟩ where
  settled transaction network hmem := by
    have hreceipt : .settled transaction network ∈ receiptLines paid.paymentResponse := by
      have hpaid := (List.mem_append.mp hmem).resolve_left (hsettled transaction network)
      simpa [paidLines] using hpaid
    obtain ⟨r, hr⟩ := mem_receiptLines hreceipt
    exact ⟨paid, r, rfl, hr⟩
  session token hmem := by
    have hpaid := (List.mem_append.mp hmem).resolve_left (hsession token)
    have hnot : .session token ∉ receiptLines paid.paymentResponse := by
      unfold receiptLines
      cases paid.paymentResponse with
      | none => exact List.not_mem_nil
      | some r => dsimp only; split_ifs <;> simp
    refine ⟨paid, rfl, ?_⟩
    simpa [paidLines, hnot] using hpaid
  dryRun h := absurd h hdry

variable [Platform]

/-- The first request has the user's headers only. The second follows a 402. -/
def payProtocol (args : PayArgs) : Protocol PayOp PayOp.Ret PayStage where
  may q op :=
    match q, op with
    | .fresh, .send call =>
      args.headers.mapM parseHeaderArg = .ok call.headers ∧ call.payment = none
    | .asked (.ok first), .send _ => first.status = 402
    | .asked _, .loadKey => True
    | .asked _, .buildPayment .. => True
    | _, _ => False
  assumes _ _ _ := True
  next q op r :=
    match q, op, r with
    | .fresh, .send _, r => .asked r
    | .asked _, .send _, r => .paid r
    | q, _, _ => q

theorem follows_payTerms (args : PayArgs) {call : HttpCall} (resourceUrl : String)
    (terms : Wire.PaymentRequirements) {first : Attempt} (hstatus : first.status = 402) :
    (payTerms args call resourceUrl terms).Follows (payProtocol args) (PayReport args)
      (.asked (.ok first)) := by
  have hasked : ∀ outcome : PayOutcome,
      (∀ transaction network, .settled transaction network ∉ outcome.printed) →
      (∀ token, .session token ∉ outcome.printed) →
      PayReport args (.asked (.ok first)) outcome :=
    fun outcome hsettled hsession => .of_quiet hsettled hsession fun _ _ => nofun
  unfold payTerms
  dsimp only
  by_cases hscheme : terms.scheme ≠ "exact"
  · rw [if_pos hscheme]
    exact hasked _ (by simp) (by simp)
  rw [if_neg hscheme]
  refine .perform trivial fun key _ => ?_
  cases key with
  | error e => exact hasked _ (by simp) (by simp)
  | ok address =>
    dsimp only
    cases PaymentPath.parseList args.paymentPaths with
    | error e => exact hasked _ (by simp) (by simp)
    | ok paths =>
      refine .perform trivial fun built _ => ?_
      cases built with
      | error e => exact hasked _ (by simp) (by simp)
      | ok header =>
        dsimp only
        by_cases hdry : args.dryRun = true
        · rw [if_pos hdry]
          exact hasked _ (by simp) (by simp)
        rw [if_neg hdry]
        -- Only here is a request sent that carries a payment.
        refine .perform hstatus fun second _ => ?_
        cases second with
        | error e => exact .of_quiet (by simp) (by simp) fun h => absurd h hdry
        | ok paid => exact payReport_of_paid hdry _ (by simp) (by simp)

/-- The client keeps to its two requests. -/
theorem follows_payMain (args : PayArgs) :
    (payMain args).Follows (payProtocol args) (PayReport args) .fresh := by
  unfold payMain
  cases hheaders : args.headers.mapM parseHeaderArg with
  | error e => exact .of_quiet (by simp) (by simp) fun _ _ => nofun
  | ok headers =>
    refine .perform ⟨hheaders, rfl⟩ fun first _ => ?_
    cases first with
    | error e => exact .of_quiet (by simp) (by simp) fun _ _ => nofun
    | ok first =>
      dsimp only
      by_cases hstatus : first.status ≠ 402
      · rw [if_pos hstatus]
        exact .of_quiet (by simp) (by simp) fun _ _ => nofun
      rw [if_neg hstatus]
      cases first.paymentRequired with
      | none => exact .of_quiet (by simp) (by simp) fun _ _ => nofun
      | some challenge =>
        dsimp only
        cases challenge.accepts.head? with
        | none => exact .of_quiet (by simp) (by simp) fun _ _ => nofun
        | some terms => exact follows_payTerms args _ terms (not_not.mp hstatus)

/-! ## Against the gateway -/

/-- What becomes of a request: it is answered, or it is lost, or its answer is. -/
inductive Link where
  | up
  | unsent (e : Messages)
  | lost (e : Messages)

/-- What a run of the client depends on beside the gateway. -/
structure PayWorld where
  envoy : Envoy
  key : Except Messages String
  build : String → String → Wire.PaymentRequirements → List PaymentPath → Except Messages String
  link : HttpCall → Link

/-- Answer a call of the client. -/
def PayWorld.serve (world : PayWorld) (svc : Service) : (op : PayOp) → Handler op.Ret
  | .send call =>
    match world.link call with
    | .unsent e => pure (.error e)
    | .lost e => do
      let _ ← svc.proxied world.envoy call
      pure (.error e)
    | .up => do
      let response ← svc.proxied world.envoy call
      pure (.ok (.ofResponse response))
  | .loadKey => pure world.key
  | .buildPayment rpc resourceUrl terms paths => pure (world.build rpc resourceUrl terms paths)

/-- A run of the client against the gateway. -/
def PayWorld.pays (world : PayWorld) (svc : Service) (args : PayArgs) : Handler PayOutcome :=
  (payMain args).interp (world.serve svc)

/-- The headers the user adds bring no payment. -/
def PayArgs.Unpaid (args : PayArgs) : Prop :=
  ∀ headers, args.headers.mapM parseHeaderArg = .ok headers →
    valuesOf headerPaymentSignature headers = []

/-- What the client says, by what the gateway called. -/
structure Truthful (svc : Service) (args : PayArgs) (calls : List (Event Op.Ret))
    (outcome : PayOutcome) : Prop where
  once : submissions calls ≤ 1
  settled : ∀ transaction network, .settled transaction network ∈ outcome.printed →
    ∃ receipt r, ReceiptBacked svc calls receipt ∧
      readReceipt (encodeHeader receipt.toJson) = some r ∧ r.success = true ∧
      r.transaction = transaction ∧ r.network = network ∧
      (ReadBack receipt.toJson → ∃ payload requirements, ∃ settled : SettlementResponse,
        ⟨.settle payload requirements, .ok settled⟩ ∈ calls ∧ settled.success = true ∧
        settled.transaction = transaction ∧ settled.network = network)
  session : ∀ token, .session token ∈ outcome.printed →
    ∃ payer policy quota ttlSecs, ⟨.createSession payer policy quota ttlSecs, .ok token⟩ ∈ calls
  dryRun : args.dryRun = true → args.Unpaid → ∀ e ∈ calls, e.1.pays = false

/-- What the gateway has called, at each stage of the client. -/
def Kept (svc : Service) (args : PayArgs) : PayStage → List (Event Op.Ret) → Prop
  | .fresh, calls => calls = []
  | .asked first, calls =>
    submissions calls ≤ 1 ∧ (args.Unpaid → ∀ e ∈ calls, e.1.pays = false) ∧
      ∀ a, first = .ok a → a.status = 402 → submissions calls = 0
  | .paid second, calls =>
    submissions calls ≤ 1 ∧ ∀ a, second = .ok a → AttemptBacked svc calls a

section Serve

variable (base64 : Base64Laws) (svc : Service) {world : PayWorld}
  (hplain : world.envoy.Plain)

include base64 hplain

theorem follows_send {post : List (Event Op.Ret) → Except Messages Attempt → Prop}
    (call : HttpCall) (calls : List (Event Op.Ret)) (hunsent : ∀ e, post calls (.error e))
    (hlost : ∀ e response exchange, Exchanged svc call response exchange →
      post (calls ++ exchange) (.error e))
    (hup : ∀ response exchange, Exchanged svc call response exchange →
      post (calls ++ exchange) (.ok (.ofResponse response))) :
    (world.serve svc (.send call)).Follows anyCalls post calls := by
  have hexchange : (svc.proxied world.envoy call).Follows anyCalls
      (fun calls' response => ∃ exchange, calls' = calls ++ exchange ∧
        Exchanged svc call response exchange) calls := by
    have hyields : (svc.proxied world.envoy call).Yields fun exchange response =>
        Exchanged svc call response exchange := by
      intro answer
      have hsubmitted := submissions_proxied svc world.envoy call answer hplain
      exact ⟨attemptBacked_proxied svc _ call answer base64 hplain, hsubmitted.1, hsubmitted.2,
        payless_proxied svc _ call answer hplain⟩
    exact hyields.follows_trace fun exchange response h => ⟨fun _ _ => trivial, exchange, rfl, h⟩
  simp only [PayWorld.serve]
  cases world.link call with
  | unsent e => exact hunsent e
  | lost e =>
    refine hexchange.bind fun calls' response h => ?_
    obtain ⟨exchange, rfl, hexchanged⟩ := h
    exact hlost e response exchange hexchanged
  | up =>
    refine hexchange.bind fun calls' response h => ?_
    obtain ⟨exchange, rfl, hexchanged⟩ := h
    exact hup response exchange hexchanged

/-- **One request of the client.** -/
theorem kept_serve (args : PayArgs) (q : PayStage) (calls : List (Event Op.Ret)) (op : PayOp)
    (hkept : Kept svc args q calls) (hmay : (payProtocol args).may q op) :
    (world.serve svc op).Follows anyCalls
      (fun calls r => (payProtocol args).assumes q op r ∧
        Kept svc args ((payProtocol args).next q op r) calls) calls := by
  cases op with
  | loadKey =>
    cases q with
    | asked first => exact ⟨trivial, hkept⟩
    | _ => exact hmay.elim
  | buildPayment rpc resourceUrl terms paths =>
    cases q with
    | asked first => exact ⟨trivial, hkept⟩
    | _ => exact hmay.elim
  | send call =>
    cases q with
    | fresh =>
      -- The first request: its exchange is all that has been called.
      obtain ⟨hheaders, hpayment⟩ := hmay
      obtain rfl : calls = [] := hkept
      have hsent : call.sent = call.headers := by simp [HttpCall.sent, hpayment]
      have hunpaid : ∀ response exchange, Exchanged svc call response exchange →
          args.Unpaid → ∀ e ∈ exchange, e.1.pays = false := fun response exchange h hargs =>
        h.unpaid (hsent ▸ hargs call.headers hheaders)
      refine follows_send base64 svc hplain call [] (fun e => ⟨trivial, ?_⟩)
        (fun e response exchange h => ⟨trivial, ?_⟩) fun response exchange h => ⟨trivial, ?_⟩
      · refine ⟨Nat.zero_le 1, fun _ e he => absurd he List.not_mem_nil, fun a ha => ?_⟩
        cases ha
      · refine ⟨h.once, hunpaid response exchange h, fun a ha => ?_⟩
        cases ha
      · refine ⟨h.once, hunpaid response exchange h, ?_⟩
        rintro _ ⟨⟩ (hstatus : response.status = 402)
        -- A payment is submitted only after a 2xx, and this is a 402.
        by_contra hsubmitted
        have hdelivered := h.delivered hsubmitted
        omega
    | asked first =>
      cases first with
      | error e => exact hmay.elim
      | ok first =>
        -- The second request: the first got a 402, so it submitted nothing.
        have hzero : submissions calls = 0 := hkept.2.2 first rfl hmay
        have honce : ∀ response exchange, Exchanged svc call response exchange →
            submissions (calls ++ exchange) ≤ 1 := fun response exchange h => by
          rw [submissions_append, hzero, Nat.zero_add]
          exact h.once
        refine follows_send base64 svc hplain call calls (fun e => ⟨trivial, ?_⟩)
          (fun e response exchange h => ⟨trivial, ?_⟩) fun response exchange h => ⟨trivial, ?_⟩
        · refine ⟨hkept.1, fun a ha => ?_⟩
          cases ha
        · refine ⟨honce response exchange h, fun a ha => ?_⟩
          cases ha
        · refine ⟨honce response exchange h, ?_⟩
          rintro _ ⟨⟩
          exact h.attempt.mono (List.subset_append_right _ _)
    | paid second => exact hmay.elim

end Serve

/-- What a stage and a report come to. -/
theorem truthful_of_report {svc : Service} {args : PayArgs} {calls : List (Event Op.Ret)}
    {outcome : PayOutcome} {q : PayStage} (hkept : Kept svc args q calls)
    (hreport : PayReport args q outcome) : Truthful svc args calls outcome where
  once := by
    cases q with
    | fresh => exact (congrArg submissions hkept).le.trans (Nat.zero_le 1)
    | asked first => exact hkept.1
    | paid second => exact hkept.1
  settled transaction network hmem := by
    obtain ⟨paid, r, rfl, hr, hsuccess, htransaction, hnetwork⟩ :=
      hreport.settled transaction network hmem
    obtain ⟨receipt, hbacked, hread, hmirror⟩ := (hkept.2 paid rfl).receipt r hr
    refine ⟨receipt, r, hbacked, hread, hsuccess, htransaction, hnetwork, fun hjson => ?_⟩
    obtain rfl := hmirror hjson
    rcases hbacked with ⟨code, rfl⟩ | ⟨payload, requirements, settled, token, tier, hsettled, rfl, -⟩
    · cases hsuccess
    · refine ⟨payload, requirements, settled, hsettled, ?_⟩
      cases token <;> exact ⟨hsuccess, htransaction, hnetwork⟩
  session token hmem := by
    obtain ⟨paid, rfl, htoken⟩ := hreport.session token hmem
    obtain ⟨payer, policy, tier, hcreated, -⟩ := (hkept.2 paid rfl).session token htoken
    exact ⟨payer, policy, _, _, hcreated⟩
  dryRun hdry hunpaid := by
    cases q with
    | fresh =>
      obtain rfl : calls = [] := hkept
      exact fun e he => absurd he List.not_mem_nil
    | asked first => exact hkept.2.1 hunpaid
    | paid second => exact absurd rfl (hreport.dryRun hdry second)

/-- **The client tells the truth.** Whatever the gateway's operations answer, and whatever is lost
on the way. -/
theorem pay_tells_the_truth (svc : Service) (world : PayWorld) (args : PayArgs) (answer : Answers)
    (base64 : Base64Laws) (hplain : world.envoy.Plain) :
    Truthful svc args ((world.pays svc args).eval answer).2 ((world.pays svc args).eval answer).1 := by
  have hfollows : (world.pays svc args).Follows anyCalls
      (fun calls outcome => ∃ q, Kept svc args q calls ∧ PayReport args q outcome) [] :=
    (follows_payMain args).interp (world.serve svc) (kept_serve base64 svc hplain args) rfl
  obtain ⟨q, hkept, hreport⟩ := (hfollows.eval answer).1
  exact truthful_of_report hkept hreport

omit [Platform] in
theorem pay_tells_the_truth_example :
    let _ : Platform := wirePlatform
    let svc := Service.ofConfig (exampleConfig .stubAcceptAll)
    let world : PayWorld :=
      { envoy := plainEnvoy
        key := .ok "0x1"
        build := fun _ _ _ _ => .ok (encodeHeader exampleAnswer)
        link := fun _ => .up }
    let out := (world.pays svc { url := "/" }).eval fun _ op =>
      (svc.exec (exampleEnv 0) (.ofConfig svc.config []) op).1
    Truthful svc { url := "/" } out.2 out.1 := by
  intro _ svc world out
  exact pay_tells_the_truth svc world { url := "/" } _ (base64Laws_travelPlatform _ _)
    plain_plainEnvoy

end X402Verifier
