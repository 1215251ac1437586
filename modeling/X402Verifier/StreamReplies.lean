import X402Verifier.IdentityHeaders
import X402Verifier.RefusalFraming
import X402Verifier.SettlementPaths

/-!
# The replies of a stream

**Theorem (`replies_are_backed`).** On every stream, whatever is sent and answered, each reply sets
headers of known names only, each once, removes none that it sets, and says nothing that was not
answered: the meter it shows is one trio, and is the limiter's answer, a spent session's, or the
whole quota of a session that was just created; the tier and the payer go to the upstream only, and
the payer was verified or holds the session; a token it hands out was created in this step; and a
receipt it carries is that of this step's settlement, or of a refusal.

The response phase shows what the request phase measured, so the proof carries the stream's meter
from message to message. It also carries that a stream with a pending payment has measured nothing:
that is why the response phase never shows a free-tier meter beside a session's.
-/

namespace X402Verifier

open RustStd Interaction

/-! ## What a reply says -/

def ProcessingResponse.sets : ProcessingResponse → List HeaderValueOption
  | .requestHeaders mutation | .responseHeaders mutation => (mutation.map (·.setHeaders)).getD []
  | .immediateResponse response => response.headers
  | .default => []

def ProcessingResponse.removes : ProcessingResponse → List String
  | .requestHeaders mutation | .responseHeaders mutation => (mutation.map (·.removeHeaders)).getD []
  | _ => []

def Meter.sent (meter : Meter) : List HeaderValueOption :=
  meter.headers.map fun (name, value) => header name value

/-- Is this a header of a meter? -/
def isMeterHeader (h : HeaderValueOption) : Bool :=
  startsWith h.key "x-x402-free-" || startsWith h.key "x-x402-session-"

/-- The names a reply may set, those of meters apart. -/
def replyNames : List String :=
  [headerTier, headerPayer, "grpc-timeout", headerPaymentRequired, headerPaymentResponse,
    headerPaymentSession, headerServerTiming, "content-type", "retry-after", "grpc-status",
    "grpc-message"]

def meterNames : List String :=
  ["x-x402-free-remaining", "x-x402-free-limit", "x-x402-free-reset", "x-x402-session-remaining",
    "x-x402-session-quota", "x-x402-session-expires"]

/-- The names that are told to the upstream only. -/
def identityNames : List String := [headerTier, headerPayer, "grpc-timeout"]

/-- No header is set twice, or set and removed, and each is set over what was there. Names are
compared without case, and there are no others than these. -/
structure ProcessingResponse.Tidy (reply : ProcessingResponse) : Prop where
  known : ∀ h ∈ reply.sets, h.key ∈ replyNames ++ meterNames
  distinct : (reply.sets.map fun h => toAsciiLowercase h.key).Nodup
  overwrites : ∀ h ∈ reply.sets, h.appendAction = .overwriteIfExistsOrAdd
  kept : ∀ h ∈ reply.sets, ∀ name ∈ reply.removes, eqIgnoreAsciiCase h.key name = false

variable [Platform]

/-- The call that measured this. -/
inductive MeterBacked (calls : List (Event Op.Ret)) : Meter → Prop
  | unknown : MeterBacked calls .unknown
  | free {label : String} {ip : IpAddr} {maxRequests windowSecs : Nat} {allowance : Allowance}
      (checked : ⟨.check label ip maxRequests windowSecs, allowance⟩ ∈ calls) :
      MeterBacked calls (.free allowance.remaining allowance.limit allowance.resetSecs)
  | spent {token : String} {policy : Option String} {payer : String}
      {remaining quota expiresAt now : Nat}
      (consumed : ⟨.consume token policy, .accepted payer remaining quota expiresAt⟩ ∈ calls)
      (read : ⟨.nowEpochSecs, now⟩ ∈ calls) :
      MeterBacked calls (.session remaining quota (expiresAt - now))
  | granted {payer : String} {policy : Option String} {quota ttlSecs : Nat} {token : String}
      (created : ⟨.createSession payer policy quota ttlSecs, .ok token⟩ ∈ calls) :
      MeterBacked calls (.session quota quota ttlSecs)

omit [Platform] in
theorem MeterBacked.mono {calls calls' : List (Event Op.Ret)} {meter : Meter}
    (h : MeterBacked calls meter) (hsubset : calls ⊆ calls') : MeterBacked calls' meter := by
  cases h with
  | unknown => exact .unknown
  | free checked => exact .free (hsubset checked)
  | spent consumed read => exact .spent (hsubset consumed) (hsubset read)
  | granted created => exact .granted (hsubset created)

/-- The payer was verified, or holds the session. -/
def PayerBacked (calls : List (Event Op.Ret)) (payer : String) : Prop :=
  (∃ payload requirements, ⟨.verify payload requirements, .ok payer⟩ ∈ calls) ∨
    ∃ token policy remaining quota expiresAt,
      ⟨.consume token policy, .accepted payer remaining quota expiresAt⟩ ∈ calls

/-- A receipt of these calls' settlement, with the session they created, or of a refusal. -/
def ReceiptBacked (svc : Service) (calls : List (Event Op.Ret)) (receipt : SettlementResponse) :
    Prop :=
  (∃ code, receipt = svc.facilitator.failureReceipt code) ∨
    ∃ payload requirements settled token, ∃ tier : PaidTierConfig,
      ⟨.settle payload requirements, .ok settled⟩ ∈ calls ∧ receipt = withGrant settled token tier ∧
      ∀ t, token = some t → ∃ payer policy,
        ⟨.createSession payer policy tier.quota tier.durationSecs, .ok t⟩ ∈ calls

/-- What a reply says was answered: its meter in all of the stream's calls, the rest in this step's
own. -/
structure ReplyBacked (svc : Service) (calls earlier : List (Event Op.Ret))
    (reply : ProcessingResponse) : Prop where
  tidy : reply.Tidy
  meter : ∃ meter, reply.sets.filter isMeterHeader = meter.sent ∧
    MeterBacked (calls ++ earlier) meter
  identity : (∃ mutation, reply = .requestHeaders mutation) ∨
    ∀ name ∈ identityNames, sentUnder name reply.sets = []
  payer : ∀ payer ∈ sentUnder headerPayer reply.sets, PayerBacked calls payer
  token : ∀ token ∈ sentUnder headerPaymentSession reply.sets,
    ∃ payer policy, ∃ tier : PaidTierConfig,
      ⟨.createSession payer policy tier.quota tier.durationSecs, .ok token⟩ ∈ calls ∧
      reply.sets.filter isMeterHeader = (Meter.session tier.quota tier.quota tier.durationSecs).sent
  receipt : ∀ text ∈ sentUnder headerPaymentResponse reply.sets, ∃ receipt,
    text = encodeHeader receipt.toJson ∧ ReceiptBacked svc calls receipt

/-! ## Decisions -/

/-- What a decision rests on. -/
def Decision.Backed (svc : Service) (calls : List (Event Op.Ret)) : Decision → Prop
  | .allow _ payer _ _ pending meter =>
    MeterBacked calls meter ∧ (∀ p, payer = some p → PayerBacked calls p) ∧
      (pending.isSome = true → meter = .unknown)
  | .deny _ receipt meter =>
    MeterBacked calls meter ∧ ∀ r, receipt = some r → ∃ code, r = svc.facilitator.failureReceipt code

/-- Any calls at all. -/
abbrev anyCalls : Protocol Op Op.Ret (List (Event Op.Ret)) := .trace fun _ => True

theorem backed_refusePayment (svc : Service) (terms : Terms) (error code : String)
    (trace : List (Event Op.Ret)) : (svc.refusePayment terms error code).Backed svc trace :=
  ⟨.unknown, fun _ hr => ⟨code, (Option.some.inj hr).symm⟩⟩

theorem Service.DecideCalls.backed {svc : Service} {headers : HeaderView}
    {clientIp : Option IpAddr} {terms : Terms} {policy : Option String}
    {calls trace : List (Event Op.Ret)} {d : Decision}
    (h : svc.DecideCalls headers clientIp terms policy .deferred calls d) (htrace : calls ⊆ trace) :
    d.Backed svc trace := by
  cases h with
  | session honored =>
    cases honored with
    | @accepted text presented payer remaining quota expiresAt now =>
      refine ⟨.spent (htrace (.head _)) (htrace (.tail _ (.head _))), fun p hp => ?_, nofun⟩
      obtain rfl := Option.some.inj hp
      exact .inr ⟨text, policy, remaining, quota, expiresAt, htrace (.head _)⟩
  | payment passed presented paid =>
    cases paid with
    | malformed => exact backed_refusePayment svc terms _ _ trace
    | refused => exact backed_refusePayment svc terms _ _ trace
    | unverified => exact backed_refusePayment svc terms _ _ trace
    | @verified payload claim claimed payer =>
      refine ⟨.unknown, fun p hp => .inl ⟨payload, terms.requirements, ?_⟩, fun _ => rfl⟩
      obtain rfl := Option.some.inj hp
      exact htrace (by simp)
  | free passed unpaid served =>
    cases served with
    | unaddressed => exact ⟨.unknown, nofun⟩
    | admitted => exact ⟨.free (htrace (List.mem_append_right _ (List.mem_singleton_self _))), nofun, nofun⟩
    | exceeded => exact ⟨.free (htrace (List.mem_append_right _ (List.mem_singleton_self _))), nofun⟩

/-- **A deferred decision.** -/
theorem backed_decide (svc : Service) (headers : HeaderView) (clientIp : Option IpAddr)
    (path : String) (policy : Option String) (resourceUrl : String)
    (trace : List (Event Op.Ret)) :
    (svc.decide headers clientIp path policy resourceUrl .deferred).Follows anyCalls
      (fun trace d => d.Backed svc trace) trace :=
  (calls_decide svc headers clientIp path policy resourceUrl .deferred).follows_trace
    fun _ _ h => ⟨fun _ _ => trivial, h.backed (List.subset_append_right _ _)⟩

/-! ## Headers -/

omit [Platform] in
theorem distinct_names : ((replyNames ++ meterNames).map toAsciiLowercase).Nodup := by
  decide

omit [Platform] in
theorem isMeterHeader_of_replyName {h : HeaderValueOption} (hname : h.key ∈ replyNames) :
    isMeterHeader h = false := by
  have hnames : ∀ name ∈ replyNames,
      (startsWith name "x-x402-free-" || startsWith name "x-x402-session-") = false := by
    decide
  exact hnames h.key hname

omit [Platform] in
theorem isMeterHeader_of_meterName {h : HeaderValueOption} (hname : h.key ∈ meterNames) :
    isMeterHeader h = true := by
  have hnames : ∀ name ∈ meterNames,
      (startsWith name "x-x402-free-" || startsWith name "x-x402-session-") = true := by
    decide
  exact hnames h.key hname

omit [Platform] in
theorem names_sent (meter : Meter) : (meter.sent.map (·.key)).Sublist meterNames := by
  cases meter <;> simp only [Meter.sent, Meter.headers, List.map_cons, List.map_nil, header,
    authoritative, meterNames] <;> decide

/-- Headers around a meter: `before` and `after` are none of its own, and none is there twice. -/
structure Around (before after : List HeaderValueOption) : Prop where
  names : ∀ h ∈ before ++ after, h.key ∈ replyNames
  distinct : ((before ++ after).map (·.key)).Nodup
  overwrites : ∀ h ∈ before ++ after, h.appendAction = .overwriteIfExistsOrAdd

section Around

variable {before after : List HeaderValueOption} (h : Around before after) (meter : Meter)

include h

omit [Platform] in
theorem Around.known_sets :
    ∀ e ∈ before ++ meter.sent ++ after, e.key ∈ replyNames ++ meterNames := by
  intro e he
  simp only [List.mem_append] at he
  rcases he with (he | he) | he
  · exact List.mem_append_left _ (h.names e (List.mem_append_left _ he))
  · exact List.mem_append_right _ ((names_sent meter).subset (List.mem_map_of_mem he))
  · exact List.mem_append_left _ (h.names e (List.mem_append_right _ he))

omit [Platform] in
theorem Around.distinct_sets :
    ((before ++ meter.sent ++ after).map fun h => toAsciiLowercase h.key).Nodup := by
  have hperm : ((before ++ meter.sent ++ after).map (·.key)).Perm
      ((before ++ after).map (·.key) ++ meter.sent.map (·.key)) := by
    rw [← List.map_append]
    refine List.Perm.map _ ?_
    rw [List.append_assoc, List.append_assoc]
    exact List.Perm.append_left _ List.perm_append_comm
  have hapart : ∀ name ∈ (before ++ after).map (·.key), ∀ name' ∈ meter.sent.map (·.key),
      name ≠ name' := by
    intro name hname name' hname' heq
    obtain ⟨e, he, rfl⟩ := List.mem_map.mp hname
    have hreply := isMeterHeader_of_replyName (h.names e he)
    rw [isMeterHeader_of_meterName ((names_sent meter).subset (heq ▸ hname'))] at hreply
    cases hreply
  have hnames : ((before ++ meter.sent ++ after).map (·.key)).Nodup :=
    hperm.nodup_iff.mpr (List.nodup_append.mpr
      ⟨h.distinct, (names_sent meter).nodup (by decide), hapart⟩)
  have hknown : ∀ name ∈ (before ++ meter.sent ++ after).map (·.key),
      name ∈ replyNames ++ meterNames := by
    intro name hname
    obtain ⟨e, he, rfl⟩ := List.mem_map.mp hname
    exact h.known_sets meter e he
  have hmap := List.Nodup.map_on (fun a ha b hb heq =>
    List.inj_on_of_nodup_map distinct_names (hknown a ha) (hknown b hb) heq) hnames
  rwa [List.map_map] at hmap

omit [Platform] in
theorem Around.overwrites_sets :
    ∀ e ∈ before ++ meter.sent ++ after, e.appendAction = .overwriteIfExistsOrAdd := by
  intro e he
  simp only [List.mem_append] at he
  rcases he with (he | he) | he
  · exact h.overwrites e (List.mem_append_left _ he)
  · obtain ⟨_, -, rfl⟩ := List.mem_map.mp he
    rfl
  · exact h.overwrites e (List.mem_append_right _ he)

omit [Platform] in
theorem Around.filter : (before ++ meter.sent ++ after).filter isMeterHeader = meter.sent := by
  have hnone : ∀ e ∈ before ++ after, isMeterHeader e = false := fun e he =>
    isMeterHeader_of_replyName (h.names e he)
  have hmeter : ∀ e ∈ meter.sent, isMeterHeader e = true := fun e he =>
    isMeterHeader_of_meterName ((names_sent meter).subset (List.mem_map_of_mem he))
  have hbefore : before.filter isMeterHeader = [] :=
    List.filter_eq_nil_iff.mpr fun e he => by simp [hnone e (List.mem_append_left _ he)]
  have hafter : after.filter isMeterHeader = [] :=
    List.filter_eq_nil_iff.mpr fun e he => by simp [hnone e (List.mem_append_right _ he)]
  rw [List.filter_append, List.filter_append, hbefore, hafter, List.filter_eq_self.mpr hmeter]
  simp

omit [Platform] h in
theorem Around.sentUnder {name : String} (hname : name ∈ replyNames) :
    sentUnder name (before ++ meter.sent ++ after) =
      X402Verifier.sentUnder name before ++ X402Verifier.sentUnder name after := by
  have hmeter : X402Verifier.sentUnder name meter.sent = [] := by
    refine List.map_eq_nil_iff.mpr (List.filter_eq_nil_iff.mpr fun e he hkey => ?_)
    have hnot := isMeterHeader_of_meterName ((names_sent meter).subset (List.mem_map_of_mem he))
    rw [isMeterHeader_of_replyName (of_decide_eq_true hkey ▸ hname)] at hnot
    cases hnot
  rw [sentUnder_append, sentUnder_append, hmeter, List.append_nil]

/-- A reply that sets these headers is backed when what they say is. -/
theorem Around.replyBacked {svc : Service} {calls earlier : List (Event Op.Ret)}
    {reply : ProcessingResponse} (hsets : reply.sets = before ++ meter.sent ++ after)
    (hkept : ∀ e ∈ reply.sets, ∀ name ∈ reply.removes, eqIgnoreAsciiCase e.key name = false)
    (hmeter : MeterBacked (calls ++ earlier) meter)
    (hidentity : (∃ mutation, reply = .requestHeaders mutation) ∨ ∀ name ∈ identityNames,
      X402Verifier.sentUnder name before ++ X402Verifier.sentUnder name after = [])
    (hpayer : ∀ payer ∈ X402Verifier.sentUnder headerPayer before ++
      X402Verifier.sentUnder headerPayer after, PayerBacked calls payer)
    (htoken : ∀ token ∈ X402Verifier.sentUnder headerPaymentSession before ++
        X402Verifier.sentUnder headerPaymentSession after,
      ∃ payer policy, ∃ tier : PaidTierConfig,
        ⟨.createSession payer policy tier.quota tier.durationSecs, .ok token⟩ ∈ calls ∧
        meter = .session tier.quota tier.quota tier.durationSecs)
    (hreceipt : ∀ text ∈ X402Verifier.sentUnder headerPaymentResponse before ++
        X402Verifier.sentUnder headerPaymentResponse after,
      ∃ receipt, text = encodeHeader receipt.toJson ∧ ReceiptBacked svc calls receipt) :
    ReplyBacked svc calls earlier reply where
  tidy :=
    { known := hsets ▸ h.known_sets meter
      distinct := hsets ▸ h.distinct_sets meter
      overwrites := hsets ▸ h.overwrites_sets meter
      kept := hkept }
  -- What stands around the meter is under other names, so the meter is read back from the reply.
  meter := ⟨meter, hsets ▸ h.filter meter, hmeter⟩
  identity := hidentity.imp_right fun hnone name hname => by
    have hknown : ∀ name ∈ identityNames, name ∈ replyNames := by
      simp [identityNames, replyNames]
    rw [hsets, Around.sentUnder meter (hknown name hname)]
    exact hnone name hname
  payer payer hmem := hpayer payer <| by
    rwa [hsets, Around.sentUnder meter (by simp [replyNames])] at hmem
  token token hmem := by
    rw [hsets, Around.sentUnder meter (by simp [replyNames])] at hmem
    obtain ⟨payer, policy, tier, hcreated, rfl⟩ := htoken token hmem
    exact ⟨payer, policy, tier, hcreated, hsets ▸ h.filter _⟩
  receipt text hmem := hreceipt text <| by
    rwa [hsets, Around.sentUnder meter (by simp [replyNames])] at hmem

end Around

/-! ## The replies -/

omit [Platform] in
theorem setHeaders_continueWith (headers : List HeaderValueOption) (remove : List String) :
    ((continueWithRemovals headers remove).map (·.setHeaders)).getD [] = headers := by
  unfold continueWithRemovals
  split_ifs with hempty
  · simpa using hempty.1.symm
  · rfl

omit [Platform] in
theorem removeHeaders_continueWith (headers : List HeaderValueOption) (remove : List String) :
    ((continueWithRemovals headers remove).map (·.removeHeaders)).getD [] = remove := by
  unfold continueWithRemovals
  split_ifs with hempty
  · simpa using hempty.2.symm
  · rfl

omit [Platform] in
theorem sets_continueWith (headers : List HeaderValueOption) :
    (ProcessingResponse.responseHeaders (continueWith headers)).sets = headers :=
  setHeaders_continueWith headers []

omit [Platform] in
theorem removes_continueWith (headers : List HeaderValueOption) :
    (ProcessingResponse.responseHeaders (continueWith headers)).removes = [] :=
  removeHeaders_continueWith headers []

/-- The headers set on a request that is let through. -/
def allowedHeaders (tier : Tier) (payer timeout : Option String) : List HeaderValueOption :=
  [header headerTier tier.asStr] ++ (payer.map (header headerPayer)).toList ++
    (timeout.map (header "grpc-timeout")).toList

/-- The headers of a refusal ahead of its meter. -/
def refusalHeaders (challenge : String) (receipt : Option String) : List HeaderValueOption :=
  [header headerPaymentRequired challenge] ++ (receipt.map (header headerPaymentResponse)).toList

/-- The headers of a sale ahead of its meter. -/
def saleHeaders (timing : String) (token : Option String) : List HeaderValueOption :=
  [header headerServerTiming timing] ++ (token.map (header headerPaymentSession)).toList

omit [Platform] in
@[simp] theorem sentUnder_optional (name key : String) (value : Option String) :
    sentUnder name (value.map (header key)).toList = if key = name then value.toList else [] := by
  rw [sentUnder_option name value (header key) key fun _ => rfl]
  cases value <;> rfl

section Replies

variable (svc : Service) {calls earlier : List (Event Op.Ret)}

theorem backed_default : ReplyBacked svc calls earlier .default where
  tidy := ⟨nofun, List.nodup_nil, nofun, nofun⟩
  meter := ⟨.unknown, rfl, .unknown⟩
  identity := .inr fun _ _ => rfl
  payer := nofun
  token := nofun
  receipt := nofun

theorem backed_settlementUnavailable (path : String) :
    ReplyBacked svc calls earlier (settlementUnavailable path) := by
  have haround : Around (settlementUnavailable path).sets [] := by
    unfold settlementUnavailable
    constructor <;> cases startsWith path "/sui.rpc.v2." || startsWith path "/grpc." <;>
      simp [ProcessingResponse.sets, header, authoritative, replyNames]
  have hnone : ∀ name ∈ identityNames ++ [headerPaymentSession, headerPaymentResponse],
      sentUnder name (settlementUnavailable path).sets ++ sentUnder name [] = [] := by
    unfold settlementUnavailable
    cases startsWith path "/sui.rpc.v2." || startsWith path "/grpc." <;>
      simp [ProcessingResponse.sets, sentUnder_cons, identityNames, headerTier, headerPayer,
        headerPaymentSession, headerPaymentResponse]
  refine haround.replyBacked .unknown (by simp [Meter.sent, Meter.headers])
    (fun _ _ => List.forall_mem_nil _) .unknown
    (.inr fun name hname => hnone name (List.mem_append_left _ hname)) ?_ ?_ ?_
  all_goals
    rw [hnone _ (by simp [identityNames])]
    exact List.forall_mem_nil _

omit [Platform] in
theorem around_allowedHeaders (tier : Tier) (payer timeout : Option String) :
    Around (allowedHeaders tier payer timeout) [] := by
  unfold allowedHeaders
  cases payer <;> cases timeout <;> constructor <;>
    simp [header, authoritative, replyNames, headerTier, headerPayer]

theorem backed_allowReply (tier : Tier) (payer : Option String) (meter : Meter) (view : HeaderView)
    (hpayer : ∀ p, payer = some p → PayerBacked calls p) :
    ReplyBacked svc calls earlier (allowReply tier payer meter view) := by
  obtain ⟨timeout, htimeout⟩ : ∃ timeout, grpcTimeoutFor meter view = timeout := ⟨_, rfl⟩
  have hsets : (allowReply tier payer meter view).sets = allowedHeaders tier payer timeout := by
    rw [← htimeout]
    exact setHeaders_continueWith (allowedHeaders tier payer (grpcTimeoutFor meter view)) _
  have hremoves : (allowReply tier payer meter view).removes =
      [headerPaymentSignature, headerPaymentSession] :=
    removeHeaders_continueWith (allowedHeaders tier payer (grpcTimeoutFor meter view)) _
  have hcredential : ∀ key ∈ [headerTier, headerPayer, "grpc-timeout"],
      ∀ name ∈ [headerPaymentSignature, headerPaymentSession],
        eqIgnoreAsciiCase key name = false := by decide
  have hpayers : sentUnder headerPayer (allowedHeaders tier payer timeout) = payer.toList := by
    simp [allowedHeaders, sentUnder_cons, headerTier, headerPayer]
  have hnone : ∀ name ∈ [headerPaymentSession, headerPaymentResponse],
      sentUnder name (allowedHeaders tier payer timeout) = [] := by
    simp [allowedHeaders, sentUnder_cons, headerTier, headerPayer, headerPaymentSession,
      headerPaymentResponse]
  refine (around_allowedHeaders tier payer timeout).replyBacked .unknown
    (by simp [hsets, Meter.sent, Meter.headers]) ?_ .unknown (.inl ⟨_, rfl⟩) ?_ ?_ ?_
  · rw [hsets, hremoves]
    intro e he
    refine hcredential e.key ?_
    rcases mem_allowed he with hkey | ⟨hkey, -⟩ | hkey <;> simp [hkey]
  · rw [hpayers, sentUnder_nil, List.append_nil]
    exact fun p hp => hpayer p (Option.mem_toList.mp hp)
  · rw [hnone _ (by simp)]
    exact List.forall_mem_nil _
  · rw [hnone _ (by simp)]
    exact List.forall_mem_nil _

theorem backed_denyReply (challenge : PaymentRequired) {receipt : Option SettlementResponse}
    {meter : Meter} (decideMs : String) (hmeter : MeterBacked calls meter)
    (hreceipt : ∀ r, receipt = some r → ∃ code, r = svc.facilitator.failureReceipt code) :
    ReplyBacked svc calls earlier (denyReply challenge receipt meter decideMs) := by
  let before := refusalHeaders (encodeHeader challenge.toJson)
    (receipt.map fun r => encodeHeader r.toJson)
  let after := [header headerServerTiming (serverTiming [("x402-decide", decideMs)]),
    header "content-type" "application/json"]
  have hsets : (denyReply challenge receipt meter decideMs).sets = before ++ meter.sent ++ after := by
    cases receipt <;> rfl
  have haround : Around before after := by
    show Around (refusalHeaders _ _) [header _ _, header _ _]
    unfold refusalHeaders
    cases receipt <;> constructor <;>
      simp [header, authoritative, replyNames, headerPaymentRequired, headerPaymentResponse,
        headerServerTiming]
  -- A refusal tells no identity and no token, and at most one receipt.
  have hnone : ∀ name ∈ identityNames ++ [headerPaymentSession],
      sentUnder name before ++ sentUnder name after = [] := by
    simp [-Option.map_map, before, after, refusalHeaders, sentUnder_cons, identityNames,
      headerPaymentRequired, headerPaymentResponse, headerServerTiming, headerTier, headerPayer,
      headerPaymentSession]
  have hreceipts : sentUnder headerPaymentResponse before ++ sentUnder headerPaymentResponse after =
      (receipt.map fun r => encodeHeader r.toJson).toList := by
    simp [-Option.map_map, before, after, refusalHeaders, sentUnder_cons, headerPaymentRequired,
      headerPaymentResponse, headerServerTiming]
  refine haround.replyBacked meter hsets (fun _ _ => List.forall_mem_nil _) (hmeter.mono (List.subset_append_left _ _))
    (.inr fun name hname => hnone name (List.mem_append_left _ hname)) ?_ ?_ ?_
  · rw [hnone _ (by simp [identityNames])]
    exact List.forall_mem_nil _
  · rw [hnone _ (by simp)]
    exact List.forall_mem_nil _
  · rw [hreceipts]
    intro text htext
    obtain ⟨r, hr, rfl⟩ := Option.map_eq_some_iff.mp (Option.mem_toList.mp htext)
    exact ⟨r, rfl, .inl (hreceipt r hr)⟩

variable (st : StreamState)

theorem backed_unsettledReply (hmeter : MeterBacked (calls ++ earlier) st.meter) :
    ReplyBacked svc calls earlier st.unsettledReply := by
  let after := [header headerServerTiming (serverTiming [("x402-decide", st.decideMs)])]
  have hsets : st.unsettledReply.sets = [] ++ st.meter.sent ++ after :=
    sets_continueWith (st.meterHeaders ++ after)
  have hremoves : st.unsettledReply.removes = [] :=
    removes_continueWith (st.meterHeaders ++ after)
  have haround : Around [] after := by
    constructor <;> simp [after, header, authoritative, replyNames, headerServerTiming]
  have hnone : ∀ name ∈ identityNames ++ [headerPaymentSession, headerPaymentResponse],
      sentUnder name [] ++ sentUnder name after = [] := by
    simp [after, sentUnder_cons, identityNames, headerServerTiming, headerTier, headerPayer,
      headerPaymentSession, headerPaymentResponse]
  refine haround.replyBacked st.meter hsets (by rw [hremoves]; exact fun _ _ => List.forall_mem_nil _) hmeter
    (.inr fun name hname => hnone name (List.mem_append_left _ hname)) ?_ ?_ ?_
  all_goals
    rw [hnone _ (by simp [identityNames])]
    exact List.forall_mem_nil _

theorem backed_unpaidReply (code settleMs : String) (hmeter : st.meter = .unknown) :
    ReplyBacked svc calls earlier (st.unpaidReply (svc.facilitator.failureReceipt code) settleMs) := by
  let after := [header headerServerTiming
      (serverTiming [("x402-decide", st.decideMs), ("x402-settle", settleMs)]),
    header headerPaymentResponse (encodeHeader (svc.facilitator.failureReceipt code).toJson)]
  have hmeterless : st.meterHeaders = [] := by rw [StreamState.meterHeaders, hmeter]; rfl
  have hsets : (st.unpaidReply (svc.facilitator.failureReceipt code) settleMs).sets =
      [] ++ Meter.unknown.sent ++ after := by
    refine (sets_continueWith (st.meterHeaders ++ after)).trans ?_
    rw [hmeterless]
    rfl
  have hremoves : (st.unpaidReply (svc.facilitator.failureReceipt code) settleMs).removes = [] :=
    removes_continueWith (st.meterHeaders ++ after)
  have haround : Around [] after := by
    constructor <;>
      simp [after, header, authoritative, replyNames, headerServerTiming, headerPaymentResponse]
  have hnone : ∀ name ∈ identityNames ++ [headerPaymentSession],
      sentUnder name [] ++ sentUnder name after = [] := by
    simp [after, sentUnder_cons, identityNames, headerServerTiming, headerPaymentResponse,
      headerTier, headerPayer, headerPaymentSession]
  refine haround.replyBacked .unknown hsets (by rw [hremoves]; exact fun _ _ => List.forall_mem_nil _) .unknown
    (.inr fun name hname => hnone name (List.mem_append_left _ hname)) ?_ ?_ ?_
  · rw [hnone _ (by simp [identityNames])]
    exact List.forall_mem_nil _
  · rw [hnone _ (by simp)]
    exact List.forall_mem_nil _
  · have hreceipts : sentUnder headerPaymentResponse [] ++ sentUnder headerPaymentResponse after =
        [encodeHeader (svc.facilitator.failureReceipt code).toJson] := by
      simp [after, sentUnder_cons, headerServerTiming, headerPaymentResponse]
    rw [hreceipts]
    rintro _ (_ | ⟨_, ⟨⟩⟩)
    exact ⟨_, rfl, .inl ⟨code, rfl⟩⟩

/-- A sale shows the meter of the session it granted. -/
theorem settledReply_eq (receipt : SettlementResponse) (token : Option String)
    (tier : PaidTierConfig) (settleMs : String) (hmeter : st.meter = .unknown) :
    st.settledReply receipt token tier settleMs = .responseHeaders (continueWith
      (saleHeaders (serverTiming [("x402-decide", st.decideMs), ("x402-settle", settleMs)]) token ++
        (grantMeter token tier).sent ++
        [header headerPaymentResponse (encodeHeader (withGrant receipt token tier).toJson)])) :=
  settledReply_of_unmetered st settleMs hmeter receipt token tier

omit [Platform] in
theorem around_saleHeaders (timing : String) (token : Option String) (receipt : String) :
    Around (saleHeaders timing token) [header headerPaymentResponse receipt] := by
  unfold saleHeaders
  cases token <;> constructor <;>
    simp [header, authoritative, replyNames, headerServerTiming, headerPaymentSession,
      headerPaymentResponse]

omit [Platform] in
theorem token_saleHeaders (timing : String) (token : Option String) (receipt : String) :
    sentUnder headerPaymentSession (saleHeaders timing token) ++
      sentUnder headerPaymentSession [header headerPaymentResponse receipt] = token.toList := by
  simp [saleHeaders, sentUnder_cons, headerServerTiming, headerPaymentSession,
    headerPaymentResponse]

omit [Platform] in
theorem receipt_saleHeaders (timing : String) (token : Option String) (receipt : String) :
    sentUnder headerPaymentResponse (saleHeaders timing token) ++
      sentUnder headerPaymentResponse [header headerPaymentResponse receipt] = [receipt] := by
  simp [saleHeaders, sentUnder_cons, headerServerTiming, headerPaymentSession,
    headerPaymentResponse]

theorem backed_settledReply {payload : PaymentPayload} {requirements : PaymentRequirements}
    {receipt : SettlementResponse} {token : Option String} (tier : PaidTierConfig)
    (settleMs : String) (hmeter : st.meter = .unknown)
    (hsettled : ⟨.settle payload requirements, .ok receipt⟩ ∈ calls)
    (hcreated : ∀ t, token = some t → ∃ payer policy,
      ⟨.createSession payer policy tier.quota tier.durationSecs, .ok t⟩ ∈ calls) :
    ReplyBacked svc calls earlier (st.settledReply receipt token tier settleMs) := by
  have hreply := settledReply_eq st receipt token tier settleMs hmeter
  have haround := around_saleHeaders (serverTiming [("x402-decide", st.decideMs),
    ("x402-settle", settleMs)]) token (encodeHeader (withGrant receipt token tier).toJson)
  have hremoves : (st.settledReply receipt token tier settleMs).removes = [] := by
    rw [hreply, removes_continueWith]
  -- The meter of a sale is that of the session it created, if it created one.
  have hgranted : MeterBacked (calls ++ earlier) (grantMeter token tier) := by
    cases token with
    | none => exact .unknown
    | some t =>
      obtain ⟨payer, policy, hmem⟩ := hcreated t rfl
      exact .granted (List.mem_append_left _ hmem)
  have hnone : ∀ name ∈ identityNames, sentUnder name (saleHeaders (serverTiming
      [("x402-decide", st.decideMs), ("x402-settle", settleMs)]) token) ++
        sentUnder name [header headerPaymentResponse
          (encodeHeader (withGrant receipt token tier).toJson)] = [] := by
    simp [saleHeaders, sentUnder_cons, identityNames, headerServerTiming, headerPaymentSession,
      headerPaymentResponse, headerTier, headerPayer]
  refine haround.replyBacked (grantMeter token tier) (by rw [hreply, sets_continueWith])
    (by rw [hremoves]; exact fun _ _ => List.forall_mem_nil _) hgranted (.inr hnone) ?_ ?_ ?_
  · rw [hnone _ (by simp [identityNames])]
    exact List.forall_mem_nil _
  · rw [token_saleHeaders]
    intro t ht
    obtain ⟨payer, policy, hmem⟩ := hcreated t (Option.mem_toList.mp ht)
    refine ⟨payer, policy, tier, hmem, ?_⟩
    rw [Option.mem_toList.mp ht]
    rfl
  · rw [receipt_saleHeaders]
    rintro _ (_ | ⟨_, ⟨⟩⟩)
    exact ⟨_, rfl, .inr ⟨payload, requirements, receipt, token, tier, hsettled, rfl, hcreated⟩⟩

end Replies

/-! ## One message -/

/-- What the state says was measured, and nothing is measured of a payment that is pending. -/
structure StateBacked (calls : List (Event Op.Ret)) (st : StreamState) : Prop where
  meter : MeterBacked calls st.meter
  unmetered : st.pending.isSome = true → st.meter = .unknown

theorem StateBacked.mono {calls calls' : List (Event Op.Ret)} {st : StreamState}
    (h : StateBacked calls st) (hsubset : calls ⊆ calls') : StateBacked calls' st :=
  ⟨h.meter.mono hsubset, h.unmetered⟩

/-- What holds of a reply and the state it leaves. -/
def OutcomeBacked (svc : Service) (earlier calls : List (Event Op.Ret))
    (out : ProcessingResponse × StreamState) : Prop :=
  ReplyBacked svc calls earlier out.1 ∧ StateBacked (calls ++ earlier) out.2

omit [Platform] in
/-- A token is one that was created. -/
theorem MintCalls.created {receipt : SettlementResponse} {policy : Option String}
    {tier : PaidTierConfig} {calls : List (Event Op.Ret)} {token : Option String}
    (h : MintCalls receipt policy tier calls token) :
    ∀ t, token = some t → ∃ payer policy,
      ⟨.createSession payer policy tier.quota tier.durationSecs, .ok t⟩ ∈ calls := by
  cases h with
  | nobody => exact nofun
  | failed => exact nofun
  | minted paid token =>
    intro t ht
    obtain rfl := Option.some.inj ht
    exact ⟨_, policy, .head _⟩

section Message

variable (svc : Service) {st : StreamState} {earlier : List (Event Op.Ret)}
  (h : StateBacked earlier st)

include h

theorem backed_handleRequestHeaders (headers : Option (List HeaderValue))
    (clientIp : Option IpAddr) (policy : Option String) (decideMs : String) :
    (svc.handleRequestHeaders st headers clientIp policy decideMs).Follows anyCalls
      (OutcomeBacked svc earlier) [] := by
  have hstay : ∀ calls : List (Event Op.Ret), StateBacked (calls ++ earlier) st :=
    fun calls => h.mono (List.subset_append_right _ _)
  refine .perform trivial fun breaker _ => ?_
  split
  · exact ⟨backed_settlementUnavailable svc _, hstay _⟩
  · refine (backed_decide svc _ clientIp _ policy _ _).bind fun calls d hd => ?_
    cases d with
    | allow tier payer token settlement pending meter =>
      obtain ⟨hmeter, hpayer, hunmetered⟩ := hd
      exact ⟨backed_allowReply svc tier payer meter _ hpayer,
        hmeter.mono (List.subset_append_left _ _), hunmetered⟩
    | deny challenge receipt meter =>
      exact ⟨backed_denyReply svc challenge decideMs hd.1 hd.2, hstay _⟩

/-- A payment that is settled leaves nothing pending, and nothing measured. -/
theorem backed_settleCalls {pending : PendingPayment} (hpending : st.pending = some pending)
    {settleMs : String} {calls : List (Event Op.Ret)} {reply : ProcessingResponse}
    (hcalls : svc.SettleCalls { st with pending := none } pending settleMs calls reply) :
    OutcomeBacked svc earlier calls (reply, { st with pending := none }) := by
  have hmeter : st.meter = .unknown := h.unmetered (by rw [hpending]; rfl)
  have hstate : StateBacked (calls ++ earlier) { st with pending := none } :=
    ⟨h.meter.mono (List.subset_append_right _ _), nofun⟩
  refine ⟨?_, hstate⟩
  cases hcalls with
  | unpaid e => exact backed_unpaidReply svc _ _ settleMs hmeter
  | paid receipt minted =>
    refine backed_settledReply svc _ _ settleMs hmeter (.head _) fun t ht => ?_
    obtain ⟨payer, policy, hcreated⟩ := minted.created t ht
    exact ⟨payer, policy, .tail _ (.tail _ hcreated)⟩

theorem backed_handleResponseHeaders (headers : Option (List HeaderValue)) (settleMs : String) :
    (svc.handleResponseHeaders st headers settleMs).Follows anyCalls (OutcomeBacked svc earlier) [] := by
  have hmeter : ∀ calls : List (Event Op.Ret), MeterBacked (calls ++ earlier) st.meter :=
    fun calls => h.meter.mono (List.subset_append_right _ _)
  refine (calls_handleResponseHeaders svc st headers settleMs).follows_trace
    fun calls out hcalls => ⟨fun _ _ => trivial, ?_⟩
  rw [List.nil_append]
  cases hcalls with
  | idle => exact ⟨backed_unsettledReply svc st (hmeter []), hmeter [], h.unmetered⟩
  | failed =>
    exact ⟨backed_unsettledReply svc _ (hmeter calls), hmeter calls, fun hsome => Bool.noConfusion hsome⟩
  | delivered holds delivered settled => exact backed_settleCalls svc h holds settled

/-- **One message.** -/
theorem backed_process (message : ProcessingRequest) (elapsedMs : String) :
    (svc.process st message elapsedMs).Follows anyCalls (OutcomeBacked svc earlier) [] := by
  obtain ⟨attributes, phase⟩ := message
  cases phase with
  | requestHeaders headers => exact backed_handleRequestHeaders svc h headers _ _ elapsedMs
  | responseHeaders headers => exact backed_handleResponseHeaders svc h headers elapsedMs
  | other => exact ⟨backed_default svc, h⟩

end Message

/-! ## A whole stream -/

omit [Platform] in
/-- The calls of these steps. -/
def callsIn (past : List StreamStep) : List (Event Op.Ret) := past.flatMap (·.events)

/-- **Replies are backed.** Whatever is sent on a stream and whatever the operations answer. -/
theorem replies_are_backed (svc : Service) (xs : List Exchange) :
    ∀ step older, step :: older <:+ (svc.streamRun xs).past →
      ReplyBacked svc step.events (callsIn older) step.reply := by
  have hrun : ∀ r : StreamRun, StateBacked (callsIn r.past) r.state →
      (∀ step older, step :: older <:+ r.past →
        ReplyBacked svc step.events (callsIn older) step.reply) →
      ∀ step older, step :: older <:+ (xs.foldl svc.exchange r).past →
        ReplyBacked svc step.events (callsIn older) step.reply := by
    induction xs with
    | nil => exact fun r _ h => h
    | cons x xs ih =>
      intro r hstate hpast
      have hout := ((backed_process svc hstate x.message x.elapsedMs).eval x.answer).1
      refine ih (svc.exchange r x) hout.2 fun step older hsuffix => ?_
      rcases List.suffix_cons_iff.mp hsuffix with heq | hsuffix
      · obtain ⟨rfl, rfl⟩ := List.cons.inj heq
        exact hout.1
      · exact hpast step older hsuffix
  exact hrun {} ⟨.unknown, nofun⟩ fun step older hsuffix => by simp at hsuffix

/-- What every operation answers on a new store. -/
def newStoreAnswers (svc : Service) : Answers := fun _ op =>
 (svc.exec (exampleEnv 1000) (.ofConfig svc.config []) op).1

/-- A request that pays, and an upstream that delivers. -/
def payingRequest : ProcessingRequest := ⟨∅, .requestHeaders (paymentRequest "1000" [])⟩

def delivery : ProcessingRequest :=
  ⟨∅, .responseHeaders (some [{ key := ":status", value := "200" }])⟩

/-- A stream that pays and is delivered to. -/
def paidStream (svc : Service) : List Exchange :=
  [⟨payingRequest, "0.1", newStoreAnswers svc⟩, ⟨delivery, "0.2", newStoreAnswers svc⟩]

omit [Platform] in
theorem pending_payingRequest :
    let _ : Platform := paymentPlatform "1000"
    let svc := Service.ofConfig (exampleConfig .stubAcceptAll)
    ((svc.process {} payingRequest "0.1").eval (newStoreAnswers svc)).1.2 =
      { pending := some (.of (payloadAccepting "1000") (svc.termsFor "" none "").requirements)
        decideMs := "0.1" } := by
  intro _ svc
  have hne : utf8 (paymentText "1000") ≠ [] := by decide +kernel
  have hpayment := presentedPayment_paymentRequest "1000" [] hne
  have htoken := presentedToken_paymentRequest "1000" [] hne (by decide +kernel)
  have hpath : ((headerMap (paymentRequest "1000" [])).get? ":path").getD "" = "" := by
    decide +kernel
  have hfirst := handleRequestHeaders_eq svc {} (paymentRequest "1000" []) none none "0.1"
  rw [processDecision_of_payment svc _ _ htoken hpayment, hpath] at hfirst
  show ((svc.handleRequestHeaders {} (paymentRequest "1000" []) none none "0.1").eval _).1.2 = _
  rw [hfirst]
  rfl

theorem streamRun_pair (svc : Service) (x y : Exchange) :
    let sent := (svc.process {} x.message x.elapsedMs).eval x.answer
    let received := (svc.process sent.1.2 y.message y.elapsedMs).eval y.answer
   (svc.streamRun [x, y]).past =
      [⟨y.message, received.1.1, received.2⟩, ⟨x.message, sent.1.1, sent.2⟩] := rfl

omit [Platform] in
/-- The delivered stream is charged and sold a session. -/
theorem replies_are_backed_example :
    let _ : Platform := paymentPlatform "1000"
    let svc := Service.ofConfig (exampleConfig .stubAcceptAll)
    ∃ settled verified, (svc.streamRun (paidStream svc)).past = [settled, verified] ∧
      settled.events.length = 3 ∧
      ReplyBacked svc settled.events (callsIn [verified]) settled.reply := by
  intro _ svc
  have hpast : (svc.streamRun (paidStream svc)).past = _ := streamRun_pair svc _ _
  rw [pending_payingRequest] at hpast
  refine ⟨_, _, hpast, by decide +kernel, ?_⟩
  exact replies_are_backed svc (paidStream svc) _ _ (hpast ▸ List.suffix_refl _)

end X402Verifier
