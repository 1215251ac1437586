import X402Verifier.DecisionCalls
import X402Verifier.ExtProc
import X402Verifier.Reference

/-!
# Identity headers

What the upstream sees of a request that was allowed. Envoy is assumed to remove the listed headers
and then set the others, each overwriting what the client sent under that name (`forward`).

The two filters build their mutations separately. Both set the tier and remove the credentials, and
ext_authz also overwrites the payer of a request that has none. ext_proc does not, so the client's
own `x-x402-payer` reaches the upstream on the free tier.
-/

namespace X402Verifier

open RustStd Interaction

/-! ## What Envoy forwards -/

abbrev RawHeaders : Type := List (String × String)

/-- Names are compared without case. -/
def named (name : String) (h : String × String) : Bool := eqIgnoreAsciiCase h.1 name

def valuesOf (name : String) (hs : RawHeaders) : List String := (hs.filter (named name)).map (·.2)

/-- Set one header. An empty value is not kept. -/
def RawHeaders.set (hs : RawHeaders) (h : HeaderValueOption) : RawHeaders :=
  let kept := match h.appendAction with
    | .overwriteIfExistsOrAdd => hs.filter fun e => ! named h.key e
    | .unspecified => hs
  if h.value.isEmpty then kept else kept ++ [(h.key, h.value)]

/-- Remove headers, then set others. -/
def forward (hs : RawHeaders) (set : List HeaderValueOption) (remove : List String) : RawHeaders :=
  set.foldl RawHeaders.set (hs.filter fun e => ! remove.any (named · e))

theorem named_ne {name name' : String} (h : eqIgnoreAsciiCase name name' = false)
    {e : String × String} (he : named name e = true) : named name' e = false := by
  simp only [named, eqIgnoreAsciiCase, beq_iff_eq, beq_eq_false_iff_ne] at h he ⊢
  rwa [he]

theorem valuesOf_set_self (hs : RawHeaders) (key value : String) :
    valuesOf key (hs.set (authoritative key value)) = if value.isEmpty then [] else [value] := by
  have hkey : named key (key, value) = true := by simp [named, eqIgnoreAsciiCase]
  unfold RawHeaders.set valuesOf authoritative
  split_ifs with hempty <;> simp [List.filter_filter, List.filter_append, hkey]

theorem valuesOf_set_ne (hs : RawHeaders) {name : String} {h : HeaderValueOption}
    (hne : eqIgnoreAsciiCase name h.key = false) : valuesOf name (hs.set h) = valuesOf name hs := by
  have hkey : named name (h.key, h.value) = false := by
    simp only [named, eqIgnoreAsciiCase, beq_eq_false_iff_ne] at hne ⊢
    exact Ne.symm hne
  have hother : ∀ e : String × String, (named name e && ! named h.key e) = named name e := by
    intro e
    cases he : named name e with
    | false => rfl
    | true => simp [named_ne hne he]
  unfold RawHeaders.set valuesOf
  cases h.appendAction <;> dsimp only <;> split_ifs <;>
    simp [List.filter_filter, List.filter_append, hkey, hother]

theorem valuesOf_sets_ne (hs : RawHeaders) {name : String} {set : List HeaderValueOption}
    (h : ∀ e ∈ set, eqIgnoreAsciiCase name e.key = false) :
    valuesOf name (set.foldl RawHeaders.set hs) = valuesOf name hs := by
  induction set generalizing hs with
  | nil => rfl
  | cons e set ih =>
    rw [List.foldl_cons, ih _ fun e' he' => h e' (List.mem_cons_of_mem _ he'),
      valuesOf_set_ne hs (h e List.mem_cons_self)]

theorem valuesOf_removed (hs : RawHeaders) {name : String} {remove : List String}
    (h : name ∈ remove) : valuesOf name (hs.filter fun e => ! remove.any (named · e)) = [] := by
  have hnone : hs.filter (fun e => named name e && ! remove.any (named · e)) = [] := by
    refine List.filter_eq_nil_iff.mpr fun e _ hboth => ?_
    rw [Bool.and_eq_true, Bool.not_eq_true', List.any_eq_false] at hboth
    exact hboth.2 name h hboth.1
  rw [valuesOf, List.filter_filter, hnone, List.map_nil]

theorem valuesOf_not_removed (hs : RawHeaders) {name : String} {remove : List String}
    (h : ∀ name' ∈ remove, eqIgnoreAsciiCase name name' = false) :
    valuesOf name (hs.filter fun e => ! remove.any (named · e)) = valuesOf name hs := by
  have hkept : ∀ e : String × String, (named name e && ! remove.any (named · e)) = named name e := by
    intro e
    cases he : named name e with
    | false => rfl
    | true =>
      have hany : remove.any (named · e) = false :=
        List.any_eq_false.mpr fun name' hname' => by simp [named_ne (h name' hname') he]
      simp [hany]
  simp [valuesOf, List.filter_filter, hkept]

/-! ## What is asserted -/

/-- The payers a request names. -/
def payersOf (hs : RawHeaders) : List String := (valuesOf headerPayer hs).filter fun v => ! v.isEmpty

/-- The forwarded request names the tier and the payer that were established, and carries no
credential. -/
structure Asserts (tier : Tier) (payer : Option String) (hs : RawHeaders) : Prop where
  tier : valuesOf headerTier hs = [tier.asStr]
  payer : payersOf hs = payer.toList.filter fun v => ! v.isEmpty
  signature : valuesOf headerPaymentSignature hs = []
  session : valuesOf headerPaymentSession hs = []

theorem valuesOf_forward_removed (hs : RawHeaders) {name : String} {set : List HeaderValueOption}
    {remove : List String} (hremove : name ∈ remove)
    (hset : ∀ e ∈ set, eqIgnoreAsciiCase name e.key = false) :
    valuesOf name (forward hs set remove) = [] :=
  (valuesOf_sets_ne _ hset).trans (valuesOf_removed hs hremove)

/-! ### The names involved -/

theorem credential_ne : ∀ name ∈ [headerPaymentSignature, headerPaymentSession],
    ∀ key ∈ [headerTier, headerPayer, "grpc-timeout"], eqIgnoreAsciiCase name key = false := by
  decide +kernel

theorem tier_ne : ∀ key ∈ [headerPayer, "grpc-timeout"], eqIgnoreAsciiCase headerTier key = false := by
  decide +kernel

theorem payer_ne : ∀ key ∈ ["grpc-timeout", headerPaymentSignature, headerPaymentSession, headerTier],
    eqIgnoreAsciiCase headerPayer key = false := by
  decide +kernel

theorem isEmpty_tier (tier : Tier) : tier.asStr.isEmpty = false := by
  cases tier <;> decide

/-! ### The two filters -/

/-- **ext_authz.** It asserts whatever was decided. -/
theorem asserts_of_check (hs : RawHeaders) (tier : Tier) (payer : Option String) :
    Asserts tier payer (forward hs
      [authoritative headerTier tier.asStr, authoritative headerPayer (payer.getD "")]
      [headerPaymentSignature, headerPaymentSession]) := by
  have hcredential : ∀ name ∈ [headerPaymentSignature, headerPaymentSession],
      ∀ e ∈ [authoritative headerTier tier.asStr, authoritative headerPayer (payer.getD "")],
        eqIgnoreAsciiCase name e.key = false := by
    intro name hname e he
    refine credential_ne name hname e.key ?_
    simp only [List.mem_cons, List.not_mem_nil, or_false] at he
    rcases he with rfl | rfl <;> simp [authoritative]
  constructor
  · simp only [forward, List.foldl_cons, List.foldl_nil]
    rw [valuesOf_set_ne _ (tier_ne _ (by simp [authoritative])), valuesOf_set_self,
      isEmpty_tier]
    simp
  · simp only [payersOf, forward, List.foldl_cons, List.foldl_nil, valuesOf_set_self]
    cases payer with
    | none => simp
    | some payer => cases h : payer.isEmpty <;> simp [h]
  · exact valuesOf_forward_removed hs (by simp) (hcredential _ (by simp))
  · exact valuesOf_forward_removed hs (by simp) (hcredential _ (by simp))

/-- The headers ext_proc sets on an allowed request. -/
theorem mem_allowed {tier : Tier} {payer timeout : Option String} {e : HeaderValueOption}
    (he : e ∈ [header headerTier tier.asStr] ++ (payer.map (header headerPayer)).toList ++
      (timeout.map (header "grpc-timeout")).toList) :
    e.key = headerTier ∨ (e.key = headerPayer ∧ payer.isSome = true) ∨ e.key = "grpc-timeout" := by
  cases payer <;> cases timeout <;>
    simp only [Option.map_none, Option.map_some, Option.toList_none, Option.toList_some,
      List.append_nil, List.cons_append, List.nil_append, List.mem_cons, List.not_mem_nil,
      or_false] at he <;>
    rcases he with rfl | rfl | rfl <;> simp [header, authoritative]

theorem timeout_ne {name : String} (h : eqIgnoreAsciiCase name "grpc-timeout" = false)
    {timeout : Option String} : ∀ e ∈ (timeout.map (header "grpc-timeout")).toList,
      eqIgnoreAsciiCase name e.key = false := by
  intro e he
  cases timeout with
  | none => cases he
  | some t =>
    obtain rfl := List.mem_singleton.mp he
    exact h

section Processed

variable (hs : RawHeaders) (tier : Tier) (payer timeout : Option String)

/-- The request ext_proc forwards once it is allowed. -/
def processed : RawHeaders :=
  forward hs ([header headerTier tier.asStr] ++ (payer.map (header headerPayer)).toList ++
    (timeout.map (header "grpc-timeout")).toList) [headerPaymentSignature, headerPaymentSession]

theorem tier_processed : valuesOf headerTier (processed hs tier payer timeout) = [tier.asStr] := by
  have hrest : ∀ e ∈ (payer.map (header headerPayer)).toList ++
      (timeout.map (header "grpc-timeout")).toList, eqIgnoreAsciiCase headerTier e.key = false := by
    intro e he
    rcases List.mem_append.mp he with he | he
    · cases payer with
      | none => cases he
      | some payer =>
        obtain rfl := List.mem_singleton.mp he
        exact tier_ne _ (by simp [header, authoritative])
    · exact timeout_ne (tier_ne _ (by simp)) e he
  rw [processed, forward, List.append_assoc, List.foldl_append, valuesOf_sets_ne _ hrest]
  simp only [List.foldl_cons, List.foldl_nil, header, valuesOf_set_self, isEmpty_tier]
  simp

theorem payersOf_processed : payersOf (processed hs tier payer timeout) =
    if payer.isSome then payer.toList.filter fun v => ! v.isEmpty else payersOf hs := by
  rw [payersOf, processed, forward, List.foldl_append,
    valuesOf_sets_ne _ (timeout_ne (payer_ne _ (by simp)))]
  cases payer with
  | none =>
    simp only [Option.map_none, Option.toList_none, List.append_nil, List.foldl_cons,
      List.foldl_nil]
    rw [valuesOf_set_ne _ (payer_ne _ (by simp [header, authoritative])),
      valuesOf_not_removed hs fun name hname =>
        payer_ne name (List.mem_cons_of_mem _ (List.mem_append_left [headerTier] hname))]
    rfl
  | some payer =>
    simp only [Option.map_some, Option.toList_some, List.cons_append, List.nil_append,
      List.foldl_cons, List.foldl_nil, header, valuesOf_set_self]
    cases h : payer.isEmpty <;> simp [h]

theorem credential_processed {name : String}
    (h : name ∈ [headerPaymentSignature, headerPaymentSession]) :
    valuesOf name (processed hs tier payer timeout) = [] := by
  refine valuesOf_forward_removed hs h fun e he => credential_ne name h e.key ?_
  rcases mem_allowed he with hkey | ⟨hkey, -⟩ | hkey <;> simp [hkey]

/-- **ext_proc.** It asserts what was decided, unless there is no payer and the client named one. -/
theorem asserts_of_process_iff :
    Asserts tier payer (processed hs tier payer timeout) ↔
      payer.isSome = true ∨ payersOf hs = [] := by
  have hpayers := payersOf_processed hs tier payer timeout
  constructor
  · intro h
    cases payer with
    | none => exact .inr (hpayers.symm.trans h.payer)
    | some payer => exact .inl rfl
  · intro h
    refine ⟨tier_processed hs tier payer timeout, ?_,
      credential_processed hs tier payer timeout (by simp),
      credential_processed hs tier payer timeout (by simp)⟩
    cases payer with
    | none => exact hpayers.trans (h.resolve_left (by simp))
    | some payer => exact hpayers

end Processed

/-! ## Whole requests -/

section Requests

variable [Platform]

/-- The tier and payer a decision allows a request under. -/
def Decision.identity? : Decision → Option (Tier × Option String)
  | .allow tier payer .. => some (tier, payer)
  | .deny .. => none

/-- Does the store honor the presented token, asked first? -/
def sessionHonored (token policy : Option String) (answer : Answers) : Bool :=
  token.any fun token =>
    match (answer 0 (.consume token policy) : SessionOutcome) with
    | .accepted .. => true
    | .rejected _ => false

theorem eval_honorSession (token policy : Option String) (answer : Answers) :
    if sessionHonored token policy answer then
      ∃ payer remaining, ((honorSession token policy).eval answer).1 =
        some (.allow .paid (some payer) none none none remaining)
    else ((honorSession token policy).eval answer).1 = none := by
  cases token with
  | none => simp [honorSession, sessionHonored]
  | some token =>
    obtain ⟨outcome, hc⟩ : ∃ o, (answer 0 (.consume token policy) : SessionOutcome) = o := ⟨_, rfl⟩
    simp only [honorSession, call, Prog.bind_eq, Prog.perform_bind, sessionHonored, Option.any_some,
      Prog.eval_call, hc]
    cases outcome with
    | rejected reason => simp
    | accepted payer remaining quota expiresAt => exact ⟨payer, _, rfl⟩

/-- A payment that is allowed has a payer: the one verification established. -/
theorem payer_of_decidePayment (svc : Service) (terms : Terms) (policy : Option String)
    (decoded : Except HeaderDecodeError PaymentPayload) (answer : Answers) {tier : Tier}
    {payer : Option String}
    (h : ((svc.decidePayment terms policy .deferred decoded).eval answer).1.identity? =
      some (tier, payer)) : payer.isSome = true := by
  have hpayer : ∀ calls d, svc.PaymentCalls terms policy .deferred decoded calls d →
      d.identity? = some (tier, payer) → payer.isSome = true := by
    intro calls d hcalls hid
    cases hcalls <;> cases hid
    rfl
  exact hpayer _ _ (calls_decidePayment svc terms policy .deferred decoded answer) h

theorem payer_of_decideFree (terms : Terms) (clientIp : Option IpAddr) (answer : Answers)
    {tier : Tier} {payer : Option String}
    (h : ((terms.decideFree clientIp).eval answer).1.identity? = some (tier, payer)) :
    payer = none := by
  have hpayer : ∀ calls d, terms.FreeCalls clientIp calls d →
      d.identity? = some (tier, payer) → payer = none := by
    intro calls d hcalls hid
    cases hcalls <;> cases hid
    rfl
  exact hpayer _ _ (calls_decideFree terms clientIp answer) h

/-- **Who has a payer.** An allowed request has one exactly when a session was honored or a payment
presented. -/
theorem payer_of_decide (svc : Service) {headers : HeaderView} {clientIp : Option IpAddr}
    {path : String} {policy : Option String} {resourceUrl : String} {answer : Answers} {tier : Tier}
    {payer : Option String}
    (h : ((svc.decide headers clientIp path policy resourceUrl .deferred).eval answer).1.identity? =
      some (tier, payer)) :
    payer.isSome = true ↔ sessionHonored (presentedToken headers) policy answer = true ∨
      (presentedPayment headers).isSome = true := by
  have hsession := eval_honorSession (presentedToken headers) policy answer
  simp only [Service.decide, Prog.bind_eq, Prog.eval_bind] at h
  cases hhonored : sessionHonored (presentedToken headers) policy answer with
  | true =>
    rw [hhonored] at hsession
    obtain ⟨payer', meter, hvalue⟩ := hsession
    rw [hvalue] at h
    cases h
    simp
  | false =>
    rw [hhonored] at hsession
    have hnone : ((honorSession (presentedToken headers) policy).eval answer).1 = none := hsession
    rw [hnone] at h
    cases hpayment : presentedPayment headers with
    | none =>
      rw [hpayment] at h
      simp [payer_of_decideFree _ _ _ h]
    | some decoded =>
      rw [hpayment] at h
      simp [payer_of_decidePayment _ _ _ _ _ h]

/-! ### ext_authz -/

omit [Platform] in
/-- The request an ext_authz answer forwards, if it allows one. -/
def CheckResponse.forwarded (response : CheckResponse) (hs : RawHeaders) : Option RawHeaders :=
  match response with
  | .ok set remove _ _ => some (forward hs set remove)
  | .denied .. => none

omit [Platform] in
/-- The headers the client sent. -/
def CheckRequest.rawHeaders (request : CheckRequest) : RawHeaders :=
  (request.http.map (·.headers.toPairs)).getD []

/-- What `check` decides. -/
def Service.checkDecision (svc : Service) (request : CheckRequest) : Handler Decision :=
  svc.decide ⟨request.http.map (·.headers)⟩ (request.clientAddress.bind parseIpAddr)
    ((request.http.map (·.path)).getD "") (request.contextExtensions.get? policyContextKey)
    ((request.http.map (·.resourceUrl)).getD "") .immediate

theorem check_asserts (svc : Service) (request : CheckRequest) (answer : Answers)
    {fwd : RawHeaders}
    (h : ((svc.check request).eval answer).1.forwarded request.rawHeaders = some fwd) :
    ∃ tier payer, ((svc.checkDecision request).eval answer).1.identity? = some (tier, payer) ∧
      Asserts tier payer fwd := by
  simp only [Service.check, Prog.bind_eq, Prog.eval_bind, Prog.pure_eq, Prog.eval_pure] at h
  simp only [Service.checkDecision]
  generalize ((svc.decide _ _ _ _ _ _).eval answer).1 = decision at h ⊢
  cases decision with
  | deny challenge receipt meter =>
    simp only [decisionToResponse] at h
    split at h <;> cases h
  | allow tier payer sessionToken settlement pending meter =>
    cases h
    exact ⟨tier, payer, rfl, asserts_of_check _ _ _⟩

/-! ### ext_proc -/

omit [Platform] in
/-- The request an ext_proc answer forwards, if it lets one continue. -/
def ProcessingResponse.forwarded (response : ProcessingResponse) (hs : RawHeaders) :
    Option RawHeaders :=
  match response with
  | .requestHeaders none => some hs
  | .requestHeaders (some mutation) => some (forward hs mutation.setHeaders mutation.removeHeaders)
  | _ => none

omit [Platform] in
/-- The headers the client sent. -/
def rawHeaders (headers : Option (List HeaderValue)) : RawHeaders :=
  (headers.getD []).map fun h => (h.key, h.text)

/-- The request presents a payment or a session the store honors, or its client names no payer. -/
def Identified (headers : Option (List HeaderValue)) (policy : Option String)
    (answer : Answers) : Prop :=
  sessionHonored (presentedToken ⟨some (headerMap headers)⟩) policy answer = true ∨
    (presentedPayment ⟨some (headerMap headers)⟩).isSome = true ∨
    payersOf (rawHeaders headers) = []

/-- An allowed request is let through while the breaker accepts payments. -/
theorem forwarded_of_identity (svc : Service) (st : StreamState)
    (headers : Option (List HeaderValue)) (clientIp : Option IpAddr) (policy : Option String)
    (decideMs : String) (answer : Answers) {identity : Tier × Option String}
    (hbreaker : BreakerState.acceptsPayment (answer 0 (.breakerState (breakerPolicy policy))) = true)
    (hallowed : ((svc.processDecision headers clientIp policy).eval
      fun n => answer (n + 1)).1.identity? = some identity) :
    ∃ fwd, ((svc.handleRequestHeaders st headers clientIp policy decideMs).eval
      answer).1.1.forwarded (rawHeaders headers) = some fwd := by
  rw [handleRequestHeaders_eq, Prog.eval_call]
  dsimp only
  rw [if_neg (by simp [hbreaker]), Prog.eval_bind]
  obtain ⟨d, hd⟩ : ∃ d, ((svc.processDecision headers clientIp policy).eval
    fun n => answer (n + 1)).1 = d := ⟨_, rfl⟩
  simp only [hd] at hallowed ⊢
  cases d with
  | deny => cases hallowed
  | allow tier payer token settlement pending meter => exact ⟨_, rfl⟩

/-- What ext_proc forwards asserts what it decided just when the request is identified. The
decision's calls follow the one that asks the breaker. -/
theorem process_asserts_iff (svc : Service) (st : StreamState)
    (headers : Option (List HeaderValue)) (clientIp : Option IpAddr) (policy : Option String)
    (decideMs : String) (answer : Answers) {fwd : RawHeaders}
    (h : ((svc.handleRequestHeaders st headers clientIp policy decideMs).eval answer).1.1.forwarded
      (rawHeaders headers) = some fwd) :
    ∃ tier payer,
      ((svc.processDecision headers clientIp policy).eval fun n => answer (n + 1)).1.identity? =
        some (tier, payer) ∧
      (Asserts tier payer fwd ↔ Identified headers policy fun n => answer (n + 1)) := by
  rw [handleRequestHeaders_eq, Prog.eval_call] at h
  dsimp only at h
  split at h
  · cases h
  · rw [Prog.eval_bind] at h
    obtain ⟨decision, hdecision⟩ : ∃ d, ((svc.processDecision headers clientIp policy).eval
      fun n => answer (n + 1)).1 = d := ⟨_, rfl⟩
    simp only [hdecision] at h ⊢
    cases decision with
    | deny challenge receipt meter => cases h
    | allow tier payer sessionToken settlement pending meter =>
      refine ⟨tier, payer, rfl, ?_⟩
      have hpayer := payer_of_decide svc (congrArg Decision.identity? hdecision)
      cases h
      refine (asserts_of_process_iff _ tier payer _).trans ?_
      rw [hpayer, or_assoc]
      rfl

/-! ## Two requests -/

omit [Platform] in
/-- A header the client may not speak for the verifier with. -/
def isOther (e : String × String) : Bool := ! named headerTier e && ! named headerPayer e

omit [Platform] in
/-- The headers differ only in what the client says of its tier and payer. -/
def Alike (hs₁ hs₂ : RawHeaders) : Prop := hs₁.filter isOther = hs₂.filter isOther

omit [Platform] in
theorem read_ne : ∀ name ∈ [headerPaymentSignature, headerPaymentSession, "content-type", ":path",
    "x-forwarded-host", ":authority", "x-forwarded-proto", ":scheme"],
    eqIgnoreAsciiCase name headerTier = false ∧ eqIgnoreAsciiCase name headerPayer = false := by
  decide +kernel

omit [Platform] in
theorem isOther_of_named {name : String} (htier : eqIgnoreAsciiCase name headerTier = false)
    (hpayer : eqIgnoreAsciiCase name headerPayer = false) {e : String × String}
    (he : named name e = true) : isOther e = true := by
  simp [isOther, named_ne htier he, named_ne hpayer he]

omit [Platform] in
theorem Alike.find? {hs₁ hs₂ : RawHeaders} (h : Alike hs₁ hs₂) {p : String × String → Bool}
    (hp : ∀ e, p e = true → isOther e = true) : hs₁.find? p = hs₂.find? p := by
  have hfind : ∀ hs : RawHeaders, (hs.filter isOther).find? p = hs.find? p := by
    intro hs
    rw [List.find?_filter]
    congr 1
    funext e
    cases hpe : p e with
    | false => simp
    | true => simp [hp e hpe]
  calc hs₁.find? p = (hs₁.filter isOther).find? p := (hfind hs₁).symm
    _ = (hs₂.filter isOther).find? p := congrArg (List.find? p) h
    _ = hs₂.find? p := hfind hs₂

section Views

variable {t₁ t₂ : Table String String} (h : Alike t₁.toPairs t₂.toPairs)

omit [Platform] in
include h in
theorem Alike.get? {name : String} (htier : eqIgnoreAsciiCase name headerTier = false)
    (hpayer : eqIgnoreAsciiCase name headerPayer = false) : t₁.get? name = t₂.get? name := by
  rw [Table.get?_eq_find?, Table.get?_eq_find?]
  refine congrArg _ (h.find? fun e he => isOther_of_named htier hpayer ?_)
  simp only [decide_eq_true_eq] at he
  simp [named, eqIgnoreAsciiCase, he]

omit [Platform] in
include h in
theorem Alike.view_get {name : String} (htier : eqIgnoreAsciiCase name headerTier = false)
    (hpayer : eqIgnoreAsciiCase name headerPayer = false) :
    (⟨some t₁⟩ : HeaderView).get name = (⟨some t₂⟩ : HeaderView).get name := by
  have hfind : (t₁.toPairs.find? fun entry => eqIgnoreAsciiCase entry.1 name) =
      t₂.toPairs.find? fun entry => eqIgnoreAsciiCase entry.1 name :=
    h.find? fun e he => isOther_of_named htier hpayer he
  unfold HeaderView.get
  dsimp only [Option.bind_eq_bind, Option.bind_some]
  rw [h.get? htier hpayer, hfind]

include h in
theorem Alike.presentedPayment :
    presentedPayment ⟨some t₁⟩ = X402Verifier.presentedPayment ⟨some t₂⟩ := by
  obtain ⟨htier, hpayer⟩ := read_ne headerPaymentSignature (by simp)
  rw [X402Verifier.presentedPayment, h.view_get htier hpayer, X402Verifier.presentedPayment]

include h in
theorem Alike.presentedToken :
    presentedToken ⟨some t₁⟩ = X402Verifier.presentedToken ⟨some t₂⟩ := by
  obtain ⟨htier, hpayer⟩ := read_ne headerPaymentSession (by simp)
  simp only [X402Verifier.presentedToken, h.presentedPayment, h.view_get htier hpayer]

include h in
/-- `decide` reads nothing else of the headers. -/
theorem Alike.decide (svc : Service) (clientIp : Option IpAddr) (path : String)
    (policy : Option String) (resourceUrl : String) (settlePolicy : SettlePolicy) :
    svc.decide ⟨some t₁⟩ clientIp path policy resourceUrl settlePolicy =
      svc.decide ⟨some t₂⟩ clientIp path policy resourceUrl settlePolicy := by
  simp only [Service.decide, h.presentedPayment, h.presentedToken]

end Views

omit [Platform] in
theorem others_insert (t : Table String String) (e : String × String) :
    (t.insert (toAsciiLowercase e.1) e.2).toPairs.filter isOther =
      if isOther e then
        (toAsciiLowercase e.1, e.2) ::
          (t.toPairs.filter isOther).filter fun f => f.1 ≠ toAsciiLowercase e.1
      else t.toPairs.filter isOther := by
  have hlower : isOther (toAsciiLowercase e.1, e.2) = isOther e := by
    simp [isOther, named, eqIgnoreAsciiCase, toAsciiLowercase_toAsciiLowercase]
  rw [Table.toPairs_insert, List.filter_cons, hlower]
  split_ifs with hother
  · rw [List.filter_filter, List.filter_filter]
    simp only [Bool.and_comm]
  · rw [List.filter_filter]
    refine List.filter_congr fun f _ => ?_
    cases hf : isOther f with
    | false => rfl
    | true =>
      have hne : f.1 ≠ toAsciiLowercase e.1 := by
        intro heq
        have hsame : isOther f = isOther (toAsciiLowercase e.1, e.2) := by
          simp [isOther, named, heq]
        exact hother (hlower.symm.trans (hsame.symm.trans hf))
      simp [hne]

omit [Platform] in
theorem alike_foldl (hs : RawHeaders) (t₁ t₂ : Table String String)
    (h : Alike t₁.toPairs t₂.toPairs) :
    Alike (hs.foldl (fun map e => map.insert (toAsciiLowercase e.1) e.2) t₁).toPairs
      ((hs.filter isOther).foldl (fun map e => map.insert (toAsciiLowercase e.1) e.2) t₂).toPairs := by
  induction hs generalizing t₁ t₂ with
  | nil => exact h
  | cons e hs ih =>
    cases he : isOther e with
    | false =>
      rw [List.filter_cons_of_neg (by simp [he])]
      refine ih _ _ ((others_insert t₁ e).trans ?_)
      rw [he, if_neg Bool.false_ne_true]
      exact h
    | true =>
      rw [List.filter_cons_of_pos he]
      refine ih _ _ ?_
      rw [Alike, others_insert, others_insert, h]

omit [Platform] in
theorem Alike.headerMap {headers₁ headers₂ : Option (List HeaderValue)}
    (h : Alike (rawHeaders headers₁) (rawHeaders headers₂)) :
    Alike (headerMap headers₁).toPairs (X402Verifier.headerMap headers₂).toPairs := by
  have hmap : ∀ headers, X402Verifier.headerMap headers =
      (rawHeaders headers).foldl (fun map e => map.insert (toAsciiLowercase e.1) e.2) ∅ := by
    intro headers
    simp [X402Verifier.headerMap, rawHeaders, List.foldl_map]
  have h₁ := alike_foldl (rawHeaders headers₁) ∅ ∅ rfl
  have h₂ := alike_foldl (rawHeaders headers₂) ∅ ∅ rfl
  rw [hmap, hmap]
  rw [show (rawHeaders headers₁).filter isOther = (rawHeaders headers₂).filter isOther from h] at h₁
  exact h₁.trans h₂.symm

/-- **ext_proc.** Requests that are alike are handled alike. -/
theorem handleRequestHeaders_alike (svc : Service) (st : StreamState)
    {headers₁ headers₂ : Option (List HeaderValue)}
    (h : Alike (rawHeaders headers₁) (rawHeaders headers₂)) (clientIp : Option IpAddr)
    (policy : Option String) (decideMs : String) :
    svc.handleRequestHeaders st headers₁ clientIp policy decideMs =
      svc.handleRequestHeaders st headers₂ clientIp policy decideMs ∧
    svc.processDecision headers₁ clientIp policy = svc.processDecision headers₂ clientIp policy := by
  have hmap := h.headerMap
  have hget : ∀ name ∈ [headerPaymentSignature, headerPaymentSession, "content-type", ":path",
      "x-forwarded-host", ":authority", "x-forwarded-proto", ":scheme"],
      (headerMap headers₁).get? name = (headerMap headers₂).get? name :=
    fun name hname => hmap.get? (read_ne name hname).1 (read_ne name hname).2
  have hview : ∀ name ∈ [headerPaymentSignature, headerPaymentSession, "content-type", ":path",
      "x-forwarded-host", ":authority", "x-forwarded-proto", ":scheme"],
      (⟨some (headerMap headers₁)⟩ : HeaderView).get name =
        (⟨some (headerMap headers₂)⟩ : HeaderView).get name :=
    fun name hname => hmap.view_get (read_ne name hname).1 (read_ne name hname).2
  have hurl : ∀ path, resourceUrl (headerMap headers₁) path =
      resourceUrl (headerMap headers₂) path := by
    intro path
    simp only [resourceUrl, hget "x-forwarded-host" (by simp), hget ":authority" (by simp),
      hget "x-forwarded-proto" (by simp), hget ":scheme" (by simp)]
  have hreply : ∀ tier payer meter, allowReply tier payer meter ⟨some (headerMap headers₁)⟩ =
      allowReply tier payer meter ⟨some (headerMap headers₂)⟩ := by
    intro tier payer meter
    have hgrpc : isGrpcRequest ⟨some (headerMap headers₁)⟩ =
        isGrpcRequest ⟨some (headerMap headers₂)⟩ :=
      congrArg (Option.any _) (hview "content-type" (by simp))
    simp only [allowReply, grpcTimeoutFor, hgrpc]
  have hdecision : svc.processDecision headers₁ clientIp policy =
      svc.processDecision headers₂ clientIp policy := by
    simp only [Service.processDecision, hget ":path" (by simp), hurl, hmap.decide]
  refine ⟨?_, hdecision⟩
  simp only [handleRequestHeaders_eq, hdecision, hreply, hget ":path" (by simp),
    hview headerPaymentSignature (by simp)]

omit [Platform] in
/-- The same HTTP request with other headers. -/
def CheckRequest.withHeaders (request : CheckRequest) (http : HttpRequest)
    (headers : Table String String) : CheckRequest :=
  { request with http := some { http with headers := headers } }

/-- **ext_authz.** Likewise. -/
theorem check_alike (svc : Service) (request : CheckRequest) (http : HttpRequest)
    {headers₁ headers₂ : Table String String} (h : Alike headers₁.toPairs headers₂.toPairs) :
    svc.check (request.withHeaders http headers₁) = svc.check (request.withHeaders http headers₂) ∧
      svc.checkDecision (request.withHeaders http headers₁) =
        svc.checkDecision (request.withHeaders http headers₂) := by
  have hcontent := h.view_get (read_ne "content-type" (by simp)).1
    (read_ne "content-type" (by simp)).2
  constructor
  · simp only [Service.check, CheckRequest.withHeaders, Option.map_some, h.decide, isGrpcRequest,
      hcontent, HttpRequest.resourceUrl]
  · simp only [Service.checkDecision, CheckRequest.withHeaders, Option.map_some, h.decide,
      HttpRequest.resourceUrl]

/-! ## Both filters -/

omit [Platform] in
/-- What a forwarded request says of who sent it. -/
def identityOf (hs : RawHeaders) : List String × List String := (valuesOf headerTier hs, payersOf hs)

omit [Platform] in
/-- Two answers that forward what one decision established forward it under one identity. -/
theorem identityOf_congr {fwd₁ fwd₂ : Option RawHeaders} (identity : Option (Tier × Option String))
    (hsome : fwd₁.isSome = fwd₂.isSome)
    (h₁ : ∀ hs, fwd₁ = some hs → ∃ tier payer, identity = some (tier, payer) ∧ Asserts tier payer hs)
    (h₂ : ∀ hs, fwd₂ = some hs → ∃ tier payer, identity = some (tier, payer) ∧ Asserts tier payer hs) :
    fwd₁.map identityOf = fwd₂.map identityOf := by
  cases fwd₁ with
  | none =>
    cases fwd₂ with
    | none => rfl
    | some hs₂ => cases hsome
  | some hs₁ =>
    cases fwd₂ with
    | none => cases hsome
    | some hs₂ =>
      obtain ⟨tier, payer, hid, h₁⟩ := h₁ hs₁ rfl
      obtain ⟨tier', payer', hid', h₂⟩ := h₂ hs₂ rfl
      rw [hid] at hid'
      cases hid'
      simp only [Option.map_some, identityOf, h₁.tier, h₂.tier, h₁.payer, h₂.payer]

/-- **Identity headers.** What ext_authz forwards always asserts the tier and payer it decided; what
ext_proc forwards does so exactly when the request is identified. Requests that differ only in the
client's own identity headers are forwarded under the same identity: by ext_authz always, and by
ext_proc when both are identified. -/
theorem identity_headers_asserted_iff (svc : Service) :
    (∀ (request : CheckRequest) (answer : Answers) (fwd : RawHeaders),
      ((svc.check request).eval answer).1.forwarded request.rawHeaders = some fwd →
      ∃ tier payer, ((svc.checkDecision request).eval answer).1.identity? = some (tier, payer) ∧
        Asserts tier payer fwd) ∧
    (∀ (st : StreamState) (headers : Option (List HeaderValue)) (clientIp : Option IpAddr)
      (policy : Option String) (decideMs : String) (answer : Answers) (fwd : RawHeaders),
      ((svc.handleRequestHeaders st headers clientIp policy decideMs).eval answer).1.1.forwarded
        (rawHeaders headers) = some fwd →
      ∃ tier payer,
        ((svc.processDecision headers clientIp policy).eval fun n => answer (n + 1)).1.identity? =
          some (tier, payer) ∧
        (Asserts tier payer fwd ↔ Identified headers policy fun n => answer (n + 1))) ∧
    (∀ (request : CheckRequest) (http : HttpRequest) (headers₁ headers₂ : Table String String)
      (answer : Answers), Alike headers₁.toPairs headers₂.toPairs →
      (((svc.check (request.withHeaders http headers₁)).eval answer).1.forwarded
        headers₁.toPairs).map identityOf =
      (((svc.check (request.withHeaders http headers₂)).eval answer).1.forwarded
        headers₂.toPairs).map identityOf) ∧
    ∀ (st : StreamState) (headers₁ headers₂ : Option (List HeaderValue)) (clientIp : Option IpAddr)
      (policy : Option String) (decideMs : String) (answer : Answers),
      Alike (rawHeaders headers₁) (rawHeaders headers₂) →
      Identified headers₁ policy (fun n => answer (n + 1)) →
      Identified headers₂ policy (fun n => answer (n + 1)) →
      (((svc.handleRequestHeaders st headers₁ clientIp policy decideMs).eval answer).1.1.forwarded
        (rawHeaders headers₁)).map identityOf =
      (((svc.handleRequestHeaders st headers₂ clientIp policy decideMs).eval answer).1.1.forwarded
        (rawHeaders headers₂)).map identityOf := by
  refine ⟨fun request answer fwd => check_asserts svc request answer,
    fun st headers clientIp policy decideMs answer fwd =>
      process_asserts_iff svc st headers clientIp policy decideMs answer, ?_, ?_⟩
  -- Both answers assert what was decided, and alike headers lead to one decision.
  · intro request http headers₁ headers₂ answer h
    obtain ⟨hcheck, hdecision⟩ := check_alike svc request http h
    refine identityOf_congr _ ?_
      (fun fwd => check_asserts svc (request.withHeaders http headers₁) answer) fun fwd hfwd => ?_
    · rw [hcheck]
      cases ((svc.check (request.withHeaders http headers₂)).eval answer).1 <;> rfl
    · rw [hdecision]
      exact check_asserts svc (request.withHeaders http headers₂) answer hfwd
  -- The same of ext_proc, where it takes `Identified` for a forwarded request to assert it.
  · intro st headers₁ headers₂ clientIp policy decideMs answer h hid₁ hid₂
    obtain ⟨hhandle, hdecision⟩ := handleRequestHeaders_alike svc st h clientIp policy decideMs
    refine identityOf_congr ((svc.processDecision headers₁ clientIp policy).eval
      fun n => answer (n + 1)).1.identity? ?_ (fun fwd hfwd => ?_) fun fwd hfwd => ?_
    · rw [hhandle]
      generalize ((svc.handleRequestHeaders st headers₂ clientIp policy decideMs).eval
        answer).1.1 = response
      cases response with
      | requestHeaders mutation => cases mutation <;> rfl
      | _ => rfl
    · obtain ⟨tier, payer, hidentity, hiff⟩ :=
        process_asserts_iff svc st headers₁ clientIp policy decideMs answer hfwd
      exact ⟨tier, payer, hidentity, hiff.mpr hid₁⟩
    · obtain ⟨tier, payer, hidentity, hiff⟩ :=
        process_asserts_iff svc st headers₂ clientIp policy decideMs answer hfwd
      exact ⟨tier, payer, hdecision ▸ hidentity, hiff.mpr hid₂⟩

/-! ## A payer of the client's own -/

omit [Platform] in
/-- A request that names a payer, and presents neither a payment nor a session. -/
def claimedPayerHeaders : Option (List HeaderValue) :=
  some [{ key := ":path", value := "/" }, { key := headerPayer, value := "0xv" }]

omit [Platform] in
/-- **A payer of the client's own.** The first request of an address to a fresh service is allowed on
the free tier, and forwarded under the payer the client named. -/
theorem claimed_payer_forwarded :
    ¬ ∀ (_ : Platform) (config : Config) (hmacKey : Bytes) (headers : Option (List HeaderValue))
      (clientIp : Option IpAddr) (policy : Option String) (env : Env) (fwd : RawHeaders),
      config.validate = .ok () →
      let svc := Service.ofConfig config
      let answer : Answers := fun _ op => (svc.exec env (.ofConfig config hmacKey) op).1
      ((svc.handleRequestHeaders {} headers clientIp policy "0.0").eval answer).1.1.forwarded
        (rawHeaders headers) = some fwd →
      ∃ tier payer,
        ((svc.processDecision headers clientIp policy).eval fun n => answer (n + 1)).1.identity? =
          some (tier, payer) ∧ Asserts tier payer fwd := by
  intro h
  let _ : Platform := examplePlatform
  obtain ⟨tier, payer, hidentity, hasserts⟩ := h examplePlatform (exampleConfig .stubAcceptAll) []
    claimedPayerHeaders (some (.v4 #v[192, 0, 2, 1])) none (exampleEnv 1000)
    [(":path", "/"), (headerPayer, "0xv"), (headerTier, "free")] rfl (by decide +kernel)
  have hfree : some (tier, payer) = some (Tier.free, none) :=
    hidentity.symm.trans (by decide +kernel)
  cases hfree
  have hpayers : payersOf [(":path", "/"), (headerPayer, "0xv"), (headerTier, "free")] = ["0xv"] := by
    decide +kernel
  cases hpayers.symm.trans hasserts.payer

end Requests

end X402Verifier
