import Mathlib.Data.List.Induction
import X402Verifier.ClientAttempt
import X402Verifier.SessionAccounting
import X402Verifier.StreamReplies
import X402Verifier.WireAgreement

/-!
# An exchange through the proxy

What lies between `payclient::send` and the ext_proc stream: Envoy opens a stream for the request,
tells the filter its headers, and either answers the client itself or forwards what the filter left
of the request, and does to the upstream's response what the filter's second reply says.

**Theorem (`client_reads_are_backed`).** If the upstream sets none of the gateway's headers itself,
what the client reads off the response is what the stream's calls were answered: a session token was
created, a receipt is that of the settlement or of a refusal, and the numbers of its meter are those
of one measurement. At most one payment is submitted, only when the client reads a 2xx, and none that
the request did not bring. The tier is never read: the gateway tells it to the upstream only.
-/

namespace X402Verifier

open RustStd Interaction

/-! ## Headers on their way -/

/-- The headers of a request: the client's own, then the payment. -/
def HttpCall.sent (call : HttpCall) : RawHeaders :=
  call.headers ++ (call.payment.map fun payment => (headerPaymentSignature, payment)).toList

/-- Headers as Envoy tells them to a filter. -/
def messageHeaders (hs : RawHeaders) : Option (List HeaderValue) :=
  some (hs.map fun (name, value) => { key := name, rawValue := value })

/-- The response Envoy sends on an `ImmediateResponse`. The request goes no further, and the filter is
told nothing more about it. -/
def ImmediateResponse.toHttp (r : ImmediateResponse) : HttpResponse :=
  { status := r.status, headers := forward [] r.headers [], body := r.body }

/-- What becomes of an upstream's response. -/
def HttpResponse.after (r : HttpResponse) : ProcessingResponse → HttpResponse
  | .immediateResponse response => response.toHttp
  | reply => { r with headers := forward r.headers reply.sets reply.removes }

/-- What an exchange depends on beside the gateway: what Envoy tells of a request and puts before
its headers, the upstream behind it, and how long the two phases took. -/
structure Envoy where
  attributes : HttpCall → Attributes
  pseudo : HttpCall → RawHeaders
  upstream : HttpCall → RawHeaders → HttpResponse
  decideMs : String
  settleMs : String

variable [Platform]

/-- The first message of a stream. -/
def Envoy.request (envoy : Envoy) (call : HttpCall) : ProcessingRequest :=
  { attributes := envoy.attributes call
    phase := .requestHeaders (messageHeaders (envoy.pseudo call ++ call.sent)) }

/-- The second, about the upstream's response. -/
def Envoy.response (envoy : Envoy) (call : HttpCall) (response : HttpResponse) :
    ProcessingRequest :=
  { attributes := envoy.attributes call
    phase := .responseHeaders
      (messageHeaders ((":status", toString response.status) :: response.headers)) }

/-- The upstream's response to what a reply leaves of the request. The filter stands before the router
and is sent headers only (in `envoy.yaml` the body modes are `NONE` and the trailer modes `SKIP`). -/
def Envoy.serve (envoy : Envoy) (call : HttpCall) (reply : ProcessingResponse) : HttpResponse :=
  envoy.upstream call (forward (envoy.pseudo call ++ call.sent) reply.sets reply.removes)

/-- What follows the first reply: the client is answered, or the upstream is asked and its response
goes through the filter. -/
def Service.proxiedAfter (svc : Service) (envoy : Envoy) (call : HttpCall) :
    ProcessingResponse × StreamState → Handler HttpResponse
  | (.immediateResponse response, _) => pure response.toHttp
  | (reply, st) => do
    let response := envoy.serve call reply
    let (reply, _) ← svc.process st (envoy.response call response) envoy.settleMs
    pure (response.after reply)

/-- One exchange, from the request to the response: a stream of two messages (`request_header_mode`
and `response_header_mode` are `SEND`), the first of which nothing overtakes
(`failure_mode_allow: false`). -/
def Service.proxied (svc : Service) (envoy : Envoy) (call : HttpCall) : Handler HttpResponse := do
  let first ← svc.process {} (envoy.request call) envoy.decideMs
  svc.proxiedAfter envoy call first

/-! ## What a filter sees of headers -/

omit [Platform] in
theorem text_messageHeaders (name value : String) :
    HeaderValue.text { key := name, rawValue := value } = value := by
  unfold HeaderValue.text
  split_ifs with hempty
  · exact (String.isEmpty_iff.mp hempty).symm
  · rfl

omit [Platform] in
theorem get?_headerMap (hs : RawHeaders) {name : String} (hname : toAsciiLowercase name = name) :
    (headerMap (messageHeaders hs)).get? name = (valuesOf name hs).getLast? := by
  induction hs using List.reverseRecOn with
  | nil => rfl
  | append_singleton hs h ih =>
    have hfold : headerMap (messageHeaders (hs ++ [h])) =
        (headerMap (messageHeaders hs)).insert (toAsciiLowercase h.1) h.2 := by
      simp [headerMap, messageHeaders, text_messageHeaders]
    have hnamed : named name h = decide (toAsciiLowercase h.1 = name) := by
      show (toAsciiLowercase h.1 == toAsciiLowercase name) = _
      rw [hname]
      rfl
    rw [hfold, Table.get?_insert, ih, valuesOf, valuesOf, List.filter_append, List.map_append]
    by_cases hkey : toAsciiLowercase h.1 = name
    · rw [if_pos hkey.symm]
      simp [hnamed, hkey]
    · rw [if_neg (Ne.symm hkey)]
      simp [hnamed, hkey]

omit [Platform] in
theorem lower_of_get?_headerMap {hs : RawHeaders} {key value : String}
    (h : (headerMap (messageHeaders hs)).get? key = some value) : toAsciiLowercase key = key := by
  induction hs using List.reverseRecOn generalizing value with
  | nil => simp [headerMap, messageHeaders] at h
  | append_singleton hs e ih =>
    have hfold : headerMap (messageHeaders (hs ++ [e])) =
        (headerMap (messageHeaders hs)).insert (toAsciiLowercase e.1) e.2 := by
      simp [headerMap, messageHeaders, text_messageHeaders]
    rw [hfold, Table.get?_insert] at h
    split_ifs at h with hkey
    · rw [hkey, toAsciiLowercase_toAsciiLowercase]
    · exact ih h

omit [Platform] in
/-- **Reading a request.** A header is the last of its values, unless that is blank. -/
theorem get_messageHeaders (hs : RawHeaders) {name : String} (hname : toAsciiLowercase name = name) :
    HeaderView.get ⟨some (headerMap (messageHeaders hs))⟩ name =
      (valuesOf name hs).getLast?.filter (! isBlank ·) := by
  have hfind : ((headerMap (messageHeaders hs)).get? name).or
      (((headerMap (messageHeaders hs)).toPairs.find? fun (key, _) =>
        eqIgnoreAsciiCase key name).map (·.2)) = (valuesOf name hs).getLast? := by
    rw [← get?_headerMap hs hname]
    cases hget : (headerMap (messageHeaders hs)).get? name with
    | some value => rfl
    | none =>
      rw [Option.none_or, Option.map_eq_none_iff, List.find?_eq_none]
      rintro ⟨key, value⟩ hmem hsame
      have hkey := Table.mem_toPairs_iff.mp hmem
      have hlower := lower_of_get?_headerMap hkey
      simp only [eqIgnoreAsciiCase, beq_iff_eq, hlower, hname] at hsame
      rw [hsame, hget] at hkey
      cases hkey
  simp only [HeaderView.get, Option.bind_eq_bind, Option.bind_some, hfind]
  cases (valuesOf name hs).getLast? with
  | none => rfl
  | some value => cases hblank : isBlank value <;> simp [Option.filter, hblank]

/-! ## What a client reads of headers -/

omit [Platform] in
theorem valuesOf_congr {name name' : String} (h : eqIgnoreAsciiCase name name' = true)
    (hs : RawHeaders) : valuesOf name hs = valuesOf name' hs := by
  have hlower : toAsciiLowercase name = toAsciiLowercase name' := by
    simpa [eqIgnoreAsciiCase] using h
  have hnamed : named name = named name' := by
    funext e
    simp only [named, eqIgnoreAsciiCase, hlower]
  rw [valuesOf, valuesOf, hnamed]

section Forward

variable (hs : RawHeaders) {set : List HeaderValueOption} (remove : List String)

omit [Platform] in
theorem valuesOf_forward_set
    (hdistinct : (set.map fun h => toAsciiLowercase h.key).Nodup) {e : HeaderValueOption}
    (he : e ∈ set) (hover : e.appendAction = .overwriteIfExistsOrAdd) :
    valuesOf e.key (forward hs set remove) = if e.value.isEmpty then [] else [e.value] := by
  obtain ⟨before, after, rfl⟩ := List.append_of_mem he
  rw [List.map_append, List.map_cons] at hdistinct
  have hafter : ∀ e' ∈ after, eqIgnoreAsciiCase e.key e'.key = false := by
    intro e' he'
    have hnot := (List.nodup_cons.mp (List.nodup_append.mp hdistinct).2.1).1
    have hne : toAsciiLowercase e.key ≠ toAsciiLowercase e'.key := fun heq =>
      hnot (heq ▸ List.mem_map_of_mem he')
    simpa [eqIgnoreAsciiCase] using hne
  rw [forward, List.foldl_append, List.foldl_cons, valuesOf_sets_ne _ hafter,
    show e = authoritative e.key e.value by cases e; cases hover; rfl]
  exact valuesOf_set_self _ _ _

omit [Platform] in
theorem valuesOf_forward_unset {name : String} (hnone : valuesOf name hs = [])
    (hset : ∀ e ∈ set, eqIgnoreAsciiCase name e.key = false) :
    valuesOf name (forward hs set remove) = [] := by
  rw [forward, valuesOf_sets_ne _ hset]
  refine List.map_eq_nil_iff.mpr (List.filter_eq_nil_iff.mpr fun e he => ?_)
  exact List.filter_eq_nil_iff.mp (List.map_eq_nil_iff.mp hnone) e (List.mem_of_mem_filter he)

end Forward

omit [Platform] in
/-- **Reading a reply.** Over headers without this name, it is what the reply sets. -/
theorem valuesOf_tidy {reply : ProcessingResponse} (htidy : reply.Tidy) {key name : String}
    (hkey : key ∈ replyNames ++ meterNames) (hname : eqIgnoreAsciiCase name key = true)
    {hs : RawHeaders} (hnone : valuesOf name hs = []) :
    valuesOf name (forward hs reply.sets reply.removes) =
      (sentUnder key reply.sets).filter (! ·.isEmpty) := by
  by_cases hmem : ∃ e ∈ reply.sets, e.key = key
  · obtain ⟨e, he, rfl⟩ := hmem
    have honly : reply.sets.filter (fun h => h.key == e.key) = [e] := by
      have hdistinct : (reply.sets.map (·.key)).Nodup :=
        List.Nodup.of_map toAsciiLowercase (by rw [List.map_map]; exact htidy.distinct)
      exact filter_eq_singleton hdistinct he
    rw [valuesOf_congr hname, valuesOf_forward_set hs _ htidy.distinct he (htidy.overwrites e he),
      sentUnder, honly]
    cases hempty : e.value.isEmpty <;> simp [hempty]
  · have hsent : sentUnder key reply.sets = [] := by
      refine List.map_eq_nil_iff.mpr (List.filter_eq_nil_iff.mpr fun e he hsame => ?_)
      exact hmem ⟨e, he, of_decide_eq_true hsame⟩
    rw [hsent, List.filter_nil]
    refine valuesOf_forward_unset _ _ hnone fun e he => ?_
    by_contra hsame
    have hlower : toAsciiLowercase e.key = toAsciiLowercase key := by
      simp only [eqIgnoreAsciiCase, beq_iff_eq, Bool.not_eq_false] at hname hsame
      rw [← hname, hsame]
    exact hmem ⟨e, he, List.inj_on_of_nodup_map distinct_names (htidy.known e he) hkey hlower⟩

omit [Platform] in
theorem header_tidy {reply : ProcessingResponse} (htidy : reply.Tidy) {key name : String}
    (hkey : key ∈ replyNames ++ meterNames) (hname : eqIgnoreAsciiCase name key = true)
    {response : HttpResponse} {hs : RawHeaders} (hnone : valuesOf name hs = [])
    (hheaders : response.headers = forward hs reply.sets reply.removes) :
    response.header name = ((sentUnder key reply.sets).filter (! ·.isEmpty)).head?.filter
      fun value => value.toList.all isHeaderText := by
  rw [HttpResponse.header, hheaders, valuesOf_tidy htidy hkey hname hnone]

omit [Platform] in
theorem header_of_sent {reply : ProcessingResponse} (htidy : reply.Tidy) {key name : String}
    (hkey : key ∈ replyNames ++ meterNames) (hname : eqIgnoreAsciiCase name key = true)
    {response : HttpResponse} {hs : RawHeaders} (hnone : valuesOf name hs = [])
    (hheaders : response.headers = forward hs reply.sets reply.removes) {value : String}
    (hsent : sentUnder key reply.sets = [value]) (hwritten : value.isEmpty = false)
    (htext : value.toList.all isHeaderText = true) : response.header name = some value := by
  rw [header_tidy htidy hkey hname hnone hheaders, hsent,
    List.filter_cons_of_pos (by simp [hwritten])]
  exact if_pos htext

omit [Platform] in
theorem mem_sent_of_header {reply : ProcessingResponse} (htidy : reply.Tidy) {key name : String}
    (hkey : key ∈ replyNames ++ meterNames) (hname : eqIgnoreAsciiCase name key = true)
    {response : HttpResponse} {hs : RawHeaders} (hnone : valuesOf name hs = [])
    (hheaders : response.headers = forward hs reply.sets reply.removes) {value : String}
    (h : response.header name = some value) : value ∈ sentUnder key reply.sets := by
  rw [header_tidy htidy hkey hname hnone hheaders] at h
  exact List.mem_of_mem_filter (List.mem_of_mem_head? (Option.filter_eq_some_iff.mp h).1)

/-! ## Numbers -/

omit [Platform] in
theorem toNat_of_isDigit {c : Char} (h : c.isDigit = true) : 48 ≤ c.toNat ∧ c.toNat ≤ 57 := by
  simp only [Char.isDigit, Bool.and_eq_true, decide_eq_true_eq, ge_iff_le, UInt32.le_iff_toNat_le]
    at h
  exact h

omit [Platform] in
theorem isDigit_of_mem_toString {n : Nat} {c : Char} (h : c ∈ (toString n).toList) :
    c.isDigit = true := by
  by_contra hnot
  exact not_mem_toString (by simpa using hnot) n h

omit [Platform] in
theorem isHeaderText_toString (n : Nat) : (toString n).toList.all isHeaderText = true := by
  refine List.all_eq_true.mpr fun c hc => ?_
  obtain ⟨hlow, hhigh⟩ := toNat_of_isDigit (isDigit_of_mem_toString hc)
  simp only [isHeaderText, Bool.or_eq_true, Bool.and_eq_true, decide_eq_true_eq]
  omega

omit [Platform] in
theorem trim_toString (n : Nat) : trim (toString n) = toString n := by
  rw [trim, trimChars_eq_self fun c hc => ?_, String.ofList_toList]
  obtain ⟨hlow, hhigh⟩ := toNat_of_isDigit (isDigit_of_mem_toString hc)
  simp only [isWhitespace, Bool.or_eq_false_iff, Bool.and_eq_false_iff, decide_eq_false_iff_not,
    beq_eq_false_iff_ne]
  omega

omit [Platform] in
theorem isEmpty_toString (n : Nat) : (toString n).isEmpty = false := by
  have hne : (toString n).toList ≠ [] := by
    rw [toList_toString]
    exact Nat.toDigits_ne_nil
  cases hempty : (toString n).isEmpty with
  | false => rfl
  | true => exact absurd (by rw [String.isEmpty_iff.mp hempty]; rfl) hne

/-- A number that fits. -/
def fits (bound n : Nat) : Option Nat := if n < bound then some n else none

omit [Platform] in
theorem parse_toString (bound n : Nat) : parseUnsigned bound (toString n) = fits bound n := by
  have hplus : '+' ∉ (toString n).toList := not_mem_toString (by decide) n
  unfold parseUnsigned
  split
  · rename_i rest heq
    exact absurd (heq ▸ List.mem_cons_self) hplus
  · simp only [toList_toString, digits?_toDigits, fits]
    by_cases hlt : n < bound <;> simp [Option.filter, hlt]

/-! ## What a client reads of a meter -/

def Meter.read : Meter → ClientMeter
  | .free remaining limit resetSecs =>
    { freeRemaining := fits u64Bound remaining
      freeLimit := fits u64Bound limit
      freeReset := fits u64Bound resetSecs }
  | .session remaining quota expiresInSecs =>
    { sessionRemaining := fits u64Bound remaining
      sessionQuota := fits u64Bound quota
      sessionExpires := fits u64Bound expiresInSecs }
  | .unknown => {}

/-- The names a client looks up beside a meter's. -/
def clientNames : List String :=
  ["payment-required", "payment-response", "x-payment-session", "x-x402-tier", "server-timing"]

/-- None of these is set here. -/
def Quiet (hs : RawHeaders) : Prop := ∀ name ∈ clientNames ++ meterNames, valuesOf name hs = []

section Meters

variable {reply : ProcessingResponse} (htidy : reply.Tidy) {meter : Meter}
  (hmeter : reply.sets.filter isMeterHeader = meter.sent) {response : HttpResponse}
  {hs : RawHeaders} (hquiet : Quiet hs)
  (hheaders : response.headers = forward hs reply.sets reply.removes)

include hmeter

omit [Platform] in
/-- What a reply sets under the name of a meter is the meter's. -/
theorem sentUnder_meterName {name : String} (hname : name ∈ meterNames) :
    sentUnder name reply.sets = sentUnder name meter.sent := by
  rw [← hmeter, sentUnder, sentUnder, List.filter_filter]
  congr 1
  refine List.filter_congr fun h _ => ?_
  cases hkey : h.key == name with
  | false => rfl
  | true =>
    rw [isMeterHeader_of_meterName ((beq_iff_eq.mp hkey) ▸ hname)]
    rfl

include htidy hquiet hheaders

omit [Platform] in
theorem number_of_sent {name : String} {n : Nat} (hname : name ∈ meterNames)
    (hsent : sentUnder name meter.sent = [toString n]) :
    response.number name = fits u64Bound n := by
  have hsame : eqIgnoreAsciiCase name name = true := by simp [eqIgnoreAsciiCase]
  have hvalue : response.header name = some (toString n) :=
    header_of_sent htidy (List.mem_append_right _ hname) hsame
      (hquiet name (List.mem_append_right _ hname)) hheaders
      ((sentUnder_meterName hmeter hname).trans hsent) (isEmpty_toString n) (isHeaderText_toString n)
  rw [HttpResponse.number, hvalue, Option.bind_some, trim_toString, parse_toString]

omit [Platform] in
theorem number_of_unsent {name : String} (hname : name ∈ meterNames)
    (hsent : sentUnder name meter.sent = []) : response.number name = none := by
  have hsame : eqIgnoreAsciiCase name name = true := by simp [eqIgnoreAsciiCase]
  rw [HttpResponse.number, header_tidy htidy (List.mem_append_right _ hname) hsame
    (hquiet name (List.mem_append_right _ hname)) hheaders, sentUnder_meterName hmeter hname, hsent]
  rfl

omit [Platform] in
/-- **The meter is read.** -/
theorem meter_of_reply (htier : sentUnder headerTier reply.sets = []) :
    response.meter = meter.read := by
  have hnotier : response.header "x-x402-tier" = none := by
    have hkey : headerTier ∈ replyNames ++ meterNames := by simp [replyNames]
    rw [header_tidy htidy hkey (by decide) (hquiet _ (by simp [clientNames])) hheaders, htier]
    rfl
  have hunsent : ∀ name ∈ meterNames, sentUnder name meter.sent = [] →
      response.number name = none := fun name hname =>
    number_of_unsent htidy hmeter hquiet hheaders hname
  have hsent : ∀ name ∈ meterNames, ∀ n, sentUnder name meter.sent = [toString n] →
      response.number name = fits u64Bound n := fun name hname n =>
    number_of_sent htidy hmeter hquiet hheaders hname
  unfold HttpResponse.meter
  rw [hnotier]
  -- Each kind of meter sends three of the six headers, and the client finds no other.
  cases meter with
  | unknown =>
    rw [hunsent "x-x402-free-remaining" (by simp [meterNames]) rfl,
      hunsent "x-x402-free-limit" (by simp [meterNames]) rfl,
      hunsent "x-x402-free-reset" (by simp [meterNames]) rfl,
      hunsent "x-x402-session-remaining" (by simp [meterNames]) rfl,
      hunsent "x-x402-session-quota" (by simp [meterNames]) rfl,
      hunsent "x-x402-session-expires" (by simp [meterNames]) rfl]
    rfl
  | free remaining limit resetSecs =>
    rw [hsent "x-x402-free-remaining" (by simp [meterNames]) remaining rfl,
      hsent "x-x402-free-limit" (by simp [meterNames]) limit rfl,
      hsent "x-x402-free-reset" (by simp [meterNames]) resetSecs rfl,
      hunsent "x-x402-session-remaining" (by simp [meterNames]) rfl,
      hunsent "x-x402-session-quota" (by simp [meterNames]) rfl,
      hunsent "x-x402-session-expires" (by simp [meterNames]) rfl]
    rfl
  | session remaining quota expiresInSecs =>
    rw [hunsent "x-x402-free-remaining" (by simp [meterNames]) rfl,
      hunsent "x-x402-free-limit" (by simp [meterNames]) rfl,
      hunsent "x-x402-free-reset" (by simp [meterNames]) rfl,
      hsent "x-x402-session-remaining" (by simp [meterNames]) remaining rfl,
      hsent "x-x402-session-quota" (by simp [meterNames]) quota rfl,
      hsent "x-x402-session-expires" (by simp [meterNames]) expiresInSecs rfl]
    rfl

end Meters

/-! ## What a client reads of a receipt -/

/-- The fields of a receipt the client keeps. -/
def Wire.SettlementResponse.mirror (r : X402Verifier.SettlementResponse) :
    Wire.SettlementResponse :=
  { success := r.success
    errorReason := r.errorReason
    transaction := r.transaction
    network := r.network }

omit [Platform] in
theorem Wire.fromJson_settlement (r : X402Verifier.SettlementResponse) :
    Wire.SettlementResponse.fromJson r.toJson = .ok (.mirror r) := by
  simp [Wire.SettlementResponse.fromJson, Wire.SettlementResponse.mirror, SettlementResponse.toJson,
    Json.readBool, Json.readString]

theorem readReceipt_encodeHeader (base64 : Base64Laws) {r : X402Verifier.SettlementResponse}
    (hjson : ReadBack r.toJson) : readReceipt (encodeHeader r.toJson) = some (.mirror r) := by
  rw [readReceipt, encodeHeader, base64.trim_encode, base64.decode_encode]
  show ((Platform.jsonFromSlice (utf8 (Platform.jsonToString r.toJson))).toOption >>= _) = _
  rw [show Platform.jsonFromSlice _ = _ from hjson]
  show (Wire.SettlementResponse.fromJson r.toJson).toOption = _
  rw [Wire.fromJson_settlement]
  rfl

/-! ## The attempt -/

/-- What an attempt tells was answered. A receipt is told as it was written, if its JSON is read as
it was printed. -/
structure AttemptBacked (svc : Service) (calls : List (Event Op.Ret)) (attempt : Attempt) :
    Prop where
  meter : ∃ meter, MeterBacked calls meter ∧ attempt.meter = meter.read
  session : ∀ token, attempt.session = some token →
    ∃ payer policy, ∃ tier : PaidTierConfig,
      ⟨.createSession payer policy tier.quota tier.durationSecs, .ok token⟩ ∈ calls ∧
      attempt.meter = (Meter.session tier.quota tier.quota tier.durationSecs).read
  receipt : ∀ r, attempt.paymentResponse = some r → ∃ receipt, ReceiptBacked svc calls receipt ∧
    readReceipt (encodeHeader receipt.toJson) = some r ∧
    (ReadBack receipt.toJson → r = .mirror receipt)

omit [Platform] in
theorem ReceiptBacked.mono {svc : Service} {calls calls' : List (Event Op.Ret)}
    {receipt : SettlementResponse} (h : ReceiptBacked svc calls receipt) (hsubset : calls ⊆ calls') :
    ReceiptBacked svc calls' receipt := by
  refine h.imp_right ?_
  rintro ⟨payload, requirements, settled, token, tier, hsettled, hreceipt, hcreated⟩
  refine ⟨payload, requirements, settled, token, tier, hsubset hsettled, hreceipt, fun t ht => ?_⟩
  obtain ⟨payer, policy, hmem⟩ := hcreated t ht
  exact ⟨payer, policy, hsubset hmem⟩

theorem AttemptBacked.mono {svc : Service} {calls calls' : List (Event Op.Ret)}
    {attempt : Attempt} (h : AttemptBacked svc calls attempt) (hsubset : calls ⊆ calls') :
    AttemptBacked svc calls' attempt where
  meter := by
    obtain ⟨meter, hmeter, hread⟩ := h.meter
    exact ⟨meter, hmeter.mono hsubset, hread⟩
  session token htoken := by
    obtain ⟨payer, policy, tier, hcreated, hmeter⟩ := h.session token htoken
    exact ⟨payer, policy, tier, hsubset hcreated, hmeter⟩
  receipt r hr := by
    obtain ⟨receipt, hbacked, hread⟩ := h.receipt r hr
    exact ⟨receipt, hbacked.mono hsubset, hread⟩

/-- **Reading a backed reply.** -/
theorem attemptBacked_of_reply (base64 : Base64Laws) {svc : Service}
    {calls earlier : List (Event Op.Ret)} {reply : ProcessingResponse}
    (h : ReplyBacked svc calls earlier reply) (hnot : ∀ mutation, reply ≠ .requestHeaders mutation)
    (response : HttpResponse) {hs : RawHeaders} (hquiet : Quiet hs)
    (hheaders : response.headers = forward hs reply.sets reply.removes) :
    AttemptBacked svc (earlier ++ calls) (.ofResponse response) := by
  have hlast : calls ⊆ earlier ++ calls := List.subset_append_right _ _
  have htier : sentUnder headerTier reply.sets = [] := by
    rcases h.identity with ⟨mutation, hrequest⟩ | hnone
    · exact absurd hrequest (hnot mutation)
    · exact hnone _ (by simp [identityNames])
  have hread : ∀ {meter : Meter}, reply.sets.filter isMeterHeader = meter.sent →
      (Attempt.ofResponse response).meter = meter.read := fun hmeter =>
    meter_of_reply h.tidy hmeter hquiet hheaders htier
  constructor
  · obtain ⟨meter, hmeter, hbacked⟩ := h.meter
    refine ⟨meter, hbacked.mono fun e he => ?_, hread hmeter⟩
    exact List.mem_append.mpr (List.mem_append.mp he).symm
  · intro token htoken
    have hmem : token ∈ sentUnder headerPaymentSession reply.sets :=
      mem_sent_of_header h.tidy (by simp [replyNames]) (by decide)
        (hquiet "x-payment-session" (by simp [clientNames])) hheaders htoken
    obtain ⟨payer, policy, tier, hcreated, hmeter⟩ := h.token token hmem
    exact ⟨payer, policy, tier, hlast hcreated, hread hmeter⟩
  · intro r hr
    obtain ⟨text, htext, hparsed⟩ := Option.bind_eq_some_iff.mp
      (show (response.header "payment-response").bind readReceipt = some r from hr)
    have hmem : text ∈ sentUnder headerPaymentResponse reply.sets :=
      mem_sent_of_header h.tidy (by simp [replyNames]) (by decide)
        (hquiet "payment-response" (by simp [clientNames])) hheaders htext
    obtain ⟨receipt, rfl, hbacked⟩ := h.receipt text hmem
    refine ⟨receipt, hbacked.mono hlast, hparsed, fun hjson => ?_⟩
    rw [readReceipt_encodeHeader base64 hjson] at hparsed
    exact (Option.some.inj hparsed).symm

/-! ## What a request calls -/

def Op.submits : Op → Bool
  | .settle .. => true
  | _ => false

/-- Calls about a payment, or what it buys. -/
def Op.pays : Op → Bool
  | .claimPayment .. | .releasePayment _ | .verify .. | .settle .. | .createSession .. => true
  | _ => false

def submissions (calls : List (Event Op.Ret)) : Nat := calls.countP (·.1.submits)

omit [Platform] in
theorem submissions_append (calls calls' : List (Event Op.Ret)) :
    submissions (calls ++ calls') = submissions calls + submissions calls' :=
  List.countP_append

omit [Platform] in
theorem submissions_of_uncharged {calls : List (Event Op.Ret)}
    (h : ∀ e ∈ calls, e.1.charges = false) : submissions calls = 0 := by
  refine List.countP_eq_zero.mpr fun e he hsubmits => ?_
  obtain ⟨op, r⟩ := e
  have hnot := h _ he
  cases op <;> simp_all [Op.submits, Op.charges]

/-- A settlement submits its payment once. -/
theorem submissions_of_settles {svc : Service} {p : PendingPayment} {policy : Option String}
    {path : String} {calls : List (Event Op.Ret)} (h : Settles svc p policy path calls) :
    submissions calls = 1 := by
  rcases h with ⟨e, rfl⟩ | ⟨receipt, minted, hminted, rfl⟩
  · rfl
  · rcases hminted with ⟨-, rfl⟩ | ⟨payer, token, -, rfl⟩ <;> rfl

abbrev payless : Protocol Op Op.Ret (List (Event Op.Ret)) := .trace (·.pays = false)

theorem payless_decide (svc : Service) {headers : HeaderView}
    (hunpaid : presentedPayment headers = none) (clientIp : Option IpAddr) (path : String)
    (policy : Option String) (resourceUrl : String) (trace : List (Event Op.Ret)) :
    (svc.decide headers clientIp path policy resourceUrl .deferred).Follows payless
      (fun _ d => d.pending = none) trace := by
  refine (calls_decide svc headers clientIp path policy resourceUrl .deferred).follows_trace
    fun calls d h => ?_
  cases h with
  | session honored =>
    cases honored
    exact ⟨by simp [Op.pays], rfl⟩
  | payment passed presented =>
    rw [hunpaid] at presented
    cases presented
  | free passed unpaid served =>
    refine ⟨List.forall_mem_append.mpr ⟨?_, ?_⟩, ?_⟩
    · cases passed <;> simp [Op.pays]
    · cases served <;> simp [Op.pays]
    · cases served <;> rfl

theorem payless_handleRequestHeaders (svc : Service) {st : StreamState} (hst : st.pending = none)
    {headers : Option (List HeaderValue)}
    (hunpaid : presentedPayment ⟨some (headerMap headers)⟩ = none) (clientIp : Option IpAddr)
    (policy : Option String) (decideMs : String) (trace : List (Event Op.Ret)) :
    (svc.handleRequestHeaders st headers clientIp policy decideMs).Follows payless
      (fun _ out => out.2.pending = none) trace := by
  refine .perform rfl fun breaker _ => ?_
  split
  · exact hst
  · refine (payless_decide svc hunpaid clientIp _ policy _ _).bind fun trace d hd => ?_
    cases d with
    | allow tier payer token settlement pending meter => exact hd
    | deny challenge receipt meter => exact hst

/-! ## The exchange -/

theorem Service.ResponseCalls.answers {svc : Service} {st : StreamState}
    {headers : Option (List HeaderValue)} {settleMs : String} {calls : List (Event Op.Ret)}
    {out : ProcessingResponse × StreamState}
    (h : svc.ResponseCalls st headers settleMs calls out) :
    ∃ mutation, out.1 = .responseHeaders mutation := by
  cases h with
  | idle | failed => exact ⟨_, rfl⟩
  | delivered holds delivered settled => cases settled <;> exact ⟨_, rfl⟩

/-- What an upstream and its proxy leave to the gateway: the gateway's headers, and the names of the
protocol itself. -/
structure Envoy.Plain (envoy : Envoy) : Prop where
  quiet : ∀ call forwarded, Quiet (envoy.upstream call forwarded).headers
  status : ∀ call forwarded, valuesOf ":status" (envoy.upstream call forwarded).headers = []
  pseudo : ∀ call, valuesOf headerPaymentSignature (envoy.pseudo call) = []

/-- One exchange, by what it called. -/
structure Exchanged (svc : Service) (call : HttpCall) (response : HttpResponse)
    (calls : List (Event Op.Ret)) : Prop where
  attempt : AttemptBacked svc calls (.ofResponse response)
  once : submissions calls ≤ 1
  delivered : submissions calls ≠ 0 → 200 ≤ response.status ∧ response.status < 300
  unpaid : valuesOf headerPaymentSignature call.sent = [] → ∀ e ∈ calls, e.1.pays = false

omit [Platform] in
theorem get?_status {envoy : Envoy} (hplain : envoy.Plain) {call : HttpCall}
    {forwarded : RawHeaders} {status : String} :
    (headerMap (messageHeaders ((":status", status) ::
      (envoy.upstream call forwarded).headers))).get? ":status" = some status := by
  rw [get?_headerMap _ (by decide), valuesOf,
    List.filter_cons_of_pos (by simp [named, eqIgnoreAsciiCase]), List.map_cons]
  show (status :: valuesOf ":status" _).getLast? = _
  rw [hplain.status call forwarded]
  rfl

section Exchange

variable (svc : Service) (envoy : Envoy) (call : HttpCall) (answer : Answers)

/-- What the request phase comes to. -/
def Service.firstPhase : (ProcessingResponse × StreamState) × List (Event Op.Ret) :=
  (svc.process {} (envoy.request call) envoy.decideMs).eval answer

/-- What the response phase comes to, when the request was let through. -/
def Service.secondPhase : (ProcessingResponse × StreamState) × List (Event Op.Ret) :=
  let first := svc.firstPhase envoy call answer
  (svc.process first.1.2 (envoy.response call (envoy.serve call first.1.1)) envoy.settleMs).eval
    fun n => answer (n + first.2.length)

theorem eval_proxied :
    (∃ response, (svc.firstPhase envoy call answer).1.1 = .immediateResponse response ∧
      (svc.proxied envoy call).eval answer =
        (response.toHttp, (svc.firstPhase envoy call answer).2)) ∨
    (svc.proxied envoy call).eval answer =
      ((envoy.serve call (svc.firstPhase envoy call answer).1.1).after
          (svc.secondPhase envoy call answer).1.1,
        (svc.firstPhase envoy call answer).2 ++ (svc.secondPhase envoy call answer).2) := by
  have heval : (svc.proxied envoy call).eval answer =
      let first := svc.firstPhase envoy call answer
      let second := (svc.proxiedAfter envoy call first.1).eval fun n => answer (n + first.2.length)
      (second.1, first.2 ++ second.2) := Prog.eval_bind _ _ answer
  -- What follows the request phase, when the filter has not answered by itself.
  have hafter : ∀ first : ProcessingResponse × StreamState, ∀ answer : Answers,
      (∀ response, first.1 ≠ .immediateResponse response) →
      (svc.proxiedAfter envoy call first).eval answer =
        let second := (svc.process first.2 (envoy.response call (envoy.serve call first.1))
          envoy.settleMs).eval answer
        ((envoy.serve call first.1).after second.1.1, second.2) := by
    rintro ⟨reply, st⟩ answer hnot
    have hprog : svc.proxiedAfter envoy call (reply, st) =
        (svc.process st (envoy.response call (envoy.serve call reply)) envoy.settleMs).bind
          fun second => .pure ((envoy.serve call reply).after second.1) := by
      cases reply with
      | immediateResponse response => exact absurd rfl (hnot response)
      | _ => rfl
    rw [hprog, Prog.eval_bind]
    simp
  rw [heval]
  cases hreply : (svc.firstPhase envoy call answer).1.1 with
  | immediateResponse response =>
    refine .inl ⟨response, rfl, ?_⟩
    have hfirst : (svc.firstPhase envoy call answer).1 =
        (.immediateResponse response, (svc.firstPhase envoy call answer).1.2) :=
      Prod.ext hreply rfl
    dsimp only
    rw [hfirst]
    exact Prod.ext rfl (List.append_nil _)
  | _ =>
    -- The request was let through, and the filter is shown the upstream's response.
    refine .inr ?_
    dsimp only
    rw [hafter _ _ fun response => by rw [hreply]; nofun]
    rw [← hreply]
    rfl

theorem attemptBacked_proxied (base64 : Base64Laws) (hplain : envoy.Plain) :
    AttemptBacked svc ((svc.proxied envoy call).eval answer).2
      (.ofResponse ((svc.proxied envoy call).eval answer).1) := by
  have hstart : StateBacked [] ({} : StreamState) := ⟨.unknown, nofun⟩
  have hfirst : OutcomeBacked svc [] (svc.firstPhase envoy call answer).2
      (svc.firstPhase envoy call answer).1 :=
    ((backed_process svc hstart (envoy.request call) envoy.decideMs).eval answer).1
  -- An exchange is answered by the filter alone, or by what it makes of the upstream's response.
  rcases eval_proxied svc envoy call answer with ⟨response, hreply, heval⟩ | heval
  · have hnot : ∀ mutation, (svc.firstPhase envoy call answer).1.1 ≠ .requestHeaders mutation :=
      fun mutation => by rw [hreply]; nofun
    have hheaders : response.toHttp.headers =
        forward [] (svc.firstPhase envoy call answer).1.1.sets
          (svc.firstPhase envoy call answer).1.1.removes := by
      rw [hreply]
      rfl
    rw [heval]
    exact attemptBacked_of_reply base64 hfirst.1 hnot response.toHttp (fun _ _ => rfl) hheaders
  · let upstream := envoy.serve call (svc.firstPhase envoy call answer).1.1
    have hstate : StateBacked (svc.firstPhase envoy call answer).2
        (svc.firstPhase envoy call answer).1.2 := by
      simpa using hfirst.2
    let later : Answers := fun n => answer (n + (svc.firstPhase envoy call answer).2.length)
    have hsecond : OutcomeBacked svc (svc.firstPhase envoy call answer).2
        (svc.secondPhase envoy call answer).2 (svc.secondPhase envoy call answer).1 :=
      ((backed_process svc hstate (envoy.response call upstream) envoy.settleMs).eval later).1
    obtain ⟨mutation, hreply⟩ : ∃ mutation,
        (svc.secondPhase envoy call answer).1.1 = .responseHeaders mutation :=
      (calls_handleResponseHeaders svc _ _ envoy.settleMs later).answers
    have hnot : ∀ mutation, (svc.secondPhase envoy call answer).1.1 ≠ .requestHeaders mutation :=
      fun mutation => by rw [hreply]; nofun
    have hheaders : (upstream.after (svc.secondPhase envoy call answer).1.1).headers =
        forward upstream.headers (svc.secondPhase envoy call answer).1.1.sets
          (svc.secondPhase envoy call answer).1.1.removes := by
      rw [hreply]
      rfl
    rw [heval]
    exact attemptBacked_of_reply base64 hsecond.1 hnot _ (hplain.quiet call _) hheaders

theorem submissions_firstPhase : submissions (svc.firstPhase envoy call answer).2 = 0 :=
  submissions_of_uncharged (eval_handleRequestHeaders svc {} _ _ _ envoy.decideMs answer).2

/-- The response phase submits at most one, and only after a 2xx. -/
theorem submissions_secondPhase (hplain : envoy.Plain) :
    submissions (svc.secondPhase envoy call answer).2 ≤ 1 ∧
      (submissions (svc.secondPhase envoy call answer).2 ≠ 0 →
        200 ≤ (envoy.serve call (svc.firstPhase envoy call answer).1.1).status ∧
          (envoy.serve call (svc.firstPhase envoy call answer).1.1).status < 300) := by
  let upstream := envoy.serve call (svc.firstPhase envoy call answer).1.1
  have hphase := eval_handleResponseHeaders svc (svc.firstPhase envoy call answer).1.2
    (messageHeaders ((":status", toString upstream.status) :: upstream.headers)) envoy.settleMs
    fun n => answer (n + (svc.firstPhase envoy call answer).2.length)
  rcases hphase with ⟨-, hevents, -⟩ | ⟨p, -, -, huncharged | ⟨hsuccess, hsettles⟩⟩
  · have hzero : submissions (svc.secondPhase envoy call answer).2 = 0 :=
      congrArg submissions hevents
    omega
  · have hzero : submissions (svc.secondPhase envoy call answer).2 = 0 :=
      submissions_of_uncharged huncharged
    omega
  · have hone : submissions (svc.secondPhase envoy call answer).2 = 1 :=
      submissions_of_settles hsettles
    refine ⟨hone.le, fun _ => ?_⟩
    have hstatus : (headerMap (messageHeaders
        ((":status", toString upstream.status) :: upstream.headers))).get? ":status" = _ :=
      get?_status hplain
    rw [hstatus, Option.getD_some, isSuccess, parse_toString, fits] at hsuccess
    split_ifs at hsuccess
    · simpa using hsuccess
    · cases hsuccess

/-- An exchange submits at most one payment, and only if it delivered. -/
theorem submissions_proxied (hplain : envoy.Plain) :
    let out := (svc.proxied envoy call).eval answer
    submissions out.2 ≤ 1 ∧
      (submissions out.2 ≠ 0 → 200 ≤ out.1.status ∧ out.1.status < 300) := by
  have hfirst := submissions_firstPhase svc envoy call answer
  rcases eval_proxied svc envoy call answer with ⟨response, -, heval⟩ | heval
  · rw [heval]
    dsimp only
    omega
  · obtain ⟨mutation, hreply⟩ : ∃ mutation,
        (svc.secondPhase envoy call answer).1.1 = .responseHeaders mutation :=
      (calls_handleResponseHeaders svc _ _ envoy.settleMs _).answers
    rw [heval, hreply]
    dsimp only
    rw [submissions_append, hfirst, Nat.zero_add]
    exact submissions_secondPhase svc envoy call answer hplain

/-- A request without a payment calls nothing about one. -/
theorem payless_proxied (hplain : envoy.Plain)
    (hunpaid : valuesOf headerPaymentSignature call.sent = []) :
    ∀ e ∈ ((svc.proxied envoy call).eval answer).2, e.1.pays = false := by
  have hnone : presentedPayment
      ⟨some (headerMap (messageHeaders (envoy.pseudo call ++ call.sent)))⟩ = none := by
    have hvalues : valuesOf headerPaymentSignature (envoy.pseudo call ++ call.sent) = [] := by
      rw [valuesOf, List.filter_append, List.map_append]
      exact List.append_eq_nil_iff.mpr ⟨hplain.pseudo call, hunpaid⟩
    rw [presentedPayment, get_messageHeaders _ (by decide), hvalues]
    rfl
  obtain ⟨hpending, hfirst⟩ : (svc.firstPhase envoy call answer).1.2.pending = none ∧
      ∀ e ∈ (svc.firstPhase envoy call answer).2, e.1.pays = false :=
    (payless_handleRequestHeaders svc rfl hnone _ _ envoy.decideMs []).eval answer
  have hsecond : (svc.secondPhase envoy call answer).2 = [] := by
    show ((svc.handleResponseHeaders (svc.firstPhase envoy call answer).1.2 _ _).eval _).2 = []
    rw [Service.handleResponseHeaders, hpending]
    rfl
  rcases eval_proxied svc envoy call answer with ⟨response, -, heval⟩ | heval
  · rw [heval]
    exact hfirst
  · rw [heval, hsecond, List.append_nil]
    exact hfirst

/-- **What the client reads was answered.** -/
theorem client_reads_are_backed (base64 : Base64Laws) (hplain : envoy.Plain) :
    Exchanged svc call ((svc.proxied envoy call).eval answer).1
      ((svc.proxied envoy call).eval answer).2 := by
  have hsubmitted := submissions_proxied svc envoy call answer hplain
  exact ⟨attemptBacked_proxied svc envoy call answer base64 hplain, hsubmitted.1, hsubmitted.2,
    payless_proxied svc envoy call answer hplain⟩

end Exchange

/-! ### A run -/

/-- A proxy before an upstream that answers everything. -/
def plainEnvoy : Envoy :=
  { attributes := fun _ => ∅
    pseudo := fun call => [(":method", call.method), (":path", call.url)]
    upstream := fun _ _ => ⟨200, [], "ok"⟩
    decideMs := "0.1"
    settleMs := "0.2" }

omit [Platform] in
theorem plain_plainEnvoy : plainEnvoy.Plain := by
  refine ⟨fun _ _ _ _ => rfl, fun _ _ => rfl, fun call => ?_⟩
  refine List.map_eq_nil_iff.mpr (List.filter_eq_nil_iff.mpr fun e he => ?_)
  rcases List.mem_cons.mp he with rfl | he
  · show ¬ eqIgnoreAsciiCase ":method" headerPaymentSignature = true
    decide
  · obtain rfl := List.mem_singleton.mp he
    show ¬ eqIgnoreAsciiCase ":path" headerPaymentSignature = true
    decide

/-- The text of a payment, on a platform that prints and reads it. -/
def payingTree : Json := bodyTree "AA==" "AAAA"

@[reducible] def payingPlatform : Platform := travelPlatform payingTree .null

/-- A call that pays. -/
def payingCall : HttpCall :=
  { method := "POST", url := "/", headers := [], body := "",
    payment := some (encodedHeader payingTree.print) }

omit [Platform] in
theorem get_payingCall :
    let headers := messageHeaders (plainEnvoy.pseudo payingCall ++ payingCall.sent)
    HeaderView.get ⟨some (headerMap headers)⟩ headerPaymentSignature =
        some (encodedHeader payingTree.print) ∧
      HeaderView.get ⟨some (headerMap headers)⟩ headerPaymentSession = none ∧
      (headerMap headers).get? ":path" = some "/" := by
  have hne : utf8 payingTree.print ≠ [] := by
    intro hnil
    have hempty : utf8 "" = [] := by decide +kernel
    exact Json.print_obj_ne_empty _ (utf8_injective (hnil.trans hempty.symm))
  have hsent : plainEnvoy.pseudo payingCall ++ payingCall.sent =
      [(":method", "POST"), (":path", "/"),
        (headerPaymentSignature, encodedHeader payingTree.print)] := rfl
  have hnamed : ∀ value : String,
      named headerPaymentSignature (":method", value) = false ∧
      named headerPaymentSignature (":path", value) = false ∧
      named headerPaymentSignature (headerPaymentSignature, value) = true ∧
      named headerPaymentSession (":method", value) = false ∧
      named headerPaymentSession (":path", value) = false ∧
      named headerPaymentSession (headerPaymentSignature, value) = false ∧
      named ":path" (":method", value) = false ∧ named ":path" (":path", value) = true ∧
      named ":path" (headerPaymentSignature, value) = false := by
    intro value
    simp only [named]
    decide +kernel
  rw [hsent]
  refine ⟨?_, ?_, ?_⟩
  · rw [get_messageHeaders _ (by decide)]
    simp [valuesOf, hnamed, isBlank_encodedHeader hne]
  · rw [get_messageHeaders _ (by decide)]
    simp [valuesOf, hnamed]
  · rw [get?_headerMap _ (by decide)]
    simp [valuesOf, hnamed]

omit [Platform] in
theorem presents_payingCall :
    let _ : Platform := payingPlatform
    let headers := messageHeaders (plainEnvoy.pseudo payingCall ++ payingCall.sent)
    presentedPayment ⟨some (headerMap headers)⟩ = some (.ok examplePayload) ∧
      presentedToken ⟨some (headerMap headers)⟩ = none := by
  intro _ headers
  obtain ⟨hsignature, hsession, -⟩ := get_payingCall
  have hencoded : encodedHeader payingTree.print = encodeHeader payingTree := rfl
  have hpayment : presentedPayment ⟨some (headerMap headers)⟩ = some (.ok examplePayload) := by
    rw [presentedPayment, hsignature, hencoded, Option.map_some,
      decodeHeader_encodeHeader (base64Laws_travelPlatform _ _) (readBack_first payingTree .null)
        (fromJson_bodyTree "AA==" "AAAA")]
    rfl
  refine ⟨hpayment, ?_⟩
  rw [presentedToken, hpayment, hsession]
  rfl

omit [Platform] in
theorem receipted_payingCall :
    let _ : Platform := payingPlatform
    let svc := Service.ofConfig (exampleConfig .stubAcceptAll)
    ((svc.proxied plainEnvoy payingCall).eval (newStoreAnswers svc)).2.countP receipted = 1 := by
  intro _ svc
  obtain ⟨hpayment, htoken⟩ := presents_payingCall
  let headers := messageHeaders (plainEnvoy.pseudo payingCall ++ payingCall.sent)
  have hfirst := handleRequestHeaders_eq svc {} headers none none "0.1"
  rw [processDecision_of_payment svc _ _ htoken hpayment, get_payingCall.2.2] at hfirst
  have hproxied : svc.proxied plainEnvoy payingCall =
      (svc.handleRequestHeaders {} headers none none "0.1").bind
        (svc.proxiedAfter plainEnvoy payingCall) := rfl
  rw [hproxied, hfirst]
  decide +kernel

omit [Platform] in
theorem client_reads_are_backed_example :
    let _ : Platform := payingPlatform
    let svc := Service.ofConfig (exampleConfig .stubAcceptAll)
    let out := (svc.proxied plainEnvoy payingCall).eval (newStoreAnswers svc)
    out.2.countP receipted = 1 ∧ Exchanged svc payingCall out.1 out.2 := by
  let _ : Platform := payingPlatform
  have hbase64 : Base64Laws := base64Laws_travelPlatform payingTree .null
  exact ⟨receipted_payingCall, client_reads_are_backed _ plainEnvoy payingCall _ hbase64
    plain_plainEnvoy⟩

end X402Verifier
