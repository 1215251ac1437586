import X402Verifier.PaymentWindow
import X402Verifier.UpstreamFailure

/-!
# Whose claim a release removes

A record of the replay cache does not say who made it, and a release removes whatever record it
finds. A request is *engaged* with a payment while it may still settle or release it under a claim
it already has (`Engaged`); only an engaged request releases. If no request's claim is recorded
while another is still engaged (`Overtakes`), the record was made by the only one that is, and a
release removes the releaser's own.

A claim can be recorded then only where the earlier record has lapsed or was swept, so the condition
is one on the time between a request's claim and its release.
-/

namespace X402Verifier

open RustStd Interaction

variable [Platform] {id : String}

/-! ## Who made the record -/

/-- The step records a claim of the payment. -/
def inserts (id : String) (s : SystemState) : SystemAction → Bool
  | .advance a e =>
    match (s.task a).nextOp with
    | some (.claimPayment id' ttlSecs) =>
      id' == id && s.shared.sessions.replay.takes e.store id ttlSecs
    | _ => false
  | .deliver .. => false

/-- The actor's was the last claim of the payment to be recorded. -/
def Inserted (id : String) (svc : Service) (s : SystemState) (acts : List SystemAction) (a : Nat) :
    Prop :=
  ∃ earlier e later, acts = earlier ++ .advance a e :: later ∧
    inserts id (svc.machine.run s earlier) (.advance a e) = true ∧
    Machine.Along svc.machine (fun s act => inserts id s act = false)
      (svc.machine.run s (earlier ++ [.advance a e])) later

/-- The actor may still settle or release the payment without claiming it anew. -/
def Engaged (id : String) (s : SystemState) (a : Nat) : Prop := ¬ TaskGuarded id .none (s.task a)

/-- A claim is recorded while another actor is engaged with the payment. -/
def Overtakes (id : String) (s : SystemState) : SystemAction → Prop
  | .advance a e => inserts id s (.advance a e) = true ∧ ∃ b, b ≠ a ∧ Engaged id s b
  | .deliver .. => False

/-! ## What a step does -/

theorem inserts_of_fresh {s : SystemState} {a : Nat} {e : Env} {ttlSecs : Nat}
    (hop : (s.task a).nextOp = some (.claimPayment id ttlSecs))
    (hfresh : (s.shared.sessions.claimPayment e.store id ttlSecs).1 = .fresh) :
    inserts id s (.advance a e) = true := by
  simp only [inserts, hop, beq_self_eq_true, Bool.true_and]
  by_contra htakes
  rw [Bool.not_eq_true] at htakes
  exact (SessionStore.claimPayment_of_not_takes htakes).1 hfresh

theorem busy_of_inserts {s : SystemState} {a : Nat} {e : Env}
    (h : inserts id s (.advance a e) = true) :
    ∃ ttlSecs msg k, s.task a = .busy msg (.call (.claimPayment id ttlSecs) k) ∧
      s.shared.sessions.replay.takes e.store id ttlSecs = true := by
  cases hop : (s.task a).nextOp with
  | none => simp [inserts, hop] at h
  | some op =>
    obtain ⟨msg, k, hbusy⟩ := Task.eq_busy_of_nextOp hop
    cases op with
    | claimPayment id' ttlSecs =>
      simp only [inserts, hop, Bool.and_eq_true, beq_iff_eq] at h
      obtain ⟨rfl, htakes⟩ := h
      exact ⟨ttlSecs, msg, k, hbusy, htakes⟩
    | _ => simp [inserts, hop] at h

theorem not_engaged_step (svc : Service) {s : SystemState} {act : SystemAction} {b : Nat}
    (h : TaskGuarded id .none (s.task b))
    (hother : ∀ e, act = .advance b e → inserts id s act = false) :
    TaskGuarded id .none ((svc.machine.step s act).task b) := by
  rcases Machine.step_cases s act with hstep | ⟨a, msg, l, rfl, hidle, hstep⟩ |
    ⟨a, e, msg, op, k, rfl, hbusy, hstep⟩
  · rwa [hstep]
  · rw [hstep]
    dsimp only
    by_cases hb : b = a
    · subst hb
      rw [hidle] at h
      rw [Function.update_self, taskGuarded_of]
      exact custody_handle svc l msg .none h
    · rwa [Function.update_of_ne hb]
  · rw [hstep]
    dsimp only
    by_cases hb : b = a
    · subst hb
      rw [hbusy] at h
      rw [Function.update_self, taskGuarded_of]
      -- A fresh answer would record the actor's claim, which `hother` excludes.
      have hfresh : ∀ ttlSecs, (⟨op, (svc.machine.exec e s.shared op).1⟩ : Event Op.Ret) ≠
          ⟨.claimPayment id ttlSecs, PaymentClaim.fresh⟩ := by
        intro ttlSecs heq
        obtain rfl : op = .claimPayment id ttlSecs := congrArg Sigma.fst heq
        have hr : (s.shared.sessions.claimPayment e.store id ttlSecs).1 = .fresh :=
          eq_of_heq (Sigma.mk.inj heq).2
        have hinserts := inserts_of_fresh (s := s) (a := b) (by rw [hbusy]; rfl) hr
        rw [hother e rfl] at hinserts
        cases hinserts
      have hnext := h.2 (svc.machine.exec e s.shared op).1 trivial
      rcases next_cases h.1 hfresh with hq | hq | hq
      · rwa [show (custodyProtocol id msg.isPostSettle).next _ op _ = _ from hq] at hnext
      · rwa [show (custodyProtocol id msg.isPostSettle).next _ op _ = _ from hq] at hnext
      · cases hq
    · rwa [Function.update_of_ne hb]

theorem engaged_of_step (svc : Service) {s : SystemState} {act : SystemAction} {b : Nat}
    (h : Engaged id (svc.machine.step s act) b)
    (hother : ∀ e, act = .advance b e → inserts id s act = false) : Engaged id s b :=
  fun hfree => h (not_engaged_step svc hfree hother)

theorem engaged_of_releases {s : SystemState} {a : Nat} {e : Env}
    (h : releases id s (.advance a e) = true) : Engaged id s a := by
  intro hfree
  cases hop : (s.task a).nextOp with
  | none => simp [releases, hop] at h
  | some op =>
    obtain ⟨msg, k, hbusy⟩ := Task.eq_busy_of_nextOp hop
    rw [hbusy] at hfree
    cases op with
    | releasePayment id' =>
      simp only [releases, hop, beq_iff_eq] at h
      rcases hfree.1 h with hq | ⟨hq, -⟩
      · cases hq
      · cases hq
    | _ => simp [releases, hop] at h

theorem not_engaged_start (shared : AppState) (a : Nat) :
    ¬ Engaged id (SystemState.start shared) a := fun h => h rfl

/-! ## Whole runs -/

theorem Inserted.concat {svc : Service} {s : SystemState} {acts : List SystemAction} {a : Nat}
    (h : Inserted id svc s acts a) {act : SystemAction}
    (hact : inserts id (svc.machine.run s acts) act = false) :
    Inserted id svc s (acts ++ [act]) a := by
  obtain ⟨earlier, e, later, rfl, hinserts, hlater⟩ := h
  refine ⟨earlier, e, later ++ [act], by simp, hinserts, along_concat.mpr ⟨hlater, ?_⟩⟩
  simpa [Machine.run, List.foldl_append] using hact

theorem Inserted.unique {svc : Service} {s : SystemState} {acts : List SystemAction} {a b : Nat}
    (ha : Inserted id svc s acts a) (hb : Inserted id svc s acts b) : a = b := by
  obtain ⟨earlier, e, later, rfl, hinserts, hlater⟩ := ha
  obtain ⟨earlier', e', later', hsplit, hinserts', hlater'⟩ := hb
  -- Neither recorded claim comes after the other.
  have hafter : ∀ {x y : SystemAction} {start rest rest' : List SystemAction},
      Machine.Along svc.machine (fun s act => inserts id s act = false)
        (svc.machine.run s (start ++ [x])) (rest ++ y :: rest') →
      inserts id (svc.machine.run s (start ++ x :: rest)) y = false := by
    intro x y start rest rest' halong
    have hy := (along_append.mp halong).2.1
    simpa [Machine.run, List.foldl_append] using hy
  rcases List.append_eq_append_iff.mp hsplit with ⟨rest, rfl, hrest⟩ | ⟨rest, rfl, hrest⟩
  · cases rest with
    | nil =>
      cases hrest
      rfl
    | cons x rest =>
      obtain ⟨rfl, rfl⟩ := List.cons.inj hrest
      rw [hafter hlater] at hinserts'
      cases hinserts'
  · cases rest with
    | nil =>
      cases hrest
      rfl
    | cons x rest =>
      obtain ⟨rfl, rfl⟩ := List.cons.inj hrest
      rw [hafter hlater'] at hinserts
      cases hinserts

/-- In a run in which no engaged request is overtaken, whoever is engaged made the record, and
nobody else is engaged. -/
theorem engaged_of_run (svc : Service) {s : SystemState} (hs : ∀ a, ¬ Engaged id s a)
    {acts : List SystemAction}
    (hkept : Machine.Along svc.machine (fun s act => ¬ Overtakes id s act) s acts) :
    (∀ a, Engaged id (svc.machine.run s acts) a → Inserted id svc s acts a) ∧
      ∀ a b, Engaged id (svc.machine.run s acts) a → Engaged id (svc.machine.run s acts) b →
        a = b := by
  induction acts using List.reverseRecOn with
  | nil => exact ⟨fun a ha => absurd ha (hs a), fun a _ ha _ => absurd ha (hs a)⟩
  | append_singleton acts act ih =>
    obtain ⟨hbefore, hact⟩ := along_concat.mp hkept
    obtain ⟨hinserted, hunique⟩ := ih hbefore
    rw [Machine.run_append, Machine.run_cons, Machine.run_nil]
    cases hinserts : inserts id (svc.machine.run s acts) act with
    | false =>
      have hold : ∀ b, Engaged id (svc.machine.step (svc.machine.run s acts) act) b →
          Engaged id (svc.machine.run s acts) b :=
        fun b hb => engaged_of_step svc hb fun _ _ => hinserts
      exact ⟨fun a ha => (hinserted a (hold a ha)).concat hinserts,
        fun a b ha hb => hunique a b (hold a ha) (hold b hb)⟩
    | true =>
      cases act with
      | deliver a msg => cases hinserts
      | advance a e =>
        -- Nobody else is engaged: whoever was would have been overtaken.
        have honly : ∀ b, Engaged id
            (svc.machine.step (svc.machine.run s acts) (.advance a e)) b → b = a := by
          intro b hb
          by_contra hne
          have hold : Engaged id (svc.machine.run s acts) b := by
            refine engaged_of_step svc hb ?_
            rintro _ ⟨⟩
            exact absurd rfl hne
          exact hact ⟨hinserts, b, hne, hold⟩
        refine ⟨fun b hb => ?_, fun b c hb hc => (honly b hb).trans (honly c hc).symm⟩
        obtain rfl := honly b hb
        exact ⟨acts, e, [], rfl, hinserts, trivial⟩

/-- Every release that finds a record of the payment finds the releaser's own. -/
def ReleasesOwn (id : String) (svc : Service) (shared : AppState) (acts : List SystemAction) :
    Prop :=
  ∀ before a e later, acts = before ++ .advance a e :: later →
    releases id (svc.machine.run (SystemState.start shared) before) (.advance a e) = true →
    (svc.machine.run (SystemState.start shared) before).shared.sessions.replay.recorded id = true →
    Inserted id svc (SystemState.start shared) before a

/-- No two requests are engaged with the payment at once, whatever the store says of it. -/
def HeldByOne (id : String) (svc : Service) (shared : AppState) (acts : List SystemAction) : Prop :=
  ∀ before later, acts = before ++ later → ∀ a b,
    Engaged id (svc.machine.run (SystemState.start shared) before) a →
    Engaged id (svc.machine.run (SystemState.start shared) before) b → a = b

/-- **A release removes the releaser's own claim.** In every run of any streams, ext_authz requests
and `/settle` calls in which no claim of the payment is recorded while another request may still
settle or release it, whoever releases the payment made the record there is, and no two requests
hold it at once. -/
theorem release_removes_own_claim (svc : Service) (shared : AppState) (id : String)
    (acts : List SystemAction)
    (hkept : Machine.Along svc.machine (fun s act => ¬ Overtakes id s act)
      (SystemState.start shared) acts) :
    ReleasesOwn id svc shared acts ∧ HeldByOne id svc shared acts := by
  refine ⟨?_, ?_⟩
  · rintro before a e later rfl hreleases -
    have hbefore := (along_append.mp hkept).1
    exact (engaged_of_run svc (not_engaged_start shared) hbefore).1 a
      (engaged_of_releases hreleases)
  · rintro before later rfl
    have hbefore := (along_append.mp hkept).1
    exact (engaged_of_run svc (not_engaged_start shared) hbefore).2

/-- A `/settle` request whose settlement fails unsent, up to its release. Between its claim and its
settlement a second request for the payment is turned away. -/
def contested : List SystemAction :=
  chainClaim 0 (exampleEnv 1000) ++ chainClaim 1 (exampleEnv 1000) ++
    [.advance 0 (exampleEnv 1000), .advance 0 (exampleEnv 1000)]

omit [Platform] in
theorem release_removes_own_claim_example :
    let _ : Platform := chainPlatform
    let start := SystemState.start (.ofConfig (exampleConfig .suiGrpc) [])
    releases chainId (chainService.machine.run start contested.dropLast)
        (.advance 0 (exampleEnv 1000)) = true ∧
      ReleasesOwn chainId chainService (.ofConfig (exampleConfig .suiGrpc) []) contested ∧
      HeldByOne chainId chainService (.ofConfig (exampleConfig .suiGrpc) []) contested := by
  intro _ _
  -- Only the first claim is recorded, and nobody is engaged before it.
  have hfirst : ¬ Overtakes chainId
      (chainService.machine.step chainStart (.deliver 0 (.postSettle chainSettle)))
      (.advance 0 (exampleEnv 1000)) := by
    rintro ⟨-, b, hb, hengaged⟩
    have hidle : (chainService.machine.step chainStart (.deliver 0 (.postSettle chainSettle))).task b =
        .idle .fresh := by
      rw [Machine.step_deliver rfl]
      exact Function.update_of_ne hb ..
    exact hengaged (hidle ▸ rfl)
  have hlater : ∀ s act, inserts chainId s act = false → ¬ Overtakes chainId s act := by
    rintro s (⟨a, msg⟩ | ⟨a, e⟩) hnot hovertakes
    · exact hovertakes
    · rw [hovertakes.1] at hnot
      cases hnot
  refine ⟨by decide +kernel, @release_removes_own_claim chainPlatform _ _ _ _
    ⟨fun h => h, hfirst, fun h => h, hlater _ _ ?_, hlater _ _ ?_, hlater _ _ ?_, trivial⟩⟩ <;>
    decide +kernel

/-! ## A claim released by another -/

/-- The actor is a stream that has verified the payment, and waits for its upstream. -/
def awaitsUpstream (id : String) (s : SystemState) (a : Nat) : Bool :=
  match s.task a with
  | .idle (.stream st) => st.pending.any fun p => p.paymentId == some id
  | _ => false

theorem idle_of_awaitsUpstream {s : SystemState} {a : Nat} (h : awaitsUpstream id s a = true) :
    ∃ st p, s.task a = .idle (.stream st) ∧ st.pending = some p ∧ p.paymentId = some id := by
  simp only [awaitsUpstream] at h
  split at h
  · rename_i st hidle
    cases hp : st.pending with
    | none => simp [hp] at h
    | some p => exact ⟨st, p, hidle, hp, by simpa [hp] using h⟩
  · cases h

/-- The first thing such a stream does when its upstream fails is to release the payment. -/
theorem handle_of_statusFailed (svc : Service) {st : StreamState} {p : PendingPayment}
    (hp : st.pending = some p) (hid : p.paymentId = some id) {headers : Option (List HeaderValue)}
    (hfailed : statusFailed headers = true) (attributes : Attributes) (elapsedMs : String) :
    svc.handle (.stream st) (.processing ⟨attributes, .responseHeaders headers⟩ elapsedMs) =
      .call (.releasePayment id) fun _ => .pure (.stream { st with pending := none }) := by
  have hstatus : ¬ isSuccess (((headerMap headers).get? ":status").getD "") := by
    simpa [statusFailed] using hfailed
  simp only [Service.handle, Service.onStream, Service.process, Service.handleResponseHeaders, hp,
    hstatus, releasePending, hid]
  rfl

/-- **An overtaken stream releases another's claim** when its upstream fails. -/
theorem not_releasesOwn_of_overtaken (svc : Service) (shared : AppState)
    {acts : List SystemAction} {a b : Nat} {e : Env}
    (hawaits : awaitsUpstream id (svc.machine.run (SystemState.start shared) acts) a = true)
    (hinserts : inserts id (svc.machine.run (SystemState.start shared) acts) (.advance b e) = true)
    (hne : a ≠ b) (attributes : Attributes) (headers : Option (List HeaderValue))
    (hfailed : statusFailed headers = true) (elapsedMs : String) (e' : Env) :
    ¬ ReleasesOwn id svc shared
      (acts ++ [.advance b e, .deliver a (.processing ⟨attributes, .responseHeaders headers⟩
        elapsedMs), .advance a e']) := by
  intro h
  let failed : SystemAction :=
    .deliver a (.processing ⟨attributes, .responseHeaders headers⟩ elapsedMs)
  have hrelease := h (acts ++ [.advance b e, failed]) a e' [] (by simp [failed])
  have hsecond : Inserted id svc (SystemState.start shared) (acts ++ [.advance b e, failed]) b :=
    ⟨acts, e, [failed], rfl, hinserts, rfl, trivial⟩
  simp only [Machine.run_append, Machine.run_cons, Machine.run_nil] at hrelease
  generalize svc.machine.run (SystemState.start shared) acts = s at hawaits hinserts hrelease
  obtain ⟨st, p, hidle, hp, hid⟩ := idle_of_awaitsUpstream hawaits
  obtain ⟨ttlSecs, msg, k, hbusy, htakes⟩ := busy_of_inserts hinserts
  rw [Machine.step_advance hbusy,
    Machine.step_deliver (l := .stream st) ((Function.update_of_ne hne ..).trans hidle)] at hrelease
  refine hne ((hrelease ?_ ?_).unique hsecond)
  · have hhandle : svc.machine.handle (.stream st)
        (.processing ⟨attributes, .responseHeaders headers⟩ elapsedMs) = _ :=
      handle_of_statusFailed svc hp hid hfailed attributes elapsedMs
    simp [releases, hhandle, Task.of, Task.nextOp]
  · exact SessionStore.recorded_of_takes htakes

omit [Platform] in
/-- Two streams are sent the paying request. The first claims the payment at 1000, and the second is
about to at 1600. -/
def overtaken : List SystemAction :=
  [0, 1].map (.deliver · payingMessage) ++
    [.advance 0 (exampleEnv 1000), .advance 0 (exampleEnv 1000), .advance 0 (exampleEnv 1000),
      .advance 1 (exampleEnv 1600)]

omit [Platform] in
/-- **Another's claim released.** -/
theorem release_removes_anothers_claim :
    ¬ ∀ (_ : Platform) (config : Config) (hmacKey : Bytes) (id : String)
      (acts : List SystemAction), config.validate = .ok () →
      ReleasesOwn id (.ofConfig config) (.ofConfig config hmacKey) acts := by
  intro h
  let _ : Platform := paymentPlatform "1000"
  let svc := Service.ofConfig (exampleConfig .stubAcceptAll)
  let start := SystemState.start (.ofConfig (exampleConfig .stubAcceptAll) [])
  let request := paymentRequest "1000" []
  have hne : utf8 (paymentText "1000") ≠ [] := by decide +kernel
  have hpayment : presentedPayment ⟨some (headerMap request)⟩ =
      some (.ok (payloadAccepting "1000")) := presentedPayment_paymentRequest "1000" [] hne
  have htoken : presentedToken ⟨some (headerMap request)⟩ = none :=
    presentedToken_paymentRequest "1000" [] hne (by decide +kernel)
  have hhandle : svc.handle .fresh payingMessage = _ := svc.handle_of_payment htoken hpayment "0.0"
  have hrun : awaitsUpstream exampleId (svc.machine.run start overtaken) 0 = true ∧
      inserts exampleId (svc.machine.run start overtaken) (.advance 1 (exampleEnv 1600)) = true := by
    rw [overtaken, Machine.run_append, svc.run_delivers hhandle _ (by decide)]
    decide +kernel
  exact not_releasesOwn_of_overtaken svc _ hrun.1 hrun.2 (by decide) ∅
    (some [{ key := ":status", value := "503" }]) (by decide +kernel) "0.0" (exampleEnv 1601)
    (h _ (exampleConfig .stubAcceptAll) [] exampleId _ rfl)

end X402Verifier
