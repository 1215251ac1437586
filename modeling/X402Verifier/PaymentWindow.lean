import X402Verifier.ClaimCustody

/-!
# The payment window

Sui cannot expire a payment at the second, so the gateway is to see to `maxTimeoutSeconds` itself: a
payment first presented at `t` is admitted and settled no later than `t + maxTimeoutSeconds`, and one
reported expired stays refused.

All that the gateway knows of `t` is the replay record. A release and a sweep drop it, a lapse
overwrites it, and nothing looks at it again once the claim has been given out. So the window is kept
to in a run that is `Timely`: past the window, whoever presents the payment finds the record of its
latest claim, and nobody still works under a claim.

`Sighting` carries the two things about the past that this needs: when the payment was first
presented, and whether the record of the latest claim has been kept.
-/

namespace X402Verifier

open RustStd Interaction

variable [Platform] {id : String}

/-! ## What a payment goes through -/

def calledAt : SystemAction → Option Nat
  | .advance _ e => some e.store.now
  | .deliver .. => none

/-- The calls are made at nondecreasing readings of the clock. -/
def Chronological (acts : List SystemAction) : Prop := (acts.filterMap calledAt).Pairwise (· ≤ ·)

instance (acts : List SystemAction) : Decidable (Chronological acts) :=
  inferInstanceAs (Decidable (List.Pairwise _ _))

/-- The second the step presents the payment at. -/
def presentedAt (id : String) (s : SystemState) : SystemAction → Option Nat
  | .advance a e =>
    match (s.task a).nextOp with
    | some (.claimPayment id' _) => if id' = id then some e.store.now else none
    | _ => none
  | .deliver .. => none

/-- The step admits the payment or settles it: its claim is fresh, it is verified under the claim,
or handed to `settle`. -/
def spends (id : String) (s : SystemState) : SystemAction → Bool
  | .advance a e =>
    match (s.task a).nextOp with
    | some (.claimPayment _ _) => givesOut id s (.advance a e)
    | some (.verify payload _) => paymentId payload == some id && works id s a
    | some (.settle payload _) => paymentId payload == some id
    | _ => false
  | .deliver .. => false

/-- The step reads the clock for a presentation that was answered as a replay, and finds the
authorization expired. -/
def reportsExpired (id : String) (window : Nat) (s : SystemState) : SystemAction → Bool
  | .advance a e =>
    match (s.task a).nextOp, s.log.find? (·.1 == a) with
    | some .nowEpochSecs, some (_, ⟨.claimPayment id' _, .replay firstSeen⟩) =>
      id' == id &&
        replayError window firstSeen e.store.now = .authorizationExpired firstSeen window
    | _, _ => false
  | .deliver .. => false

/-- A run as one payment sees it. -/
structure Sighting where
  state : SystemState
  firstSeen : Option Nat := none
  kept : Bool := false

def Sighting.start (shared : AppState) : Sighting := { state := .start shared }

/-- One step: the first presentation is remembered, and the record of a claim is kept until it is
released or swept. -/
def Service.sight (svc : Service) (id : String) (w : Sighting) (act : SystemAction) : Sighting :=
  { state := svc.machine.step w.state act
    firstSeen := w.firstSeen.or (presentedAt id w.state act)
    kept := givesOut id w.state act ||
      w.kept && ! releases id w.state act && ! sweeps id w.state act }

/-- The step is a call made past the window. -/
def Sighting.late (window : Nat) (w : Sighting) : SystemAction → Bool
  | .advance _ e => w.firstSeen.any fun firstSeen => firstSeen + window < e.store.now
  | .deliver .. => false

/-- The payment is not admitted or settled past the window. -/
def WithinWindow (id : String) (window : Nat) (w : Sighting) (act : SystemAction) : Prop :=
  w.late window act = true → spends id w.state act = false

/-- Nobody presents the payment without a live record, and nobody works under its claim. -/
def unattended (id : String) (w : Sighting) : SystemAction → Bool
  | .advance a e =>
    ! works id w.state a &&
      match (w.state.task a).nextOp with
      | some (.claimPayment id' ttlSecs) =>
        id' != id || w.kept && ! w.state.shared.sessions.replay.aged e.store id ttlSecs
      | _ => true
  | .deliver .. => true

/-- Past the window, a presentation finds the record of the latest claim neither released nor swept
nor lapsed, and the requests that took a claim are done with it. -/
def Timely (id : String) (window : Nat) (w : Sighting) (act : SystemAction) : Prop :=
  w.late window act = true → unattended id w act = true

instance (id : String) (window : Nat) (w : Sighting) (act : SystemAction) :
    Decidable (Timely id window w act) := inferInstanceAs (Decidable (_ → _))

/-! ## The record is there while it is kept -/

theorem recorded_step (svc : Service) {s : SystemState} {act : SystemAction}
    (h : s.shared.sessions.replay.recorded id = true) (hreleases : releases id s act = false)
    (hsweeps : sweeps id s act = false) :
    (svc.machine.step s act).shared.sessions.replay.recorded id = true := by
  rcases Machine.step_cases (m := svc.machine) s act with hstep | ⟨a, msg, l, rfl, -, hstep⟩ |
    ⟨a, e, msg, op, k, rfl, hbusy, hstep⟩
  · rwa [hstep]
  · rwa [hstep]
  · rw [hstep]
    cases op with
    | claimPayment id' ttlSecs => exact SessionStore.recorded_claimPayment h
    | releasePayment id' =>
      have hne : id ≠ id' := by
        rintro rfl
        simp [releases, hbusy, Task.nextOp] at hreleases
      exact (SessionStore.recorded_releasePayment_ne hne).trans h
    | cleanupExpired =>
      refine SessionStore.recorded_cleanupExpired h ?_
      simpa [sweeps, hbusy, Task.nextOp] using hsweeps
    | _ => exact (congrArg (ReplayCache.recorded · id) (svc.exec_replay e s.shared rfl)).trans h

theorem recorded_of_givesOut (svc : Service) {s : SystemState} {act : SystemAction}
    (h : givesOut id s act = true) :
    (svc.machine.step s act).shared.sessions.replay.recorded id = true := by
  cases act with
  | deliver a msg => cases h
  | advance a e =>
    cases hop : (s.task a).nextOp with
    | none => simp [givesOut, hop] at h
    | some op =>
      obtain ⟨msg, k, hbusy⟩ := Task.eq_busy_of_nextOp hop
      cases op with
      | claimPayment id' ttlSecs =>
        simp only [givesOut, hop, Bool.and_eq_true, beq_iff_eq] at h
        obtain ⟨rfl, hfresh⟩ := h
        rw [Machine.step_advance hbusy]
        exact SessionStore.recorded_of_fresh hfresh
      | _ => simp [givesOut, hop] at h

/-- Every actor keeps to its protocol, and a record that was kept is there. -/
structure Watched (id : String) (w : Sighting) : Prop where
  guarded : Guarded id w.state
  kept : w.kept = true → w.state.shared.sessions.replay.recorded id = true

theorem Watched.step (svc : Service) (w : Sighting) (act : SystemAction) (h : Watched id w) :
    Watched id (svc.sight id w act) := by
  refine ⟨guarded_step svc h.guarded act, fun hkept => ?_⟩
  simp only [Service.sight, Bool.or_eq_true, Bool.and_eq_true, Bool.not_eq_true'] at hkept
  rcases hkept with hgives | ⟨⟨hkept, hreleases⟩, hsweeps⟩
  · exact recorded_of_givesOut svc hgives
  · exact recorded_step svc (h.kept hkept) hreleases hsweeps

/-- **One step.** What is unattended neither admits the payment nor settles it. -/
theorem Watched.not_spends {w : Sighting} {act : SystemAction} (h : Watched id w)
    (hunattended : unattended id w act = true) : spends id w.state act = false := by
  cases act with
  | deliver a msg => rfl
  | advance a e =>
    cases hop : (w.state.task a).nextOp with
    | none => simp [spends, hop]
    | some op =>
      obtain ⟨msg, k, hbusy⟩ := Task.eq_busy_of_nextOp hop
      simp only [unattended, hop, Bool.and_eq_true, Bool.not_eq_true'] at hunattended
      obtain ⟨hidle, hrecord⟩ := hunattended
      cases op with
      | claimPayment id' ttlSecs =>
        by_contra hspends
        simp only [spends, hop, givesOut, Bool.not_eq_false, Bool.and_eq_true, beq_iff_eq] at hspends
        obtain ⟨rfl, hfresh⟩ := hspends
        simp only [bne_self_eq_false, Bool.false_or, Bool.and_eq_true, Bool.not_eq_true'] at hrecord
        have hnone := SessionStore.not_recorded_of_fresh hfresh hrecord.2
        rw [h.kept hrecord.1] at hnone
        cases hnone
      | verify payload requirements => simp [spends, hop, hidle]
      | settle payload requirements =>
        by_contra hspends
        simp only [spends, hop, Bool.not_eq_false, beq_iff_eq] at hspends
        -- Only whoever holds the claim settles the payment.
        have hclaimed : custodyOf id a w.state.log = .claimed := h.guarded.may hbusy hspends
        simp [works, hclaimed] at hidle
      | _ => simp [spends, hop]

/-! ## What the gateway knows of the first presentation -/

theorem Service.firstSeen_sight (svc : Service) {w : Sighting} {t : Nat}
    (h : w.firstSeen = some t) (act : SystemAction) : (svc.sight id w act).firstSeen = some t := by
  simp [Service.sight, h]

/-- Records and replays are of presentations no earlier than the first. -/
structure Dated (id : String) (w : Sighting) (now : Nat) : Prop where
  firstSeen : ∀ t, w.firstSeen = some t → t ≤ now
  onRecord : ∀ seen, w.state.shared.sessions.replay.seenAt id = some seen →
    ∃ t, w.firstSeen = some t ∧ t ≤ seen
  answered : ∀ a ttlSecs seen,
    (a, (⟨.claimPayment id ttlSecs, PaymentClaim.replay seen⟩ : Event Op.Ret)) ∈ w.state.log →
    ∃ t, w.firstSeen = some t ∧ t ≤ seen

theorem dated_start {shared : AppState} (hnew : shared.sessions.replay.recorded id = false) :
    Dated id (.start shared) 0 := by
  refine ⟨nofun, fun seen hseen => ?_, nofun⟩
  have hnone := SessionStore.seenAt_eq_none_of_not_recorded hnew
  exact absurd (hnone.symm.trans hseen) nofun

theorem Dated.later {w : Sighting} {now now' : Nat} (h : Dated id w now) (hle : now ≤ now') :
    Dated id w now' :=
  ⟨fun t ht => (h.firstSeen t ht).trans hle, h.onRecord, h.answered⟩

/-- After a call, what is on record was there before or is the call's own presentation. -/
theorem seenAt_exec (svc : Service) (e : Env) (s : AppState) (op : Op) {seen : Nat}
    (h : (svc.exec e s op).2.sessions.replay.seenAt id = some seen) :
    s.sessions.replay.seenAt id = some seen ∨
      (∃ ttlSecs, op = .claimPayment id ttlSecs) ∧ seen = e.store.now := by
  cases op with
  | claimPayment id' ttlSecs =>
    rcases SessionStore.seenAt_claimPayment h with hold | ⟨rfl, rfl⟩
    · exact .inl hold
    · exact .inr ⟨⟨ttlSecs, rfl⟩, rfl⟩
  | releasePayment id' => exact .inl (SessionStore.seenAt_releasePayment h)
  | cleanupExpired => exact .inl (SessionStore.seenAt_cleanupExpired h)
  | _ =>
    exact .inl ((congrArg (ReplayCache.seenAt · id) (svc.exec_replay e s rfl)).symm.trans h)

theorem presentedAt_advance {s : SystemState} {a : Nat} {e : Env} {t : Nat}
    (h : presentedAt id s (.advance a e) = some t) : t = e.store.now := by
  simp only [presentedAt] at h
  split at h
  · split_ifs at h
    exact (Option.some.inj h).symm
  · cases h

theorem Dated.advance {svc : Service} {w : Sighting} {a : Nat} {e : Env}
    (h : Dated id w e.store.now) : Dated id (svc.sight id w (.advance a e)) e.store.now := by
  have hkeep : ∀ seen, (∃ t, w.firstSeen = some t ∧ t ≤ seen) →
      ∃ t, (svc.sight id w (.advance a e)).firstSeen = some t ∧ t ≤ seen := by
    rintro seen ⟨t, ht, hle⟩
    exact ⟨t, svc.firstSeen_sight ht _, hle⟩
  have hfirst : ∀ t, (svc.sight id w (.advance a e)).firstSeen = some t → t ≤ e.store.now := by
    intro t ht
    rcases Option.or_eq_some_iff.mp ht with hold | ⟨-, hnew⟩
    · exact h.firstSeen t hold
    · exact (presentedAt_advance hnew).le
  rcases Machine.step_cases (m := svc.machine) w.state (.advance a e) with hstep |
    ⟨_, _, _, hact, -, -⟩ | ⟨a', e', msg, op, k, hact, hbusy, hstep⟩
  · refine ⟨hfirst, fun seen hseen => hkeep seen (h.onRecord seen ?_),
      fun b ttlSecs seen hmem => hkeep seen (h.answered b ttlSecs seen ?_)⟩
    · rwa [Service.sight, hstep] at hseen
    · rwa [Service.sight, hstep] at hmem
  · cases hact
  · cases hact
    refine ⟨hfirst, fun seen hseen => ?_, fun b ttlSecs seen hmem => ?_⟩
    · rw [Service.sight, hstep] at hseen
      rcases seenAt_exec svc e w.state.shared op hseen with hold | ⟨⟨ttlSecs, rfl⟩, rfl⟩
      · exact hkeep seen (h.onRecord seen hold)
      · -- The record is of this presentation, which is the first or comes after it.
        have hpresented : presentedAt id w.state (.advance a e) = some e.store.now := by
          simp [presentedAt, hbusy, Task.nextOp]
        cases hseen : w.firstSeen with
        | some t => exact ⟨t, svc.firstSeen_sight hseen _, h.firstSeen t hseen⟩
        | none => exact ⟨e.store.now, by simp [Service.sight, hseen, hpresented], le_rfl⟩
    · rw [Service.sight, hstep] at hmem
      rcases List.mem_cons.mp hmem with heq | hmem
      · have hevent := (Prod.mk.inj heq).2
        obtain rfl : op = .claimPayment id ttlSecs := (congrArg Sigma.fst hevent).symm
        have hreplay : (w.state.shared.sessions.claimPayment e.store id ttlSecs).1 =
            .replay seen := (eq_of_heq (Sigma.mk.inj hevent).2).symm
        exact hkeep seen (h.onRecord seen (SessionStore.seenAt_of_replay hreplay))
      · exact hkeep seen (h.answered b ttlSecs seen hmem)

/-- **One step.** -/
theorem Dated.step {svc : Service} {w : Sighting} {act : SystemAction} {now : Nat}
    (h : Dated id w now) (hnow : ∀ c, calledAt act = some c → now ≤ c) :
    Dated id (svc.sight id w act) ((calledAt act).getD now) := by
  cases act with
  | advance a e => exact (h.later (hnow _ rfl)).advance
  | deliver a msg =>
    have hstate : (svc.machine.step w.state (.deliver a msg)).shared = w.state.shared ∧
        (svc.machine.step w.state (.deliver a msg)).log = w.state.log := by
      rcases Machine.step_cases (m := svc.machine) w.state (.deliver a msg) with hstep |
        ⟨_, _, _, -, -, hstep⟩ | ⟨_, _, _, _, _, hact, -, -⟩
      · rw [hstep]
        exact ⟨rfl, rfl⟩
      · rw [hstep]
        exact ⟨rfl, rfl⟩
      · cases hact
    have hfirst : (svc.sight id w (.deliver a msg)).firstSeen = w.firstSeen := Option.or_none
    refine ⟨fun t ht => h.firstSeen t (hfirst ▸ ht), fun seen hseen => ?_,
      fun b ttlSecs seen hmem => ?_⟩
    · rw [hfirst]
      rw [Service.sight, hstate.1] at hseen
      exact h.onRecord seen hseen
    · rw [hfirst]
      rw [Service.sight, hstate.2] at hmem
      exact h.answered b ttlSecs seen hmem

/-- **One run**, up to any later second. -/
theorem Dated.run {svc : Service} {w : Sighting} {now later : Nat} {acts : List SystemAction}
    (h : Dated id w now) (hclock : Chronological acts)
    (hnow : ∀ c ∈ acts.filterMap calledAt, now ≤ c)
    (hlater : ∀ c ∈ acts.filterMap calledAt, c ≤ later) (hle : now ≤ later) :
    Dated id (acts.foldl (svc.sight id) w) later := by
  induction acts generalizing w now with
  | nil => exact h.later hle
  | cons act acts ih =>
    cases hact : calledAt act with
    | none =>
      simp only [Chronological, List.filterMap_cons, hact] at hclock hnow hlater
      have hstep : Dated id (svc.sight id w act) ((calledAt act).getD now) :=
        h.step (by simp [hact])
      rw [hact] at hstep
      exact ih hstep hclock hnow hlater hle
    | some c =>
      simp only [Chronological, List.filterMap_cons, hact] at hclock hnow hlater
      have hstep : Dated id (svc.sight id w act) ((calledAt act).getD now) :=
        h.step (by simpa [hact] using hnow c (by simp))
      rw [hact] at hstep
      obtain ⟨hfirst, hrest⟩ := List.pairwise_cons.mp hclock
      exact ih hstep hrest hfirst (fun c' hc' => hlater c' (List.mem_cons_of_mem _ hc'))
        (hlater c List.mem_cons_self)

/-! ## Whole runs -/

/-- Once the window has passed every call comes past it. -/
theorem not_spends_of_passed {svc : Service} {window t now : Nat} {w : Sighting}
    {acts : List SystemAction} (hseen : w.firstSeen = some t) (hpassed : t + window < now)
    (hnow : ∀ c ∈ acts.filterMap calledAt, now ≤ c)
    (hwithin : Along (svc.sight id) (WithinWindow id window) w acts) :
    Along (svc.sight id) (fun w act => spends id w.state act = false) w acts := by
  induction acts generalizing w with
  | nil => trivial
  | cons act acts ih =>
    refine ⟨?_, ih (svc.firstSeen_sight hseen act) (fun c hc => hnow c ?_) hwithin.2⟩
    · cases act with
      | deliver a msg => rfl
      | advance a e =>
        have hcall : now ≤ e.store.now := hnow _ (List.mem_cons_self)
        refine hwithin.1 ?_
        simp only [Sighting.late, hseen, Option.any_some, decide_eq_true_eq]
        exact hpassed.trans_le hcall
    · rw [List.filterMap_cons]
      cases calledAt act with
      | none => exact hc
      | some _ => exact List.mem_cons_of_mem _ hc

/-- A report dates the first presentation: the window has passed. -/
theorem passed_of_reportsExpired {w : Sighting} {window : Nat} {a : Nat} {e : Env}
    (h : Dated id w e.store.now)
    (hreport : reportsExpired id window w.state (.advance a e) = true) :
    ∃ t, w.firstSeen = some t ∧ t + window < e.store.now := by
  simp only [reportsExpired] at hreport
  split at hreport
  · rename_i id' ttlSecs seen _ hlast
    simp only [Bool.and_eq_true, beq_iff_eq, decide_eq_true_eq] at hreport
    obtain ⟨rfl, hexpired⟩ := hreport
    obtain ⟨t, ht, hle⟩ := h.answered _ _ _ (List.mem_of_find?_eq_some hlast)
    have hlate : window < e.store.now - seen := by
      by_contra hnot
      rw [replayError, if_neg hnot] at hexpired
      cases hexpired
    exact ⟨t, ht, by omega⟩
  · cases hreport

/-- The window is kept to: past it the payment is neither admitted nor settled, and once it has been
reported expired it never is. -/
structure KeepsWindow (id : String) (svc : Service) (shared : AppState)
    (acts : List SystemAction) : Prop where
  within : Along (svc.sight id) (WithinWindow id svc.config.payment.maxTimeoutSeconds)
    (.start shared) acts
  expired : ∀ before report later, acts = before ++ report :: later →
    reportsExpired id svc.config.payment.maxTimeoutSeconds
      (before.foldl (svc.sight id) (.start shared)).state report = true →
    Along (svc.sight id) (fun w act => spends id w.state act = false)
      ((before ++ [report]).foldl (svc.sight id) (.start shared)) later

/-- **The window is kept to by timely runs.** In every run of any streams, ext_authz requests and
`/settle` calls, at nondecreasing readings of the clock: if past the window every presentation finds
a live record of the latest claim and nobody works under a claim any more, then the payment is
neither admitted nor settled past the window, and never again once it has been reported expired. -/
theorem timely_run_keeps_window (svc : Service) (shared : AppState) (id : String)
    (acts : List SystemAction) (hnew : shared.sessions.replay.recorded id = false)
    (hclock : Chronological acts)
    (htimely : Along (svc.sight id) (Timely id svc.config.payment.maxTimeoutSeconds)
      (.start shared) acts) : KeepsWindow id svc shared acts := by
  have hstart : Watched id (.start shared) := ⟨fun _ => rfl, nofun⟩
  have hwithin : Along (svc.sight id) (WithinWindow id svc.config.payment.maxTimeoutSeconds)
      (.start shared) acts :=
    Along.of_invariant (fun w act h _ => h.step svc w act)
      (fun _ _ h ht hlate => h.not_spends (ht hlate)) hstart htimely
  refine ⟨hwithin, ?_⟩
  rintro before report later rfl hreport
  obtain ⟨a, e, rfl⟩ : ∃ a e, report = .advance a e := by
    cases report with
    | advance a e => exact ⟨a, e, rfl⟩
    | deliver a msg => cases hreport
  rw [Chronological, List.filterMap_append, List.filterMap_cons] at hclock
  obtain ⟨hbefore, hrest, hcross⟩ := List.pairwise_append.mp hclock
  have hdated : Dated id (before.foldl (svc.sight id) (.start shared)) e.store.now :=
    (dated_start hnew).run hbefore (fun _ _ => Nat.zero_le _)
      (fun c hc => hcross c hc _ List.mem_cons_self) (Nat.zero_le _)
  obtain ⟨t, hseen, hpassed⟩ := passed_of_reportsExpired hdated hreport
  rw [List.foldl_append]
  exact not_spends_of_passed (svc.firstSeen_sight hseen _) hpassed (List.pairwise_cons.mp hrest).1
    (along_append.mp hwithin).2.2

omit [Platform] in
/-- A retry of a settled payment, past its window and within the TTL of its claim. -/
theorem timely_run_keeps_window_example :
    let _ : Platform := examplePlatform
    let config := exampleConfig .stubAcceptAll
    KeepsWindow exampleId (.ofConfig config) (.ofConfig config [])
      (settleAt 0 1000 60 ++ settleAt 1 1350 60) :=
  @timely_run_keeps_window examplePlatform _ _ _ _ rfl (by decide) (by decide +kernel)

/-! ## A retry long after the window -/

theorem Service.sight_deliver (svc : Service) {w : Sighting} {a : Nat} {l : Local}
    (hidle : w.state.task a = .idle l) (msg : Message) :
    svc.sight id w (.deliver a msg) =
      { w with
        state := { w.state with
          task := Function.update w.state.task a (.of msg (svc.handle l msg)) } } := by
  simp [Service.sight, Machine.step_deliver hidle, presentedAt, givesOut, releases, sweeps,
    Service.machine]

omit [Platform] in
/-- The request that presents the example payment, and its upstream's answer. -/
def payingMessage : Message :=
  .processing ⟨∅, .requestHeaders (paymentRequest "1000" [])⟩ "0.0"

omit [Platform] in
def failedMessage : Message :=
  .processing ⟨∅, .responseHeaders (some [{ key := ":status", value := "503" }])⟩ "0.0"

omit [Platform] in
/-- Two streams present the payment. The first does at 1000, and its upstream fails. -/
def releasedFirst : List SystemAction :=
  [.advance 0 (exampleEnv 1000), .advance 0 (exampleEnv 1000), .advance 0 (exampleEnv 1000),
    .deliver 0 failedMessage, .advance 0 (exampleEnv 1001), .advance 1 (exampleEnv 1100)]

omit [Platform] in
/-- **Admitted long after the window.** The second stream presents the payment at 1100, past its
window of 60 seconds, and finds no record. -/
theorem released_payment_admitted_late :
    ¬ ∀ (_ : Platform) (config : Config) (hmacKey : Bytes) (id : String)
      (acts : List SystemAction), config.validate = .ok () → Chronological acts →
      KeepsWindow id (.ofConfig config) (.ofConfig config hmacKey) acts := by
  intro h
  let _ : Platform := paymentPlatform "1000"
  let svc := Service.ofConfig (exampleConfig .stubAcceptAll)
  let request := paymentRequest "1000" []
  let last : SystemAction := .advance 1 (exampleEnv 1100)
  have hne : utf8 (paymentText "1000") ≠ [] := by decide +kernel
  have hpayment : presentedPayment ⟨some (headerMap request)⟩ =
      some (.ok (payloadAccepting "1000")) := presentedPayment_paymentRequest "1000" [] hne
  have htoken : presentedToken ⟨some (headerMap request)⟩ = none :=
    presentedToken_paymentRequest "1000" [] hne (by decide +kernel)
  have hkeeps := h (paymentPlatform "1000") (exampleConfig .stubAcceptAll) [] exampleId
    (.deliver 0 payingMessage :: .deliver 1 payingMessage :: (releasedFirst ++ [last])) rfl
    (by decide +kernel)
  have hwithin := (along_concat.mp hkeeps.within.2.2).2
  have hhandle : svc.handle .fresh payingMessage = _ := svc.handle_of_payment htoken hpayment "0.0"
  rw [svc.sight_deliver rfl, svc.sight_deliver rfl, hhandle] at hwithin
  exact absurd (hwithin (by decide +kernel)) (by decide +kernel)

end X402Verifier
