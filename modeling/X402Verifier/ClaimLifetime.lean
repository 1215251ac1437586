import Mathlib.Algebra.Order.BigOperators.Group.List
import X402Verifier.Interaction.Run
import X402Verifier.Auth
import X402Verifier.ReplayCache
import X402Verifier.Reference

/-!
# How long a claim lasts

The memory store as `main` builds it, under claims, releases and cleanup ticks at the readings of
one clock. Three parties decide how long a claim lasts: the TTL it was made with, which is stored
nowhere; the TTL the next claimer brings; and the sweeper's retention, which is the default tier's
session length.

`standing` reads off the log which claims were answered fresh and not released since. A call keeps
to the lifetime of the standing claims (`KeepsClaims`) when neither of the other two parties cuts
one short. A run of such calls never reports a payment fresh within the TTL it was claimed with
(`Honoured`), and the first call that is not of this kind gives a payment away.
-/

namespace X402Verifier

open RustStd Interaction

/-! ## Runs of the cache -/

/-- A call on the replay cache. -/
inductive CacheCall where
  | claim (paymentId : String) (ttlSecs : Nat)
  | release (paymentId : String)
  | cleanup
  deriving DecidableEq

/-- A call and what it answered; only a claim answers anything. -/
structure CacheEntry extends Timed CacheCall where
  answer : Option PaymentClaim

/-- The store, and the calls so far, latest first. -/
structure CacheRun where
  store : MemorySessionStore
  log : List CacheEntry := []

def MemorySessionStore.perform (s : MemorySessionStore) (c : Timed CacheCall) :
    Option PaymentClaim × MemorySessionStore :=
  match c.call with
  | .claim paymentId ttlSecs => (s.claimPaymentAt paymentId ttlSecs c.now).map some id
  | .release paymentId => (none, s.releasePayment paymentId)
  | .cleanup => (none, (s.cleanupExpiredAt c.now).2)

def CacheRun.step (r : CacheRun) (c : Timed CacheCall) : CacheRun :=
  let (answer, store) := r.store.perform c
  ⟨store, ⟨c, answer⟩ :: r.log⟩

def CacheRun.run (r : CacheRun) (calls : List (Timed CacheCall)) : CacheRun := calls.foldl CacheRun.step r

/-- The cache `main` starts with. -/
def CacheRun.start (config : Config) (hmacKey : Bytes) : CacheRun := ⟨.ofConfig config hmacKey, []⟩

/-! ## Standing claims -/

structure FreshClaim where
  paymentId : String
  claimedAt : Nat
  ttlSecs : Nat
  deriving DecidableEq

/-- Is the claim within the TTL it was made with? -/
def FreshClaim.Live (c : FreshClaim) (now : Nat) : Prop := now < c.claimedAt + c.ttlSecs

instance (c : FreshClaim) (now : Nat) : Decidable (c.Live now) := inferInstanceAs (Decidable (_ < _))

/-- The claim an entry reports fresh. -/
def CacheEntry.fresh? (e : CacheEntry) : Option FreshClaim :=
  match e.call, e.answer with
  | .claim paymentId ttlSecs, some .fresh => some ⟨paymentId, e.now, ttlSecs⟩
  | _, _ => none

/-- The fresh claims of a log that have not been released since. -/
def standing : List CacheEntry → List FreshClaim
  | [] => []
  | e :: log =>
    match e.call with
    | .release paymentId => (standing log).filter (·.paymentId ≠ paymentId)
    | _ => e.fresh?.toList ++ standing log

/-- Nothing is reported fresh while a standing claim of the same payment is live. -/
def Honoured : List CacheEntry → Prop
  | [] => True
  | e :: log =>
    (∀ new ∈ e.fresh?, ∀ c ∈ standing log, c.paymentId = new.paymentId → ¬ c.Live new.claimedAt) ∧
      Honoured log

/-- Neither the TTL of the next claimer nor the sweeper's retention cuts a live claim short. -/
def KeepsClaims (r : CacheRun) (call : Timed CacheCall) : Prop :=
  match call.call with
  | .claim paymentId ttlSecs =>
    ∀ c ∈ standing r.log, c.paymentId = paymentId → c.Live call.now →
      call.now - c.claimedAt < ttlSecs
  | .release _ => True
  | .cleanup =>
    ∀ c ∈ standing r.log, c.Live call.now →
      call.now - c.claimedAt < r.store.replayRetentionSecs

instance : (r : CacheRun) → (call : Timed CacheCall) → Decidable (KeepsClaims r call)
  | r, ⟨now, .claim paymentId ttlSecs⟩ =>
    inferInstanceAs (Decidable (∀ c ∈ standing r.log, c.paymentId = paymentId → c.Live now →
      now - c.claimedAt < ttlSecs))
  | _, ⟨_, .release _⟩ => isTrue trivial
  | r, ⟨now, .cleanup⟩ =>
    inferInstanceAs (Decidable (∀ c ∈ standing r.log, c.Live now →
      now - c.claimedAt < r.store.replayRetentionSecs))

/-- The calls are made at nondecreasing readings of the clock. -/
def ClockOrdered (calls : List (Timed CacheCall)) : Prop := calls.Pairwise (·.now ≤ ·.now)

instance (calls : List (Timed CacheCall)) : Decidable (ClockOrdered calls) :=
  inferInstanceAs (Decidable (List.Pairwise _ _))

/-! ## Calls that keep the claims -/

/-- What the store knows of the standing claims that may still be live: when each was made. -/
structure Remembers (r : CacheRun) (now : Nat) : Prop where
  onRecord : ∀ c ∈ standing r.log, c.Live now →
    r.store.seenPayments.get? c.paymentId = some c.claimedAt
  honoured : Honoured r.log

theorem FreshClaim.Live.anti {c : FreshClaim} {now now' : Nat} (h : c.Live now')
    (hle : now ≤ now') : c.Live now := Nat.lt_of_le_of_lt hle h

/-- As time passes there is less to remember. -/
theorem Remembers.later {r : CacheRun} {now now' : Nat} (h : Remembers r now) (hle : now ≤ now') :
    Remembers r now' :=
  ⟨fun c hc hlive => h.onRecord c hc (hlive.anti hle), h.honoured⟩

theorem Remembers.claim {r : CacheRun} {now : Nat} {paymentId : String} {ttlSecs : Nat}
    (h : Remembers r now) (hok : KeepsClaims r ⟨now, .claim paymentId ttlSecs⟩) :
    Remembers (r.step ⟨now, .claim paymentId ttlSecs⟩) now := by
  rcases SessionStore.claimPaymentAt_cases r.store paymentId ttlSecs now with
    ⟨firstSeen, -, -, hclaim⟩ | ⟨hlapsed, hclaim⟩
  · constructor
    · simpa [CacheRun.step, MemorySessionStore.perform, hclaim, standing, CacheEntry.fresh?]
        using h.onRecord
    · simpa [CacheRun.step, MemorySessionStore.perform, hclaim, Honoured, CacheEntry.fresh?]
        using h.honoured
  · -- A live claim would be on record, and not lapsed by the TTL this call brings.
    have hnone : ∀ c ∈ standing r.log, c.paymentId = paymentId → ¬ c.Live now := by
      intro c hc hid hlive
      have hold := hlapsed c.claimedAt (hid ▸ h.onRecord c hc hlive)
      exact absurd (hok c hc hid hlive) (Nat.not_lt.mpr hold)
    constructor
    · intro c hc hlive
      simp only [CacheRun.step, MemorySessionStore.perform, hclaim, standing, CacheEntry.fresh?,
        Prod.map_fst, Prod.map_snd, id_eq, Option.toList_some, List.singleton_append,
        List.mem_cons] at hc ⊢
      rcases hc with rfl | hc
      · exact Table.get?_insert_self _ _ _
      · rw [Table.get?_insert_ne _ _ fun hid => hnone c hc hid hlive]
        exact h.onRecord c hc hlive
    · simp only [CacheRun.step, MemorySessionStore.perform, hclaim, Honoured, CacheEntry.fresh?,
        Prod.map_fst]
      refine ⟨?_, h.honoured⟩
      rintro _ ⟨rfl⟩
      exact hnone

theorem Remembers.release {r : CacheRun} {now : Nat} {paymentId : String} (h : Remembers r now) :
    Remembers (r.step ⟨now, .release paymentId⟩) now := by
  refine ⟨fun c hc hlive => ?_, nofun, h.honoured⟩
  obtain ⟨hc, hne⟩ := List.mem_filter.mp hc
  exact (Table.get?_remove_ne _ (by simpa using hne)).trans (h.onRecord c hc hlive)

theorem Remembers.cleanup {r : CacheRun} {now : Nat} (h : Remembers r now)
    (hok : KeepsClaims r ⟨now, .cleanup⟩) : Remembers (r.step ⟨now, .cleanup⟩) now := by
  refine ⟨fun c hc hlive => ?_, nofun, h.honoured⟩
  have hseen := h.onRecord c hc hlive
  have hyoung := hok c hc hlive
  simp [CacheRun.step, MemorySessionStore.perform, MemorySessionStore.cleanupExpiredAt,
    Table.get?_retain, hseen, hyoung]

/-- **One call.** -/
theorem Remembers.step {r : CacheRun} {c : Timed CacheCall} (h : Remembers r c.now)
    (hok : KeepsClaims r c) : Remembers (r.step c) c.now := by
  obtain ⟨now, call⟩ := c
  cases call with
  | claim paymentId ttlSecs => exact h.claim hok
  | release paymentId => exact h.release
  | cleanup => exact h.cleanup hok

/-- **One run.** After calls that keep the claims, up to any later second. -/
theorem Remembers.run {r : CacheRun} {now later : Nat} {calls : List (Timed CacheCall)}
    (h : Remembers r now) (hclock : ClockOrdered calls) (hnow : ∀ c ∈ calls, now ≤ c.now)
    (hlater : now ≤ later) (hcalls : ∀ c ∈ calls, c.now ≤ later)
    (hok : Along CacheRun.step KeepsClaims r calls) : Remembers (r.run calls) later := by
  induction calls generalizing r now with
  | nil => exact h.later hlater
  | cons c calls ih =>
    obtain ⟨hc, hrest⟩ := hok
    have hstep := (h.later (hnow c List.mem_cons_self)).step hc
    exact ih hstep (List.pairwise_cons.mp hclock).2 (List.pairwise_cons.mp hclock).1
      (hcalls c List.mem_cons_self) (fun c' hc' => hcalls c' (List.mem_cons_of_mem _ hc')) hrest

/-! ## A call that does not -/

/-- It gives a payment away itself, or lets the next claim at the same second have it. -/
theorem Remembers.gives_away {r : CacheRun} {call : Timed CacheCall} (h : Remembers r call.now)
    (hbreaks : ¬ KeepsClaims r call) :
    ∃ more : List (Timed CacheCall), (∀ c ∈ more, c.now = call.now) ∧
      ¬ Honoured (r.run (call :: more)).log := by
  obtain ⟨now, call⟩ := call
  cases call with
  | release paymentId => exact absurd trivial hbreaks
  | claim paymentId ttlSecs =>
    simp only [KeepsClaims, not_forall, Nat.not_lt] at hbreaks
    obtain ⟨c, hc, rfl, hlive, hold⟩ := hbreaks
    refine ⟨[], nofun, fun hhonoured => ?_⟩
    have hclaim : r.store.claimPaymentAt c.paymentId ttlSecs now =
        (.fresh, { r.store with
          seenPayments := r.store.seenPayments.insert c.paymentId now }) := by
      simp [MemorySessionStore.claimPaymentAt, h.onRecord c hc hlive, hold]
    simp only [CacheRun.run, List.foldl_cons, List.foldl_nil, CacheRun.step,
      MemorySessionStore.perform, hclaim, Honoured, CacheEntry.fresh?, Prod.map_fst] at hhonoured
    exact hhonoured.1 _ rfl c hc rfl hlive
  | cleanup =>
    simp only [KeepsClaims, not_forall, Nat.not_lt] at hbreaks
    obtain ⟨c, hc, hlive, hold⟩ := hbreaks
    refine ⟨[⟨now, .claim c.paymentId (replayTtl 0)⟩], by simp, fun hhonoured => ?_⟩
    have hswept : (r.store.cleanupExpiredAt now).2.seenPayments.get? c.paymentId = none := by
      simp [MemorySessionStore.cleanupExpiredAt, Table.get?_retain, h.onRecord c hc hlive,
        Option.filter, hold]
    have hclaim : ((r.store.cleanupExpiredAt now).2.claimPaymentAt c.paymentId (replayTtl 0) now).1 =
        .fresh := by
      simp [MemorySessionStore.claimPaymentAt, hswept]
    simp only [CacheRun.run, List.foldl_cons, List.foldl_nil, CacheRun.step,
      MemorySessionStore.perform, Honoured, CacheEntry.fresh?, Prod.map_fst, hclaim] at hhonoured
    exact hhonoured.1 _ rfl c hc rfl hlive

/-! ## Whole runs -/

/-- **Claims last as long as their TTL.** On the store `main` builds, at nondecreasing readings of
the clock: calls that keep the claims never report a payment fresh within the TTL of a claim that
stands. The first call that does not keep them gives a payment away, by itself or to the next
claim. -/
theorem claims_are_honoured (config : Config) (hmacKey : Bytes) (calls : List (Timed CacheCall))
    (hclock : ClockOrdered calls)
    (hkeeps : Along CacheRun.step KeepsClaims (.start config hmacKey) calls) :
    Honoured ((CacheRun.start config hmacKey).run calls).log ∧
    ∀ call, ClockOrdered (calls ++ [call]) →
      ¬ KeepsClaims ((CacheRun.start config hmacKey).run calls) call →
      ∃ more, ClockOrdered (calls ++ call :: more) ∧
        ¬ Honoured ((CacheRun.start config hmacKey).run (calls ++ call :: more)).log := by
  have hstart : Remembers (.start config hmacKey) 0 := ⟨nofun, trivial⟩
  refine ⟨?_, fun call hcall hbreaks => ?_⟩
  · have hle : ∀ c ∈ calls, c.now ≤ (calls.map (·.now)).sum := fun c hc =>
      List.single_le_sum (fun _ _ => Nat.zero_le _) _ (List.mem_map_of_mem hc)
    exact (hstart.run hclock (fun _ _ => Nat.zero_le _) (Nat.zero_le _) hle hkeeps).honoured
  · have hle : ∀ c ∈ calls, c.now ≤ call.now := fun c hc =>
      (List.pairwise_append.mp hcall).2.2 c hc call (List.mem_singleton_self _)
    have h := hstart.run hclock (fun _ _ => Nat.zero_le _) (Nat.zero_le _) hle hkeeps
    obtain ⟨more, hnow, hgives⟩ := h.gives_away hbreaks
    refine ⟨more, ?_, ?_⟩
    · have hmore : ClockOrdered (call :: more) := List.pairwise_cons.mpr
        ⟨fun c hc => (hnow c hc).ge, List.pairwise_of_forall_mem_list fun c hc c' hc' =>
          ((hnow c hc).trans (hnow c' hc').symm).le⟩
      refine List.pairwise_append.mpr ⟨hclock, hmore, fun c hc c' hc' => ?_⟩
      rcases List.mem_cons.mp hc' with rfl | hc'
      · exact hle c hc
      · exact (hnow c' hc').symm ▸ hle c hc
    · simpa [CacheRun.run] using hgives

/-- A deployment whose sessions last a minute, like the window of its payments. -/
def shortSessions : Config :=
  { exampleConfig .stubAcceptAll with paidTier := { quota := 100, durationSecs := 60 } }

/-- A claim, a cleanup tick 100 seconds later, and a claim of the same payment after it. -/
def claimSweepClaim : List (Timed CacheCall) :=
  [⟨1000, .claim exampleId (replayTtl 60)⟩, ⟨1100, .cleanup⟩,
    ⟨1101, .claim exampleId (replayTtl 60)⟩]

/-- The same with a retention of an hour, where every call keeps the claims. -/
theorem claims_are_honoured_example :
    let config := exampleConfig .stubAcceptAll
    Honoured ((CacheRun.start config []).run claimSweepClaim).log :=
  (claims_are_honoured _ _ claimSweepClaim (by decide) (by decide)).1

/-- **Swept while live.** The tick drops the claim 100 seconds into its TTL of 600. -/
theorem claim_swept_while_live :
    ¬ ∀ (_ : Platform) (config : Config) (hmacKey : Bytes) (calls : List (Timed CacheCall)),
      config.validate = .ok () → config.hmacKey = .ok hmacKey → config.store.backend = .memory →
      ClockOrdered calls →
      (∀ c ∈ calls, ∀ id ttlSecs, c.call = .claim id ttlSecs → ∃ m, ttlSecs = replayTtl m) →
      Honoured ((CacheRun.start config hmacKey).run calls).log := by
  intro h
  let _ : Platform := examplePlatform
  have hhonoured := h examplePlatform shortSessions (List.replicate 32 0xcd) claimSweepClaim rfl rfl
    rfl (by decide) ?_
  · exact absurd hhonoured.1 (by decide)
  · simp only [claimSweepClaim, List.mem_cons, List.not_mem_nil, or_false]
    rintro c (rfl | rfl | rfl) id ttlSecs hcall
    · exact ⟨60, by cases hcall; rfl⟩
    · cases hcall
    · exact ⟨60, by cases hcall; rfl⟩

end X402Verifier
