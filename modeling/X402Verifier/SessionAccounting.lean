import X402Verifier.Interaction.Run
import X402Verifier.SessionSpec
import X402Verifier.Reference

/-!
# Accounting for sessions

The memory store under any calls that mint, spend and reap sessions, at any readings of the clock.

What the calls granted and spent is read off the log: `grants` are the sessions minted, and
`acceptances` how often one was honored. The invariant (`Accounts`) relates a stored session to the
grant of its id: it is that grant, with as many requests left as have not been accepted.

Two things are assumed of a run, each where it is used (`Assumed`): a new session id is not one
that was handed out before, and a MAC is right only on a text this store has signed.
-/

namespace X402Verifier

open RustStd Interaction

variable [Platform]

/-! ## Runs of the store -/

/-- A call on the sessions. A mint draws the random bytes of its id. -/
inductive SessionCall where
  | create (payer : String) (policy : Option String) (quota ttlSecs : Nat) (raw : Bytes)
  | consume (token : String) (policy : Option String)
  | cleanup

inductive SessionAnswer where
  | minted (token : String)
  | outcome (o : SessionOutcome)
  | reaped (count : Nat)

/-- A call, what it answered, and the sessions before and after it. -/
structure SessionEntry extends Timed SessionCall where
  answer : SessionAnswer
  before : Table String Session
  after : Table String Session

/-- The store, and the calls so far, latest first. -/
structure SessionRun where
  store : MemorySessionStore
  log : List SessionEntry := []

def MemorySessionStore.serve (s : MemorySessionStore) (c : Timed SessionCall) :
    SessionAnswer × MemorySessionStore :=
  match c.call with
  | .create payer policy quota ttlSecs raw =>
    (s.createSessionAt payer policy quota ttlSecs c.now raw).map .minted id
  | .consume token policy => (s.consumeAt token policy c.now).map .outcome id
  | .cleanup => (s.cleanupExpiredAt c.now).map .reaped id

def SessionRun.step (r : SessionRun) (c : Timed SessionCall) : SessionRun :=
  let (answer, store) := r.store.serve c
  ⟨store, ⟨c, answer, r.store.sessions, store.sessions⟩ :: r.log⟩

def SessionRun.run (r : SessionRun) (calls : List (Timed SessionCall)) : SessionRun :=
  calls.foldl SessionRun.step r

/-- A new store. -/
def SessionRun.start (codec : TokenCodec) (replayRetentionSecs : Nat) : SessionRun :=
  ⟨{ codec := codec, replayRetentionSecs := replayRetentionSecs }, []⟩

/-! ## Grants and acceptances -/

/-- What one mint granted. -/
structure Grant where
  payer : String
  policy : Option String
  quota : Nat
  expiresAt : Nat
  sessionId : String
  deriving DecidableEq

/-- The text the MAC of the grant's token covers. -/
def Grant.signed (g : Grant) : String :=
  TokenCodec.signedPart g.payer (toString g.expiresAt) g.sessionId

/-- The session of a grant with this many requests left. -/
def Grant.session (g : Grant) (remaining : Nat) : Session :=
  ⟨g.payer, g.policy, g.expiresAt, g.quota, remaining⟩

def SessionEntry.grant? (e : SessionEntry) : Option Grant :=
  match e.call with
  | .create payer policy quota ttlSecs raw =>
    some ⟨payer, policy, quota, saturatingAdd e.now ttlSecs, newSessionId raw⟩
  | _ => none

def grants (log : List SessionEntry) : List Grant := log.filterMap SessionEntry.grant?

omit [Platform] in
/-- The session id in a token's text. -/
def sessionIdOf (token : String) : Option String := (split (trim token) ':')[2]?

omit [Platform] in
/-- The session an entry spends a request of. -/
def SessionEntry.spends? (e : SessionEntry) : Option String :=
  match e.call, e.answer with
  | .consume token _, .outcome (.accepted ..) => sessionIdOf token
  | _, _ => none

omit [Platform] in
/-- How many requests of a session have been accepted. -/
def acceptances (sessionId : String) (log : List SessionEntry) : Nat :=
  log.countP (·.spends? = some sessionId)

/-- A new session id is new, and a right MAC is on a text that was signed. -/
def Assumed (r : SessionRun) (c : Timed SessionCall) : Prop :=
  match c.call with
  | .create _ _ _ _ raw => newSessionId raw ∉ (grants r.log).map (·.sessionId)
  | .consume token _ => ∀ text ∈ r.store.codec.signed? token, text ∈ (grants r.log).map Grant.signed
  | .cleanup => True

instance : (r : SessionRun) → (c : Timed SessionCall) → Decidable (Assumed r c)
  | r, ⟨_, .create _ _ _ _ raw⟩ =>
    inferInstanceAs (Decidable (newSessionId raw ∉ (grants r.log).map (·.sessionId)))
  | r, ⟨_, .consume token _⟩ =>
    inferInstanceAs (Decidable (∀ text ∈ r.store.codec.signed? token,
      text ∈ (grants r.log).map Grant.signed))
  | _, ⟨_, .cleanup⟩ => isTrue trivial

/-! ## What is promised of each call -/

/-- An acceptance that spends one request of a grant: the only one of its id, presented with its
own token, under its own policy and before its expiry. -/
structure Spends (older : List SessionEntry) (c : Timed SessionCall) (token : String)
    (policy : Option String) (payer : String) (remaining quota expiresAt : Nat) (g : Grant) :
    Prop where
  only : (grants older).filter (·.sessionId = g.sessionId) = [g]
  token : ∃ macHex,
    split (trim token) ':' = [g.payer, toString g.expiresAt, g.sessionId, macHex]
  policy : g.policy = policy
  payer : payer = g.payer
  quota : quota = g.quota
  expiresAt : expiresAt = g.expiresAt
  inTime : c.now < g.expiresAt
  remaining : remaining + (acceptances g.sessionId older + 1) = g.quota

/-- What an entry is to be after those before it. -/
def Accounted (older : List SessionEntry) (e : SessionEntry) : Prop :=
  match e.call, e.answer with
  | .consume token policy, .outcome (.accepted payer remaining quota expiresAt) =>
    ∃ g, Spends older e.toTimed token policy payer remaining quota expiresAt g
  | .consume .., .outcome (.rejected _) => e.after = e.before
  | .cleanup, _ => ∀ sessionId session, e.before.get? sessionId = some session →
    e.now < session.expiresAt → e.after.get? sessionId = some session
  | _, _ => True

/-- The state of the accounts. -/
structure Accounts (r : SessionRun) : Prop where
  distinct : ((grants r.log).map (·.sessionId)).Nodup
  stored : ∀ sessionId session, r.store.sessions.get? sessionId = some session →
    ∃ g ∈ grants r.log, g.sessionId = sessionId ∧ session = g.session session.quotaRemaining ∧
      session.quotaRemaining + acceptances sessionId r.log = g.quota
  unspent : ∀ sessionId, sessionId ∉ (grants r.log).map (·.sessionId) →
    acceptances sessionId r.log = 0
  withinQuota : ∀ g ∈ grants r.log, acceptances g.sessionId r.log ≤ g.quota
  accounted : ∀ e older, e :: older <:+ r.log → Accounted older e

/-! ## One call -/

omit [Platform] in
theorem filter_eq_singleton {α β : Type} [DecidableEq β] {f : α → β} {l : List α} {a : α}
    (hnodup : (l.map f).Nodup) (ha : a ∈ l) : l.filter (f · = f a) = [a] := by
  induction l with
  | nil => cases ha
  | cons b l ih =>
    obtain ⟨hb, hnodup⟩ := List.nodup_cons.mp hnodup
    rcases List.mem_cons.mp ha with rfl | ha
    · have hrest : l.filter (f · = f a) = [] := by
        refine List.filter_eq_nil_iff.mpr fun c hc => ?_
        simpa using fun heq : f c = f a => hb (heq ▸ List.mem_map_of_mem hc)
      simp [hrest]
    · have hne : f b ≠ f a := fun heq => hb (heq ▸ List.mem_map_of_mem ha)
      simp [hne, ih hnodup ha]

omit [Platform] in
theorem acceptances_cons (sessionId : String) (e : SessionEntry) (log : List SessionEntry) :
    acceptances sessionId (e :: log) =
      acceptances sessionId log + if e.spends? = some sessionId then 1 else 0 := by
  simp [acceptances, List.countP_cons]

theorem Accounts.cons_accounted {r : SessionRun} {e : SessionEntry} (h : Accounts r)
    (he : Accounted r.log e) : ∀ e' older, e' :: older <:+ e :: r.log → Accounted older e' := by
  intro e' older hsuffix
  rcases List.suffix_cons_iff.mp hsuffix with heq | hsuffix
  · obtain ⟨rfl, rfl⟩ := List.cons.inj heq
    exact he
  · exact h.accounted e' older hsuffix

/-- A call that grants and spends nothing leaves the accounts as they are, whatever it drops. -/
theorem Accounts.idle {r : SessionRun} {e : SessionEntry} {store : MemorySessionStore}
    (h : Accounts r) (hgrant : e.grant? = none) (hspends : e.spends? = none)
    (he : Accounted r.log e)
    (hstore : ∀ sessionId session, store.sessions.get? sessionId = some session →
      r.store.sessions.get? sessionId = some session) :
    Accounts ⟨store, e :: r.log⟩ := by
  have hgrants : grants (e :: r.log) = grants r.log := by simp [grants, hgrant]
  have haccept : ∀ sessionId, acceptances sessionId (e :: r.log) = acceptances sessionId r.log := by
    simp [acceptances_cons, hspends]
  constructor
  · simpa [hgrants] using h.distinct
  · intro sessionId session hget
    simpa [hgrants, haccept] using h.stored sessionId session (hstore sessionId session hget)
  · simpa [hgrants, haccept] using h.unspent
  · simpa [hgrants, haccept] using h.withinQuota
  · exact h.cons_accounted he

/-- **Minting.** A grant of a new id, with its whole quota left. -/
theorem Accounts.create {r : SessionRun} {now : Nat} {payer : String} {policy : Option String}
    {quota ttlSecs : Nat} {raw : Bytes} (h : Accounts r)
    (hnew : newSessionId raw ∉ (grants r.log).map (·.sessionId)) :
    Accounts (r.step ⟨now, .create payer policy quota ttlSecs raw⟩) := by
  have hzero := h.unspent _ hnew
  constructor
  · exact List.nodup_cons.mpr ⟨hnew, h.distinct⟩
  · intro sessionId session hget
    simp only [SessionRun.step, MemorySessionStore.serve, MemorySessionStore.createSessionAt,
      Prod.map_snd, id_eq, Table.get?_insert] at hget
    split_ifs at hget with hid
    · cases hget
      refine ⟨_, List.mem_cons_self, hid.symm, rfl, ?_⟩
      rw [SessionRun.step, acceptances_cons, hid, hzero]
      rfl
    · obtain ⟨g, hg, hrest⟩ := h.stored sessionId session hget
      exact ⟨g, List.mem_cons_of_mem _ hg, hrest⟩
  · intro sessionId hmem
    exact h.unspent sessionId fun hold => hmem (List.mem_cons_of_mem _ hold)
  · intro g hg
    rcases List.mem_cons.mp hg with rfl | hg
    · exact Nat.le_trans (Nat.le_of_eq hzero) (Nat.zero_le _)
    · exact h.withinQuota g hg
  · exact h.cons_accounted trivial

/-- The sweeper takes nothing that has not expired. -/
theorem Accounts.cleanup {r : SessionRun} {now : Nat} (h : Accounts r) :
    Accounts (r.step ⟨now, .cleanup⟩) := by
  refine h.idle rfl rfl ?_ ?_
  · intro sessionId session hget hlive
    exact (Table.get?_retain _ _ _).trans
      (Option.filter_eq_some_iff.mpr ⟨hget, decide_eq_true hlive⟩)
  · intro sessionId session hget
    exact (Option.filter_eq_some_iff.mp ((Table.get?_retain _ _ _).symm.trans hget)).1

/-- **Spending.** A rejection changes nothing, and an acceptance takes one request off the grant
whose token it is. -/
theorem Accounts.consume {r : SessionRun} {now : Nat} {token : String} {policy : Option String}
    (h : Accounts r)
    (hmac : ∀ text ∈ r.store.codec.signed? token, text ∈ (grants r.log).map Grant.signed) :
    Accounts (r.step ⟨now, .consume token policy⟩) := by
  rcases r.store.consumeAt_cases token policy now with ⟨reason, hrejected⟩ |
    ⟨claims, session, remaining, hverify, hget, hlive, hpolicy, hquota, haccepted⟩
  · simp only [SessionRun.step, MemorySessionStore.serve, hrejected, Prod.map_fst, Prod.map_snd,
      id_eq]
    exact h.idle rfl rfl rfl fun sessionId session hget => hget
  · simp only [SessionRun.step, MemorySessionStore.serve, haccepted, Prod.map_fst, Prod.map_snd,
      id_eq]
    obtain ⟨g, hg, hid, hsession, hcount⟩ := h.stored _ _ hget
    -- The text the MAC covers is that of a grant, and the session found is of the same one.
    obtain ⟨expires, macHex, hsplit, hsigned, -⟩ := TokenCodec.verify_eq_ok hverify
    obtain ⟨g', hg', htext⟩ := List.mem_map.mp (hmac _ hsigned)
    obtain ⟨-, hid', hfields⟩ :=
      TokenCodec.verify_fields hverify (hsigned.trans (congrArg some htext.symm))
    obtain rfl : g' = g :=
      List.inj_on_of_nodup_map h.distinct hg' hg (hid'.symm.trans hid.symm)
    rw [hquota, ← hid] at hcount
    have hspends : sessionIdOf token = some g'.sessionId := by simp [sessionIdOf, hsplit, hid]
    constructor
    · exact h.distinct
    · intro sessionId' session' hget'
      rw [acceptances_cons]
      simp only [SessionEntry.spends?, hspends, Option.some.injEq]
      rw [Table.get?_insert] at hget'
      split_ifs at hget' with heq
      · cases hget'
        refine ⟨g', hg, hid.trans heq.symm, ?_, ?_⟩
        · rw [hsession]
          rfl
        · rw [heq, ← hid, if_pos rfl]
          show remaining + _ = _
          omega
      · rw [← hid] at heq
        rw [if_neg (Ne.symm heq)]
        exact h.stored sessionId' session' hget'
    · intro sessionId' hmem
      have hne : g'.sessionId ≠ sessionId' := fun heq => hmem (heq ▸ List.mem_map_of_mem hg)
      rw [acceptances_cons, if_neg (by simpa [SessionEntry.spends?, hspends] using hne)]
      exact h.unspent sessionId' hmem
    · intro g₁ hg₁
      rw [acceptances_cons]
      simp only [SessionEntry.spends?, hspends, Option.some.injEq]
      split_ifs with heq
      · obtain rfl : g' = g₁ := List.inj_on_of_nodup_map h.distinct hg hg₁ heq
        omega
      · exact h.withinQuota g₁ hg₁
    · refine h.cons_accounted ⟨g', ?_⟩
      rw [hsession] at hpolicy hlive ⊢
      exact { only := filter_eq_singleton h.distinct hg, token := hfields, policy := hpolicy,
              payer := rfl, quota := rfl, expiresAt := rfl, inTime := hlive,
              remaining := by omega }

/-! ## Whole runs -/

theorem Accounts.step {r : SessionRun} {c : Timed SessionCall} (h : Accounts r)
    (hassumed : Assumed r c) : Accounts (r.step c) := by
  obtain ⟨now, call⟩ := c
  cases call with
  | create payer policy quota ttlSecs raw => exact h.create hassumed
  | consume token policy => exact h.consume hassumed
  | cleanup => exact h.cleanup

/-- **Sessions are accounted for.** In every run of mints, presented tokens and cleanup ticks: an
acceptance spends one request of exactly one earlier grant, under its own terms and before its
expiry, and says how many are left; a rejection changes no session; a tick drops none that has not
expired; and no session is honored more often than its quota. -/
theorem sessions_are_accounted (codec : TokenCodec) (replayRetentionSecs : Nat)
    (calls : List (Timed SessionCall))
    (hassumed : Along SessionRun.step Assumed (.start codec replayRetentionSecs) calls) :
    let log := ((SessionRun.start codec replayRetentionSecs).run calls).log
    (∀ e older, e :: older <:+ log → Accounted older e) ∧
      ∀ g ∈ grants log, acceptances g.sessionId log ≤ g.quota := by
  have hstart : Accounts (.start codec replayRetentionSecs) := by
    constructor
    · exact List.nodup_nil
    · intro sessionId session hget
      simp [SessionRun.start] at hget
    · exact fun _ _ => rfl
    · intro g hg
      cases hg
    · exact fun e older hsuffix => by simp [SessionRun.start] at hsuffix
  have h := foldl_invariant (fun _ _ h => h.step) hstart hassumed
  exact ⟨h.accounted, h.withinQuota⟩

/-- A session of two requests, its token, and a second spelling of it after a tick. -/
def mintSpendSpend : List (Timed SessionCall) :=
  [⟨1000, .create "0x1" none 2 100 firstRaw⟩, ⟨1001, .consume firstToken none⟩, ⟨1050, .cleanup⟩,
    ⟨1099, .consume (" " ++ firstToken) none⟩]

omit [Platform] in
theorem mintSpendSpend_assumed :
    let _ : Platform := signingPlatform
    let start : SessionRun := .start ⟨exampleKey⟩ 600
    acceptances (newSessionId firstRaw) (start.run mintSpendSpend).log = 2 ∧
      Along SessionRun.step Assumed start mintSpendSpend := by
  decide +kernel

omit [Platform] in
theorem sessions_are_accounted_example :
    let _ : Platform := signingPlatform
    let log := ((SessionRun.start ⟨exampleKey⟩ 600).run mintSpendSpend).log
    acceptances (newSessionId firstRaw) log = 2 ∧
      (∀ e older, e :: older <:+ log → Accounted older e) ∧
      ∀ g ∈ grants log, acceptances g.sessionId log ≤ g.quota := by
  intro _ log
  exact ⟨mintSpendSpend_assumed.1, sessions_are_accounted _ _ _ mintSpendSpend_assumed.2⟩

end X402Verifier
