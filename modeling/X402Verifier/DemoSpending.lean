import X402Verifier.Demo

/-!
# What the demo spends

**Theorem (`spending_is_bounded`).** In every interleaving of any number of exchanges, whatever the
gateway, the wallet and the clock answer and whichever visitors go away: no more payments are
reported settled than `max_plays`, and of the payments presented only the one of the exchange that
has the budget locked, and those of visitors who went away, are unanswered.

**Theorem (`visitors_are_bounded`).** As long as the clock of an address is read in order, the
address is admitted at most `plays_per_ip_hourly` times in an hour.

The first is the resource rule for the budget's lock: while it is nobody's, as many payments have
settled as are counted. An exchange that goes away in the middle of a payment gives the lock back
without counting, so a payment that settles after that is in no count.
-/

namespace X402Verifier

open RustStd Interaction

/-! ## The service -/

/-- What one step takes from outside. -/
structure DemoEnv where
  now : Nat
  answer : HttpCall → Except Messages Attempt
  key : Except Messages Unit
  build : String → Wire.PaymentRequirements → Except Messages String

/-- What all exchanges share. -/
structure DemoState where
  spent : Nat := 0
  perIp : Table IpAddr (Nat × Nat) := ∅

/-- An address's entry for this hour. -/
def hourlyEntry (perIp : Table IpAddr (Nat × Nat)) (ip : IpAddr) (hour : Nat) : Nat × Nat :=
  let entry := (perIp.get? ip).getD (hour, 0)
  if entry.1 ≠ hour then (hour, 0) else entry

/-- Admit a payment of this address, if its hour has room. -/
def admitAt (limit : Nat) (s : DemoState) (ip : IpAddr) (hour : Nat) : Bool × DemoState :=
  let entry := hourlyEntry s.perIp ip hour
  if limit ≤ entry.2 then (false, { s with perIp := s.perIp.insert ip entry })
  else (true, { s with perIp := s.perIp.insert ip (entry.1, entry.2 + 1) })

def DemoArgs.exec (args : DemoArgs) (env : DemoEnv) (s : DemoState) :
    (op : DemoOp) → op.Ret × DemoState
  | .request _ => ((), s)
  | .response call => (env.answer call, s)
  | .spentSoFar | .lockSpent | .spentUnderLock => (s.spent, s)
  | .nowEpochSecs => (env.now, s)
  | .countPlay ip hour => admitAt args.playsPerIpHourly s ip hour
  | .loadKey => (env.key, s)
  | .buildPayment resourceUrl terms => (env.build resourceUrl terms, s)
  | .countSpent => ((), { s with spent := s.spent + 1 })
  | .unlockSpent => ((), s)

inductive DemoLocal where
  | fresh
  | finished (result : Except ApiError SendResult)
  | dropped

/-- A visitor's request, with the peer it came from. -/
structure Visit where
  peer : IpAddr
  incoming : RawHeaders
  request : SendRequest

/-- What a call does with the budget's lock. A payment is answered under it. -/
def DemoOp.access : DemoOp → Access
  | .response call => if call.payment.isSome then .inside else .outside
  | .spentSoFar => .brief
  | .lockSpent => .acquire
  | .countSpent | .spentUnderLock => .inside
  | .unlockSpent => .release
  | _ => .outside

/-- Calls that are awaited. -/
def DemoOp.awaits : DemoOp → Bool
  | .request _ | .response _ | .spentSoFar | .lockSpent | .buildPayment .. => true
  | _ => false

section

variable [Platform]

def DemoArgs.handle (args : DemoArgs) : DemoLocal → Visit → Demo DemoLocal
  | .fresh, visit => do
    let result ← demoSend args visit.peer visit.incoming visit.request
    pure (.finished result)
  | l, _ => pure l

/-- The demo as a machine. Exchanges are numbered. -/
def DemoArgs.machine (args : DemoArgs) :
    Locked Nat DemoOp DemoOp.Ret DemoEnv DemoState DemoLocal Visit where
  exec := args.exec
  handle := args.handle
  access := DemoOp.access
  awaits := DemoOp.awaits
  dropped := .dropped

end

abbrev DemoRunState : Type := LockState Nat DemoOp DemoOp.Ret DemoState DemoLocal Visit

def DemoRunState.start : DemoRunState := ⟨⟨{}, fun _ => .idle .fresh, []⟩, none⟩

/-! ## What a log tells -/

/-- Answers to payments that reported money moving. -/
def isSettled : Event DemoOp.Ret → Bool
  | ⟨.response call, .ok attempt⟩ => call.payment.isSome && attempt.settled
  | _ => false

def isPresented : Event DemoOp.Ret → Bool
  | ⟨.request call, _⟩ => call.payment.isSome
  | _ => false

def isAnswered : Event DemoOp.Ret → Bool
  | ⟨.response call, _⟩ => call.payment.isSome
  | _ => false

def isGranted : Event DemoOp.Ret → Bool
  | ⟨.countPlay .., granted⟩ => granted
  | _ => false

/-- The payments of a log that were reported settled. -/
def settledIn (log : List (Nat × Event DemoOp.Ret)) : Nat := log.countP fun e => isSettled e.2

/-! ## The discipline of an exchange -/

/-- How far an exchange is. One that has the budget locked knows how much is spent. -/
inductive Stage where
  | fresh
  | admitted
  | locked (spent : Nat)
  | presented (spent : Nat)
  | toCount (spent : Nat)
  | answered (spent : Nat)
  | over
  | gone

def Stage.holds : Stage → Bool
  | .locked _ | .presented _ | .toCount _ | .answered _ => true
  | _ => false

/-- The calls of one exchange: at most one admission, and under it at most one payment, presented
and then answered. -/
def Stage.own (q : Stage) (calls : List (Event DemoOp.Ret)) : Prop :=
  let presented := calls.countP isPresented
  let answered := calls.countP isAnswered
  let granted := calls.countP isGranted
  match q with
  | .fresh => presented = 0 ∧ answered = 0 ∧ granted = 0
  | .admitted | .locked _ => presented = 0 ∧ answered = 0 ∧ granted = 1
  | .presented _ => presented = 1 ∧ answered = 0 ∧ granted = 1
  | .toCount _ | .answered _ => presented = 1 ∧ answered = 1 ∧ granted = 1
  | .over => presented = answered ∧ presented ≤ granted ∧ granted ≤ 1
  | .gone => presented ≤ granted ∧ granted ≤ 1

/-- The calls an exchange may make. -/
def Stage.may (maxPlays : Nat) (q : Stage) : DemoOp → Prop
  | .request call =>
    if call.payment.isSome then ∃ n < maxPlays, q = .locked n else q.holds = false
  | .response call => if call.payment.isSome then ∃ n, q = .presented n else q.holds = false
  | .buildPayment .. => ∃ n, q = .locked n
  | .spentSoFar => q.holds = false
  | .countPlay .. => q = .fresh
  | .lockSpent => q = .admitted
  | .countSpent => ∃ n, q = .toCount n
  | .spentUnderLock => ∃ n, q = .answered n
  | .unlockSpent => ∃ n, q = .locked n ∨ q = .answered n
  | _ => True

/-- The stage after a call and its answer. -/
def Stage.next (q : Stage) (op : DemoOp) (r : op.Ret) : Stage :=
  match op, r with
  | .request call, _ =>
    match q with
    | .locked n => if call.payment.isSome then .presented n else q
    | _ => q
  | .response call, r =>
    match q with
    | .presented n =>
      if call.payment.isSome then
        if isSettled ⟨.response call, r⟩ then .toCount n else .answered n
      else q
    | _ => q
  | .countPlay .., granted => bif granted then .admitted else .over
  | .lockSpent, n => .locked n
  | .countSpent, _ =>
    match q with
    | .toCount n => .answered (n + 1)
    | _ => q
  | .unlockSpent, _ => .over
  | _, _ => q

def demoDiscipline (maxPlays : Nat) : Discipline DemoOp DemoOp.Ret Stage where
  may q op := q ≠ .gone ∧ q.may maxPlays op
  assumes _ _ _ := True
  next := Stage.next
  holds := Stage.holds
  dropped _ := .gone
  own := Stage.own

/-- What an idle exchange's stage says of it. -/
def Stage.idle (q : Stage) (l : DemoLocal) : Prop :=
  q.holds = false ∧ (l = .fresh → q = .fresh) ∧ (q = .gone → l = .dropped)

/-- What the lock guards: the payments counted, and those reported settled. -/
def budget (s : DemoState) (log : List (Nat × Event DemoOp.Ret)) : Nat × Nat :=
  (s.spent, settledIn log)

/-- The budget while nobody has it locked. -/
def balanced (maxPlays : Nat) (v : Nat × Nat) : Prop := v.2 = v.1 ∧ v.1 ≤ maxPlays

/-- The budget as the exchange that has it locked knows it. -/
def Stage.knows (maxPlays : Nat) (q : Stage) (v : Nat × Nat) : Prop :=
  match q with
  | .locked n | .answered n => v = (n, n) ∧ n ≤ maxPlays
  | .presented n => v = (n, n) ∧ n < maxPlays
  | .toCount n => v = (n, n + 1) ∧ n < maxPlays
  | _ => True

/-- A call that reports no settlement and counts nothing leaves the budget as it was. -/
theorem budget_cons {s s' : DemoState} (log : List (Nat × Event DemoOp.Ret))
    {e : Nat × Event DemoOp.Ret} (hspent : s'.spent = s.spent) (h : isSettled e.2 = false) :
    budget s' (e :: log) = budget s log := by
  simp [budget, settledIn, hspent, h]

theorem spent_admitAt (limit : Nat) (s : DemoState) (ip : IpAddr) (hour : Nat) :
    (admitAt limit s ip hour).2.spent = s.spent := by
  unfold admitAt
  dsimp only
  split_ifs <;> rfl

variable [Platform]

/-! ### One exchange -/

section Exchange

variable (args : DemoArgs)

/-- How an exchange ends: without the lock. -/
def Stage.ends (q : Stage) : Prop := q.holds = false ∧ q ≠ .gone

/-- An exchange that has the lock and is done. -/
def Stage.done (q : Stage) : Prop := ∃ n, q = .locked n ∨ q = .answered n

omit [Platform] in
theorem follows_countSettled (spent : Nat) (paid : Attempt) :
    (countSettled paid).Follows (demoDiscipline args.maxPlays).toProtocol
      (fun q _ => ∃ n, q = .answered n)
      (if paid.settled then .toCount spent else .answered spent) := by
  unfold countSettled
  cases paid.settled with
  | true => exact ⟨⟨nofun, spent, rfl⟩, fun _ _ => ⟨spent + 1, rfl⟩⟩
  | false => exact ⟨spent, rfl⟩

theorem follows_payUnderLock (target : Target) (request : SendRequest) {call : HttpCall}
    (first : Attempt) (spent : Nat) :
    (payUnderLock args target request call first spent).Follows
      (demoDiscipline args.maxPlays).toProtocol (fun q _ => q.done) (.locked spent) := by
  unfold payUnderLock
  split_ifs with hspent
  · exact ⟨spent, .inl rfl⟩
  · cases first.paymentRequired with
    | none => exact ⟨spent, .inl rfl⟩
    | some challenge =>
      dsimp only
      cases challenge.accepts.head? with
      | none => exact ⟨spent, .inl rfl⟩
      | some terms =>
        refine .perform ⟨nofun, trivial⟩ fun key _ => ?_
        cases key with
        | error e => exact ⟨spent, .inl rfl⟩
        | ok _ =>
          refine .perform ⟨nofun, spent, rfl⟩ fun built _ => ?_
          cases built with
          | error e => exact ⟨spent, .inl rfl⟩
          | ok payment =>
            -- The budget has room, and is still locked when the payment is presented.
            refine .perform ⟨nofun, spent, Nat.not_le.mp hspent, rfl⟩ fun _ _ => ?_
            refine .perform ⟨nofun, spent, rfl⟩ fun answer _ => ?_
            cases answer with
            | error e => exact ⟨spent, .inr rfl⟩
            | ok paid =>
              have hnext : Stage.next (.presented spent)
                  (.response { call with payment := some payment }) (.ok paid) =
                    if paid.settled then .toCount spent else .answered spent := by
                simp [Stage.next, isSettled]
              have hcount := follows_countSettled args spent paid
              rw [← hnext] at hcount
              refine Prog.Follows.bind hcount fun q _ hanswered => ?_
              obtain ⟨n, rfl⟩ := hanswered
              exact .perform ⟨nofun, n, rfl⟩ fun _ _ => ⟨n, .inr rfl⟩

theorem follows_payChallenge (target : Target) (peer : IpAddr) (request : SendRequest)
    {call : HttpCall} (first : Attempt) :
    (payChallenge args target peer request call first).Follows
      (demoDiscipline args.maxPlays).toProtocol (fun q _ => q.ends) .fresh := by
  refine .perform ⟨nofun, trivial⟩ fun now _ => .perform ⟨nofun, rfl⟩ fun admitted _ => ?_
  cases admitted with
  | false => exact ⟨rfl, nofun⟩
  | true =>
    refine .perform ⟨nofun, rfl⟩ fun spent _ => ?_
    refine (follows_payUnderLock args target request first spent).bind fun q result hdone => ?_
    refine .perform ⟨?_, hdone⟩ fun _ _ => ⟨rfl, nofun⟩
    obtain ⟨n, rfl | rfl⟩ := hdone <;> nofun

theorem follows_demoSend (peer : IpAddr) (incoming : RawHeaders) (request : SendRequest) :
    (demoSend args peer incoming request).Follows (demoDiscipline args.maxPlays).toProtocol
      (fun q _ => q.ends) .fresh := by
  unfold demoSend
  cases target request.target with
  | none => exact ⟨rfl, nofun⟩
  | some target =>
    refine .perform ⟨nofun, rfl⟩ fun _ _ => .perform ⟨nofun, rfl⟩ fun answer _ => ?_
    cases answer with
    | error e => exact ⟨rfl, nofun⟩
    | ok first =>
      refine .perform ⟨nofun, rfl⟩ fun spent _ => ?_
      split_ifs with hstatus
      · exact ⟨rfl, nofun⟩
      · exact follows_payChallenge args target peer request first

end Exchange

/-! ### The lock -/

section Calls

variable {maxPlays : Nat} {q : Stage} {v : Nat × Nat}

omit [Platform] in
theorem holds_next_request {call : HttpCall} :
    (q.next (.request call) ()).holds = q.holds := by
  cases q <;> simp only [Stage.next]
  split_ifs <;> rfl

omit [Platform] in
/-- A payment is presented while the budget has room. -/
theorem knows_next_request {call : HttpCall} (h : q.may maxPlays (.request call))
    (hknows : q.knows maxPlays v) : (q.next (.request call) ()).knows maxPlays v := by
  dsimp only [Stage.may] at h
  split_ifs at h with hpayment
  · obtain ⟨n, hn, rfl⟩ := h
    simp only [Stage.next, hpayment, if_true]
    exact ⟨hknows.1, hn⟩
  · cases q <;> simpa [Stage.next, hpayment] using hknows

omit [Platform] in
theorem next_response_of_unpaid {call : HttpCall} (hcall : call.payment.isSome = false)
    (r : DemoOp.Ret (.response call)) : q.next (.response call) r = q := by
  cases q <;> simp [Stage.next, hcall]

omit [Platform] in
theorem isSettled_of_unpaid {call : HttpCall} (hcall : call.payment.isSome = false)
    (r : DemoOp.Ret (.response call)) : isSettled ⟨.response call, r⟩ = false := by
  cases r with
  | error e => rfl
  | ok attempt => simp [isSettled, hcall]

omit [Platform] in
theorem cases_of_inside {op : DemoOp} (h : op.access = .inside) :
    (∃ call, call.payment.isSome = true ∧ op = .response call) ∨ op = .countSpent ∨
      op = .spentUnderLock := by
  cases op with
  | response call =>
    dsimp only [DemoOp.access] at h
    split_ifs at h with hcall
    exact .inl ⟨call, hcall, rfl⟩
  | countSpent => exact .inr (.inl rfl)
  | spentUnderLock => exact .inr (.inr rfl)
  | _ => cases h

omit [Platform] in
theorem eq_of_brief {op : DemoOp} (h : op.access = .brief) : op = .spentSoFar := by
  cases op with
  | spentSoFar => rfl
  | response call => simp only [DemoOp.access] at h; split_ifs at h
  | _ => cases h

omit [Platform] in
theorem eq_of_acquire {op : DemoOp} (h : op.access = .acquire) : op = .lockSpent := by
  cases op with
  | lockSpent => rfl
  | response call => simp only [DemoOp.access] at h; split_ifs at h
  | _ => cases h

omit [Platform] in
theorem eq_of_release {op : DemoOp} (h : op.access = .release) : op = .unlockSpent := by
  cases op with
  | unlockSpent => rfl
  | response call => simp only [DemoOp.access] at h; split_ifs at h
  | _ => cases h

omit [Platform] in
theorem answered_inside (maxPlays n a : Nat) (s : DemoState) (log : List (Nat × Event DemoOp.Ret))
    {call : HttpCall} (hcall : call.payment.isSome = true) (r : Except Messages Attempt) :
    (Stage.presented n).holds = true ∧
      ((Stage.presented n).next (.response call) r).holds = true ∧
      ((Stage.presented n).knows maxPlays (budget s log) →
        ((Stage.presented n).next (.response call) r).knows maxPlays
          (budget s ((a, ⟨.response call, r⟩) :: log))) := by
  refine ⟨rfl, ?_⟩
  simp only [Stage.next, hcall, if_true]
  cases hsettled : isSettled ⟨.response call, r⟩ with
  | true =>
    refine ⟨rfl, fun hknows => ⟨?_, hknows.2⟩⟩
    have hcount : settledIn ((a, ⟨.response call, r⟩) :: log) = settledIn log + 1 := by
      simp [settledIn, hsettled]
    have hspent : s.spent = n := congrArg Prod.fst hknows.1
    have hsettled : settledIn log = n := congrArg Prod.snd hknows.1
    rw [budget, hcount, hspent, hsettled]
  | false =>
    refine ⟨rfl, fun hknows => ⟨?_, Nat.le_of_lt hknows.2⟩⟩
    exact (budget_cons log rfl hsettled).trans hknows.1

omit [Platform] in
/-- A call that is nothing of what a stage counts. -/
theorem own_cons {calls : List (Event DemoOp.Ret)} {e : Event DemoOp.Ret}
    (hpresented : isPresented e = false) (hanswered : isAnswered e = false)
    (hgranted : isGranted e = false) : q.own (e :: calls) ↔ q.own calls := by
  simp [Stage.own, hpresented, hanswered, hgranted]

omit [Platform] in
/-- What an exchange's calls count, with one more. -/
theorem count_cons (p : Event DemoOp.Ret → Bool) (e : Event DemoOp.Ret)
    (calls : List (Event DemoOp.Ret)) :
    (e :: calls).countP p = calls.countP p + (p e).toNat := by
  cases h : p e <;> simp [h]

omit [Platform] in
theorem own_request {call : HttpCall} {calls : List (Event DemoOp.Ret)}
    (hmay : q.may maxPlays (.request call)) (hown : q.own calls) :
    (q.next (.request call) ()).own (⟨.request call, ()⟩ :: calls) := by
  dsimp only [Stage.may] at hmay
  split_ifs at hmay with hcall
  · obtain ⟨n, -, rfl⟩ := hmay
    have hpresented : isPresented ⟨.request call, ()⟩ = true := hcall
    have hanswered : isAnswered ⟨.request call, ()⟩ = false := rfl
    have hgranted : isGranted ⟨.request call, ()⟩ = false := rfl
    simp only [Stage.next, hcall, if_true]
    simp only [Stage.own, count_cons, hpresented, hanswered, hgranted, Bool.toNat_true,
      Bool.toNat_false] at hown ⊢
    omega
  · have hnext : q.next (.request call) () = q := by
      cases q <;> simp [Stage.next, hcall]
    rw [hnext]
    have hnot : call.payment.isSome = false := by simpa using hcall
    exact (own_cons (e := ⟨.request call, ()⟩) hnot rfl rfl).mpr hown

omit [Platform] in
theorem own_response {call : HttpCall} {calls : List (Event DemoOp.Ret)}
    (hmay : q.may maxPlays (.response call)) (hown : q.own calls)
    (r : DemoOp.Ret (.response call)) :
    (q.next (.response call) r).own (⟨.response call, r⟩ :: calls) := by
  dsimp only [Stage.may] at hmay
  split_ifs at hmay with hcall
  · obtain ⟨n, rfl⟩ := hmay
    have hpresented : isPresented ⟨.response call, r⟩ = false := rfl
    have hanswered : isAnswered ⟨.response call, r⟩ = true := hcall
    have hgranted : isGranted ⟨.response call, r⟩ = false := rfl
    simp only [Stage.next, hcall, if_true]
    cases isSettled ⟨.response call, r⟩ <;>
      simp only [Stage.own, count_cons, hpresented, hanswered, hgranted, Bool.toNat_true,
        Bool.toNat_false, Bool.false_eq_true, if_true, if_false] at hown ⊢ <;> omega
  · have hnot : call.payment.isSome = false := by simpa using hcall
    rw [next_response_of_unpaid hnot]
    exact (own_cons (e := ⟨.response call, r⟩) rfl hnot rfl).mpr hown

omit [Platform] in
theorem own_next {op : DemoOp} {calls : List (Event DemoOp.Ret)} (hmay : q.may maxPlays op)
    (hown : q.own calls) (r : op.Ret) : (q.next op r).own (⟨op, r⟩ :: calls) := by
  cases op with
  | request call => exact own_request hmay hown
  | response call => exact own_response hmay hown r
  | countPlay ip hour =>
    obtain rfl : q = .fresh := hmay
    have hpresented : isPresented ⟨.countPlay ip hour, r⟩ = false := rfl
    have hanswered : isAnswered ⟨.countPlay ip hour, r⟩ = false := rfl
    have hgranted : isGranted ⟨.countPlay ip hour, r⟩ = r := rfl
    have hnext : Stage.next .fresh (.countPlay ip hour) r = bif r then .admitted else .over := rfl
    rw [hnext]
    simp only [Stage.own] at hown
    cases r <;>
      simp only [cond_true, cond_false, Stage.own, count_cons, hpresented, hanswered, hgranted,
        Bool.toNat_true, Bool.toNat_false] <;> omega
  | lockSpent =>
    obtain rfl : q = .admitted := hmay
    exact (own_cons rfl rfl rfl).mpr hown
  | countSpent =>
    obtain ⟨n, rfl⟩ := hmay
    exact (own_cons rfl rfl rfl).mpr hown
  | unlockSpent =>
    show Stage.own .over _
    refine (own_cons rfl rfl rfl).mpr ?_
    obtain ⟨n, rfl | rfl⟩ := hmay <;> simp only [Stage.own] at hown ⊢ <;> omega
  | _ => exact (own_cons rfl rfl rfl).mpr hown

omit [Platform] in
/-- Whoever has the lock knows the budget within its ceiling. -/
theorem within_of_holds (hholds : q.holds = true) (hknows : q.knows maxPlays v) :
    v.1 ≤ maxPlays ∧ v.2 ≤ maxPlays := by
  cases q with
  | locked n | presented n | toCount n | answered n =>
    obtain ⟨rfl, hn⟩ := hknows
    constructor <;> dsimp only <;> omega
  | _ => cases hholds

omit [Platform] in
theorem own_gone {calls : List (Event DemoOp.Ret)} (hown : q.own calls) : Stage.gone.own calls := by
  cases q <;> simp only [Stage.own] at hown ⊢ <;> omega

end Calls

theorem lockRule_demo (args : DemoArgs) :
    LockRule args.machine (demoDiscipline args.maxPlays) Stage.idle budget (balanced args.maxPlays)
      (Stage.knows args.maxPlays) where
  idle h := h.1
  handle {q l} visit h := by
    cases l with
    | fresh =>
      obtain rfl := h.2.1 rfl
      refine (follows_demoSend args visit.peer visit.incoming visit.request).bind
        fun q result hends => ?_
      exact ⟨hends.1, nofun, fun hgone => absurd hgone hends.2⟩
    | finished result => exact h
    | dropped => exact h
  assumes _ _ _ := trivial
  -- Without the lock nothing is counted, and no answer reports money moving.
  outside {q op} a e s log hmay haccess := by
    cases op with
    | request call =>
      exact ⟨holds_next_request, budget_cons log rfl rfl, knows_next_request hmay.2⟩
    | response call =>
      -- A payment is answered under the lock, so this request carried none.
      have hcall : call.payment.isSome = false := by
        by_contra hsome
        rw [Bool.not_eq_false] at hsome
        simp [DemoArgs.machine, DemoOp.access, hsome] at haccess
      have hnext : Stage.next q (.response call) (e.answer call) = q :=
        next_response_of_unpaid hcall _
      refine ⟨congrArg Stage.holds hnext, budget_cons log rfl (isSettled_of_unpaid hcall _),
        fun hknows => ?_⟩
      show (Stage.next q (.response call) (e.answer call)).knows _ _
      rwa [hnext]
    | countPlay ip hour =>
      obtain rfl : q = .fresh := hmay.2
      have hnext : ∀ granted : Bool, ∀ v : Nat × Nat,
          (Stage.next .fresh (.countPlay ip hour) granted).holds = false ∧
            (Stage.next .fresh (.countPlay ip hour) granted).knows args.maxPlays v := by
        intro granted v
        cases granted <;> exact ⟨rfl, trivial⟩
      exact ⟨(hnext _ (0, 0)).1, budget_cons log (spent_admitAt _ s ip hour) rfl,
        fun _ => (hnext _ _).2⟩
    | nowEpochSecs => exact ⟨rfl, budget_cons log rfl rfl, id⟩
    | loadKey => exact ⟨rfl, budget_cons log rfl rfl, id⟩
    | buildPayment resourceUrl terms => exact ⟨rfl, budget_cons log rfl rfl, id⟩
    | spentSoFar => cases haccess
    | lockSpent => cases haccess
    | countSpent => cases haccess
    | spentUnderLock => cases haccess
    | unlockSpent => cases haccess
  brief {q op} a e s log hmay haccess := by
    obtain rfl := eq_of_brief haccess
    have hview : budget s ((a, ⟨.spentSoFar, s.spent⟩) :: log) = budget s log :=
      budget_cons log rfl rfl
    exact ⟨hmay.2, hmay.2, fun hfree => hview.symm ▸ hfree⟩
  acquire {q op} a e s log hmay haccess := by
    obtain rfl := eq_of_acquire haccess
    have hview : budget s ((a, ⟨.lockSpent, s.spent⟩) :: log) = budget s log :=
      budget_cons log rfl rfl
    exact ⟨rfl, fun hfree => ⟨hview.trans (Prod.ext rfl hfree.1), hfree.2⟩⟩
  -- Between a settled payment and its count, the two numbers of the budget differ by one.
  inside {q op} a e s log hmay haccess := by
    rcases cases_of_inside haccess with ⟨call, hcall, rfl⟩ | rfl | rfl
    · obtain ⟨-, hmay⟩ := hmay
      dsimp only [Stage.may] at hmay
      rw [if_pos hcall] at hmay
      obtain ⟨n, rfl⟩ := hmay
      exact answered_inside args.maxPlays n a s log hcall (e.answer call)
    · obtain ⟨-, n, rfl⟩ := hmay
      refine ⟨rfl, rfl, fun hknows => ⟨?_, hknows.2⟩⟩
      have hcount : settledIn ((a, ⟨.countSpent, ()⟩) :: log) = settledIn log := by
        simp [settledIn, isSettled]
      have hspent : s.spent = n := congrArg Prod.fst hknows.1
      have hsettled : settledIn log = n + 1 := congrArg Prod.snd hknows.1
      exact Prod.ext (congrArg (· + 1) hspent) (hcount.trans hsettled)
    · obtain ⟨-, n, rfl⟩ := hmay
      have hview : budget s ((a, ⟨.spentUnderLock, s.spent⟩) :: log) = budget s log :=
        budget_cons log rfl rfl
      exact ⟨rfl, rfl, fun hknows => ⟨hview.trans hknows.1, hknows.2⟩⟩
  release {q op} a e s log hmay haccess := by
    obtain rfl := eq_of_release haccess
    obtain ⟨-, n, hdone⟩ := hmay
    have hview : budget s ((a, ⟨.unlockSpent, ()⟩) :: log) = budget s log :=
      budget_cons log rfl rfl
    refine ⟨by rcases hdone with rfl | rfl <;> rfl, rfl, fun hknows => ?_⟩
    have hn : budget s log = (n, n) ∧ n ≤ args.maxPlays := by
      rcases hdone with rfl | rfl <;> exact hknows
    exact (hview.trans hn.1).symm ▸ ⟨rfl, hn.2⟩
  -- An exchange with the lock can be dropped until its payment is answered, and until then what is
  -- counted is what was settled.
  drop {q op v} hmay hawaits hholds hknows := by
    have hstage : ∃ n, q = .locked n ∨ q = .presented n := by
      obtain ⟨-, hmay⟩ := hmay
      cases op with
      | request call =>
        dsimp only [Stage.may] at hmay
        split_ifs at hmay with hcall
        · obtain ⟨n, -, rfl⟩ := hmay
          exact ⟨n, .inl rfl⟩
        · exact absurd hholds (by simp [demoDiscipline, hmay])
      | response call =>
        dsimp only [Stage.may] at hmay
        split_ifs at hmay with hcall
        · obtain ⟨n, rfl⟩ := hmay
          exact ⟨n, .inr rfl⟩
        · exact absurd hholds (by simp [demoDiscipline, hmay])
      | spentSoFar => exact absurd (hmay.symm.trans hholds) (by decide)
      | lockSpent =>
        obtain rfl : q = .admitted := hmay
        cases hholds
      | buildPayment resourceUrl terms =>
        obtain ⟨n, rfl⟩ := hmay
        exact ⟨n, .inl rfl⟩
      | _ => cases hawaits
    obtain ⟨n, rfl | rfl⟩ := hstage
    · obtain ⟨rfl, hn⟩ := hknows
      exact ⟨rfl, hn⟩
    · obtain ⟨rfl, hn⟩ := hknows
      exact ⟨rfl, Nat.le_of_lt hn⟩
  dropped _ _ := ⟨rfl, nofun, fun _ => rfl⟩
  own e s calls hmay hown := own_next hmay.2 hown _
  ownDropped hown := own_gone hown

/-! ## Whole runs -/

/-- What a log says of one exchange. -/
def DemoRunState.calls (s : DemoRunState) (a : Nat) : List (Event DemoOp.Ret) := callsOf a s.log

omit [Platform] in
theorem guarded_start (args : DemoArgs) :
    LockGuarded (demoDiscipline args.maxPlays) Stage.idle budget (balanced args.maxPlays)
      (Stage.knows args.maxPlays) (fun _ => .fresh) DemoRunState.start where
  conforms _ := ⟨rfl, fun _ => rfl, nofun⟩
  holds _ := ⟨nofun, nofun⟩
  free _ := ⟨rfl, Nat.zero_le _⟩
  calling _ _ _ := nofun
  known _ := nofun
  own _ := ⟨rfl, rfl, rfl⟩

/-- What is spent in a state of a run. -/
structure SpendingBounded (args : DemoArgs) (s : DemoRunState) : Prop where
  spent : s.shared.spent ≤ args.maxPlays
  settled : settledIn s.log ≤ args.maxPlays
  /-- While nobody has the budget locked, all that was reported settled is counted. -/
  counted : s.holder = none → settledIn s.log = s.shared.spent
  /-- An exchange presents at most one payment, and only after it was admitted. -/
  admitted : ∀ a, (s.calls a).countP isPresented ≤ (s.calls a).countP isGranted ∧
    (s.calls a).countP isGranted ≤ 1
  /-- Payments are unanswered only while they have the lock, or when the visitor went away. -/
  answered : ∀ a, (s.calls a).countP isAnswered = (s.calls a).countP isPresented ∨
    s.holder = some a ∨ s.task a = .idle .dropped

section Reading

variable {args : DemoArgs} {q : Nat → Stage} {s : DemoRunState}
  (h : LockGuarded (demoDiscipline args.maxPlays) Stage.idle budget (balanced args.maxPlays)
    (Stage.knows args.maxPlays) q s)

include h

omit [Platform] in
/-- Locked or not, the budget is within its ceiling. -/
theorem within_of_guarded : s.shared.spent ≤ args.maxPlays ∧ settledIn s.log ≤ args.maxPlays := by
  cases hholder : s.holder with
  | none =>
    obtain ⟨hsettled, hspent⟩ := h.free hholder
    exact ⟨hspent, Nat.le_trans (Nat.le_of_eq hsettled) hspent⟩
  | some a => exact within_of_holds ((h.holds a).mpr hholder) (h.known a hholder)

omit [Platform] in
theorem dropped_of_gone {a : Nat} (hgone : q a = .gone) : s.task a = .idle .dropped := by
  have hconforms := h.conforms a
  cases htask : s.task a with
  | idle l =>
    rw [htask] at hconforms
    rw [hconforms.2.2 hgone]
  | busy msg p =>
    cases p with
    | pure l => exact absurd htask (h.calling a msg l)
    | call op k =>
      rw [htask] at hconforms
      exact absurd hgone hconforms.1.1

omit [Platform] in
theorem admitted_of_guarded (a : Nat) :
    (s.calls a).countP isPresented ≤ (s.calls a).countP isGranted ∧
      (s.calls a).countP isGranted ≤ 1 := by
  have hown := own_gone (h.own a)
  exact hown

omit [Platform] in
theorem answered_of_guarded (a : Nat) :
    (s.calls a).countP isAnswered = (s.calls a).countP isPresented ∨ s.holder = some a ∨
      s.task a = .idle .dropped := by
  have hown : (q a).own (s.calls a) := h.own a
  cases hq : q a with
  | presented n => exact .inr (.inl ((h.holds a).mp (by rw [hq]; rfl)))
  | gone => exact .inr (.inr (dropped_of_gone h hq))
  | _ =>
    rw [hq] at hown
    simp only [Stage.own] at hown
    omega

end Reading

/-- **The budget is a ceiling.** -/
theorem spending_is_bounded (args : DemoArgs) (acts : List (LockAction Nat DemoEnv Visit)) :
    SpendingBounded args (args.machine.run DemoRunState.start acts) := by
  obtain ⟨q, h⟩ := (guarded_start args).run (lockRule_demo args) acts
  exact
    { spent := (within_of_guarded h).1
      settled := (within_of_guarded h).2
      counted := fun hnone => (h.free hnone).1
      admitted := admitted_of_guarded h
      answered := answered_of_guarded h }

/-! ## Visitors -/

/-- The hour an address asked to be admitted in. -/
def askedAt (ip : IpAddr) : Event DemoOp.Ret → Option Nat
  | ⟨.countPlay ip' hour, _⟩ => if ip' = ip then some hour else none
  | _ => none

/-- The hours an address asked in, latest first. -/
def hoursOf (ip : IpAddr) (log : List (Nat × Event DemoOp.Ret)) : List Nat :=
  log.filterMap fun e => askedAt ip e.2

/-- How often an address was admitted in an hour. -/
def admissions (ip : IpAddr) (hour : Nat) (log : List (Nat × Event DemoOp.Ret)) : Nat :=
  log.countP fun e => askedAt ip e.2 = some hour && isGranted e.2

/-- An address's entry counts its admissions of the last hour it asked in. -/
def Booked (limit : Nat) (ip : IpAddr) (s : DemoRunState) : Prop :=
  (∀ hour, admissions ip hour s.log ≤ limit) ∧
    match s.shared.perIp.get? ip with
    | none => hoursOf ip s.log = []
    | some (hour, admitted) =>
      (hoursOf ip s.log).head? = some hour ∧ admitted = admissions ip hour s.log

section Visitors

variable {ip : IpAddr} {hour : Nat} {log : List (Nat × Event DemoOp.Ret)}
  {e : Nat × Event DemoOp.Ret}

omit [Platform] in
theorem hoursOf_cons_of_none (h : askedAt ip e.2 = none) : hoursOf ip (e :: log) = hoursOf ip log :=
  List.filterMap_cons_none h

omit [Platform] in
theorem hoursOf_cons_of_some (h : askedAt ip e.2 = some hour) :
    hoursOf ip (e :: log) = hour :: hoursOf ip log :=
  List.filterMap_cons_some h

omit [Platform] in
theorem admissions_cons_of_none (h : askedAt ip e.2 = none) :
    admissions ip hour (e :: log) = admissions ip hour log := by
  simp [admissions, h]

omit [Platform] in
theorem admissions_cons_of_some {hour' : Nat} (h : askedAt ip e.2 = some hour') :
    admissions ip hour (e :: log) =
      admissions ip hour log + if hour' = hour ∧ isGranted e.2 = true then 1 else 0 := by
  by_cases heq : hour' = hour <;> cases hgranted : isGranted e.2 <;>
    simp [admissions, h, heq, hgranted]

omit [Platform] in
/-- An hour an address has not asked in, it was not admitted in. -/
theorem admissions_eq_zero (h : hour ∉ hoursOf ip log) : admissions ip hour log = 0 := by
  refine List.countP_eq_zero.mpr fun e he hboth => h ?_
  rw [Bool.and_eq_true, decide_eq_true_eq] at hboth
  exact List.mem_filterMap.mpr ⟨e, he, hboth.1⟩

section Asking

variable {args : DemoArgs} {e : DemoEnv} {s : DemoState} {op : DemoOp}

omit [Platform] in
/-- Only an address's own requests touch its entry. -/
theorem get?_perIp_exec (h : askedAt ip ⟨op, (args.exec e s op).1⟩ = none) :
    (args.exec e s op).2.perIp.get? ip = s.perIp.get? ip := by
  cases op with
  | countPlay ip' hour =>
    have hne : ip ≠ ip' := by
      rintro rfl
      simp [askedAt] at h
    show (admitAt args.playsPerIpHourly s ip' hour).2.perIp.get? ip = _
    unfold admitAt
    dsimp only
    split_ifs <;> exact Table.get?_insert_ne _ _ hne
  | _ => rfl

omit [Platform] in
theorem eq_admit_of_asked {r : op.Ret} (h : askedAt ip ⟨op, r⟩ = some hour) :
    op = .countPlay ip hour := by
  cases op with
  | countPlay ip' hour' =>
    simp only [askedAt] at h
    split_ifs at h with heq
    rw [heq, Option.some.inj h]
  | _ => cases h

end Asking

omit [Platform] in
/-- The entry an admission starts from: the admissions of this hour, if hours come in order. -/
theorem hourlyEntry_of_booked {limit : Nat} {s : DemoRunState} (h : Booked limit ip s)
    (horder : (hour :: hoursOf ip s.log).Pairwise (· ≥ ·)) :
    hourlyEntry s.shared.perIp ip hour = (hour, admissions ip hour s.log) := by
  obtain ⟨hlatest, horder⟩ := List.pairwise_cons.mp horder
  have hentry := h.2
  unfold hourlyEntry
  cases hget : s.shared.perIp.get? ip with
  | none =>
    rw [hget] at hentry
    have hzero : admissions ip hour s.log = 0 := admissions_eq_zero (by simp [hentry])
    simp [hzero]
  | some entry =>
    obtain ⟨hour', admitted⟩ := entry
    rw [hget] at hentry
    obtain ⟨hhead, hadmitted⟩ := hentry
    by_cases heq : hour' = hour
    · subst heq
      simp [hadmitted]
    · -- A new hour: the address has asked in none as late as this.
      obtain ⟨rest, hhours⟩ : ∃ rest, hoursOf ip s.log = hour' :: rest := by
        cases hhours : hoursOf ip s.log with
        | nil => simp [hhours] at hhead
        | cons first rest =>
          rw [hhours] at hhead
          exact ⟨rest, by rw [Option.some.inj hhead]⟩
      have hzero : admissions ip hour s.log = 0 := by
        refine admissions_eq_zero fun hmem => ?_
        have hle : hour' ≤ hour := hlatest hour' (by simp [hhours])
        rw [hhours] at hmem horder
        rcases List.mem_cons.mp hmem with rfl | hmem
        · exact heq rfl
        · have := (List.pairwise_cons.mp horder).1 hour hmem
          omega
      simp [heq, hzero]

omit [Platform] in
theorem Booked.countPlay {limit : Nat} {s s' : DemoRunState} {a : Nat} (h : Booked limit ip s)
    (horder : (hour :: hoursOf ip s.log).Pairwise (· ≥ ·))
    (hshared : s'.shared = (admitAt limit s.shared ip hour).2)
    (hlog : s'.log =
      (a, ⟨.countPlay ip hour, (admitAt limit s.shared ip hour).1⟩) :: s.log) :
    Booked limit ip s' := by
  have hasked : ∀ granted : Bool, askedAt ip ⟨.countPlay ip hour, granted⟩ = some hour :=
    fun granted => if_pos rfl
  have hentry := hourlyEntry_of_booked h horder
  have hcount : ∀ hour', admissions ip hour' s'.log = admissions ip hour' s.log +
      if hour = hour' ∧ (admitAt limit s.shared ip hour).1 = true then 1 else 0 := by
    intro hour'
    rw [hlog]
    exact admissions_cons_of_some (hasked _)
  have hhead : (hoursOf ip s'.log).head? = some hour := by
    rw [hlog, hoursOf_cons_of_some (hasked _)]
    rfl
  unfold admitAt at hshared hcount
  rw [hentry] at hshared hcount
  dsimp only at hshared hcount
  split_ifs at hshared hcount with hfull
  · refine ⟨fun hour' => by simpa [hcount hour'] using h.1 hour', ?_⟩
    rw [hshared, Table.get?_insert_self]
    exact ⟨hhead, by simp [hcount]⟩
  · refine ⟨fun hour' => ?_, ?_⟩
    · rw [hcount hour']
      by_cases heq : hour = hour'
      · subst heq
        simp
        omega
      · simpa [heq] using h.1 hour'
    · rw [hshared, Table.get?_insert_self]
      exact ⟨hhead, by simp [hcount]⟩

omit [Platform] in
/-- What neither asks for the address nor touches its entry keeps it booked. -/
theorem Booked.of_same {limit : Nat} {s s' : DemoRunState} (h : Booked limit ip s)
    (hentry : s'.shared.perIp.get? ip = s.shared.perIp.get? ip)
    (hhours : hoursOf ip s'.log = hoursOf ip s.log)
    (hcount : ∀ hour, admissions ip hour s'.log = admissions ip hour s.log) :
    Booked limit ip s' := by
  simpa [Booked, hentry, hhours, hcount] using h

/-- **One step**, while the hours of the address come in order. -/
theorem booked_step {args : DemoArgs} {s : DemoRunState} (act : LockAction Nat DemoEnv Visit)
    (h : (hoursOf ip s.log).Pairwise (· ≥ ·) → Booked args.playsPerIpHourly ip s)
    (horder : (hoursOf ip (args.machine.step s act).log).Pairwise (· ≥ ·)) :
    Booked args.playsPerIpHourly ip (args.machine.step s act) := by
  rcases Locked.step_cases (m := args.machine) s act with hsame | ⟨a, msg, l, ha, hstep⟩ |
    ⟨a, e, msg, op, k, -, ha, -, hstep⟩ | ⟨a, msg, op, k, ha, -, hstep⟩
  · rw [hsame] at horder ⊢
    exact h horder
  · rw [hstep] at horder ⊢
    exact (h horder).of_same rfl rfl fun _ => rfl
  · rw [hstep] at horder ⊢
    cases hasked : askedAt ip ⟨op, (args.machine.exec e s.shared op).1⟩ with
    | none =>
      have hhours : hoursOf ip ((a, ⟨op, (args.machine.exec e s.shared op).1⟩) :: s.log) =
          hoursOf ip s.log := hoursOf_cons_of_none hasked
      exact (h (hhours ▸ horder)).of_same (get?_perIp_exec hasked) hhours
        fun hour => admissions_cons_of_none hasked
    | some hour =>
      obtain rfl := eq_admit_of_asked hasked
      have hhours : hoursOf ip ((a, ⟨_, (args.machine.exec e s.shared _).1⟩) :: s.log) =
          hour :: hoursOf ip s.log := hoursOf_cons_of_some hasked
      rw [hhours] at horder
      exact (h (List.pairwise_cons.mp horder).2).countPlay horder rfl rfl
  · rw [hstep] at horder ⊢
    exact (h horder).of_same rfl rfl fun _ => rfl

theorem booked_run {args : DemoArgs} {s : DemoRunState} (acts : List (LockAction Nat DemoEnv Visit))
    (h : (hoursOf ip s.log).Pairwise (· ≥ ·) → Booked args.playsPerIpHourly ip s)
    (horder : (hoursOf ip (args.machine.run s acts).log).Pairwise (· ≥ ·)) :
    Booked args.playsPerIpHourly ip (args.machine.run s acts) := by
  induction acts generalizing s with
  | nil => exact h horder
  | cons act acts ih => exact ih (fun hstep => booked_step act h hstep) horder

end Visitors

/-- **Visitors are bounded.** -/
theorem visitors_are_bounded (args : DemoArgs) (acts : List (LockAction Nat DemoEnv Visit))
    (ip : IpAddr)
    (horder : (hoursOf ip (args.machine.run DemoRunState.start acts).log).Pairwise (· ≥ ·))
    (hour : Nat) :
    admissions ip hour (args.machine.run DemoRunState.start acts).log ≤ args.playsPerIpHourly := by
  refine (booked_run acts (fun _ => ?_) horder).1 hour
  exact ⟨fun _ => Nat.zero_le _, rfl⟩

/-- A 402 without a readable challenge. -/
def bareChallenge : Attempt :=
  { status := 402, body := "", paymentRequired := none, paymentResponse := none, session := none,
    meter := {}, serverTiming := [], upstreamMs := none }

/-- Two visits from one address in one hour, each up to its admission. -/
def twoVisits : List (LockAction Nat DemoEnv Visit) :=
  [0, 1].flatMap fun a =>
    .act (.deliver a ⟨exampleAddress, [], { target := "graphql" }⟩) ::
      List.replicate 5 (.act (.advance a
        { now := 7200, answer := fun _ => .ok bareChallenge, key := .ok (), build := fun _ _ => .ok "" }))

omit [Platform] in
theorem visitors_are_bounded_example :
    let _ : Platform := examplePlatform
    let log := (DemoArgs.machine { playsPerIpHourly := 1 }).run DemoRunState.start twoVisits |>.log
    hoursOf exampleAddress log = [2, 2] ∧ admissions exampleAddress 2 log ≤ 1 := by
  intro _ log
  have hhours : hoursOf exampleAddress log = [2, 2] := by decide
  refine ⟨hhours, visitors_are_bounded { playsPerIpHourly := 1 } twoVisits exampleAddress ?_ 2⟩
  exact hhours.symm ▸ (by decide)

end X402Verifier
