import X402Verifier.Interaction.Machine

/-!
# One lock

A machine whose actors share a lock. A call says what it does with the lock (`Access`): it passes it
by, takes it for itself alone, takes and keeps it, works under it, or gives it back. A call that
takes the lock waits while somebody has it. An actor can be dropped while it awaits an answer, and
gives the lock back then.

**The resource rule** (`LockGuarded.run`). The lock guards what `view` shows of the shared state and of
the calls so far. It is enough to check each call by itself: taking the lock turns `free` into what
the taker `knows`, each call under it carries that along, giving it back or being dropped restores
`free`, and calls that pass the lock by do not move the view. Then every interleaving keeps the view
`free` or known to the one actor that has the lock.

The ghost state of an actor may also say something of the actor's own calls (`own`), which nobody
else can disturb.
-/

namespace Interaction

variable {ι Op : Type} {Ret : Op → Type} {ε σ L M Q V : Type}

/-- What a call does with the lock. -/
inductive Access where
  | outside
  | brief
  | acquire
  | inside
  | release
  deriving DecidableEq

/-- Calls that need the lock to be nobody's. -/
def Access.waits : Access → Bool
  | .brief | .acquire => true
  | _ => false

/-- A machine with one lock. -/
structure Locked (ι Op : Type) (Ret : Op → Type) (ε σ L M : Type) extends
    Machine ι Op Ret ε σ L M where
  access : Op → Access
  /-- Calls an actor can be dropped at. -/
  awaits : Op → Bool
  /-- What is left of a dropped actor. -/
  dropped : L

/-- A step of the machine, or a drop. -/
inductive LockAction (ι ε M : Type) : Type
  | act (act : Action ι ε M)
  | drop (a : ι)

/-- The machine's state, and who has the lock. -/
structure LockState (ι Op : Type) (Ret : Op → Type) (σ L M : Type) extends
    Machine.State ι Op Ret σ L M where
  holder : Option ι

namespace Locked

variable [DecidableEq ι] (m : Locked ι Op Ret ε σ L M)

/-- Who has the lock after a call of `a`. -/
def holderAfter (holder : Option ι) (a : ι) (op : Op) : Option ι :=
  match m.access op with
  | .acquire => some a
  | .release => none
  | _ => holder

/-- Perform the next call of `a`. -/
def perform (s : LockState ι Op Ret σ L M) (a : ι) (e : ε) (op : Op) :
    LockState ι Op Ret σ L M :=
  { toState := m.toMachine.step s.toState (.advance a e), holder := m.holderAfter s.holder a op }

/-- Drop what `a` was doing. -/
def discard (s : LockState ι Op Ret σ L M) (a : ι) : LockState ι Op Ret σ L M :=
  { s with
    task := Function.update s.task a (.idle m.dropped)
    holder := if s.holder = some a then none else s.holder }

def step (s : LockState ι Op Ret σ L M) : LockAction ι ε M → LockState ι Op Ret σ L M
  | .act (.deliver a msg) => { s with toState := m.toMachine.step s.toState (.deliver a msg) }
  | .act (.advance a e) =>
    match (s.task a).nextOp with
    | some op => if (m.access op).waits ∧ s.holder ≠ none then s else m.perform s a e op
    | none => s
  | .drop a =>
    match (s.task a).nextOp with
    | some op => if m.awaits op then m.discard s a else s
    | none => s

def run (s : LockState ι Op Ret σ L M) (acts : List (LockAction ι ε M)) :
    LockState ι Op Ret σ L M := acts.foldl m.step s

variable {m}

/-- **What a step can do.** Nothing, start a message, perform a call that need not wait, or drop an
actor that awaits an answer. -/
theorem step_cases (s : LockState ι Op Ret σ L M) (act : LockAction ι ε M) :
    m.step s act = s ∨
    (∃ a msg l, s.task a = .idle l ∧ m.step s act =
      { s with task := Function.update s.task a (.of msg (m.handle l msg)) }) ∨
    (∃ a e msg op k, act = .act (.advance a e) ∧ s.task a = .busy msg (.call op k) ∧
      ((m.access op).waits = true → s.holder = none) ∧ m.step s act =
        { shared := (m.exec e s.shared op).2
          task := Function.update s.task a (.of msg (k (m.exec e s.shared op).1))
          log := (a, ⟨op, (m.exec e s.shared op).1⟩) :: s.log
          holder := m.holderAfter s.holder a op }) ∨
    (∃ a msg op k, s.task a = .busy msg (.call op k) ∧ m.awaits op = true ∧
      m.step s act = m.discard s a) := by
  cases act with
  | act act =>
    cases act with
    | deliver a msg =>
      cases h : s.task a with
      | idle l =>
        refine .inr (.inl ⟨a, msg, l, h, ?_⟩)
        simp only [step, Machine.step_deliver h]
      | busy msg' p => exact .inl (by simp only [step, Machine.step, h])
    | advance a e =>
      cases hnext : (s.task a).nextOp with
      | none => exact .inl (by simp only [step, hnext])
      | some op =>
        obtain ⟨msg, k, htask⟩ := Task.eq_busy_of_nextOp hnext
        by_cases hblocked : (m.access op).waits ∧ s.holder ≠ none
        -- A call that needs the lock of somebody else stays where it is.
        · exact .inl (by simp only [step, hnext, if_pos hblocked])
        · refine .inr (.inr (.inl ⟨a, e, msg, op, k, rfl, htask, fun hwaits => ?_, ?_⟩))
          · exact not_not.mp fun hholder => hblocked ⟨hwaits, hholder⟩
          · simp only [step, hnext, if_neg hblocked, perform, Machine.step_advance htask]
  | drop a =>
    cases hnext : (s.task a).nextOp with
    | none => exact .inl (by simp only [step, hnext])
    | some op =>
      obtain ⟨msg, k, htask⟩ := Task.eq_busy_of_nextOp hnext
      by_cases hawaits : m.awaits op = true
      · exact .inr (.inr (.inr ⟨a, msg, op, k, htask, hawaits, by simp only [step, hnext, hawaits, if_true]⟩))
      · exact .inl (by simp only [step, hnext, hawaits, Bool.false_eq_true, if_false])

end Locked

/-! ## The resource rule -/

section Rule

variable [DecidableEq ι]

/-- The calls one actor has made, latest first. -/
def callsOf (a : ι) (log : List (ι × Event Ret)) : List (Event Ret) :=
  (log.filter fun e => e.1 = a).map (·.2)

theorem callsOf_cons_self (a : ι) (e : Event Ret) (log : List (ι × Event Ret)) :
    callsOf a ((a, e) :: log) = e :: callsOf a log := by
  simp [callsOf]

theorem callsOf_cons_ne {a b : ι} (h : a ≠ b) (e : Event Ret) (log : List (ι × Event Ret)) :
    callsOf b ((a, e) :: log) = callsOf b log := by
  simp [callsOf, h]

/-- A protocol whose ghost state says whether its actor has the lock (`holds`), what becomes of it
when the actor is dropped, and what it tells of the actor's own calls. -/
structure Discipline (Op : Type) (Ret : Op → Type) (Q : Type) extends Protocol Op Ret Q where
  holds : Q → Bool
  dropped : Q → Q
  own : Q → List (Event Ret) → Prop

/-- What each call has to keep, by itself: `free` is what is known of the view while the lock is
nobody's, and `knows` what the actor that has it knows. -/
structure LockRule (m : Locked ι Op Ret ε σ L M) (P : Discipline Op Ret Q) (post : Q → L → Prop)
    (view : σ → List (ι × Event Ret) → V) (free : V → Prop) (knows : Q → V → Prop) : Prop where
  idle : ∀ {q l}, post q l → P.holds q = false
  handle : ∀ {q l} msg, post q l → (m.handle l msg).Follows P.toProtocol post q
  assumes : ∀ {q op} e s, P.may q op → P.assumes q op (m.exec e s op).1
  outside : ∀ {q op} a e s log, P.may q op → m.access op = .outside →
    P.holds (P.next q op (m.exec e s op).1) = P.holds q ∧
    view (m.exec e s op).2 ((a, ⟨op, (m.exec e s op).1⟩) :: log) = view s log ∧
    (knows q (view s log) → knows (P.next q op (m.exec e s op).1) (view s log))
  brief : ∀ {q op} a e s log, P.may q op → m.access op = .brief →
    P.holds q = false ∧ P.holds (P.next q op (m.exec e s op).1) = false ∧
    (free (view s log) → free (view (m.exec e s op).2 ((a, ⟨op, (m.exec e s op).1⟩) :: log)))
  acquire : ∀ {q op} a e s log, P.may q op → m.access op = .acquire →
    P.holds (P.next q op (m.exec e s op).1) = true ∧
    (free (view s log) → knows (P.next q op (m.exec e s op).1)
      (view (m.exec e s op).2 ((a, ⟨op, (m.exec e s op).1⟩) :: log)))
  inside : ∀ {q op} a e s log, P.may q op → m.access op = .inside →
    P.holds q = true ∧ P.holds (P.next q op (m.exec e s op).1) = true ∧
    (knows q (view s log) → knows (P.next q op (m.exec e s op).1)
      (view (m.exec e s op).2 ((a, ⟨op, (m.exec e s op).1⟩) :: log)))
  release : ∀ {q op} a e s log, P.may q op → m.access op = .release →
    P.holds q = true ∧ P.holds (P.next q op (m.exec e s op).1) = false ∧
    (knows q (view s log) →
      free (view (m.exec e s op).2 ((a, ⟨op, (m.exec e s op).1⟩) :: log)))
  drop : ∀ {q op v}, P.may q op → m.awaits op = true → P.holds q = true → knows q v → free v
  dropped : ∀ {q op}, P.may q op → m.awaits op = true → post (P.dropped q) m.dropped
  own : ∀ {q op} e s calls, P.may q op → P.own q calls →
    P.own (P.next q op (m.exec e s op).1) (⟨op, (m.exec e s op).1⟩ :: calls)
  ownDropped : ∀ {q calls}, P.own q calls → P.own (P.dropped q) calls

omit [DecidableEq ι] in
theorem Task.of_ne_busy_pure (msg msg' : M) (p : Prog Op Ret L) (l : L) :
    Task.of msg p ≠ .busy msg' (.pure l) := by
  cases p <;> simp [Task.of]

/-- Every actor is on its protocol, exactly the one that has the lock holds it, and the view is
`free` or known to that one. -/
structure LockGuarded (P : Discipline Op Ret Q) (post : Q → L → Prop)
    (view : σ → List (ι × Event Ret) → V) (free : V → Prop) (knows : Q → V → Prop) (q : ι → Q)
    (s : LockState ι Op Ret σ L M) : Prop where
  conforms : Machine.Conforms P.toProtocol post q s.toState
  calling : ∀ a msg l, s.task a ≠ .busy msg (.pure l)
  holds : ∀ a, P.holds (q a) = true ↔ s.holder = some a
  free : s.holder = none → free (view s.shared s.log)
  known : ∀ a, s.holder = some a → knows (q a) (view s.shared s.log)
  own : ∀ a, P.own (q a) (callsOf a s.log)

namespace LockGuarded

variable {m : Locked ι Op Ret ε σ L M} {P : Discipline Op Ret Q} {post : Q → L → Prop}
  {view : σ → List (ι × Event Ret) → V} {free : V → Prop} {knows : Q → V → Prop} {q : ι → Q}
  {s : LockState ι Op Ret σ L M}

theorem deliver {a : ι} {l : L} {msg : M} (h : LockGuarded P post view free knows q s)
    (rule : LockRule m P post view free knows) (ha : s.task a = .idle l) :
    LockGuarded P post view free knows q
      { s with task := Function.update s.task a (.of msg (m.handle l msg)) } := by
  have hl : post (q a) l := by
    have hf := h.conforms a
    rwa [ha] at hf
  exact { h with
    conforms := Machine.conforms_deliver (m := m.toMachine) h.conforms (rule.handle msg hl)
    calling := fun b msg' l' => by
      by_cases hb : b = a
      · subst hb
        simpa using Task.of_ne_busy_pure msg msg' _ l'
      · simpa [hb] using h.calling b msg' l' }

/-- One call, when what it does to the lock and the view fits together. -/
theorem call {a : ι} {e : ε} {msg : M} {op : Op} {k : Ret op → Prog Op Ret L}
    {holder : Option ι} (h : LockGuarded P post view free knows q s)
    (rule : LockRule m P post view free knows) (ha : s.task a = .busy msg (.call op k))
    (hself : P.holds (P.next (q a) op (m.exec e s.shared op).1) = true ↔ holder = some a)
    (hothers : ∀ b, b ≠ a → (s.holder = some b ↔ holder = some b))
    (hfree : holder = none → free (view (m.exec e s.shared op).2
      ((a, ⟨op, (m.exec e s.shared op).1⟩) :: s.log)))
    (hknown : holder = some a → knows (P.next (q a) op (m.exec e s.shared op).1)
      (view (m.exec e s.shared op).2 ((a, ⟨op, (m.exec e s.shared op).1⟩) :: s.log)))
    (hview : ∀ b, b ≠ a → holder = some b → view (m.exec e s.shared op).2
      ((a, ⟨op, (m.exec e s.shared op).1⟩) :: s.log) = view s.shared s.log) :
    LockGuarded P post view free knows
      (Function.update q a (P.next (q a) op (m.exec e s.shared op).1))
      { shared := (m.exec e s.shared op).2
        task := Function.update s.task a (.of msg (k (m.exec e s.shared op).1))
        log := (a, ⟨op, (m.exec e s.shared op).1⟩) :: s.log
        holder := holder } where
  conforms := Machine.conforms_advance h.conforms ha (rule.assumes _ _ (h.conforms.may ha))
  calling b msg' l' := by
    by_cases hb : b = a
    · subst hb
      simpa using Task.of_ne_busy_pure msg msg' _ l'
    · simpa [hb] using h.calling b msg' l'
  -- For everyone but the caller: `hothers` for who has the lock, `hview` for what it guards.
  holds b := by
    by_cases hb : b = a
    · subst hb
      simpa using hself
    · simpa [hb] using (h.holds b).trans (hothers b hb)
  free := hfree
  known b hholder := by
    by_cases hb : b = a
    · subst hb
      simpa using hknown hholder
    · simp only [Function.update_of_ne hb]
      rw [hview b hb hholder]
      exact h.known b ((hothers b hb).mpr hholder)
  own b := by
    by_cases hb : b = a
    · subst hb
      simp only [Function.update_self, callsOf_cons_self]
      exact rule.own _ _ _ (h.conforms.may ha) (h.own b)
    · simp only [Function.update_of_ne hb, callsOf_cons_ne (Ne.symm hb)]
      exact h.own b

theorem perform {a : ι} {e : ε} {msg : M} {op : Op} {k : Ret op → Prog Op Ret L}
    (h : LockGuarded P post view free knows q s) (rule : LockRule m P post view free knows)
    (ha : s.task a = .busy msg (.call op k))
    (hwaits : (m.access op).waits = true → s.holder = none) :
    LockGuarded P post view free knows
      (Function.update q a (P.next (q a) op (m.exec e s.shared op).1))
      { shared := (m.exec e s.shared op).2
        task := Function.update s.task a (.of msg (k (m.exec e s.shared op).1))
        log := (a, ⟨op, (m.exec e s.shared op).1⟩) :: s.log
        holder := m.holderAfter s.holder a op } := by
  have hmay : P.may (q a) op := h.conforms.may ha
  -- What the call does with the lock decides which obligations of `call` are vacuous.
  cases haccess : m.access op with
  | outside =>
    obtain ⟨hholds, hview, hknows⟩ := rule.outside a e s.shared s.log hmay haccess
    rw [Locked.holderAfter, haccess]
    refine h.call rule ha (hholds ▸ h.holds a) (fun b _ => Iff.rfl) (fun hnone => ?_)
      (fun hsome => ?_) fun b _ _ => hview
    · rw [hview]
      exact h.free hnone
    · rw [hview]
      exact hknows (h.known a hsome)
  | brief =>
    obtain ⟨-, hholds, hfree⟩ := rule.brief a e s.shared s.log hmay haccess
    have hnone : s.holder = none := hwaits (by rw [haccess]; rfl)
    rw [Locked.holderAfter, haccess]
    refine h.call rule ha ?_ (fun b _ => Iff.rfl) (fun _ => hfree (h.free hnone)) ?_ ?_
    · simp [hholds, hnone]
    · simp [hnone]
    · simp [hnone]
  | acquire =>
    obtain ⟨hholds, hknows⟩ := rule.acquire a e s.shared s.log hmay haccess
    have hnone : s.holder = none := hwaits (by rw [haccess]; rfl)
    rw [Locked.holderAfter, haccess]
    refine h.call rule ha ?_ (fun b hb => ?_) nofun (fun _ => hknows (h.free hnone))
      fun b hb hsome => absurd (Option.some.inj hsome).symm hb
    · simp [hholds]
    · simp [hnone, Ne.symm hb]
  | inside =>
    obtain ⟨hhad, hholds, hknows⟩ := rule.inside a e s.shared s.log hmay haccess
    have hsome : s.holder = some a := (h.holds a).mp hhad
    rw [Locked.holderAfter, haccess]
    refine h.call rule ha ?_ (fun b _ => Iff.rfl) (fun hnone => ?_)
      (fun _ => hknows (h.known a hsome)) fun b hb hother => ?_
    · simp [hholds, hsome]
    · rw [hsome] at hnone
      cases hnone
    · rw [hsome] at hother
      exact absurd (Option.some.inj hother).symm hb
  | release =>
    obtain ⟨hhad, hholds, hfree⟩ := rule.release a e s.shared s.log hmay haccess
    have hsome : s.holder = some a := (h.holds a).mp hhad
    rw [Locked.holderAfter, haccess]
    refine h.call rule ha ?_ (fun b hb => ?_) (fun _ => hfree (h.known a hsome)) nofun nofun
    · simp [hholds]
    · simp [hsome, Ne.symm hb]

/-- Dropping an actor gives back the lock it may have had. -/
theorem discard {a : ι} {msg : M} {op : Op} {k : Ret op → Prog Op Ret L}
    (h : LockGuarded P post view free knows q s) (rule : LockRule m P post view free knows)
    (ha : s.task a = .busy msg (.call op k)) (hawaits : m.awaits op = true) :
    LockGuarded P post view free knows (Function.update q a (P.dropped (q a))) (m.discard s a) where
  conforms b := by
    have hpost := rule.dropped (h.conforms.may ha) hawaits
    by_cases hb : b = a
    · subst hb
      simpa [Locked.discard, Machine.TaskFollows] using hpost
    · simpa [Locked.discard, hb] using h.conforms b
  calling b msg' l' := by
    by_cases hb : b = a
    · subst hb
      simp [Locked.discard]
    · simpa [Locked.discard, hb] using h.calling b msg' l'
  -- Whoever was dropped does not have the lock any more, and nobody gets it.
  holds b := by
    have hnot := rule.idle (rule.dropped (h.conforms.may ha) hawaits)
    by_cases hb : b = a
    · subst hb
      by_cases hholder : s.holder = some b <;> simp [Locked.discard, hnot, hholder]
    · have hiff := h.holds b
      by_cases hholder : s.holder = some a
      · simpa [Locked.discard, hb, hholder, Ne.symm hb] using hiff
      · simpa [Locked.discard, hb, hholder] using hiff
  -- If it was the dropped actor's, `rule.drop` says the view is one a free lock may guard.
  free hnone := by
    by_cases hholder : s.holder = some a
    · exact rule.drop (h.conforms.may ha) hawaits ((h.holds a).mpr hholder) (h.known a hholder)
    · simp only [Locked.discard, if_neg hholder] at hnone
      exact h.free hnone
  known b hsome := by
    by_cases hholder : s.holder = some a
    · simp [Locked.discard, hholder] at hsome
    · simp only [Locked.discard, if_neg hholder] at hsome
      have hb : b ≠ a := by
        rintro rfl
        exact hholder hsome
      simpa [Locked.discard, hb] using h.known b hsome
  own b := by
    by_cases hb : b = a
    · subst hb
      simpa [Locked.discard] using rule.ownDropped (h.own b)
    · simpa [Locked.discard, hb] using h.own b

/-- **One step.** -/
theorem step (h : LockGuarded P post view free knows q s)
    (rule : LockRule m P post view free knows) (act : LockAction ι ε M) :
    ∃ q', LockGuarded P post view free knows q' (m.step s act) := by
  rcases Locked.step_cases (m := m) s act with hsame | ⟨a, msg, l, ha, hstep⟩ |
    ⟨a, e, msg, op, k, -, ha, hwaits, hstep⟩ | ⟨a, msg, op, k, ha, hawaits, hstep⟩
  · exact ⟨q, by rwa [hsame]⟩
  · exact ⟨q, hstep ▸ h.deliver rule ha⟩
  · exact ⟨_, hstep ▸ h.perform rule ha hwaits⟩
  · exact ⟨_, hstep ▸ h.discard rule ha hawaits⟩

/-- **The resource rule.** Every interleaving stays guarded. -/
theorem run (h : LockGuarded P post view free knows q s)
    (rule : LockRule m P post view free knows) (acts : List (LockAction ι ε M)) :
    ∃ q', LockGuarded P post view free knows q' (m.run s acts) := by
  induction acts generalizing q s with
  | nil => exact ⟨q, h⟩
  | cons act acts ih =>
    obtain ⟨q', h'⟩ := h.step rule act
    exact ih h'

end LockGuarded

end Rule

end Interaction
