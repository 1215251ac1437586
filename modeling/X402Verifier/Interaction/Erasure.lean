import Mathlib.Data.List.Forall2
import Mathlib.Order.Basic
import X402Verifier.Interaction.Machine

/-!
# Actors nobody notices

Some actors of a machine only make *silent* calls. To show that nobody notices them, one gives a
relation between the shared state with them and without them (`Unwinding`): a silent call may only
move the first of the two, and any other call is answered alike in both and leaves them related. The
relation may lean on a clock that is never read out of order, and on what the calls of either kind take
from outside.

**The erasure theorem** (`Erased.run`). Take the silent actors' steps out of an interleaving. Every
other actor is still running the same program or resting in the same local state, has made the same
calls, and was answered alike. Answers need not be equal: it is enough that the programs, which are
`Blind` to it, do not tell alike ones apart.
-/

namespace Interaction

variable {ι Op : Type} {Ret : Op → Type} {ε σ L M T α β : Type}

/-! ## Blindness -/

namespace Prog

/-- The program does not tell alike answers apart. -/
def Blind (alike : (op : Op) → Ret op → Ret op → Prop) : Prog Op Ret α → Prop
  | .pure _ => True
  | .call op k => (∀ r r', alike op r r' → k r = k r') ∧ ∀ r, (k r).Blind alike

variable {alike : (op : Op) → Ret op → Ret op → Prop}

@[simp] theorem blind_pure (a : α) : (Prog.pure a : Prog Op Ret α).Blind alike := trivial

theorem Blind.bind {p : Prog Op Ret α} {f : α → Prog Op Ret β} (h : p.Blind alike)
    (hf : ∀ a, (f a).Blind alike) : (p.bind f).Blind alike := by
  induction p with
  | pure a => exact hf a
  | call op k ih =>
    exact ⟨fun r r' hr => congrArg (·.bind f) (h.1 r r' hr), fun r => ih r (h.2 r)⟩

/-- Where only equal answers are alike, every program is blind. -/
theorem blind_eq (p : Prog Op Ret α) : p.Blind fun _ answer answer' => answer = answer' := by
  induction p with
  | pure a => trivial
  | call op k ih => exact ⟨fun _ _ => congrArg k, ih⟩

theorem blind_perform {op : Op} {f : Ret op → Prog Op Ret α}
    (hop : ∀ r r', alike op r r' → r = r') (hf : ∀ r, (f r).Blind alike) :
    ((Prog.perform op).bind f).Blind alike :=
  ⟨fun r r' hr => congrArg f (hop r r' hr), hf⟩

end Prog

/-! ## The relation -/

/-- What relates the shared states with and without the silent calls. -/
structure Unwinding [Preorder T] (exec : ε → σ → (op : Op) → Ret op × σ) (time : ε → T) where
  /-- As of a time, the first with the silent calls, the second without. -/
  related : T → σ → σ → Prop
  alike : (op : Op) → Ret op → Ret op → Prop
  silent : Op → Prop
  /-- What the other calls are held to. -/
  may : Op → Prop
  /-- Where a silent call may be made, and where another. -/
  unseen : ε → Prop := fun _ => True
  seen : ε → Prop := fun _ => True
  later : ∀ {t t' s s'}, t ≤ t' → related t s s' → related t' s s'
  hides : ∀ {e s s' op}, unseen e → silent op → related (time e) s s' →
    related (time e) (exec e s op).2 s'
  keeps : ∀ {e s s' op}, seen e → may op → related (time e) s s' →
    alike op (exec e s op).1 (exec e s' op).1 ∧ related (time e) (exec e s op).2 (exec e s' op).2

/-! ## The two runs -/

def Action.actor : Action ι ε M → ι
  | .deliver a _ => a
  | .advance a _ => a

/-- The steps of the actors that are not hidden. -/
def without (hidden : ι → Prop) [DecidablePred hidden] (acts : List (Action ι ε M)) :
    List (Action ι ε M) := acts.filter fun act => ¬ hidden act.actor

section Without

variable {hidden : ι → Prop} [DecidablePred hidden] {act : Action ι ε M}

theorem without_cons_of_hidden (acts : List (Action ι ε M)) (h : hidden act.actor) :
    without hidden (act :: acts) = without hidden acts :=
  List.filter_cons_of_neg (by simp [h])

theorem without_cons_of_visible (acts : List (Action ι ε M)) (h : ¬ hidden act.actor) :
    without hidden (act :: acts) = act :: without hidden acts :=
  List.filter_cons_of_pos (by simp [h])

end Without

/-- When the step's call is performed, if it performs one. -/
def Action.time? (time : ε → T) : Action ι ε M → Option T
  | .deliver .. => none
  | .advance _ e => some (time e)

/-- The clock is never read out of order, and not before `t`. -/
def InOrder [Preorder T] (time : ε → T) (t : T) (acts : List (Action ι ε M)) : Prop :=
  (t :: acts.filterMap (Action.time? time)).Pairwise (· ≤ ·)

section InOrder

variable [Preorder T] {time : ε → T} {t : T} {acts : List (Action ι ε M)}

theorem InOrder.of_advance {a : ι} {e : ε} (h : InOrder time t (.advance a e :: acts)) :
    t ≤ time e ∧ InOrder time (time e) acts :=
  ⟨List.rel_of_pairwise_cons h List.mem_cons_self, (List.pairwise_cons.mp h).2⟩

theorem inOrder_const (t : T) (acts : List (Action ι ε M)) : InOrder (fun _ : ε => t) t acts := by
  have hsame : ∀ x ∈ t :: acts.filterMap (Action.time? fun _ => t), x = t := by
    intro x hx
    rcases List.mem_cons.mp hx with rfl | hx
    · rfl
    · obtain ⟨act, -, hact⟩ := List.mem_filterMap.mp hx
      cases act with
      | deliver a msg => cases hact
      | advance a e => exact (Option.some.inj hact).symm
  refine List.pairwise_of_forall_mem_list fun x hx y hy => ?_
  rw [hsame x hx, hsame y hy]

end InOrder

namespace Machine

/-- One call by two logs. -/
def SameCall (alike : (op : Op) → Ret op → Ret op → Prop) (entry entry' : ι × Event Ret) : Prop :=
  entry.1 = entry'.1 ∧ ∃ op r r', entry.2 = ⟨op, r⟩ ∧ entry'.2 = ⟨op, r'⟩ ∧ alike op r r'

theorem eq_of_sameCall {log log' : List (ι × Event Ret)}
    (h : List.Forall₂ (SameCall fun _ answer answer' => answer = answer') log log') :
    log = log' := by
  induction h with
  | nil => rfl
  | @cons entry entry' _ _ hsame _ ih =>
    obtain ⟨a, event⟩ := entry
    obtain ⟨a', event'⟩ := entry'
    obtain ⟨rfl, op, r, r', rfl, rfl, rfl⟩ := hsame
    rw [ih]

variable [Preorder T] {exec : ε → σ → (op : Op) → Ret op × σ} {time : ε → T}

/-- The program the task has left to run is blind. -/
def BlindTask (alike : (op : Op) → Ret op → Ret op → Prop) : Task Op Ret L M → Prop
  | .idle _ => True
  | .busy _ p => p.Blind alike

theorem blindTask_of {alike : (op : Op) → Ret op → Ret op → Prop} {msg : M} {p : Prog Op Ret L}
    (h : p.Blind alike) : BlindTask alike (.of msg p) := by
  cases p with
  | pure l => trivial
  | call op k => exact h

/-- The first state is the second, but for the actors in `hidden`. -/
structure Erased (U : Unwinding exec time) (hidden : ι → Prop) [DecidablePred hidden] (t : T)
    (s s' : State ι Op Ret σ L M) : Prop where
  shared : U.related t s.shared s'.shared
  blind : ∀ a, ¬ hidden a → BlindTask U.alike (s.task a)
  task : ∀ a, ¬ hidden a → s.task a = s'.task a
  log : List.Forall₂ (SameCall U.alike) (s.log.filter (¬ hidden ·.1)) s'.log

variable {m : Machine ι Op Ret ε σ L M} {U : Unwinding m.exec time} {hidden : ι → Prop}
  [DecidablePred hidden] {t : T} {s s' : State ι Op Ret σ L M}

namespace Erased

theorem of_le {t' : T} (h : Erased U hidden t s s') (hle : t ≤ t') : Erased U hidden t' s s' :=
  { h with shared := U.later hle h.shared }

variable [DecidableEq ι] {a : ι} {shared shared' : σ} {log log' : List (ι × Event Ret)}

theorem hidden_moves (h : Erased U hidden t s s') (ha : hidden a) {task : Task Op Ret L M}
    (hshared : U.related t shared s'.shared)
    (hlog : log.filter (¬ hidden ·.1) = s.log.filter (¬ hidden ·.1)) :
    Erased U hidden t ⟨shared, Function.update s.task a task, log⟩ s' where
  shared := hshared
  blind b hb := by
    have hba : b ≠ a := fun hba => hb (hba ▸ ha)
    simpa [hba] using h.blind b hb
  task b hb := by
    have hba : b ≠ a := fun hba => hb (hba ▸ ha)
    simpa [hba] using h.task b hb
  log := hlog ▸ h.log

theorem both_move (h : Erased U hidden t s s') (ha : ¬ hidden a) {task : Task Op Ret L M}
    (htask : BlindTask U.alike task) (hshared : U.related t shared shared')
    (hlog : List.Forall₂ (SameCall U.alike) (log.filter (¬ hidden ·.1)) log') :
    Erased U hidden t ⟨shared, Function.update s.task a task, log⟩
      ⟨shared', Function.update s'.task a task, log'⟩ where
  shared := hshared
  blind b hb := by
    by_cases hba : b = a
    · subst hba
      simpa using htask
    · simpa [hba] using h.blind b hb
  task b hb := by
    by_cases hba : b = a
    · subst hba
      simp
    · simpa [hba] using h.task b hb
  log := hlog

/-! ### One step -/

variable {msg : M} {e : ε}

theorem hidden_deliver (h : Erased U hidden t s s') (ha : hidden a) :
    Erased U hidden t (m.step s (.deliver a msg)) s' := by
  cases htask : s.task a with
  | busy msg' p =>
    have hstays : m.step s (.deliver a msg) = s := by simp only [step, htask]
    rwa [hstays]
  | idle l =>
    rw [step_deliver htask]
    exact h.hidden_moves ha h.shared rfl

theorem hidden_advance (h : Erased U hidden (time e) s s') (ha : hidden a) (henv : U.unseen e)
    (hsilent : ∀ op, (s.task a).nextOp = some op → U.silent op) :
    Erased U hidden (time e) (m.step s (.advance a e)) s' := by
  cases hnext : (s.task a).nextOp with
  | none => rwa [step_of_no_call hnext]
  | some op =>
    obtain ⟨msg, k, hbusy⟩ := Task.eq_busy_of_nextOp hnext
    rw [step_advance hbusy]
    refine h.hidden_moves ha (U.hides henv (hsilent op hnext) h.shared) ?_
    rw [List.filter_cons_of_neg (by simpa using ha)]

theorem visible_deliver (h : Erased U hidden t s s') (ha : ¬ hidden a)
    (hblind : ∀ l, (m.handle l msg).Blind U.alike) :
    Erased U hidden t (m.step s (.deliver a msg)) (m.step s' (.deliver a msg)) := by
  have hsame := h.task a ha
  cases htask : s.task a with
  | busy msg' p =>
    have hstays : m.step s (.deliver a msg) = s := by simp only [step, htask]
    have hstays' : m.step s' (.deliver a msg) = s' := by simp only [step, ← hsame, htask]
    rwa [hstays, hstays']
  | idle l =>
    rw [step_deliver htask, step_deliver (hsame ▸ htask)]
    exact h.both_move ha (blindTask_of (hblind l)) h.shared h.log

theorem visible_advance (h : Erased U hidden (time e) s s') (ha : ¬ hidden a) (henv : U.seen e)
    (hmay : ∀ op, (s.task a).nextOp = some op → U.may op) :
    Erased U hidden (time e) (m.step s (.advance a e)) (m.step s' (.advance a e)) := by
  have hsame := h.task a ha
  cases hnext : (s.task a).nextOp with
  | none => rwa [step_of_no_call hnext, step_of_no_call (hsame ▸ hnext)]
  | some op =>
    obtain ⟨msg, k, hbusy⟩ := Task.eq_busy_of_nextOp hnext
    have hblind := h.blind a ha
    rw [hbusy] at hblind
    obtain ⟨halike, hrelated⟩ := U.keeps henv (hmay op hnext) h.shared
    rw [step_advance hbusy, step_advance (hsame ▸ hbusy), ← hblind.1 _ _ halike]
    refine h.both_move ha (blindTask_of (hblind.2 _)) hrelated ?_
    rw [List.filter_cons_of_pos (by simpa using ha)]
    exact .cons ⟨rfl, op, _, _, rfl, rfl, halike⟩ h.log

/-! ### The erasure theorem -/

omit [DecidableEq ι] in
theorem of_idle (hshared : U.related t s.shared s.shared) (hidle : ∀ a, ∃ l, s.task a = .idle l)
    (hlog : s.log = []) : Erased U hidden t s s where
  shared := hshared
  blind a _ := by
    obtain ⟨l, hl⟩ := hidle a
    rw [hl]
    trivial
  task _ _ := rfl
  log := by
    rw [hlog]
    exact .nil

theorem nextOp_mem {acts : List (Action ι ε M)} {op : Op}
    (hnext : (s.task a).nextOp = some op) :
    ∃ r, (a, ⟨op, r⟩) ∈ (m.run (m.step s (.advance a e)) acts).log := by
  obtain ⟨msg, k, hbusy⟩ := Task.eq_busy_of_nextOp hnext
  have hcalled : ∃ r, (a, ⟨op, r⟩) ∈ (m.step s (.advance a e)).log := by
    rw [step_advance hbusy]
    exact ⟨_, List.mem_cons_self⟩
  obtain ⟨r, hcalled⟩ := hcalled
  exact ⟨r, log_subset_run (m.step s _) acts hcalled⟩

/-- **The erasure theorem.** Nobody else notices the silent actors. -/
theorem run (hblind : ∀ l msg, (m.handle l msg).Blind U.alike) {acts : List (Action ι ε M)}
    (h : Erased U hidden t s s') (hclock : InOrder time t acts)
    (hunseen : ∀ a e, hidden a → .advance a e ∈ acts → U.unseen e)
    (hseen : ∀ a e, ¬ hidden a → .advance a e ∈ acts → U.seen e)
    (hsilent : ∀ entry ∈ (m.run s acts).log, hidden entry.1 → U.silent entry.2.1)
    (hmay : ∀ entry ∈ (m.run s acts).log, ¬ hidden entry.1 → U.may entry.2.1) :
    ∃ t, Erased U hidden t (m.run s acts) (m.run s' (without hidden acts)) := by
  induction acts generalizing t s s' with
  | nil => exact ⟨t, h⟩
  | cons act acts ih =>
    have hunseen' : ∀ a e, hidden a → .advance a e ∈ acts → U.unseen e :=
      fun a e ha hmem => hunseen a e ha (List.mem_cons_of_mem _ hmem)
    have hseen' : ∀ a e, ¬ hidden a → .advance a e ∈ acts → U.seen e :=
      fun a e ha hmem => hseen a e ha (List.mem_cons_of_mem _ hmem)
    cases act with
    | deliver a msg =>
      by_cases ha : hidden a
      · rw [without_cons_of_hidden acts ha]
        exact ih (h.hidden_deliver ha) hclock hunseen' hseen' hsilent hmay
      · rw [without_cons_of_visible acts ha]
        exact ih (h.visible_deliver ha fun l => hblind l msg) hclock hunseen' hseen' hsilent hmay
    | advance a e =>
      obtain ⟨hle, hlater⟩ := hclock.of_advance
      have hnow := h.of_le hle
      by_cases ha : hidden a
      · rw [without_cons_of_hidden acts ha]
        refine ih (hnow.hidden_advance ha (hunseen a e ha List.mem_cons_self) fun op hop => ?_)
          hlater hunseen' hseen' hsilent hmay
        obtain ⟨r, hcalled⟩ := nextOp_mem hop
        exact hsilent (a, ⟨op, r⟩) hcalled ha
      · rw [without_cons_of_visible acts ha]
        refine ih (hnow.visible_advance ha (hseen a e ha List.mem_cons_self) fun op hop => ?_)
          hlater hunseen' hseen' hsilent hmay
        obtain ⟨r, hcalled⟩ := nextOp_mem hop
        exact hmay (a, ⟨op, r⟩) hcalled ha

end Erased

end Machine

end Interaction
