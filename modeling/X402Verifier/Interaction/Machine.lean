import X402Verifier.Interaction.Prog
import X402Verifier.Interaction.Run

/-!
# Programs that share a state, in any order of steps

A `Machine` has any number of actors. An idle actor keeps a local state of type `L` and takes a
message; the message starts a program, whose calls are then performed one at a time on the state
all actors share. Between two calls of one actor any other actor may take a message or perform a
call, so a list of `Action`s is one interleaving, and a statement about every list of actions is a
statement about every interleaving.

**Invariants.** `step_cases` says once what a step can do; `run_invariant` carries a property from
the first state through a run, as far as each step meets a condition (`Along`). `Conforms` is the
invariant most proofs start from: every actor follows a protocol from its own local protocol
state, and `conforms_deliver` and `conforms_advance` say how a step moves those states.
-/

namespace Interaction

variable {ι Op : Type} {Ret : Op → Type} {ε σ L M Q : Type}

/-- An actor between two messages, or with what is left to run of one. -/
inductive Task (Op : Type) (Ret : Op → Type) (L M : Type) : Type
  | idle (l : L)
  | busy (msg : M) (p : Prog Op Ret L)

/-- The task of an actor that has `p` left to run. -/
def Task.of (msg : M) : Prog Op Ret L → Task Op Ret L M
  | .pure l => .idle l
  | .call op k => .busy msg (.call op k)

/-- Read the local state through `f`. -/
def Task.map {L' : Type} (f : L → L') : Task Op Ret L M → Task Op Ret L' M
  | .idle l => .idle (f l)
  | .busy msg p => .busy msg (p.bind fun l => .pure (f l))

theorem Task.map_of {L' : Type} (f : L → L') (msg : M) (p : Prog Op Ret L) :
    (Task.of msg p).map f = .of msg (p.bind fun l => .pure (f l)) := by
  cases p <;> rfl

/-- The call an actor is about to make. -/
def Task.nextOp : Task Op Ret L M → Option Op
  | .busy _ (.call op _) => some op
  | _ => none

theorem Task.nextOp_map {L' : Type} (f : L → L') (task : Task Op Ret L M) :
    (task.map f).nextOp = task.nextOp := by
  cases task with
  | idle l => rfl
  | busy msg p => cases p <;> rfl

theorem Task.eq_busy_of_nextOp {task : Task Op Ret L M} {op : Op} (h : task.nextOp = some op) :
    ∃ msg k, task = .busy msg (.call op k) := by
  cases task with
  | idle l => cases h
  | busy msg p =>
    cases p with
    | pure l => cases h
    | call op' k =>
      cases h
      exact ⟨msg, k, rfl⟩

/-- Actors `ι` with local states `L` and messages `M`, over a shared state `σ`. One call is
performed under an environment `ε`, which holds whatever the call learns from outside. -/
structure Machine (ι Op : Type) (Ret : Op → Type) (ε σ L M : Type) where
  exec : ε → σ → (op : Op) → Ret op × σ
  handle : L → M → Prog Op Ret L

inductive Action (ι ε M : Type) : Type
  | deliver (a : ι) (msg : M)
  | advance (a : ι) (e : ε)

namespace Machine

/-- The shared state, every actor, and all calls so far with their answers, latest first. -/
structure State (ι Op : Type) (Ret : Op → Type) (σ L M : Type) where
  shared : σ
  task : ι → Task Op Ret L M
  log : List (ι × Event Ret)

variable [DecidableEq ι] (m : Machine ι Op Ret ε σ L M)

def step (s : State ι Op Ret σ L M) : Action ι ε M → State ι Op Ret σ L M
  | .deliver a msg =>
    match s.task a with
    | .idle l => { s with task := Function.update s.task a (.of msg (m.handle l msg)) }
    | .busy .. => s
  | .advance a e =>
    match s.task a with
    | .busy msg (.call op k) =>
      { shared := (m.exec e s.shared op).2
        task := Function.update s.task a (.of msg (k (m.exec e s.shared op).1))
        log := (a, ⟨op, (m.exec e s.shared op).1⟩) :: s.log }
    | _ => s

def run (s : State ι Op Ret σ L M) (acts : List (Action ι ε M)) : State ι Op Ret σ L M :=
  acts.foldl m.step s

@[simp] theorem run_nil (s : State ι Op Ret σ L M) : m.run s [] = s := rfl

@[simp] theorem run_cons (s : State ι Op Ret σ L M) (act : Action ι ε M)
    (acts : List (Action ι ε M)) : m.run s (act :: acts) = m.run (m.step s act) acts := rfl

theorem run_append (s : State ι Op Ret σ L M) (as bs : List (Action ι ε M)) :
    m.run s (as ++ bs) = m.run (m.run s as) bs := List.foldl_append

variable {m}

theorem step_deliver {s : State ι Op Ret σ L M} {a : ι} {msg : M} {l : L}
    (h : s.task a = .idle l) :
    m.step s (.deliver a msg) =
      { s with task := Function.update s.task a (.of msg (m.handle l msg)) } := by
  simp only [step, h]

theorem step_advance {s : State ι Op Ret σ L M} {a : ι} {e : ε} {msg : M} {op : Op}
    {k : Ret op → Prog Op Ret L} (h : s.task a = .busy msg (.call op k)) :
    m.step s (.advance a e) =
      { shared := (m.exec e s.shared op).2
        task := Function.update s.task a (.of msg (k (m.exec e s.shared op).1))
        log := (a, ⟨op, (m.exec e s.shared op).1⟩) :: s.log } := by
  simp only [step, h]

/-- **What a step can do.** Nothing, start a message on an idle actor, or perform the next call of
a busy one. -/
theorem step_cases (s : State ι Op Ret σ L M) (act : Action ι ε M) :
    m.step s act = s ∨
    (∃ a msg l, act = .deliver a msg ∧ s.task a = .idle l ∧
      m.step s act = { s with task := Function.update s.task a (.of msg (m.handle l msg)) }) ∨
    (∃ a e msg op k, act = .advance a e ∧ s.task a = .busy msg (.call op k) ∧
      m.step s act =
        { shared := (m.exec e s.shared op).2
          task := Function.update s.task a (.of msg (k (m.exec e s.shared op).1))
          log := (a, ⟨op, (m.exec e s.shared op).1⟩) :: s.log }) := by
  cases act with
  | deliver a msg =>
    cases h : s.task a with
    | idle l => exact .inr (.inl ⟨a, msg, l, rfl, h, step_deliver h⟩)
    | busy msg' p => exact .inl (by simp only [step, h])
  | advance a e =>
    cases h : s.task a with
    | idle l => exact .inl (by simp only [step, h])
    | busy msg p =>
      cases p with
      | pure l => exact .inl (by simp only [step, h])
      | call op k => exact .inr (.inr ⟨a, e, msg, op, k, rfl, h, step_advance h⟩)

theorem step_of_no_call {s : State ι Op Ret σ L M} {a : ι} {e : ε}
    (h : (s.task a).nextOp = none) : m.step s (.advance a e) = s := by
  cases htask : s.task a with
  | idle l => simp only [step, htask]
  | busy msg p =>
    cases p with
    | pure l => simp only [step, htask]
    | call op k =>
      rw [htask] at h
      cases h

theorem log_subset_run (s : State ι Op Ret σ L M) (acts : List (Action ι ε M)) :
    s.log ⊆ (m.run s acts).log := by
  induction acts generalizing s with
  | nil => exact fun _ hmem => hmem
  | cons act acts ih =>
    refine List.Subset.trans ?_ (ih (m.step s act))
    rcases step_cases (m := m) s act with heq | ⟨_, _, _, -, -, heq⟩ | ⟨_, _, _, _, _, -, -, heq⟩
    · rw [heq]
      exact fun _ hmem => hmem
    · rw [heq]
      exact fun _ hmem => hmem
    · rw [heq]
      exact List.subset_cons_self ..

/-! ## Invariants of runs -/

/-- Every step of the run meets `ok` in the state it is taken in. -/
abbrev Along (m : Machine ι Op Ret ε σ L M) (ok : State ι Op Ret σ L M → Action ι ε M → Prop) :
    State ι Op Ret σ L M → List (Action ι ε M) → Prop := Interaction.Along m.step ok

/-- **The run rule.** What each step that meets `ok` preserves holds after every run along `ok`. -/
theorem run_invariant {Inv : State ι Op Ret σ L M → Prop}
    {ok : State ι Op Ret σ L M → Action ι ε M → Prop}
    (hstep : ∀ s act, Inv s → ok s act → Inv (m.step s act))
    {s : State ι Op Ret σ L M} {acts : List (Action ι ε M)} (hs : Inv s) (hok : Along m ok s acts) :
    Inv (m.run s acts) := foldl_invariant hstep hs hok

/-! ## Actors that remember more -/

section Map

variable {L' : Type} {f : L → L'}

/-- Read the local states through `f`. -/
def State.map (f : L → L') (s : State ι Op Ret σ L M) : State ι Op Ret σ L' M :=
  ⟨s.shared, fun a => (s.task a).map f, s.log⟩

/-- **Remembering more changes nothing.** A machine whose actors do the same, as far as `f` shows,
runs the same. -/
theorem run_map {m' : Machine ι Op Ret ε σ L' M} (hexec : m'.exec = m.exec)
    (hhandle : ∀ l msg, m'.handle (f l) msg = (m.handle l msg).bind fun l => .pure (f l))
    (s : State ι Op Ret σ L M) (acts : List (Action ι ε M)) :
    m'.run (s.map f) acts = (m.run s acts).map f := by
  induction acts generalizing s with
  | nil => rfl
  | cons act acts ih =>
    rw [run_cons, run_cons, ← ih]
    congr 1
    -- One step of either machine; the induction is on the actions.
    cases act with
    | deliver a msg =>
      cases htask : s.task a with
      | busy msg' p => simp only [step, State.map, htask, Task.map]
      | idle l =>
        have hmapped : (s.map f).task a = .idle (f l) := by simp only [State.map, htask, Task.map]
        rw [step_deliver htask, step_deliver hmapped]
        simp only [State.map, hhandle]
        congr 1
        funext b
        by_cases hb : b = a
        · subst hb
          simp [Task.map_of]
        · simp [hb]
    | advance a e =>
      cases hnext : (s.task a).nextOp with
      | none =>
        have hmapped : ((s.map f).task a).nextOp = none := by rw [State.map, Task.nextOp_map, hnext]
        rw [step_of_no_call hnext, step_of_no_call hmapped]
      | some op =>
        obtain ⟨msg, k, hbusy⟩ := Task.eq_busy_of_nextOp hnext
        have hmapped : (s.map f).task a =
            .busy msg (.call op fun r => (k r).bind fun l => .pure (f l)) := by
          simp only [State.map, hbusy, Task.map, Prog.call_bind]
        rw [step_advance hbusy, step_advance hmapped]
        simp only [State.map, hexec]
        congr 1
        funext b
        by_cases hb : b = a
        · subst hb
          simp [Task.map_of]
        · simp [hb]

end Map

/-! ## Actors that follow a protocol -/

/-- The task follows the protocol from `q`; idle local states satisfy `post`. -/
def TaskFollows (P : Protocol Op Ret Q) (post : Q → L → Prop) (q : Q) : Task Op Ret L M → Prop
  | .idle l => post q l
  | .busy _ p => p.Follows P post q

variable {P : Protocol Op Ret Q} {post : Q → L → Prop}

theorem taskFollows_of {q : Q} {msg : M} {p : Prog Op Ret L} :
    TaskFollows P post q (.of msg p) ↔ p.Follows P post q := by
  cases p <;> rfl

/-- Every actor follows the protocol, actor `a` from `q a`. -/
def Conforms (P : Protocol Op Ret Q) (post : Q → L → Prop) (q : ι → Q)
    (s : State ι Op Ret σ L M) : Prop :=
  ∀ a, TaskFollows P post (q a) (s.task a)

theorem conforms_deliver {q : ι → Q} {s : State ι Op Ret σ L M} {a : ι} {l : L} {msg : M}
    (h : Conforms P post q s) (hmsg : (m.handle l msg).Follows P post (q a)) :
    Conforms P post q
      { s with task := Function.update s.task a (.of msg (m.handle l msg)) } := by
  intro b
  by_cases hb : b = a
  · subst hb
    simpa [taskFollows_of] using hmsg
  · simpa [hb] using h b

omit [DecidableEq ι] in
theorem Conforms.may {q : ι → Q} {s : State ι Op Ret σ L M} {a : ι} {msg : M} {op : Op}
    {k : Ret op → Prog Op Ret L} (h : Conforms P post q s) (ha : s.task a = .busy msg (.call op k)) :
    P.may (q a) op := by
  have hf := h a
  rw [ha] at hf
  exact hf.1

theorem conforms_advance {q : ι → Q} {s : State ι Op Ret σ L M} {a : ι} {msg : M} {op : Op}
    {k : Ret op → Prog Op Ret L} {r : Ret op} {shared : σ} {log : List (ι × Event Ret)}
    (h : Conforms P post q s) (ha : s.task a = .busy msg (.call op k)) (hr : P.assumes (q a) op r) :
    Conforms P post (Function.update q a (P.next (q a) op r))
      ⟨shared, Function.update s.task a (.of msg (k r)), log⟩ := by
  have hf := h a
  rw [ha] at hf
  intro b
  by_cases hb : b = a
  · subst hb
    simpa [taskFollows_of] using hf.2 r hr
  · simpa [hb] using h b

/-! ## Actors that make some calls only -/

/-- The task has only such calls left to make, and comes to rest in such a local state. -/
def CallsOnly (may : Op → Prop) (good : L → Prop) (task : Task Op Ret L M) : Prop :=
  ∃ q, TaskFollows (.trace may) (fun _ l => good l) q task

section CallsOnly

variable {may : Op → Prop} {good : L → Prop} {msg : M}

theorem callsOnly_idle {l : L} (h : good l) :
    CallsOnly may good (.idle l : Task Op Ret L M) := ⟨[], h⟩

theorem CallsOnly.idle {l : L} (h : CallsOnly may good (.idle l : Task Op Ret L M)) : good l := by
  obtain ⟨q, h⟩ := h
  exact h

theorem callsOnly_of {p : Prog Op Ret L} {q : List (Event Ret)}
    (h : p.Follows (.trace may) (fun _ l => good l) q) : CallsOnly may good (.of msg p) :=
  ⟨q, taskFollows_of.mpr h⟩

theorem CallsOnly.busy {op : Op} {k : Ret op → Prog Op Ret L}
    (h : CallsOnly may good (.busy msg (.call op k))) :
    may op ∧ ∀ r, CallsOnly may good (.of msg (k r)) := by
  obtain ⟨q, hmay, hrest⟩ := h
  exact ⟨hmay, fun r => callsOnly_of (hrest r trivial)⟩

end CallsOnly

/-- **Every call an actor makes is one of its own**, if its messages start only such. -/
theorem run_callsOnly {may : ι → Op → Prop} {good : ι → L → Prop} {acts : List (Action ι ε M)}
    (hmsgs : ∀ a msg, .deliver a msg ∈ acts → ∀ l, good a l →
      (m.handle l msg).Follows (.trace (may a)) (fun _ l => good a l) [])
    {s : State ι Op Ret σ L M} (htasks : ∀ a, CallsOnly (may a) (good a) (s.task a))
    (hlog : ∀ entry ∈ s.log, may entry.1 entry.2.1) :
    (∀ a, CallsOnly (may a) (good a) ((m.run s acts).task a)) ∧
      ∀ entry ∈ (m.run s acts).log, may entry.1 entry.2.1 := by
  induction acts generalizing s with
  | nil => exact ⟨htasks, hlog⟩
  | cons act acts ih =>
    have hrest : ∀ a msg, .deliver a msg ∈ acts → ∀ l, good a l →
        (m.handle l msg).Follows (.trace (may a)) (fun _ l => good a l) [] :=
      fun a msg hmem => hmsgs a msg (List.mem_cons_of_mem _ hmem)
    have hupdate : ∀ (a : ι) {task : Task Op Ret L M}, CallsOnly (may a) (good a) task →
        ∀ b, CallsOnly (may b) (good b) (Function.update s.task a task b) := by
      intro a task htask b
      by_cases hb : b = a
      · subst hb
        simpa using htask
      · simpa [hb] using htasks b
    rcases step_cases (m := m) s act with heq | ⟨a, msg, l, rfl, hidle, heq⟩ |
      ⟨a, e, msg, op, k, rfl, hbusy, heq⟩
    · rw [run_cons, heq]
      exact ih hrest htasks hlog
    · have hgood : good a l := (hidle ▸ htasks a).idle
      rw [run_cons, heq]
      exact ih hrest (hupdate a (callsOnly_of (hmsgs a msg List.mem_cons_self l hgood))) hlog
    · obtain ⟨hmay, hafter⟩ := (hbusy ▸ htasks a).busy
      rw [run_cons, heq]
      refine ih hrest (hupdate a (hafter _)) fun entry hentry => ?_
      rcases List.mem_cons.mp hentry with rfl | hentry
      · exact hmay
      · exact hlog entry hentry

end Machine

end Interaction
