import Mathlib.Logic.Function.Basic

/-!
# Programs that call operations

A service is written as a tree (`Prog`): it returns a value, or calls an operation and continues
with the answer. Nothing is said about what an operation does, so one program has three readings:

* `Prog.eval` feeds it arbitrary answers, one after the other. What holds of every evaluation
  holds whatever the operations do, and whoever else runs in between.
* `Prog.run` performs its operations on a state, alone and in order.
* A scheduler (`X402Verifier.Interaction.Machine`) performs them one at a time between those of
  other programs.

**Protocols.** A `Protocol` is what one program is to be held to while it runs: a local state, the
operations it may call in it, the answers it may rely on, and the state after each. `Follows` says
that a program never leaves the protocol. It composes along `bind` (`Follows.bind`), so it is
checked once for each function of the service.

**What is called.** `Yields` says which calls a program makes and what it returns after them. It
composes along `bind` too, and a protocol that all these calls keep to is followed
(`Yields.follows`), so a program held to many protocols is walked through once.
-/

namespace Interaction

variable {Op : Type} {Ret : Op → Type} {α β : Type}

/-- A program that calls operations of `Op`, each answered in `Ret op`, and returns an `α`. -/
inductive Prog (Op : Type) (Ret : Op → Type) (α : Type) : Type
  | pure (a : α)
  | call (op : Op) (k : Ret op → Prog Op Ret α)

/-- A call together with its answer. -/
abbrev Event (Ret : Op → Type) : Type := Σ op, Ret op

namespace Prog

/-- Continue with `f` on the result. -/
def bind : Prog Op Ret α → (α → Prog Op Ret β) → Prog Op Ret β
  | .pure a, f => f a
  | .call op k, f => .call op fun r => (k r).bind f

def perform (op : Op) : Prog Op Ret (Ret op) := .call op .pure

instance : Monad (Prog Op Ret) where
  pure := .pure
  bind := .bind

@[simp] theorem pure_bind (a : α) (f : α → Prog Op Ret β) :
    (Prog.pure a : Prog Op Ret α).bind f = f a := rfl

@[simp] theorem call_bind (op : Op) (k : Ret op → Prog Op Ret α) (f : α → Prog Op Ret β) :
    (Prog.call op k).bind f = .call op fun r => (k r).bind f := rfl

@[simp] theorem bind_eq (p : Prog Op Ret α) (f : α → Prog Op Ret β) : (p >>= f) = p.bind f := rfl

@[simp] theorem pure_eq (a : α) : (Pure.pure a : Prog Op Ret α) = .pure a := rfl

@[simp] theorem perform_bind (op : Op) (f : Ret op → Prog Op Ret β) :
    (perform op).bind f = .call op f := rfl

theorem bind_assoc {γ : Type} (p : Prog Op Ret α) (f : α → Prog Op Ret β) (g : β → Prog Op Ret γ) :
    (p.bind f).bind g = p.bind fun a => (f a).bind g := by
  induction p with
  | pure a => rfl
  | call op k ih => exact congrArg (Prog.call op) (funext ih)

/-! ## Arbitrary answers -/

/-- The result and the calls made when the `n`-th call is answered by `answer n`. -/
def eval : Prog Op Ret α → (Nat → (op : Op) → Ret op) → α × List (Event Ret)
  | .pure a, _ => (a, [])
  | .call op k, answer =>
    let rest := (k (answer 0 op)).eval fun n => answer (n + 1)
    (rest.1, ⟨op, answer 0 op⟩ :: rest.2)

@[simp] theorem eval_pure (a : α) (answer : Nat → (op : Op) → Ret op) :
    (Prog.pure a : Prog Op Ret α).eval answer = (a, []) := rfl

@[simp] theorem eval_call (op : Op) (k : Ret op → Prog Op Ret α)
    (answer : Nat → (op : Op) → Ret op) :
    (Prog.call op k).eval answer =
      (((k (answer 0 op)).eval fun n => answer (n + 1)).1,
        ⟨op, answer 0 op⟩ :: ((k (answer 0 op)).eval fun n => answer (n + 1)).2) := rfl

/-- Evaluating a sequence: the second program gets the answers the first has left. -/
theorem eval_bind (p : Prog Op Ret α) (f : α → Prog Op Ret β)
    (answer : Nat → (op : Op) → Ret op) :
    (p.bind f).eval answer =
      let first := p.eval answer
      let second := (f first.1).eval fun n => answer (n + first.2.length)
      (second.1, first.2 ++ second.2) := by
  induction p generalizing answer with
  | pure a => simp
  | call op k ih => simp [ih, Nat.add_assoc]

/-- The answers of a run are those it was given. -/
theorem exists_answer_of_mem_eval {p : Prog Op Ret α} {answer : Nat → (op : Op) → Ret op}
    {e : Event Ret} (h : e ∈ (p.eval answer).2) : ∃ n, e.2 = answer n e.1 := by
  induction p generalizing answer with
  | pure a => cases h
  | call op k ih =>
    rcases List.mem_cons.mp h with rfl | hrest
    · exact ⟨0, rfl⟩
    · obtain ⟨n, hn⟩ := ih _ hrest
      exact ⟨n + 1, hn⟩

/-! ## Programs that may fail -/

section Returns

variable {E : Type}

/-- Answered by `answer`, the program returns `a` after `n` calls. -/
def Returns (p : ExceptT E (Prog Op Ret) α) (answer : Nat → (op : Op) → Ret op) (a : α) (n : Nat) :
    Prop :=
  (p.run.eval answer).1 = .ok a ∧ (p.run.eval answer).2.length = n

variable {answer : Nat → (op : Op) → Ret op} {n : Nat}

theorem exists_returns {p : ExceptT E (Prog Op Ret) α} {a : α} :
    (∃ n, Returns p answer a n) ↔ (p.run.eval answer).1 = .ok a :=
  ⟨fun ⟨_, h⟩ => h.1, fun h => ⟨_, h, rfl⟩⟩

theorem returns_pure {a b : α} :
    Returns (Pure.pure a : ExceptT E (Prog Op Ret) α) answer b n ↔ b = a ∧ n = 0 := by
  simp only [Returns, ExceptT.run_pure, pure_eq, eval_pure, List.length_nil, Except.ok.injEq]
  exact and_congr eq_comm eq_comm

theorem returns_mk {e : Except E α} {b : α} :
    Returns (ExceptT.mk (Pure.pure e) : ExceptT E (Prog Op Ret) α) answer b n ↔ e = .ok b ∧ n = 0 := by
  simp only [Returns, ExceptT.run_mk, pure_eq, eval_pure, List.length_nil]
  exact and_congr Iff.rfl eq_comm

theorem not_returns_throw {e : E} {b : α} :
    ¬ Returns (throw e : ExceptT E (Prog Op Ret) α) answer b n := by
  rintro ⟨h, -⟩
  cases h

theorem returns_lift_perform {op : Op} {b : Ret op} :
    Returns (ExceptT.lift (perform op) : ExceptT E (Prog Op Ret) (Ret op)) answer b n ↔
      b = answer 0 op ∧ n = 1 := by
  constructor
  · rintro ⟨h, rfl⟩
    exact ⟨(Except.ok.inj h).symm, rfl⟩
  · rintro ⟨rfl, rfl⟩
    exact ⟨rfl, rfl⟩

/-- **Sequencing.** A sequence returns just when both halves do; the second is answered from where
the first stopped. -/
theorem returns_bind {p : ExceptT E (Prog Op Ret) α} {f : α → ExceptT E (Prog Op Ret) β} {b : β} :
    Returns (p >>= f) answer b n ↔
      ∃ a m k, Returns p answer a m ∧ Returns (f a) (fun i => answer (i + m)) b k ∧ n = m + k := by
  unfold Returns
  rw [ExceptT.run_bind, bind_eq, eval_bind]
  cases h : (p.run.eval answer).1 with
  | error e => simp [h]
  | ok a =>
    simp only [h, List.length_append]
    constructor
    · rintro ⟨hb, hn⟩
      exact ⟨a, _, _, ⟨rfl, rfl⟩, ⟨hb, rfl⟩, hn.symm⟩
    · rintro ⟨a', m, k, ⟨ha, rfl⟩, ⟨hb, rfl⟩, rfl⟩
      cases ha
      exact ⟨hb, rfl⟩

end Returns

/-! ## Running alone on a state -/

/-- What a run leaves behind. -/
structure Outcome (Ret : Op → Type) (σ α : Type) where
  value : α
  state : σ
  events : List (Event Ret)

variable {σ ε : Type}

/-- Run alone: the `n`-th call is performed under `env n`, on the state the calls before left. -/
def run (exec : ε → σ → (op : Op) → Ret op × σ) :
    Prog Op Ret α → (Nat → ε) → σ → Outcome Ret σ α
  | .pure a, _, s => ⟨a, s, []⟩
  | .call op k, env, s =>
    let r := exec (env 0) s op
    let rest := run exec (k r.1) (fun n => env (n + 1)) r.2
    { rest with events := ⟨op, r.1⟩ :: rest.events }

variable {exec : ε → σ → (op : Op) → Ret op × σ}

@[simp] theorem run_pure (a : α) (env : Nat → ε) (s : σ) :
    run exec (Prog.pure a : Prog Op Ret α) env s = ⟨a, s, []⟩ := rfl

theorem run_call (op : Op) (k : Ret op → Prog Op Ret α) (env : Nat → ε) (s : σ) :
    run exec (Prog.call op k) env s =
      { run exec (k (exec (env 0) s op).1) (fun n => env (n + 1)) (exec (env 0) s op).2 with
        events := ⟨op, (exec (env 0) s op).1⟩ ::
          (run exec (k (exec (env 0) s op).1) (fun n => env (n + 1)) (exec (env 0) s op).2).events } :=
  rfl

@[simp] theorem run_call_value (op : Op) (k : Ret op → Prog Op Ret α) (env : Nat → ε) (s : σ) :
    (run exec (Prog.call op k) env s).value =
      (run exec (k (exec (env 0) s op).1) (fun n => env (n + 1)) (exec (env 0) s op).2).value :=
  rfl

@[simp] theorem run_call_state (op : Op) (k : Ret op → Prog Op Ret α) (env : Nat → ε) (s : σ) :
    (run exec (Prog.call op k) env s).state =
      (run exec (k (exec (env 0) s op).1) (fun n => env (n + 1)) (exec (env 0) s op).2).state :=
  rfl

theorem run_bind (p : Prog Op Ret α) (f : α → Prog Op Ret β) (env : Nat → ε) (s : σ) :
    run exec (p.bind f) env s =
      let first := run exec p env s
      let second := run exec (f first.value) (fun n => env (n + first.events.length)) first.state
      { second with events := first.events ++ second.events } := by
  induction p generalizing env s with
  | pure a => simp
  | call op k ih => simp [run_call, ih, Nat.add_assoc]

theorem exists_eval_eq_run (p : Prog Op Ret α) (env : Nat → ε) (s : σ) :
    ∃ answer, p.eval answer = ((run exec p env s).value, (run exec p env s).events) := by
  induction p generalizing env s with
  | pure a => exact ⟨fun n op => (exec (env n) s op).1, rfl⟩
  | call op k ih =>
    obtain ⟨answer, hanswer⟩ :=
      ih (exec (env 0) s op).1 (fun n => env (n + 1)) (exec (env 0) s op).2
    refine ⟨fun n => Nat.rec (fun op => (exec (env 0) s op).1) (fun n _ => answer n) n, ?_⟩
    rw [run_call, eval_call]
    show (((k (exec (env 0) s op).1).eval answer).1,
      ⟨op, (exec (env 0) s op).1⟩ :: ((k (exec (env 0) s op).1).eval answer).2) = _
    rw [hanswer]

/-! ## Protocols -/

end Prog

/-- What one program is held to while it runs, with local states `Q`. -/
structure Protocol (Op : Type) (Ret : Op → Type) (Q : Type) where
  /-- The calls allowed in a state. -/
  may : Q → Op → Prop
  /-- The answers the program may rely on. -/
  assumes : Q → (op : Op) → Ret op → Prop
  /-- The state after a call and its answer. -/
  next : Q → (op : Op) → Ret op → Q

variable {Q : Type} {P : Protocol Op Ret Q}

namespace Prog

/-- From `q` the program calls only what the protocol allows, whatever it is answered, and what it
returns satisfies `post` in the state it returns in. -/
def Follows (P : Protocol Op Ret Q) (post : Q → α → Prop) : Q → Prog Op Ret α → Prop
  | q, .pure a => post q a
  | q, .call op k => P.may q op ∧ ∀ r, P.assumes q op r → (k r).Follows P post (P.next q op r)

@[simp] theorem follows_pure {post : Q → α → Prop} {q : Q} {a : α} :
    (Prog.pure a : Prog Op Ret α).Follows P post q ↔ post q a := Iff.rfl

@[simp] theorem follows_call {post : Q → α → Prop} {q : Q} {op : Op}
    {k : Ret op → Prog Op Ret α} :
    (Prog.call op k).Follows P post q ↔
      P.may q op ∧ ∀ r, P.assumes q op r → (k r).Follows P post (P.next q op r) := Iff.rfl

/-- **One call.** It is allowed, and what follows it stays on the protocol for every answer. -/
theorem Follows.perform {post : Q → β → Prop} {q : Q} {op : Op} {f : Ret op → Prog Op Ret β}
    (hmay : P.may q op)
    (hf : ∀ r, P.assumes q op r → (f r).Follows P post (P.next q op r)) :
    ((Prog.perform op).bind f).Follows P post q := ⟨hmay, hf⟩

/-- Weakening of the postcondition. -/
theorem Follows.mono {post post' : Q → α → Prop} {q : Q} {p : Prog Op Ret α}
    (h : p.Follows P post q) (hpost : ∀ q a, post q a → post' q a) : p.Follows P post' q := by
  induction p generalizing q with
  | pure a => exact hpost q a h
  | call op k ih => exact ⟨h.1, fun r hr => ih r (h.2 r hr)⟩

/-- **Sequencing.** The second program starts in any state the first may return in. -/
theorem Follows.bind {mid : Q → α → Prop} {post : Q → β → Prop} {q : Q}
    {p : Prog Op Ret α} {f : α → Prog Op Ret β} (h : p.Follows P mid q)
    (hf : ∀ q a, mid q a → (f a).Follows P post q) : (p.bind f).Follows P post q := by
  induction p generalizing q with
  | pure a => exact hf q a h
  | call op k ih => exact ⟨h.1, fun r hr => ih r (h.2 r hr)⟩

theorem Follows.bind_any {post : Q → β → Prop} {q : Q} {p : Prog Op Ret α}
    {f : α → Prog Op Ret β} (h : p.Follows P (fun _ _ => True) q)
    (hf : ∀ q a, (f a).Follows P post q) : (p.bind f).Follows P post q :=
  h.bind fun q a _ => hf q a

end Prog

/-! ### Traces -/

/-- The protocol that only records: its state is the calls made so far. -/
def Protocol.trace (may : Op → Prop) : Protocol Op Ret (List (Event Ret)) where
  may _ := may
  assumes _ _ _ := True
  next q op r := q ++ [⟨op, r⟩]

/-- **Reading a trace.** What a program says of the calls it will have made is true of those it
makes, whatever they are answered. -/
theorem Prog.Follows.eval {may : Op → Prop} {post : List (Event Ret) → α → Prop}
    {p : Prog Op Ret α} {q : List (Event Ret)} (h : p.Follows (.trace may) post q)
    (answer : Nat → (op : Op) → Ret op) :
    post (q ++ (p.eval answer).2) (p.eval answer).1 ∧ ∀ e ∈ (p.eval answer).2, may e.1 := by
  induction p generalizing q answer with
  | pure a => exact ⟨by simpa using h, by simp⟩
  | call op k ih =>
    obtain ⟨hpost, hmay⟩ := ih _ (h.2 (answer 0 op) trivial) fun n => answer (n + 1)
    refine ⟨by simpa [Protocol.trace] using hpost, ?_⟩
    intro e he
    rcases List.mem_cons.mp he with rfl | he
    · exact h.1
    · exact hmay e he

theorem Prog.Follows.allowing {may may' : Op → Prop} {post : List (Event Ret) → α → Prop}
    {p : Prog Op Ret α} {q : List (Event Ret)} (h : p.Follows (.trace may) post q)
    (hmay : ∀ op, may op → may' op) : p.Follows (.trace may') post q := by
  induction p generalizing q with
  | pure a => exact h
  | call op k ih => exact ⟨hmay op h.1, fun r _ => ih r (h.2 r trivial)⟩

theorem Prog.Follows.both {may may' : Op → Prop} {post : List (Event Ret) → α → Prop}
    {p : Prog Op Ret α} {q : List (Event Ret)} (h : p.Follows (.trace may) post q)
    (h' : p.Follows (.trace may') post q) :
    p.Follows (.trace fun op => may op ∧ may' op) post q := by
  induction p generalizing q with
  | pure a => exact h
  | call op k ih => exact ⟨⟨h.1, h'.1⟩, fun r _ => ih r (h.2 r trivial) (h'.2 r trivial)⟩

/-! ### What a program calls -/

/-- These calls, so answered, are calls the protocol allows from `q` on. -/
def Protocol.Accepts (P : Protocol Op Ret Q) : Q → List (Event Ret) → Prop
  | _, [] => True
  | q, e :: calls => P.may q e.1 ∧ P.Accepts (P.next q e.1 e.2) calls

/-- The state they lead to. -/
def Protocol.after (P : Protocol Op Ret Q) (q : Q) (calls : List (Event Ret)) : Q :=
  calls.foldl (fun q e => P.next q e.1 e.2) q

namespace Protocol

@[simp] theorem accepts_nil (q : Q) : P.Accepts q [] := trivial

@[simp] theorem accepts_cons {q : Q} {e : Event Ret} {calls : List (Event Ret)} :
    P.Accepts q (e :: calls) ↔ P.may q e.1 ∧ P.Accepts (P.next q e.1 e.2) calls := Iff.rfl

@[simp] theorem after_nil (q : Q) : P.after q [] = q := rfl

@[simp] theorem after_cons (q : Q) (e : Event Ret) (calls : List (Event Ret)) :
    P.after q (e :: calls) = P.after (P.next q e.1 e.2) calls := rfl

@[simp] theorem after_append (q : Q) (calls more : List (Event Ret)) :
    P.after q (calls ++ more) = P.after (P.after q calls) more := List.foldl_append

@[simp] theorem accepts_append {q : Q} {calls more : List (Event Ret)} :
    P.Accepts q (calls ++ more) ↔ P.Accepts q calls ∧ P.Accepts (P.after q calls) more := by
  induction calls generalizing q with
  | nil => simp
  | cons e calls ih => simp [ih, and_assoc]

/-- Calls that leave the state alone. -/
theorem accepts_of_next_eq {q : Q} {calls : List (Event Ret)}
    (h : ∀ e ∈ calls, P.may q e.1 ∧ P.next q e.1 e.2 = q) :
    P.Accepts q calls ∧ P.after q calls = q := by
  induction calls with
  | nil => exact ⟨trivial, rfl⟩
  | cons e calls ih =>
    obtain ⟨⟨hmay, hnext⟩, hcalls⟩ := List.forall_mem_cons.mp h
    rw [accepts_cons, after_cons, hnext]
    exact ⟨⟨hmay, (ih hcalls).1⟩, (ih hcalls).2⟩

@[simp] theorem may_trace {may : Op → Prop} (q : List (Event Ret)) (op : Op) :
    (Protocol.trace may).may q op ↔ may op := Iff.rfl

@[simp] theorem next_trace {may : Op → Prop} (q : List (Event Ret)) (op : Op) (r : Ret op) :
    (Protocol.trace may).next q op r = q ++ [⟨op, r⟩] := rfl

@[simp] theorem after_trace {may : Op → Prop} (q calls : List (Event Ret)) :
    (Protocol.trace may).after q calls = q ++ calls := by
  induction calls generalizing q with
  | nil => simp
  | cons e calls ih => simp [ih]

@[simp] theorem accepts_trace {may : Op → Prop} {q calls : List (Event Ret)} :
    (Protocol.trace may).Accepts q calls ↔ ∀ e ∈ calls, may e.1 := by
  induction calls generalizing q with
  | nil => simp
  | cons e calls ih => simp [ih]

end Protocol

/-- However its calls are answered, the calls it makes and what it returns are as `R` says. -/
def Prog.Yields (R : List (Event Ret) → α → Prop) (p : Prog Op Ret α) : Prop :=
  ∀ answer, R (p.eval answer).2 (p.eval answer).1

namespace Prog

theorem Yields.pure {R : List (Event Ret) → α → Prop} {a : α} (h : R [] a) :
    (Prog.pure a : Prog Op Ret α).Yields R := fun _ => h

theorem Yields.mono {R S : List (Event Ret) → α → Prop} {p : Prog Op Ret α} (h : p.Yields R)
    (hRS : ∀ calls a, R calls a → S calls a) : p.Yields S := fun answer => hRS _ _ (h answer)

theorem Yields.perform {R : List (Event Ret) → β → Prop} {op : Op} {f : Ret op → Prog Op Ret β}
    (h : ∀ r, (f r).Yields fun calls => R (⟨op, r⟩ :: calls)) :
    ((Prog.perform op).bind f).Yields R :=
  fun answer => h (answer 0 op) fun n => answer (n + 1)

theorem Yields.bind {R : List (Event Ret) → α → Prop} {S : List (Event Ret) → β → Prop}
    {p : Prog Op Ret α} {f : α → Prog Op Ret β} (h : p.Yields R)
    (hf : ∀ calls a, R calls a → (f a).Yields fun more => S (calls ++ more)) :
    (p.bind f).Yields S := by
  intro answer
  rw [eval_bind]
  exact hf _ _ (h answer) _

theorem Follows.of_eval [∀ op, Nonempty (Ret op)] {post : Q → α → Prop} {p : Prog Op Ret α} {q : Q}
    (h : ∀ answer, P.Accepts q (p.eval answer).2 ∧
      post (P.after q (p.eval answer).2) (p.eval answer).1) : p.Follows P post q := by
  classical
  induction p generalizing q with
  | pure a => exact (h fun _ op => Classical.arbitrary (Ret op)).2
  | call op k ih =>
    refine ⟨(h fun _ op => Classical.arbitrary (Ret op)).1.1, fun r _ => ih r fun answer => ?_⟩
    -- The first call is answered `r`, the others as before.
    have hfirst := h fun n => if n = 0 then Function.update (answer 0) op r else answer (n - 1)
    simpa [and_assoc, hfirst.1.1] using hfirst

/-- **Following from what is called.** A program keeps to a protocol if whatever it calls does, and it
returns what the state after these calls asks for. -/
theorem Yields.follows [∀ op, Nonempty (Ret op)] {R : List (Event Ret) → α → Prop}
    {post : Q → α → Prop} {p : Prog Op Ret α} {q : Q} (h : p.Yields R)
    (hR : ∀ calls a, R calls a → P.Accepts q calls ∧ post (P.after q calls) a) :
    p.Follows P post q := .of_eval fun answer => hR _ _ (h answer)

theorem Yields.follows_trace [∀ op, Nonempty (Ret op)] {R : List (Event Ret) → α → Prop}
    {may : Op → Prop} {post : List (Event Ret) → α → Prop} {p : Prog Op Ret α}
    {trace : List (Event Ret)} (h : p.Yields R)
    (hR : ∀ calls a, R calls a → (∀ e ∈ calls, may e.1) ∧ post (trace ++ calls) a) :
    p.Follows (.trace may) post trace :=
  h.follows fun calls a hcalls => by simpa using hR calls a hcalls

theorem Yields.run {σ ε : Type} {exec : ε → σ → (op : Op) → Ret op × σ}
    {R : List (Event Ret) → α → Prop} {p : Prog Op Ret α} (h : p.Yields R) (env : Nat → ε) (s : σ) :
    R (p.run exec env s).events (p.run exec env s).value := by
  obtain ⟨answer, hanswer⟩ : ∃ answer,
      p.eval answer = ((p.run exec env s).value, (p.run exec env s).events) :=
    p.exists_eval_eq_run env s
  have hread := h answer
  rw [hanswer] at hread
  exact hread

end Prog

/-- **Two runs.** From related states a program returns the same, when the calls it may make are
answered alike in related states and leave related ones. -/
theorem Prog.Follows.run_congr {σ ε : Type} {exec : ε → σ → (op : Op) → Ret op × σ}
    {may : Op → Prop} {post : List (Event Ret) → α → Prop} {p : Prog Op Ret α}
    {trace : List (Event Ret)} {R : σ → σ → Prop} (h : p.Follows (.trace may) post trace)
    (hexec : ∀ e s s' op, may op → R s s' →
      (exec e s op).1 = (exec e s' op).1 ∧ R (exec e s op).2 (exec e s' op).2)
    (env : Nat → ε) {s s' : σ} (hs : R s s') :
    (p.run exec env s).value = (p.run exec env s').value := by
  induction p generalizing trace env s s' with
  | pure a => rfl
  | call op k ih =>
    obtain ⟨hsame, hrelated⟩ := hexec (env 0) s s' op h.1 hs
    rw [run_call_value, run_call_value, ← hsame]
    exact ih _ (h.2 _ trivial) (fun n => env (n + 1)) hrelated

/-- What no call a program may make changes, its run leaves as it was. -/
theorem Prog.Follows.run_keeps {σ ε τ : Type} {exec : ε → σ → (op : Op) → Ret op × σ}
    {may : Op → Prop} {post : List (Event Ret) → α → Prop} {p : Prog Op Ret α}
    {trace : List (Event Ret)} {f : σ → τ} (h : p.Follows (.trace may) post trace)
    (hexec : ∀ e s op, may op → f (exec e s op).2 = f s) (env : Nat → ε) (s : σ) :
    f (p.run exec env s).state = f s := by
  induction p generalizing trace env s with
  | pure a => rfl
  | call op k ih =>
    rw [run_call_state, ih _ (h.2 _ trivial)]
    exact hexec _ _ _ h.1

/-- **The frame rule.** Where the calls a program may make neither read nor change what `g` sets,
setting it first only sets it in the end. -/
theorem Prog.Follows.run_frame {σ ε : Type} {exec : ε → σ → (op : Op) → Ret op × σ}
    {may : Op → Prop} {post : List (Event Ret) → α → Prop} {p : Prog Op Ret α}
    {trace : List (Event Ret)} {g : σ → σ} (h : p.Follows (.trace may) post trace)
    (hexec : ∀ e s op, may op → exec e (g s) op = ((exec e s op).1, g (exec e s op).2))
    (env : Nat → ε) (s : σ) :
    p.run exec env (g s) =
      { value := (p.run exec env s).value
        state := g (p.run exec env s).state
        events := (p.run exec env s).events } := by
  induction p generalizing trace env s with
  | pure a => rfl
  | call op k ih =>
    rw [run_call, run_call, hexec _ _ _ h.1]
    dsimp only
    rw [ih _ (h.2 _ trivial)]

theorem Prog.Follows.run {σ ε : Type} {exec : ε → σ → (op : Op) → Ret op × σ} {may : Op → Prop}
    {post : List (Event Ret) → α → Prop} {p : Prog Op Ret α} (h : p.Follows (.trace may) post [])
    (env : Nat → ε) (s : σ) :
    post (p.run exec env s).events (p.run exec env s).value ∧
      ∀ e ∈ (p.run exec env s).events, may e.1 := by
  obtain ⟨answer, hanswer⟩ : ∃ answer,
      p.eval answer = ((p.run exec env s).value, (p.run exec env s).events) :=
    p.exists_eval_eq_run env s
  have hread := h.eval answer
  rw [hanswer] at hread
  exact hread

end Interaction
