import X402Verifier.Interaction.Prog

/-!
# Programs over programs

A client's calls are answered by another service, each by a program of its own. `Prog.interp` puts
those programs in place of the calls, and the client becomes a program over the other service.

**The rule** (`Follows.interp`). Let the client follow a protocol, and let what answers each call
that the protocol allows follow one of the other service, from states related to the client's back
to related ones. Then the whole follows the other service's protocol, and what the client promised of
its own state at the end it still promises.

What a client comes to when all goes well is said with a protocol that relies on the answers
(`Protocol.assuming`), and read off the runs whose answers are such (`Follows.eval_assuming`).
-/

namespace Interaction

variable {Op Op' : Type} {Ret : Op → Type} {Ret' : Op' → Type} {α : Type}

namespace Prog

/-- Put the program `f op` in place of every call of `op`. -/
def interp (f : (op : Op) → Prog Op' Ret' (Ret op)) : Prog Op Ret α → Prog Op' Ret' α
  | .pure a => .pure a
  | .call op k => (f op).bind fun r => (k r).interp f

variable (f : (op : Op) → Prog Op' Ret' (Ret op))

@[simp] theorem interp_pure (a : α) : (Prog.pure a : Prog Op Ret α).interp f = .pure a := rfl

@[simp] theorem interp_call (op : Op) (k : Ret op → Prog Op Ret α) :
    (Prog.call op k).interp f = (f op).bind fun r => (k r).interp f := rfl

/-- **The rule of interpretation.** -/
theorem Follows.interp {Q Q' : Type} {P : Protocol Op Ret Q} {P' : Protocol Op' Ret' Q'}
    {post : Q → α → Prop} {p : Prog Op Ret α} {q : Q} (h : p.Follows P post q)
    {R : Q → Q' → Prop}
    (hf : ∀ q q' op, R q q' → P.may q op →
      (f op).Follows P' (fun q' r => P.assumes q op r ∧ R (P.next q op r) q') q')
    {q' : Q'} (hR : R q q') :
    (p.interp f).Follows P' (fun q' a => ∃ q, R q q' ∧ post q a) q' := by
  induction p generalizing q q' with
  | pure a => exact ⟨q, hR, h⟩
  | call op k ih =>
    refine (hf q q' op hR h.1).bind fun q' r hr => ?_
    exact ih r (h.2 r hr.1) hr.2

variable {f} in
/-- **One call**, by what its program comes to. -/
theorem Follows.interp_perform {Q' : Type} {P' : Protocol Op' Ret' Q'} {post : Q' → α → Prop}
    {q' : Q'} {op : Op} {mid : Q' → Ret op → Prop} {k : Ret op → Prog Op Ret α}
    (hf : (f op).Follows P' mid q')
    (hk : ∀ q' r, mid q' r → ((k r).interp f).Follows P' post q') :
    (((Prog.perform op).bind k).interp f).Follows P' post q' := by
  rw [perform_bind, interp_call]
  exact hf.bind hk

end Prog

/-! ## Runs that go well -/

/-- The protocol that records any calls, and relies on their answers. -/
def Protocol.assuming (assumes : (op : Op) → Ret op → Prop) :
    Protocol Op Ret (List (Event Ret)) where
  may _ _ := True
  assumes _ := assumes
  next q op r := q ++ [⟨op, r⟩]

/-- **Reading a run that goes well.** Of the answers, only those that were given matter. -/
theorem Prog.Follows.eval_assuming {assumes : (op : Op) → Ret op → Prop}
    {post : List (Event Ret) → α → Prop} {p : Prog Op Ret α} {trace : List (Event Ret)}
    (h : p.Follows (.assuming assumes) post trace) (answer : Nat → (op : Op) → Ret op)
    (hanswers : ∀ e ∈ (p.eval answer).2, assumes e.1 e.2) :
    post (trace ++ (p.eval answer).2) (p.eval answer).1 := by
  induction p generalizing trace answer with
  | pure a => simpa using h
  | call op k ih =>
    have hfirst : assumes op (answer 0 op) := hanswers _ List.mem_cons_self
    have hrest := ih _ (h.2 _ hfirst) (fun n => answer (n + 1)) fun e he =>
      hanswers e (List.mem_cons_of_mem _ he)
    simpa [Protocol.assuming] using hrest

end Interaction
