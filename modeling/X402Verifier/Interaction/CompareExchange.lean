import Mathlib.Data.Finset.Card
import Mathlib.Data.Fintype.Basic
import Mathlib.Data.List.Nodup

/-!
# Compare-exchange loops

A call reads a cell, computes from what it read the value to put there, and exchanges the one for
the other. When the cell holds something else by then, or the exchange fails for no reason, it goes
on with what it found instead; and it gives up where there is nothing to put (`next` is `none`).

Any number of callers do this on one cell, an atomic step at a time, in any order. However their
steps fall, what is left is a *sequential* history: the calls that succeed, in the order of their
exchanges, each finding what the one before it put (`Linear`, `exists_linear_run`).
-/

namespace Interaction

variable {ι V : Type}

/-- Where a caller is: before its first read, about to exchange, or back. -/
inductive Caller (V : Type) where
  | waiting
  | trying (current put : V)
  | returned (result : Option V)
  deriving DecidableEq

namespace Caller

def isBack : Caller V → Bool
  | .returned _ => true
  | _ => false

def succeeded : Caller V → Bool
  | .returned (some _) => true
  | _ => false

theorem isBack_iff {c : Caller V} : c.isBack = true ↔ ∃ result, c = .returned result := by
  cases c <;> simp [isBack]

theorem succeeded_iff {c : Caller V} : c.succeeded = true ↔ ∃ v, c = .returned (some v) := by
  rcases c with - | - | - | v <;> simp [succeeded]

/-- A call goes on with what it found. -/
def observe (next : V → Option V) (found : V) : Caller V :=
  match next found with
  | none => .returned none
  | some v => .trying found v

variable {next : V → Option V} {found : V}

theorem observe_eq_returned {result : Option V} :
    observe next found = .returned result ↔ result = none ∧ next found = none := by
  unfold observe
  cases next found <;> simp [eq_comm]

theorem observe_eq_trying {current v : V} :
    observe next found = .trying current v ↔ found = current ∧ next found = some v := by
  unfold observe
  cases next found <;> simp

end Caller

/-- A step of a caller. An exchange may fail without a reason. -/
structure Move (ι : Type) where
  caller : ι
  spurious : Bool

/-- One cell and its callers. -/
structure Shared (ι V : Type) where
  cell : V
  callers : ι → Caller V

/-- The values put one after the other from `start` on, and the last of them. -/
inductive Sequential (next : V → Option V) (start : V) : List V → V → Prop
  | nil : Sequential next start [] start
  | concat {vs : List V} {cell v : V} (h : Sequential next start vs cell) (hv : next cell = some v) :
    Sequential next start (vs ++ [v]) v

/-- A history seen through `f`. -/
theorem Sequential.map {W : Type} {f : V → W} {next : V → Option V} {next' : W → Option W}
    (hf : ∀ v, next' (f v) = (next v).map f) {start cell : V} {vs : List V}
    (h : Sequential next start vs cell) : Sequential next' (f start) (vs.map f) (f cell) := by
  induction h with
  | nil => exact .nil
  | concat _ hv ih =>
    rw [List.map_append]
    exact ih.concat (by rw [hf, hv, Option.map_some])

namespace Shared

variable [DecidableEq ι]

def fresh (cell : V) : Shared ι V := ⟨cell, fun _ => .waiting⟩

def put (s : Shared ι V) (i : ι) (c : Caller V) : Shared ι V :=
  { s with callers := Function.update s.callers i c }

@[simp]
theorem put_callers_self (s : Shared ι V) (i : ι) (c : Caller V) : (s.put i c).callers i = c :=
  Function.update_self ..

theorem put_callers_of_ne (s : Shared ι V) {i j : ι} (c : Caller V) (h : j ≠ i) :
    (s.put i c).callers j = s.callers j := Function.update_of_ne h ..

/-- What a step of caller `i` does: nothing once it is back, a look at the cell, or an exchange. -/
inductive Steps (next : V → Option V) (s : Shared ι V) (i : ι) : Shared ι V → Prop
  | back (h : (s.callers i).isBack = true) : Steps next s i s
  | look (h : (s.callers i).isBack = false) : Steps next s i (s.put i (.observe next s.cell))
  | exchange (v : V) (h : s.callers i = .trying s.cell v) :
    Steps next s i { s.put i (.returned (some v)) with cell := v }

section Steps

variable {next : V → Option V} {s s' : Shared ι V} {i j : ι} (h : s.Steps next i s')

include h

theorem Steps.callers_of_ne (hj : j ≠ i) : s'.callers j = s.callers j := by
  cases h with
  | back _ => rfl
  | look _ => exact s.put_callers_of_ne _ hj
  | exchange v _ => exact s.put_callers_of_ne _ hj

theorem Steps.cell_eq : s'.cell = s.cell ∨ ∃ v, s.callers i = .trying s.cell v ∧ s'.cell = v := by
  cases h with
  | back _ => exact .inl rfl
  | look _ => exact .inl rfl
  | exchange v hi => exact .inr ⟨v, hi, rfl⟩

theorem Steps.returned {result : Option V} (hj : s.callers j = .returned result) :
    s'.callers j = .returned result := by
  by_cases hne : j = i
  · subst hne
    cases h with
    | back _ => exact hj
    | look hback => rw [hj] at hback; cases hback
    | exchange v htry => rw [hj] at htry; cases htry
  · rw [h.callers_of_ne hne, hj]

/-- A call that comes back empty-handed has just found the cell with nothing to put. -/
theorem Steps.refused (hback : (s.callers j).isBack = false)
    (hj : s'.callers j = .returned none) : j = i ∧ next s.cell = none := by
  by_cases hne : j = i
  · subst hne
    refine ⟨rfl, ?_⟩
    cases h with
    | back h => rw [hback] at h; cases h
    | look _ =>
      rw [put_callers_self] at hj
      exact (Caller.observe_eq_returned.mp hj).2
    | exchange v _ =>
      have hsome : Caller.returned (some v) = .returned none :=
        (s.put_callers_self j _).symm.trans hj
      cases hsome
  · rw [h.callers_of_ne hne] at hj
    rw [hj] at hback
    cases hback

end Steps

/-! ## Histories -/

/-- `log` is a sequential history of the calls that have succeeded, each with what it put. -/
structure Linear (next : V → Option V) (start : V) (s : Shared ι V) (log : List (ι × V)) :
    Prop where
  sequential : Sequential next start (log.map (·.2)) s.cell
  nodup : (log.map (·.1)).Nodup
  returned : ∀ i v, s.callers i = .returned (some v) ↔ (i, v) ∈ log
  /-- An exchange that is about to happen is right for the value it expects. -/
  prepared : ∀ i current v, s.callers i = .trying current v → next current = some v
  /-- After a refusal there is nothing to put for anyone. -/
  refused : ∀ i, s.callers i = .returned none → next s.cell = none

section Linear

variable {next : V → Option V} {start : V} {s s' : Shared ι V} {log : List (ι × V)} {i : ι}

omit [DecidableEq ι] in
theorem Linear.not_mem (h : s.Linear next start log) (hi : (s.callers i).succeeded = false) :
    i ∉ log.map (·.1) := by
  intro hmem
  obtain ⟨e, he, rfl⟩ := List.mem_map.mp hmem
  have hback : s.callers e.1 = .returned (some e.2) := (h.returned e.1 e.2).mpr he
  rw [hback] at hi
  cases hi

theorem Linear.look (h : s.Linear next start log) (hi : (s.callers i).isBack = false) :
    (s.put i (.observe next s.cell)).Linear next start log where
  sequential := h.sequential
  nodup := h.nodup
  returned j v := by
    by_cases hj : j = i
    · subst hj
      rw [put_callers_self, Caller.observe_eq_returned, ← h.returned]
      constructor
      · rintro ⟨hsome, -⟩
        cases hsome
      · intro hback
        rw [hback] at hi
        cases hi
    · rw [s.put_callers_of_ne _ hj, h.returned]
  prepared j current v hj := by
    by_cases hne : j = i
    · subst hne
      rw [put_callers_self, Caller.observe_eq_trying] at hj
      rw [← hj.1, hj.2]
    · exact h.prepared j current v (by rwa [s.put_callers_of_ne _ hne] at hj)
  refused j hj := by
    by_cases hne : j = i
    · subst hne
      rw [put_callers_self, Caller.observe_eq_returned] at hj
      exact hj.2
    · exact h.refused j (by rwa [s.put_callers_of_ne _ hne] at hj)

theorem Linear.exchange {v : V} (h : s.Linear next start log)
    (hi : s.callers i = .trying s.cell v) :
    Linear next start { s.put i (.returned (some v)) with cell := v } (log ++ [(i, v)]) := by
  have hnext : next s.cell = some v := h.prepared i s.cell v hi
  have hnot : i ∉ log.map (·.1) := h.not_mem (by rw [hi]; rfl)
  exact {
    sequential := by
      rw [List.map_append]
      exact h.sequential.concat hnext
    nodup := by
      rw [List.map_append]
      exact h.nodup.append (List.nodup_singleton i) (by simpa using hnot)
    returned := fun j w => by
      by_cases hj : j = i
      · subst hj
        have hlog : (j, w) ∉ log := fun hmem => hnot (List.mem_map_of_mem hmem)
        rw [put_callers_self]
        simp [hlog, eq_comm]
      · rw [s.put_callers_of_ne _ hj, h.returned]
        simp [hj]
    prepared := fun j current w hj => by
      by_cases hne : j = i
      · subst hne
        rw [put_callers_self] at hj
        cases hj
      · exact h.prepared j current w (by rwa [s.put_callers_of_ne _ hne] at hj)
    -- nobody has been refused: there was something to put
    refused := fun j hj => by
      by_cases hne : j = i
      · subst hne
        rw [put_callers_self] at hj
        cases hj
      · have hnone := h.refused j (by rwa [s.put_callers_of_ne _ hne] at hj)
        rw [hnext] at hnone
        cases hnone }

theorem Linear.steps (h : s.Linear next start log) (hstep : s.Steps next i s') :
    ∃ log', s'.Linear next start log' := by
  cases hstep with
  | back _ => exact ⟨log, h⟩
  | look hi => exact ⟨log, h.look hi⟩
  | exchange v hi => exact ⟨log ++ [(i, v)], h.exchange hi⟩

omit [DecidableEq ι] in
theorem linear_fresh (next : V → Option V) (cell : V) :
    (fresh cell : Shared ι V).Linear next cell [] where
  sequential := .nil
  nodup := List.nodup_nil
  returned i v := by simp [fresh]
  prepared i current v h := by cases h
  refused i h := by cases h

end Linear

/-! ## Runs -/

variable [DecidableEq V] (next : V → Option V)

/-- A caller's next step: the first read, or an exchange. -/
def step (s : Shared ι V) (move : Move ι) : Shared ι V :=
  match s.callers move.caller with
  | .waiting => s.put move.caller (.observe next s.cell)
  | .trying current v =>
    if s.cell = current ∧ move.spurious = false then
      { s.put move.caller (.returned (some v)) with cell := v }
    else s.put move.caller (.observe next s.cell)
  | .returned _ => s

def run (s : Shared ι V) (moves : List (Move ι)) : Shared ι V := moves.foldl (step next) s

theorem steps_step (s : Shared ι V) (move : Move ι) :
    s.Steps next move.caller (s.step next move) := by
  unfold step
  cases hc : s.callers move.caller with
  | waiting => exact .look (by rw [hc]; rfl)
  | returned result => exact .back (by rw [hc]; rfl)
  | trying current v =>
    dsimp only
    split_ifs with h
    · obtain ⟨rfl, -⟩ := h
      exact .exchange v hc
    · exact .look (by rw [hc]; rfl)

variable {next}

theorem returned_run {s : Shared ι V} {i : ι} {result : Option V}
    (h : s.callers i = .returned result) (moves : List (Move ι)) :
    (s.run next moves).callers i = .returned result :=
  List.foldlRecOn moves (step next) (motive := fun s => s.callers i = .returned result) h
    fun s hs move _ => (steps_step next s move).returned hs

/-- **Linearizability.** After any steps in any order, the calls that have succeeded have a
sequential history. -/
theorem exists_linear_run (next : V → Option V) (cell : V) (moves : List (Move ι)) :
    ∃ log, ((fresh cell : Shared ι V).run next moves).Linear next cell log := by
  refine List.foldlRecOn moves (step next) (motive := fun s => ∃ log, s.Linear next cell log)
    ⟨[], linear_fresh next cell⟩ ?_
  rintro s ⟨log, hlog⟩ move -
  exact hlog.steps (steps_step next s move)

theorem exists_look_of_refused {s : Shared ι V} {i : ι} (moves : List (Move ι))
    (hback : (s.callers i).isBack = false) (hi : (s.run next moves).callers i = .returned none) :
    ∃ before move after, moves = before ++ move :: after ∧ move.caller = i ∧
      ((s.run next before).callers i).isBack = false ∧ next (s.run next before).cell = none := by
  induction moves generalizing s with
  | nil =>
    rw [show s.callers i = _ from hi] at hback
    cases hback
  | cons move moves ih =>
    have hstep := steps_step next s move
    cases hmoved : ((s.step next move).callers i).isBack with
    | false =>
      obtain ⟨before, move', after, rfl, hcaller, hfree, hnone⟩ := ih hmoved hi
      exact ⟨move :: before, move', after, rfl, hcaller, hfree, hnone⟩
    | true =>
      obtain ⟨result, hresult⟩ := Caller.isBack_iff.mp hmoved
      have hnone : Caller.returned result = .returned none :=
        (returned_run hresult moves).symm.trans hi
      obtain ⟨rfl, hcell⟩ := hstep.refused hback (hresult.trans hnone)
      exact ⟨[], move, moves, rfl, rfl, hback, hcell⟩

/-! ## Counting -/

section Count

omit [DecidableEq V]

variable [Fintype ι] {start : V} {s : Shared ι V} {log : List (ι × V)}

/-- The calls that have succeeded. -/
def succeeded (s : Shared ι V) : Finset ι := Finset.univ.filter fun i => (s.callers i).succeeded

theorem Linear.card_succeeded (h : s.Linear next start log) : s.succeeded.card = log.length := by
  have hlog : s.succeeded = (log.map (·.1)).toFinset := by
    ext i
    simp [succeeded, Caller.succeeded_iff, h.returned]
  rw [hlog, List.toFinset_card_of_nodup h.nodup, List.length_map]

end Count

end Shared

end Interaction
