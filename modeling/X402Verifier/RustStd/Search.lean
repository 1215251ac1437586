import Mathlib.Data.List.Infix
import X402Verifier.RustStd.Text

/-!
# Searching a text

What `breakAt` finds, so that a scan of a printed text can be followed piece by piece: a piece that
no occurrence touches is passed over (`breakAt_append_of_head`, `breakAt_append_sep`), and an
occurrence within a piece is found there (`breakAt_append_of_some`). The text up to the first
occurrence is `firstPiece`.
-/

namespace RustStd

variable {pat s x y a b : List Char} {c q : Char}

/-- `s.split(pat).next()` for a string pattern: what lies before its first occurrence. -/
def firstPiece (pat s : List Char) : List Char :=
  match breakAt pat s with
  | some (piece, _) => piece
  | none => s

theorem secondPiece_eq (pat : String) (s : List Char) :
    secondPiece pat s = (breakAt pat.toList s).map fun p => firstPiece pat.toList p.2 := rfl

/-! ## What is found -/

theorem breakAt_self_append (pat s : List Char) : breakAt pat (pat ++ s) = some ([], s) := by
  cases h : pat ++ s with
  | nil =>
    obtain ⟨rfl, rfl⟩ := List.append_eq_nil_iff.mp h
    rfl
  | cons c t =>
    have hstarts : pat.isPrefixOf (c :: t) = true :=
      List.isPrefixOf_iff_prefix.mpr (h ▸ List.prefix_append pat s)
    rw [breakAt, if_pos hstarts, ← h, List.drop_left]

theorem breakAt_cons (h : ¬ pat <+: c :: s) :
    breakAt pat (c :: s) = (breakAt pat s).map (Prod.map (c :: ·) id) := by
  rw [breakAt, if_neg (fun h' => h (List.isPrefixOf_iff_prefix.mp h'))]
  rfl

theorem breakAt_cons_of_starts (h : pat <+: c :: s) :
    breakAt pat (c :: s) = some ([], (c :: s).drop pat.length) :=
  if_pos (List.isPrefixOf_iff_prefix.mpr h)

theorem eq_append_of_breakAt (h : breakAt pat s = some (x, y)) : s = x ++ pat ++ y := by
  induction s generalizing x with
  | nil =>
    unfold breakAt at h
    split_ifs at h with hempty
    obtain ⟨rfl, rfl⟩ := Prod.mk.inj (Option.some.inj h)
    simpa using hempty
  | cons c s ih =>
    by_cases hstarts : pat <+: c :: s
    · rw [breakAt_cons_of_starts hstarts] at h
      obtain ⟨rfl, rfl⟩ := Prod.mk.inj (Option.some.inj h)
      exact List.prefix_iff_eq_append.mp hstarts |>.symm
    · rw [breakAt_cons hstarts] at h
      obtain ⟨⟨x', y'⟩, hfound, heq⟩ := Option.map_eq_some_iff.mp h
      obtain ⟨rfl, rfl⟩ := Prod.mk.inj heq
      simp [ih hfound]

theorem breakAt_eq_none_iff : breakAt pat s = none ↔ ¬ pat <:+: s := by
  induction s with
  | nil => simp [breakAt]
  | cons c s ih =>
    rw [List.infix_cons_iff, not_or, ← ih]
    by_cases hstarts : pat <+: c :: s
    · simp [breakAt_cons_of_starts hstarts, hstarts]
    · simp [breakAt_cons hstarts, hstarts]

/-! ## Passing over a piece -/

/-- No occurrence begins where its first character does not stand. -/
theorem breakAt_append_of_head (h : c ∉ a) (pat b : List Char) :
    breakAt (c :: pat) (a ++ b) = (breakAt (c :: pat) b).map (Prod.map (a ++ ·) id) := by
  induction a with
  | nil =>
    have hid : (Prod.map ([] ++ ·) id : List Char × List Char → _) = id := rfl
    rw [hid, Option.map_id]
    rfl
  | cons d a ih =>
    obtain ⟨hd, ha⟩ := not_or.mp (mt List.mem_cons.mpr h)
    have hstarts : ¬ c :: pat <+: d :: (a ++ b) := fun h' =>
      hd (List.cons_prefix_cons.mp h').1
    rw [List.cons_append, breakAt_cons hstarts, ih ha, Option.map_map]
    rfl

/-- An occurrence does not reach over a character that is not in the pattern. -/
theorem prefix_append_sep (hc : c ∉ pat) : pat <+: a ++ c :: b ↔ pat <+: a := by
  refine ⟨fun h => ?_, fun h => h.trans (List.prefix_append _ _)⟩
  rcases List.prefix_or_prefix_of_prefix h (List.prefix_append a (c :: b)) with hle | ⟨t, rfl⟩
  · exact hle
  · cases t with
    | nil => simp
    | cons d t =>
      have hd : d = c := by
        have := (List.prefix_append_right_inj a).mp h
        exact (List.cons_prefix_cons.mp this).1
      exact absurd (by simp [hd]) hc

theorem breakAt_append_sep (hc : c ∉ pat) (hpat : pat ≠ []) (h : ¬ pat <:+: a) (b : List Char) :
    breakAt pat (a ++ [c] ++ b) = (breakAt pat b).map (Prod.map (a ++ [c] ++ ·) id) := by
  rw [List.append_assoc]
  induction a with
  | nil =>
    have hstarts : ¬ pat <+: c :: b := fun h' =>
      hpat (List.prefix_nil.mp ((prefix_append_sep (a := []) hc).mp h'))
    exact breakAt_cons hstarts
  | cons d a ih =>
    rw [List.infix_cons_iff, not_or] at h
    have hstarts : ¬ pat <+: d :: (a ++ c :: b) := fun h' =>
      h.1 ((prefix_append_sep (a := d :: a) hc).mp h')
    refine (breakAt_cons hstarts).trans ?_
    rw [show a ++ c :: b = a ++ ([c] ++ b) from rfl, ih h.2, Option.map_map]
    rfl

/-- What is found in a text is found where more follows. -/
theorem breakAt_append_of_some (h : breakAt pat a = some (x, y)) (b : List Char) :
    breakAt pat (a ++ b) = some (x, y ++ b) := by
  induction a generalizing x with
  | nil =>
    unfold breakAt at h
    split_ifs at h with hempty
    obtain ⟨rfl, rfl⟩ := Prod.mk.inj (Option.some.inj h)
    obtain rfl := List.isEmpty_iff.mp hempty
    exact breakAt_self_append [] b
  | cons d a ih =>
    by_cases hstarts : pat <+: d :: a
    · obtain ⟨t, ht⟩ := hstarts
      rw [← ht, breakAt_self_append] at h
      obtain ⟨rfl, rfl⟩ := Prod.mk.inj (Option.some.inj h)
      rw [← ht, List.append_assoc, breakAt_self_append]
    · have hlen : pat.length ≤ (d :: a).length := by
        rw [eq_append_of_breakAt h]
        simp only [List.length_append]
        omega
      -- an occurrence that began here would lie within the text alone
      have hstarts' : ¬ pat <+: d :: (a ++ b) := fun h' =>
        hstarts (List.prefix_of_prefix_length_le h' (List.prefix_append (d :: a) b) hlen)
      rw [breakAt_cons hstarts] at h
      obtain ⟨⟨x', y'⟩, hfound, heq⟩ := Option.map_eq_some_iff.mp h
      obtain ⟨rfl, rfl⟩ := Prod.mk.inj heq
      rw [List.cons_append, breakAt_cons hstarts', ih hfound]
      rfl

/-! ## A single character -/

theorem breakAt_singleton (hx : q ∉ x) (y : List Char) :
    breakAt [q] (x ++ q :: y) = some (x, y) := by
  rw [breakAt_append_of_head hx, show q :: y = [q] ++ y from rfl, breakAt_self_append]
  simp

theorem breakAt_singleton_eq_none_iff : breakAt [q] s = none ↔ q ∉ s := by
  rw [breakAt_eq_none_iff, List.singleton_infix_iff]

theorem firstPiece_self_append (pat s : List Char) : firstPiece pat (pat ++ s) = [] := by
  rw [firstPiece, breakAt_self_append]

/-- A piece passed over stands before the first occurrence. -/
theorem firstPiece_append (h : breakAt pat (a ++ b) = (breakAt pat b).map (Prod.map (a ++ ·) id)) :
    firstPiece pat (a ++ b) = a ++ firstPiece pat b := by
  unfold firstPiece
  rw [h]
  cases breakAt pat b <;> rfl

theorem secondPiece_append {pat : String}
    (h : breakAt pat.toList (a ++ b) = (breakAt pat.toList b).map (Prod.map (a ++ ·) id)) :
    secondPiece pat (a ++ b) = secondPiece pat b := by
  rw [secondPiece_eq, secondPiece_eq, h, Option.map_map]
  rfl

/-- The text up to the first occurrence, searched for a character the pattern does not have. -/
theorem breakAt_firstPiece (hq : q ∉ pat) (hpat : pat ≠ []) (hx : q ∉ x) (y : List Char) :
    breakAt [q] (firstPiece pat (x ++ q :: y)) =
      if pat <:+: x then none else some (x, firstPiece pat y) := by
  split_ifs with h
  · cases hfound : breakAt pat x with
    | none => exact absurd h (breakAt_eq_none_iff.mp hfound)
    | some p =>
      obtain ⟨before, after⟩ := p
      rw [firstPiece, breakAt_append_of_some hfound]
      refine breakAt_singleton_eq_none_iff.mpr fun hmem => hx ?_
      rw [eq_append_of_breakAt hfound]
      simp [hmem]
  · have hpass : firstPiece pat (x ++ [q] ++ y) = x ++ [q] ++ firstPiece pat y :=
      firstPiece_append (breakAt_append_sep hq hpat h y)
    rw [List.append_assoc, List.append_assoc] at hpass
    exact (congrArg (breakAt [q]) hpass).trans (breakAt_singleton hx _)

end RustStd
