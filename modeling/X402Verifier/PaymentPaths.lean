import X402Verifier.CoinChoice

/-!
# Which path a payment takes

`tryPaths` is a search for the first path that `check` clears (`tryPaths_eq`). It is to be the first
path that is `usable` by the server's rules: there the gasless floor depends on the decimals of the
asset, while the client has the floor of six decimals for every asset.

`BuildsFirstUsable` is what the payer is promised, and `builds_first_usable_iff` when that is kept: when
the floors are equal, or the difference does not matter for these paths and funds.
-/

namespace X402Verifier

open RustStd ClientNode

/-! ## The search -/

def reasons (amount : Nat) (funds : Funding) (gasStation : Option String)
    (paths : List PaymentPath) : List (PaymentPath × Skipped) :=
  paths.filterMap fun path => (check path amount funds gasStation).map fun reason => (path, reason)

theorem reasons_cons {amount : Nat} {funds : Funding} {gasStation : Option String}
    {path : PaymentPath} {paths : List PaymentPath} {reason : Skipped}
    (h : check path amount funds gasStation = some reason) :
    reasons amount funds gasStation (path :: paths) =
      (path, reason) :: reasons amount funds gasStation paths :=
  List.filterMap_cons_some (by rw [h]; rfl)

section Search

variable {α : Type} (node : ClientNode) (buildGaslessPayment : Except Messages α)
  (sender payee : Bytes) (asset : String) (amount : Nat) (funds : Funding)
  (gasStation : Option String)

/-- What is done for the path that was found. -/
def buildOn (skipped : List (PaymentPath × Skipped)) : Option PaymentPath → PaymentBuild α
  | some .gasless => .gasless buildGaslessPayment
  | some .coinObject => .coinObject (node.buildCoinObjectPayment sender payee asset amount)
  | some .sponsored => .unreachable
  | none => .unavailable skipped (noPathAvailable asset amount funds skipped)

/-- **The search.** -/
theorem tryPaths_eq (skipped : List (PaymentPath × Skipped)) (paths : List PaymentPath) :
    node.tryPaths buildGaslessPayment sender payee asset amount funds gasStation skipped paths =
      buildOn node buildGaslessPayment sender payee asset amount funds
        (skipped ++ reasons amount funds gasStation paths)
        (paths.find? fun path => (check path amount funds gasStation).isNone) := by
  induction paths generalizing skipped with
  | nil => simp [tryPaths, buildOn, reasons]
  | cons path paths ih =>
    cases hcheck : check path amount funds gasStation with
    | some reason =>
      rw [List.find?_cons_of_neg (by simp [hcheck]), reasons_cons hcheck]
      simp only [tryPaths, hcheck]
      rw [ih, List.append_assoc, List.singleton_append]
    | none =>
      rw [List.find?_cons_of_pos (by simp [hcheck])]
      simp only [tryPaths, hcheck]
      cases path <;> rfl

end Search

/-! ## The promise -/

/-- May this path be taken? The gasless one from the server's floor on, for an asset of these
decimals. Sponsorship is not implemented. -/
def usable (decimals amount : Nat) (funds : Funding) : PaymentPath → Bool
  | .gasless => gaslessMinimumBaseUnits decimals ≤ amount ∧ amount ≤ funds.addressBalance
  | .sponsored => false
  | .coinObject => amount ≤ funds.coinBalance

/-- A reason that is true of the amount, the funds and the server. -/
inductive Justified (decimals amount : Nat) (funds : Funding) (gasStation : Option String) :
    PaymentPath → Skipped → Prop
  | belowGaslessFloor (h : amount < gaslessMinimumBaseUnits decimals) :
      Justified decimals amount funds gasStation .gasless
        (.belowGaslessFloor amount (gaslessMinimumBaseUnits decimals))
  | addressBalanceShort (h : funds.addressBalance < amount) :
      Justified decimals amount funds gasStation .gasless
        (.addressBalanceShort funds.addressBalance amount)
  | noGasStationAdvertised (h : gasStation = none) :
      Justified decimals amount funds gasStation .sponsored .noGasStationAdvertised
  | sponsorshipNotImplemented {url : String} (h : gasStation = some url) :
      Justified decimals amount funds gasStation .sponsored .sponsorshipNotImplemented
  | coinObjectsShort (h : funds.coinBalance < amount) :
      Justified decimals amount funds gasStation .coinObject
        (.coinObjectsShort funds.coinBalance amount)

/-- What building a payment is to end in: the first usable path, or else one true reason for each
path, in order. -/
def BuildsFirstUsable {α : Type} (decimals amount : Nat) (funds : Funding)
    (gasStation : Option String) (asset : String) (paths : List PaymentPath) :
    PaymentBuild α → Prop
  | .gasless _ => paths.find? (usable decimals amount funds) = some .gasless
  | .coinObject _ => paths.find? (usable decimals amount funds) = some .coinObject
  | .unreachable => False
  | .unavailable skipped message =>
    paths.find? (usable decimals amount funds) = none ∧ skipped.map (·.1) = paths ∧
      (∀ s ∈ skipped, Justified decimals amount funds gasStation s.1 s.2) ∧
      message = noPathAvailable asset amount funds skipped

/-! ## The client's floor and the server's -/

section Floors

variable {decimals amount : Nat} {funds : Funding} {gasStation : Option String}
  {paths : List PaymentPath}

/-- Does the client clear this path? -/
def cleared (amount : Nat) (funds : Funding) (gasStation : Option String) (path : PaymentPath) :
    Bool := (check path amount funds gasStation).isNone

theorem cleared_gasless : cleared amount funds gasStation .gasless = true ↔
    gaslessMinimum ≤ amount ∧ amount ≤ funds.addressBalance := by
  simp only [cleared, check]
  split_ifs with hfloor hshort
  · simp only [Option.isNone_some, Bool.false_eq_true, false_iff]
    omega
  · simp only [Option.isNone_some, Bool.false_eq_true, false_iff]
    omega
  · simp only [Option.isNone_none, true_iff]
    omega

/-- Without the gasless path, the client goes by the server's rules. -/
theorem cleared_eq_usable {path : PaymentPath} (h : path ≠ .gasless) :
    cleared amount funds gasStation path = usable decimals amount funds path := by
  cases path with
  | gasless => exact absurd rfl h
  | sponsored => rfl
  | coinObject =>
    simp only [cleared, check, usable]
    split_ifs with hshort
    · simp [Nat.not_le.mpr hshort]
    · simp [Nat.not_lt.mp hshort]

/-- The client and the server agree on the gasless path. -/
def GaslessAgrees (decimals amount : Nat) (funds : Funding) : Prop :=
  gaslessMinimum ≤ amount ∧ amount ≤ funds.addressBalance ↔
    gaslessMinimumBaseUnits decimals ≤ amount ∧ amount ≤ funds.addressBalance

theorem GaslessAgrees.cleared_eq_usable (h : GaslessAgrees decimals amount funds) :
    cleared amount funds gasStation = usable decimals amount funds := by
  funext path
  by_cases hpath : path = .gasless
  · subst hpath
    rw [Bool.eq_iff_iff]
    refine (cleared_gasless.trans h).trans ?_
    simp [usable]
  · exact X402Verifier.cleared_eq_usable hpath

/-- What the client says of a path it skips is true, unless it names the wrong floor. -/
theorem justified_of_check {path : PaymentPath} {reason : Skipped}
    (hcheck : check path amount funds gasStation = some reason)
    (hfloor : path = .gasless → gaslessMinimumBaseUnits decimals = gaslessMinimum ∨
      gaslessMinimum ≤ amount) :
    Justified decimals amount funds gasStation path reason := by
  cases path with
  | gasless =>
    simp only [check] at hcheck
    split_ifs at hcheck with hlow hshort
    · cases hcheck
      rcases hfloor rfl with hsame | hle
      · rw [← hsame]
        exact .belowGaslessFloor (hsame ▸ hlow)
      · exact absurd hlow (Nat.not_lt.mpr hle)
    · cases hcheck
      exact .addressBalanceShort hshort
  | sponsored =>
    cases gasStation with
    | none =>
      cases hcheck
      exact .noGasStationAdvertised rfl
    | some url =>
      cases hcheck
      exact .sponsorshipNotImplemented rfl
  | coinObject =>
    simp only [check] at hcheck
    split_ifs at hcheck with hshort
    cases hcheck
    exact .coinObjectsShort hshort

theorem map_fst_reasons (h : paths.find? (cleared amount funds gasStation) = none) :
    (reasons amount funds gasStation paths).map (·.1) = paths := by
  induction paths with
  | nil => rfl
  | cons path paths ih =>
    obtain ⟨hpath, hpaths⟩ := List.forall_mem_cons.mp (List.find?_eq_none.mp h)
    cases hcheck : check path amount funds gasStation with
    | none => simp [cleared, hcheck] at hpath
    | some reason =>
      rw [reasons_cons hcheck, List.map_cons, ih (List.find?_eq_none.mpr hpaths)]

/-- Where the gasless path is not listed, the rules find the same. -/
theorem find?_usable_eq (h : .gasless ∉ paths) :
    paths.find? (usable decimals amount funds) = paths.find? (cleared amount funds gasStation) := by
  induction paths with
  | nil => rfl
  | cons path paths ih =>
    obtain ⟨hpath, hpaths⟩ := not_or.mp (mt List.mem_cons.mpr h)
    rw [List.find?_cons, List.find?_cons, ih hpaths, X402Verifier.cleared_eq_usable (Ne.symm hpath)]

/-- The client finds what it is to find, and says nothing false if it finds nothing. -/
theorem builds_buildOn_iff {α : Type} (node : ClientNode) (buildGaslessPayment : Except Messages α)
    (sender payee : Bytes) (asset : String) :
    BuildsFirstUsable decimals amount funds gasStation asset paths
        (buildOn node buildGaslessPayment sender payee asset amount funds
          (reasons amount funds gasStation paths) (paths.find? (cleared amount funds gasStation))) ↔
      paths.find? (usable decimals amount funds) = paths.find? (cleared amount funds gasStation) ∧
        (paths.find? (cleared amount funds gasStation) = none →
          ∀ s ∈ reasons amount funds gasStation paths,
            Justified decimals amount funds gasStation s.1 s.2) := by
  cases hfound : paths.find? (cleared amount funds gasStation) with
  | none =>
    simp only [buildOn, BuildsFirstUsable, map_fst_reasons hfound, true_and, and_true,
      forall_const]
  | some path =>
    cases path with
    | gasless => simp [buildOn, BuildsFirstUsable]
    | coinObject => simp [buildOn, BuildsFirstUsable]
    | sponsored => exact absurd (List.find?_some hfound) (by simp [cleared, check])

/-! ## When the difference matters -/

/-- The gasless path is come to: no coin object is taken before it. -/
def ReachesGasless (amount : Nat) (funds : Funding) (paths : List PaymentPath) : Prop :=
  ∃ before after, paths = before ++ .gasless :: after ∧ .gasless ∉ before ∧
    ¬ (.coinObject ∈ before ∧ amount ≤ funds.coinBalance)

theorem find?_before {before : List PaymentPath} (hfirst : .gasless ∉ before)
    (hcoin : ¬ (.coinObject ∈ before ∧ amount ≤ funds.coinBalance)) :
    before.find? (cleared amount funds gasStation) = none ∧
      before.find? (usable decimals amount funds) = none := by
  have hnone : before.find? (usable decimals amount funds) = none := by
    refine List.find?_eq_none.mpr fun path hpath => ?_
    cases path with
    | gasless => exact absurd hpath hfirst
    | sponsored => simp [usable]
    | coinObject => simpa [usable] using fun hle => hcoin ⟨hpath, hle⟩
  exact ⟨find?_usable_eq hfirst ▸ hnone, hnone⟩

/-- The client's floor does not matter: it is the server's; or the gasless path is not come to; or
the amount is above it, and not gasless for want of funds or above the server's floor too; or the
amount is below it, and not gasless for the server either, and a coin object is taken. -/
def FloorImmaterial (decimals amount : Nat) (funds : Funding) (paths : List PaymentPath) : Prop :=
  gaslessMinimumBaseUnits decimals = gaslessMinimum ∨
  ¬ ReachesGasless amount funds paths ∨
  (gaslessMinimum ≤ amount ∧
    (funds.addressBalance < amount ∨ gaslessMinimumBaseUnits decimals ≤ amount)) ∨
  (amount < gaslessMinimum ∧
    ¬ (gaslessMinimumBaseUnits decimals ≤ amount ∧ amount ≤ funds.addressBalance) ∧
    .coinObject ∈ paths ∧ amount ≤ funds.coinBalance)

/-- **Enough.** -/
theorem finds_of_floorImmaterial (h : FloorImmaterial decimals amount funds paths) :
    paths.find? (usable decimals amount funds) = paths.find? (cleared amount funds gasStation) ∧
      (paths.find? (cleared amount funds gasStation) = none →
        ∀ s ∈ reasons amount funds gasStation paths,
          Justified decimals amount funds gasStation s.1 s.2) := by
  have hjustified : (.gasless ∈ paths → gaslessMinimumBaseUnits decimals = gaslessMinimum ∨
      gaslessMinimum ≤ amount) → ∀ s ∈ reasons amount funds gasStation paths,
        Justified decimals amount funds gasStation s.1 s.2 := by
    intro hfloor s hs
    obtain ⟨path, hpath, hmap⟩ := List.mem_filterMap.mp hs
    obtain ⟨reason, hcheck, rfl⟩ := Option.map_eq_some_iff.mp hmap
    exact justified_of_check hcheck fun hgasless => hfloor (hgasless ▸ hpath)
  -- The four ways in which the client's floor makes no difference.
  rcases h with hsame | hunreached | ⟨hle, hserver⟩ | ⟨hlt, hserver, hcoin, hfunds⟩
  · have hagrees : GaslessAgrees decimals amount funds := by rw [GaslessAgrees, hsame]
    exact ⟨by rw [hagrees.cleared_eq_usable], fun _ => hjustified fun _ => .inl hsame⟩
  · by_cases hmem : .gasless ∈ paths
    · obtain ⟨before, after, rfl, hfirst⟩ := List.eq_append_cons_of_mem hmem
      -- A coin object is taken before the gasless path is come to.
      have htaken : .coinObject ∈ before ∧ amount ≤ funds.coinBalance := by
        by_contra hcoin
        exact hunreached ⟨before, after, rfl, hfirst, hcoin⟩
      obtain ⟨path, hpath⟩ : ∃ path, before.find? (usable decimals amount funds) = some path := by
        refine Option.isSome_iff_exists.mp (List.find?_isSome.mpr ⟨_, htaken.1, ?_⟩)
        simpa [usable] using htaken.2
      rw [List.find?_append, List.find?_append, ← find?_usable_eq hfirst, hpath]
      exact ⟨rfl, nofun⟩
    · exact ⟨find?_usable_eq hmem, fun _ => hjustified fun h => absurd h hmem⟩
  · have hagrees : GaslessAgrees decimals amount funds := by
      unfold GaslessAgrees
      omega
    exact ⟨by rw [hagrees.cleared_eq_usable], fun _ => hjustified fun _ => .inr hle⟩
  · have hagrees : GaslessAgrees decimals amount funds := by
      unfold GaslessAgrees
      omega
    rw [hagrees.cleared_eq_usable]
    refine ⟨rfl, fun hnone => ?_⟩
    have hunusable := List.find?_eq_none.mp hnone _ hcoin
    simp [usable, hfunds] at hunusable

/-- **Necessary.** -/
theorem floorImmaterial_of_finds
    (hfinds : paths.find? (usable decimals amount funds) =
      paths.find? (cleared amount funds gasStation))
    (hjustified : paths.find? (cleared amount funds gasStation) = none →
      ∀ s ∈ reasons amount funds gasStation paths,
        Justified decimals amount funds gasStation s.1 s.2) :
    FloorImmaterial decimals amount funds paths := by
  by_contra hmatters
  simp only [FloorImmaterial, not_or, not_not] at hmatters
  obtain ⟨hdiffer, ⟨before, after, rfl, hfirst, hcoin⟩, habove, hbelow⟩ := hmatters
  obtain ⟨hcleared, husable⟩ : before.find? (cleared amount funds gasStation) = none ∧
      before.find? (usable decimals amount funds) = none := find?_before hfirst hcoin
  rw [List.find?_append, List.find?_append, hcleared, husable, Option.none_or, Option.none_or]
    at hfinds
  by_cases hle : gaslessMinimum ≤ amount
  · -- the client takes the gasless path, below the server's floor
    have hserver : funds.addressBalance ≥ amount ∧ amount < gaslessMinimumBaseUnits decimals := by
      omega
    rw [List.find?_cons_of_pos (cleared_gasless.mpr ⟨hle, hserver.1⟩)] at hfinds
    have hgasless := List.find?_some hfinds
    simp only [usable, decide_eq_true_eq] at hgasless
    omega
  · have hskipped : ¬ cleared amount funds gasStation .gasless = true :=
      fun h => hle (cleared_gasless.mp h).1
    rw [List.find?_cons_of_neg hskipped] at hfinds
    by_cases hserver : gaslessMinimumBaseUnits decimals ≤ amount ∧ amount ≤ funds.addressBalance
    · -- the server would take it, and the client finds another or none
      rw [List.find?_cons_of_pos (by simpa [usable] using hserver)] at hfinds
      exact hskipped (List.find?_some hfinds.symm)
    · -- nothing is found, and the floor that the client names is not the server's
      have hnone : (before ++ .gasless :: after).find? (cleared amount funds gasStation) = none := by
        refine List.find?_eq_none.mpr fun path hpath => ?_
        cases path with
        | gasless => exact hskipped
        | sponsored => simp [cleared, check]
        | coinObject =>
          have hsame : cleared amount funds gasStation .coinObject =
              usable decimals amount funds .coinObject := X402Verifier.cleared_eq_usable (by decide)
          rw [hsame]
          have hshort : ¬ amount ≤ funds.coinBalance :=
            fun hfunds => hbelow ⟨Nat.not_le.mp hle, hserver, hpath, hfunds⟩
          simpa [usable] using hshort
      have hreason : check .gasless amount funds gasStation =
          some (.belowGaslessFloor amount gaslessMinimum) := if_pos (Nat.not_le.mp hle)
      have hmem : (PaymentPath.gasless, Skipped.belowGaslessFloor amount gaslessMinimum) ∈
          reasons amount funds gasStation (before ++ .gasless :: after) :=
        List.mem_filterMap.mpr ⟨.gasless, by simp, by rw [hreason]; rfl⟩
      have htrue := hjustified hnone _ hmem
      generalize hfloor : gaslessMinimum = floor at htrue hdiffer
      cases htrue with
      | belowGaslessFloor h => exact hdiffer rfl

end Floors

/-- **The path of a payment.** Building a payment takes the first usable path or says truly why there
is none, exactly if the client's floor does not matter. -/
theorem builds_first_usable_iff {α : Type} (node : ClientNode)
    (buildGaslessPayment : Except Messages α) (sender payee : Bytes) (asset : String)
    (decimals amount : Nat) (funds : Funding) (gasStation : Option String)
    (paths : List PaymentPath) :
    BuildsFirstUsable decimals amount funds gasStation asset paths
        (node.tryPaths buildGaslessPayment sender payee asset amount funds gasStation [] paths) ↔
      FloorImmaterial decimals amount funds paths := by
  rw [tryPaths_eq, List.nil_append]
  refine (builds_buildOn_iff node buildGaslessPayment sender payee asset).trans ?_
  exact ⟨fun h => floorImmaterial_of_finds h.1 h.2, finds_of_floorImmaterial⟩

/-- **Below the server's floor.** A payment of a thousandth of a coin with nine decimals, which Sui
does not execute, is built on the gasless path. -/
theorem nine_decimals_built_gasless :
    ¬ ∀ (node : ClientNode) (decimals amount : Nat) (funds : Funding)
      (gasStation : Option String) (paths : List PaymentPath),
      BuildsFirstUsable decimals amount funds gasStation "0x5::coin::COIN" paths
        (node.tryPaths (.ok ()) [1] [2] "0x5::coin::COIN" amount funds gasStation [] paths) := by
  intro h
  have hpromised := h exampleNode 9 1000000 ⟨1000000, 1000000⟩ none [.gasless, .coinObject]
  rw [tryPaths_eq] at hpromised
  have hfirst : [PaymentPath.gasless, .coinObject].find? (usable 9 1000000 ⟨1000000, 1000000⟩) =
      some .gasless := hpromised
  exact absurd hfirst (by decide)

end X402Verifier
