import X402Verifier.ConfigChecked
import X402Verifier.PaymentBuilder

/-!
# Two coins or one

A payment that splits a coin picks that coin and its gas coin by two searches: each takes the first
complete object of its type that holds enough. For two types they never meet. For one type they are
two searches of one list, and meet exactly if the first object that is enough for either is enough
for both (`coins_distinct_iff`).

`OwnedBy` is what the fullnode's listing of a sender is taken for: objects with a type each, no two
with one id, and an answer for each type it is asked for.
-/

namespace X402Verifier

open RustStd

/-! ## The search -/

/-- A complete object that holds enough. -/
def OwnedObject.serves (atLeast : Nat) (object : OwnedObject) : Bool :=
  atLeast ≤ object.balance.getD 0 && object.objectId.isSome && object.version.isSome &&
    object.digest.isSome

theorem serves_of_le {low high : Nat} (hle : low ≤ high) {object : OwnedObject}
    (h : object.serves high = true) : object.serves low = true := by
  simp only [OwnedObject.serves, Bool.and_eq_true, decide_eq_true_eq] at h ⊢
  exact ⟨⟨⟨Nat.le_trans hle h.1.1.1, h.1.1.2⟩, h.1.2⟩, h.2⟩

theorem serves_max {m n : Nat} {object : OwnedObject} :
    object.serves (max m n) = true ↔ object.serves m = true ∧ object.serves n = true := by
  simp only [OwnedObject.serves, Bool.and_eq_true, decide_eq_true_eq, Nat.max_le]
  tauto

/-- The first object that is enough for less is the first that is enough for more, if it is. -/
theorem find?_serves_eq {low high : Nat} (hle : low ≤ high) {objects : List OwnedObject}
    {object : OwnedObject} (h : objects.find? (·.serves low) = some object)
    (hserves : object.serves high = true) : objects.find? (·.serves high) = some object := by
  obtain ⟨-, before, after, rfl, hbefore⟩ := List.find?_eq_some_iff_append.mp h
  refine List.find?_eq_some_iff_append.mpr ⟨hserves, before, after, rfl, fun other hother => ?_⟩
  have hlow := hbefore other hother
  cases hhigh : other.serves high with
  | false => rfl
  | true => simp [serves_of_le hle hhigh] at hlow

namespace ClientNode

variable {node : ClientNode}

/-- The object and the coin it is read as. -/
structure Reads (node : ClientNode) (object : OwnedObject) (coin : Coin) : Prop where
  complete : ∃ id version digest, object.objectId = some id ∧ object.version = some version ∧
    object.digest = some digest ∧ node.readCoin id version digest = .ok coin

theorem reads_iff {object : OwnedObject} {coin : Coin} {id digest : String} {version : Nat}
    (hid : object.objectId = some id) (hversion : object.version = some version)
    (hdigest : object.digest = some digest) :
    node.Reads object coin ↔ node.readCoin id version digest = .ok coin := by
  constructor
  · intro h
    obtain ⟨id', version', digest', hid', hversion', hdigest', hread⟩ := h.complete
    cases hid.symm.trans hid'
    cases hversion.symm.trans hversion'
    cases hdigest.symm.trans hdigest'
    exact hread
  · exact fun hread => ⟨id, version, digest, hid, hversion, hdigest, hread⟩

/-- **The search** returns the first object that serves, as it is read. -/
theorem pickAmong_eq_ok {atLeast : Nat} {objects : List OwnedObject} {coin : Coin} :
    node.pickAmong atLeast objects = some (.ok coin) ↔
      ∃ object, objects.find? (·.serves atLeast) = some object ∧ node.Reads object coin := by
  induction objects with
  | nil => simp [pickAmong]
  | cons object rest ih =>
    rw [pickAmong]
    split_ifs with hshort
    · have hserves : object.serves atLeast = false := by
        simp [OwnedObject.serves, Nat.not_le.mpr hshort]
      rw [ih, List.find?_cons_of_neg (by simp [hserves])]
    · split
      · rename_i id version digest hid hversion hdigest
        have hserves : object.serves atLeast = true := by
          simp [OwnedObject.serves, Nat.not_lt.mp hshort, hid, hversion, hdigest]
        rw [List.find?_cons_of_pos hserves, Option.some.injEq]
        constructor
        · exact fun h => ⟨object, rfl, (reads_iff hid hversion hdigest).mpr h⟩
        · intro h
          obtain ⟨_, heq, hreads⟩ := h
          obtain rfl := Option.some.inj heq
          exact (reads_iff hid hversion hdigest).mp hreads
      · rename_i hincomplete
        have hserves : object.serves atLeast = false := by
          by_contra h
          simp only [OwnedObject.serves, Bool.and_eq_true, Bool.not_eq_false,
            Option.isSome_iff_exists] at h
          obtain ⟨⟨⟨-, id, hid⟩, version, hversion⟩, digest, hdigest⟩ := h
          exact hincomplete id version digest hid hversion hdigest
        rw [ih, List.find?_cons_of_neg (by simp [hserves])]

theorem pickCoin_eq_ok {owner : Bytes} {coinType : String} {atLeast : Nat} {coin : Coin} :
    node.pickCoin owner coinType atLeast = .ok coin ↔
      ∃ objects, node.listOwnedObjects (coinObjectType coinType) = .ok objects ∧
        ∃ object, objects.find? (·.serves atLeast) = some object ∧ node.Reads object coin := by
  unfold pickCoin
  cases node.listOwnedObjects (coinObjectType coinType) with
  | error e => simp
  | ok objects =>
    simp only [Except.ok.injEq, exists_eq_left']
    rw [← pickAmong_eq_ok]
    cases node.pickAmong atLeast objects with
    | none => simp
    | some picked => simp

/-! ## The two coins -/

theorem buildCoinObjectPayment_eq_ok {sender payee : Bytes} {asset : String} {amount : Nat}
    {payment : CoinObjectPayment} :
    node.buildCoinObjectPayment sender payee asset amount = .ok payment ↔
      ∃ paymentCoin gasCoin gasPrice, node.pickCoin sender asset amount = .ok paymentCoin ∧
        node.pickCoin sender suiCoinType gasBudget = .ok gasCoin ∧
        node.referenceGasPrice = .ok gasPrice ∧
        payment = { sender, gasBudget, gasPrice, gasCoin, paymentCoin, amount, payee } := by
  simp only [buildCoinObjectPayment, Except.bind_eq_ok, withContext_eq_ok, Except.ok.injEq]
  constructor
  · rintro ⟨paymentCoin, hpayment, gasCoin, hgas, gasPrice, hprice, rfl⟩
    exact ⟨paymentCoin, gasCoin, gasPrice, hpayment, hgas, hprice, rfl⟩
  · rintro ⟨paymentCoin, gasCoin, gasPrice, hpayment, hgas, hprice, rfl⟩
    exact ⟨paymentCoin, hpayment, gasCoin, hgas, gasPrice, hprice, rfl⟩

/-- An object the sender owns, and its type. -/
structure Holding where
  objectType : String
  object : OwnedObject

def idOf (node : ClientNode) (object : OwnedObject) : Option Bytes :=
  object.objectId.bind fun id => (node.parseAddress id).toOption

/-- What the sender owns of a type, when the fullnode reads the type's text so. -/
def ofType (typeOf : String → Option String) (objectType : String) (owned : List Holding) :
    List OwnedObject :=
  (owned.filter fun holding => some holding.objectType = typeOf objectType).map (·.object)

/-- The fullnode lists what the sender owns, of the type it is asked for and in one order. No two
objects have one id. -/
structure OwnedBy (node : ClientNode) (typeOf : String → Option String) (owned : List Holding) :
    Prop where
  listed : ∀ objectType objects, node.listOwnedObjects objectType = .ok objects →
    objects = ofType typeOf objectType owned
  distinct : owned.Pairwise fun a b => ∀ id, node.idOf a.object = some id → node.idOf b.object ≠ some id

variable {typeOf : String → Option String} {owned : List Holding}

theorem OwnedBy.eq_of_idOf (h : node.OwnedBy typeOf owned) {a b : Holding} (ha : a ∈ owned)
    (hb : b ∈ owned) {id : Bytes} (hida : node.idOf a.object = some id)
    (hidb : node.idOf b.object = some id) : a = b := by
  by_contra hne
  have hsymm : Std.Symm fun a b : Holding =>
      ∀ id, node.idOf a.object = some id → node.idOf b.object ≠ some id :=
    ⟨fun a b hab id hb ha => hab id ha hb⟩
  exact h.distinct.forall ha hb hne id hida hidb

theorem Reads.idOf_eq {object : OwnedObject} {coin : Coin} (h : node.Reads object coin) :
    node.idOf object = some coin.id := by
  obtain ⟨id, version, digest, hid, -, -, hread⟩ := h.complete
  unfold readCoin at hread
  unfold ClientNode.idOf
  rw [hid]
  cases hparse : node.parseAddress id with
  | error e =>
    rw [hparse] at hread
    cases hread
  | ok bytes =>
    rw [hparse] at hread
    dsimp only at hread
    split at hread
    · cases hread
    · cases hread
      simp [hparse, Except.toOption]

/-- A coin of this type that the sender owns and that holds at least this much. -/
def Holds (node : ClientNode) (typeOf : String → Option String) (owned : List Holding)
    (coinType : String) (atLeast : Nat) (coin : Coin) : Prop :=
  ∃ holding ∈ owned, some holding.objectType = typeOf (coinObjectType coinType) ∧
    atLeast ≤ holding.object.balance.getD 0 ∧ node.Reads holding.object coin

theorem OwnedBy.holds_of_pickCoin (h : node.OwnedBy typeOf owned) {owner : Bytes}
    {coinType : String} {atLeast : Nat} {coin : Coin}
    (hpick : node.pickCoin owner coinType atLeast = .ok coin) :
    node.Holds typeOf owned coinType atLeast coin := by
  obtain ⟨objects, hlist, object, hfind, hreads⟩ := pickCoin_eq_ok.mp hpick
  obtain ⟨holding, hmem, rfl⟩ := List.mem_map.mp (h.listed _ _ hlist ▸ List.mem_of_find?_eq_some hfind)
  obtain ⟨howned, htype⟩ := List.mem_filter.mp hmem
  have hserves := List.find?_some hfind
  simp only [OwnedObject.serves, Bool.and_eq_true, decide_eq_true_eq] at hserves
  exact ⟨holding, howned, of_decide_eq_true htype, hserves.1.1.1, hreads⟩

/-- The coin that is split holds the amount, the gas coin holds the budget in SUI, and they are two
objects. -/
structure Funded (node : ClientNode) (typeOf : String → Option String) (owned : List Holding)
    (asset : String) (amount : Nat) (built : CoinObjectPayment) : Prop where
  payment : node.Holds typeOf owned asset amount built.paymentCoin
  gas : node.Holds typeOf owned suiCoinType gasBudget built.gasCoin
  distinct : built.paymentCoin.id ≠ built.gasCoin.id

/-- The asset is SUI, and the first SUI coin that is enough for the amount or for the gas is enough
for both. The fullnode answers, and the coin can be read. -/
structure OneCoinForBoth (node : ClientNode) (typeOf : String → Option String)
    (owned : List Holding) (asset : String) (amount : Nat) : Prop where
  sui : typeOf (coinObjectType asset) = typeOf (coinObjectType suiCoinType)
  coin : ∃ object coin,
    (ofType typeOf (coinObjectType suiCoinType) owned).find? (·.serves (min amount gasBudget)) =
      some object ∧
    object.serves (max amount gasBudget) = true ∧ node.Reads object coin
  answered : ∀ coinType ∈ [asset, suiCoinType],
    ∃ objects, node.listOwnedObjects (coinObjectType coinType) = .ok objects
  priced : ∃ gasPrice, node.referenceGasPrice = .ok gasPrice

/-- Then that coin is picked, for the amount and for the gas. -/
theorem OneCoinForBoth.exists_payment (howned : node.OwnedBy typeOf owned) {asset : String}
    {amount : Nat} (h : node.OneCoinForBoth typeOf owned asset amount) (sender payee : Bytes) :
    ∃ payment, node.buildCoinObjectPayment sender payee asset amount = .ok payment ∧
      payment.paymentCoin = payment.gasCoin := by
  obtain ⟨object, coin, hfind, hserves, hreads⟩ := h.coin
  obtain ⟨gasPrice, hprice⟩ := h.priced
  obtain ⟨hasset, hgas⟩ := serves_max.mp hserves
  have hpick : ∀ coinType ∈ [asset, suiCoinType], ∀ atLeast, min amount gasBudget ≤ atLeast →
      object.serves atLeast = true → node.pickCoin sender coinType atLeast = .ok coin := by
    intro coinType hmem atLeast hle hserves
    obtain ⟨objects, hlist⟩ := h.answered coinType hmem
    refine pickCoin_eq_ok.mpr ⟨objects, hlist, object, ?_, hreads⟩
    have htype : typeOf (coinObjectType coinType) = typeOf (coinObjectType suiCoinType) := by
      rcases List.mem_pair.mp hmem with rfl | rfl
      · exact h.sui
      · rfl
    rw [howned.listed _ _ hlist, ofType, htype]
    exact find?_serves_eq hle hfind hserves
  refine ⟨_, buildCoinObjectPayment_eq_ok.mpr ⟨coin, coin, gasPrice, ?_, ?_, hprice, rfl⟩, rfl⟩
  · exact hpick asset (by simp) amount (Nat.min_le_left _ _) hasset
  · exact hpick suiCoinType (by simp) gasBudget (Nat.min_le_right _ _) hgas

theorem OwnedBy.oneCoinForBoth (howned : node.OwnedBy typeOf owned) {sender payee : Bytes}
    {asset : String} {amount : Nat} {payment : CoinObjectPayment}
    (hbuild : node.buildCoinObjectPayment sender payee asset amount = .ok payment)
    (hsame : payment.paymentCoin.id = payment.gasCoin.id) :
    node.OneCoinForBoth typeOf owned asset amount := by
  obtain ⟨paymentCoin, gasCoin, gasPrice, hpayment, hgas, hprice, rfl⟩ :=
    buildCoinObjectPayment_eq_ok.mp hbuild
  obtain ⟨assets, hassets, p, hp, hpreads⟩ := pickCoin_eq_ok.mp hpayment
  obtain ⟨suis, hsuis, g, hg, hgreads⟩ := pickCoin_eq_ok.mp hgas
  have hassets' := howned.listed _ _ hassets
  have hsuis' := howned.listed _ _ hsuis
  obtain ⟨a, ha, rfl⟩ := List.mem_map.mp (hassets' ▸ List.mem_of_find?_eq_some hp)
  obtain ⟨b, hb, rfl⟩ := List.mem_map.mp (hsuis' ▸ List.mem_of_find?_eq_some hg)
  obtain ⟨haowned, hatype⟩ := List.mem_filter.mp ha
  obtain ⟨hbowned, hbtype⟩ := List.mem_filter.mp hb
  have hid : node.idOf b.object = some paymentCoin.id :=
    hgreads.idOf_eq.trans (congrArg some hsame.symm)
  obtain rfl := howned.eq_of_idOf haowned hbowned hpreads.idOf_eq hid
  -- one object has one type, so both searches went through one list
  have hsui : typeOf (coinObjectType asset) = typeOf (coinObjectType suiCoinType) :=
    (of_decide_eq_true hatype).symm.trans (of_decide_eq_true hbtype)
  have hlist : assets = suis := by rw [hassets', hsuis', ofType, ofType, hsui]
  refine ⟨hsui, ⟨a.object, paymentCoin, ?_, ?_, hpreads⟩, ?_, gasPrice, hprice⟩
  · rw [← hsuis']
    rcases Nat.le_total amount gasBudget with hle | hle
    · rw [Nat.min_eq_left hle, ← hlist]
      exact hp
    · rw [Nat.min_eq_right hle]
      exact hg
  · exact serves_max.mpr ⟨List.find?_some hp, List.find?_some hg⟩
  · intro coinType hmem
    rcases List.mem_pair.mp hmem with rfl | rfl
    · exact ⟨assets, hassets⟩
    · exact ⟨suis, hsuis⟩

/-- **The coins of a payment.** Whatever is built is funded, exactly if no SUI coin is taken for
both. -/
theorem coins_distinct_iff (howned : node.OwnedBy typeOf owned) (sender payee : Bytes)
    (asset : String) (amount : Nat) :
    (∀ payment, node.buildCoinObjectPayment sender payee asset amount = .ok payment →
      node.Funded typeOf owned asset amount payment) ↔
    ¬ node.OneCoinForBoth typeOf owned asset amount := by
  constructor
  · intro hfunded hone
    obtain ⟨payment, hbuild, hsame⟩ := hone.exists_payment howned sender payee
    exact (hfunded payment hbuild).distinct (congrArg Coin.id hsame)
  · intro hnot payment hbuild
    have hdistinct : payment.paymentCoin.id ≠ payment.gasCoin.id :=
      fun hsame => hnot (howned.oneCoinForBoth hbuild hsame)
    obtain ⟨paymentCoin, gasCoin, gasPrice, hpayment, hgas, hprice, rfl⟩ :=
      buildCoinObjectPayment_eq_ok.mp hbuild
    exact ⟨howned.holds_of_pickCoin hpayment, howned.holds_of_pickCoin hgas, hdistinct⟩

/-! ## A sender with two coins of SUI and one of USDC -/

section Example

/-- USDC, as this sender's chain names it. -/
def usdcCoinType : String := "0x5::usdc::USDC"

/-- The sender's coins: two of SUI, of which the first is enough for anything, and one of USDC. -/
def exampleHoldings : List Holding :=
  let digest := "11111111111111111111111111111111"
  let coin (coinType : String) (fill : UInt8) (balance : Nat) : Holding :=
    ⟨coinObjectType coinType,
      ⟨some (addressText (List.replicate 32 fill)), some 7, some digest, some balance⟩⟩
  [coin suiCoinType 0x11 50000000, coin usdcCoinType 0x33 2500, coin suiCoinType 0x22 20000000]

/-- Every type is its own name. -/
def exampleNode : ClientNode where
  parseAddress s := match stripPrefix s "0x" with
    | some digits => hexBytes digits.toList
    | none => .error "an address starts with 0x"
  parseDigest s :=
    if s = "11111111111111111111111111111111" then .ok (List.replicate 32 0)
    else .error "no digest of zeros"
  getBalance _ := .ok none
  listOwnedObjects objectType := .ok (ofType some objectType exampleHoldings)
  referenceGasPrice := .ok 1000

theorem ownedBy_exampleNode : exampleNode.OwnedBy some exampleHoldings where
  listed := fun objectType objects h => (Except.ok.inj h).symm
  distinct := by
    have hids : exampleHoldings.map (fun holding => exampleNode.idOf holding.object) =
        [some (List.replicate 32 0x11), some (List.replicate 32 0x33),
          some (List.replicate 32 0x22)] := by decide +kernel
    have hpair : (exampleHoldings.map fun holding => exampleNode.idOf holding.object).Pairwise
        fun a b => ∀ id, a = some id → b ≠ some id := by
      rw [hids]
      simp
    exact List.pairwise_map.mp hpair

/-- A payment of USDC is built, from the coin of USDC and the first of SUI. -/
theorem coins_distinct_iff_example :
    (exampleNode.buildCoinObjectPayment [1] [2] usdcCoinType 1000).toOption.map
        (fun payment => (payment.paymentCoin.id, payment.gasCoin.id)) =
      some (List.replicate 32 0x33, List.replicate 32 0x11) ∧
    ((∀ payment, exampleNode.buildCoinObjectPayment [1] [2] usdcCoinType 1000 = .ok payment →
        exampleNode.Funded some exampleHoldings usdcCoinType 1000 payment) ↔
      ¬ exampleNode.OneCoinForBoth some exampleHoldings usdcCoinType 1000) :=
  ⟨by decide +kernel, coins_distinct_iff ownedBy_exampleNode [1] [2] usdcCoinType 1000⟩

/-- **One object for both.** A payment in SUI is built that splits its own gas coin. -/
theorem sui_payment_splits_gas_coin :
    exampleNode.OwnedBy some exampleHoldings ∧
    ¬ ∀ payment, exampleNode.buildCoinObjectPayment [1] [2] suiCoinType 1000 = .ok payment →
      exampleNode.Funded some exampleHoldings suiCoinType 1000 payment := by
  refine ⟨ownedBy_exampleNode, fun h => ?_⟩
  obtain ⟨payment, hbuild, hsame⟩ : ∃ payment,
      exampleNode.buildCoinObjectPayment [1] [2] suiCoinType 1000 = .ok payment ∧
        payment.paymentCoin.id = payment.gasCoin.id := ⟨_, rfl, rfl⟩
  exact (h payment hbuild).distinct hsame

end Example

end ClientNode

end X402Verifier
