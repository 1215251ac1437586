import X402Verifier.HexText
import X402Verifier.PayClient

/-!
# Building a payment

The rest of `payclient.rs`: which way a payment is funded (`buildPayment`), and the coins of a
payment that splits one (`buildCoinObjectPayment`).

What the client asks of the fullnode is a `ClientNode`. A transaction is what is handed to the
transaction builder. The gasless one is not looked into.
-/

namespace X402Verifier

open RustStd

def gasBudget : Nat := 10000000

/-- Smallest transfer Sui's gasless path executes, in base units of a 6-decimal stablecoin. -/
def gaslessMinimum : Nat := 10000

/-! ## Paths -/

inductive PaymentPath where
  | gasless
  | sponsored
  | coinObject
  deriving DecidableEq

def PaymentPath.name : PaymentPath → String
  | .gasless => "gasless"
  | .sponsored => "sponsored"
  | .coinObject => "coin-object"

/-- Why a path was passed over. -/
inductive Skipped where
  | belowGaslessFloor (amount floor : Nat)
  | addressBalanceShort (held need : Nat)
  | noGasStationAdvertised
  | sponsorshipNotImplemented
  | coinObjectsShort (held need : Nat)
  deriving DecidableEq

def Skipped.display : Skipped → String
  | .belowGaslessFloor amount floor =>
    "price " ++ toString amount ++ " is below the gasless floor of " ++ toString floor ++
      "; Sui will not execute a gasless transfer that small"
  | .addressBalanceShort held need =>
    "address balance holds " ++ toString held ++ ", needs " ++ toString need ++
      ". Coin objects do not count — move funds across once with `0x2::coin::send_funds` " ++
      "(costs gas once)"
  | .noGasStationAdvertised => "the server advertised no extra.gasStation"
  | .sponsorshipNotImplemented =>
    "a gas station was advertised but the interactive sponsorship protocol is not implemented here"
  | .coinObjectsShort held need =>
    "Coin objects hold " ++ toString held ++ ", needs " ++ toString need

/-- What a sender can spend: by the gasless path, and by the coin-object path. -/
structure Funding where
  addressBalance : Nat
  coinBalance : Nat
  deriving DecidableEq

structure Balance where
  addressBalance : Option Nat := none
  coinBalance : Option Nat := none
  deriving DecidableEq

/-- An address that has never held the coin has no balance at all. -/
def Funding.ofBalance (balance : Option Balance) : Funding :=
  { addressBalance := (balance.bind (·.addressBalance)).getD 0
    coinBalance := (balance.bind (·.coinBalance)).getD 0 }

/-- Preconditions for one path. `none` means it is usable. -/
def check (path : PaymentPath) (amount : Nat) (funds : Funding) (gasStation : Option String) :
    Option Skipped :=
  match path with
  | .gasless =>
    if amount < gaslessMinimum then some (.belowGaslessFloor amount gaslessMinimum)
    else if funds.addressBalance < amount then
      some (.addressBalanceShort funds.addressBalance amount)
    else none
  | .sponsored =>
    some (match gasStation with
      | none => .noGasStationAdvertised
      | some _ => .sponsorshipNotImplemented)
  | .coinObject =>
    if funds.coinBalance < amount then some (.coinObjectsShort funds.coinBalance amount) else none

/-- A name in a column of twelve. -/
def padded (name : String) : String :=
  name ++ String.ofList (List.replicate (12 - name.length) ' ')

/-- The message for a payer whose every path was unavailable. -/
def noPathAvailable (asset : String) (amount : Nat) (funds : Funding)
    (skipped : List (PaymentPath × Skipped)) : String :=
  "no usable payment path for " ++ toString amount ++ " of " ++ asset ++ ". Holdings: " ++
    toString funds.addressBalance ++ " in the address balance, " ++ toString funds.coinBalance ++
    " in Coin objects." ++
    String.join (skipped.map fun (path, why) => "\n  " ++ padded path.name ++ " " ++ why.display) ++
    if funds.addressBalance = 0 ∧ funds.coinBalance = 0 then
      "\n  This address holds none of this coin. Fund it at https://faucet.circle.com (Sui Testnet)."
    else ""

/-! ## Coins -/

structure OwnedObject where
  objectId : Option String := none
  version : Option Nat := none
  digest : Option String := none
  balance : Option Nat := none
  deriving DecidableEq

structure Coin where
  id : Bytes
  version : Nat
  digest : Bytes
  deriving DecidableEq

/-- What the client asks the fullnode about the sender, and how it reads the texts it is answered. -/
structure ClientNode where
  /-- `Address`'s `FromStr`. -/
  parseAddress : String → Except String Bytes
  /-- `Digest`'s `FromStr`. -/
  parseDigest : String → Except String Bytes
  /-- `GetBalance`, for a coin type. -/
  getBalance : String → Except Messages (Option Balance)
  /-- `ListOwnedObjects`, for an object type. -/
  listOwnedObjects : String → Except String (List OwnedObject)
  /-- `reference_gas_price`. -/
  referenceGasPrice : Except Messages Nat

def coinObjectType (coinType : String) : String := "0x2::coin::Coin<" ++ coinType ++ ">"

def suiCoinType : String := "0x2::sui::SUI"

namespace ClientNode

variable (node : ClientNode)

def readCoin (id : String) (version : Nat) (digest : String) : Except Messages Coin :=
  match node.parseAddress id with
  | .error e => .error ["object id: " ++ e]
  | .ok id =>
    match node.parseDigest digest with
    | .error e => .error ["digest: " ++ e]
    | .ok digest => .ok ⟨id, version, digest⟩

/-- The first complete object that holds at least `atLeast`. A balance that is not reported is
zero. -/
def pickAmong (atLeast : Nat) : List OwnedObject → Option (Except Messages Coin)
  | [] => none
  | object :: rest =>
    if object.balance.getD 0 < atLeast then pickAmong atLeast rest
    else
      match object.objectId, object.version, object.digest with
      | some id, some version, some digest => some (node.readCoin id version digest)
      | _, _, _ => pickAmong atLeast rest

/-- Find an owned coin of `coinType` holding at least `atLeast`. -/
def pickCoin (owner : Bytes) (coinType : String) (atLeast : Nat) : Except Messages Coin :=
  match node.listOwnedObjects (coinObjectType coinType) with
  | .error e => .error ["ListOwnedObjects: " ++ e]
  | .ok objects =>
    (node.pickAmong atLeast objects).getD (.error
      ["no " ++ coinType ++ " coin owned by " ++ addressText owner ++ " holds at least " ++
        toString atLeast ++ ". Fund it — USDC at https://faucet.circle.com (Sui Testnet), " ++
        "SUI via `sui client faucet`."])

/-- A payment that splits a coin, as it is handed to the transaction builder. -/
structure CoinObjectPayment where
  sender : Bytes
  gasBudget : Nat
  gasPrice : Nat
  gasCoin : Coin
  paymentCoin : Coin
  amount : Nat
  payee : Bytes
  deriving DecidableEq

def buildCoinObjectPayment (sender payee : Bytes) (asset : String) (amount : Nat) :
    Except Messages CoinObjectPayment := do
  let paymentCoin ← withContext ("finding a " ++ asset ++ " coin worth at least " ++ toString amount)
    (node.pickCoin sender asset amount)
  let gasCoin ← withContext "finding a SUI coin for gas" (node.pickCoin sender suiCoinType gasBudget)
  let gasPrice ← node.referenceGasPrice
  .ok { sender, gasBudget, gasPrice, gasCoin, paymentCoin, amount, payee }

/-! ## The payment -/

inductive PaymentBuild (α : Type) where
  | gasless (built : Except Messages α)
  | coinObject (built : Except Messages CoinObjectPayment)
  /-- The arm of the path that is never cleared. -/
  | unreachable
  | unavailable (skipped : List (PaymentPath × Skipped)) (message : String)

/-- Try each path in turn, after those that were skipped. -/
def tryPaths {α : Type} (buildGaslessPayment : Except Messages α) (sender payee : Bytes)
    (asset : String) (amount : Nat) (funds : Funding) (gasStation : Option String)
    (skipped : List (PaymentPath × Skipped)) : List PaymentPath → PaymentBuild α
  | [] => .unavailable skipped (noPathAvailable asset amount funds skipped)
  | path :: paths =>
    match check path amount funds gasStation with
    | some reason =>
      tryPaths buildGaslessPayment sender payee asset amount funds gasStation
        (skipped ++ [(path, reason)]) paths
    | none =>
      match path with
      | .gasless => .gasless buildGaslessPayment
      | .coinObject => .coinObject (node.buildCoinObjectPayment sender payee asset amount)
      | .sponsored => .unreachable

/-- Build a payment on the first path whose preconditions hold. `buildGaslessPayment` is what the
gasless path builds of these arguments. -/
def buildPayment {α : Type} (buildGaslessPayment : Except Messages α) (sender payee : Bytes)
    (asset : String) (amount : Nat) (paths : List PaymentPath) (gasStation : Option String) :
    Except Messages (PaymentBuild α) := do
  let balance ← withContext ("reading " ++ addressText sender ++ "'s " ++ asset ++ " balance")
    (node.getBalance asset)
  .ok (node.tryPaths buildGaslessPayment sender payee asset amount (.ofBalance balance) gasStation
    [] paths)

end ClientNode

end X402Verifier
