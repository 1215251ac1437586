import X402Verifier.Interaction.Prog
import X402Verifier.X402

/-!
# On-chain verification and settlement

`sui.rs`: the four verification steps against a Sui fullnode, and the broadcast. The fullnode is
a set of calls (`Rpc`); its answers mirror the protobuf messages, in which every field the service
reads is optional. Nothing is assumed about them.

A fallible step is a program in `ExceptT FacilitatorError`, so that `?` of the source is `←`.
-/

namespace X402Verifier

open RustStd Interaction

/-! ## The fullnode -/

/-- A gRPC failure: whether its code is `NotFound`, and its text. -/
structure Status where
  notFound : Bool
  text : String
  deriving DecidableEq

structure VerifySignatureResponse where
  isValid : Option Bool := none
  reason : Option String := none
  deriving DecidableEq

structure ExecutionError where
  description : Option String := none
  deriving DecidableEq

structure ExecutionStatus where
  success : Option Bool := none
  error : Option ExecutionError := none
  deriving DecidableEq

structure TransactionEffects where
  status : Option ExecutionStatus := none
  deriving DecidableEq

structure BalanceChange where
  address : Option String := none
  coinType : Option String := none
  amount : Option String := none
  deriving DecidableEq

structure ExecutedTransaction where
  digest : Option String := none
  effects : Option TransactionEffects := none
  balanceChanges : List BalanceChange := []
  deriving DecidableEq

/-- The answer to a simulation or an execution. -/
structure TransactionResponse where
  transaction : Option ExecutedTransaction := none
  deriving DecidableEq

structure Object where
  version : Option Nat := none
  deriving DecidableEq

structure GetObjectResponse where
  object : Option Object := none
  deriving DecidableEq

inductive Rpc where
  | verifySignature (message : Bytes) (signature : UserSignature) (address : String)
  | simulateTransaction (transaction : Bytes)
  | getObject (objectId : String)
  | executeTransaction (transaction : Bytes) (signatures : List UserSignature)
  deriving DecidableEq

def Rpc.Ret : Rpc → Type
  | .verifySignature .. => Except Status VerifySignatureResponse
  | .simulateTransaction _ => Except Status TransactionResponse
  | .getObject _ => Except Status GetObjectResponse
  | .executeTransaction .. => Except Status TransactionResponse

/-- The fullnode's answer to the `n`-th call of one verification or settlement. -/
abbrev Fullnode : Type := Nat → (rpc : Rpc) → rpc.Ret

/-- A fallible program that calls the fullnode. -/
abbrev Chain (α : Type) : Type := ExceptT FacilitatorError (Prog Rpc Rpc.Ret) α

def rpc (r : Rpc) : Chain r.Ret := ExceptT.lift (Prog.perform r)

/-- A step that makes no call. -/
def liftExcept {α : Type} (e : Except FacilitatorError α) : Chain α := ExceptT.mk (pure e)

/-! ## Verification -/

/-- What verification established about a payment. -/
structure VerifiedPayment where
  payer : String
  digest : String
  deriving DecidableEq

/-- Talks to the fullnode of one network. -/
structure SuiVerifier where
  network : String
  deriving DecidableEq

namespace SuiVerifier

/-- Signed 128-bit wrap-around, as addition behaves in a release build. -/
def wrapI128 (n : Int) : Int := n.bmod (2 ^ 128)

/-- Is this a balance change of the recipient in the required asset? -/
def credits (requirements : PaymentRequirements) (change : BalanceChange) : Bool :=
  change.address == some requirements.payTo && change.coinType == some requirements.asset

/-- The amount the code reads off a balance change; an absent or unreadable one is skipped. -/
def amountOf (change : BalanceChange) : Option Int := change.amount.bind parseI128

/-- The sum of the amounts credited to the recipient in the required asset. -/
def credited (balanceChanges : List BalanceChange) (requirements : PaymentRequirements) : Int :=
  ((balanceChanges.filter (credits requirements)).filterMap amountOf).foldl
    (fun sum amount => wrapI128 (sum + amount)) 0

/-- The objects the transaction pins: owned and receiving inputs of a programmable transaction,
then gas. Shared inputs are versioned by consensus. -/
def pinned (transaction : Transaction) : List ObjectReference :=
  let inputs := match transaction.kind with
    | .programmableTransaction inputs => inputs.filterMap fun
      | .immutableOrOwned r | .receiving r => some r
      | .shared | .other => none
    | .other => []
  inputs ++ transaction.gasObjects

/-- The version of an object as the fullnode reports it. `NotFound` is an object already spent. -/
def currentVersion (objectId : String) : Except Status GetObjectResponse →
    Except FacilitatorError (Option Nat)
  | .ok response => .ok (response.object.bind (·.version))
  | .error status =>
    if status.notFound then .ok none
    else .error (.rpc ("GetObject(" ++ objectId ++ "): " ++ status.text))

/-- Confirm every pinned object still exists at its pinned version. -/
def assertPinnedAreLive : List ObjectReference → Chain Unit
  | [] => pure ()
  | r :: rest => do
    let response ← rpc (.getObject r.objectId)
    let current ← liftExcept (currentVersion r.objectId response)
    if current ≠ some r.version then
      throw (.staleInput r.objectId r.version current)
    assertPinnedAreLive rest

def assertInputsAreLive (transaction : Transaction) : Chain Unit :=
  assertPinnedAreLive (pinned transaction)

/-- The reported status of a transaction, when the answer carries one. -/
def reportedStatus (executed : ExecutedTransaction) : Option ExecutionStatus :=
  executed.effects.bind (·.status)

/-- A reported failure, with its description or a default. An answer without a status is not a
reported failure. -/
def reportedFailure (executed : ExecutedTransaction) (default : String) : Option String :=
  match reportedStatus executed with
  | some status =>
    if ¬ status.success.getD false then
      some ((status.error.bind (·.description)).getD default)
    else none
  | none => none

section

variable [Platform]

open Platform

/-- Step 4: the recipient is credited with exactly the required amount of the required asset. -/
def assertCredits (balanceChanges : List BalanceChange) (requirements : PaymentRequirements) :
    Except FacilitatorError Unit :=
  match parseI128 requirements.amount with
  | none =>
    .error (.invalidRequirements
      ("amount " ++ debugStr requirements.amount ++ " is not an integer"))
  | some expected =>
    if credited balanceChanges requirements ≠ expected then
      .error (.amountNotCredited requirements.amount
        (toString (credited balanceChanges requirements)) requirements.payTo requirements.asset)
    else .ok ()

/-- Decode the payload's base64 into raw transaction and signature bytes. -/
def decode (payload : SuiExactPayload) : Except FacilitatorError (Bytes × Bytes) :=
  match b64Decode (trim payload.transaction) with
  | .error e => .error (.malformedPayload "exact" ("transaction is not valid base64: " ++ e))
  | .ok transaction =>
    match b64Decode (trim payload.signature) with
    | .error e => .error (.malformedPayload "exact" ("signature is not valid base64: " ++ e))
    | .ok signature => .ok (transaction, signature)

def parseTransaction (bytes : Bytes) : Except FacilitatorError Transaction :=
  match bcsTransaction bytes with
  | .error e =>
    .error (.malformedPayload "exact" ("transaction is not valid BCS TransactionData: " ++ e))
  | .ok transaction => .ok transaction

def parseSignature (bytes : Bytes) : Except FacilitatorError UserSignature :=
  match userSignature bytes with
  | .error e =>
    .error (.malformedPayload "exact" ("signature is not a valid Sui user signature: " ++ e))
  | .ok signature => .ok signature

/-- Step 2: the signature is valid over these exact bytes. -/
def checkSignature (bytes : Bytes) (signature : UserSignature) (sender : String) :
    Chain Unit := do
  match ← rpc (.verifySignature bytes signature sender) with
  | .error status => throw (.rpc ("VerifySignature: " ++ status.text))
  | .ok (response : VerifySignatureResponse) =>
    if ¬ response.isValid.getD false then
      throw (.invalidSignature (response.reason.getD "signature did not verify"))

/-- Read the outcome of a simulation or an execution: the call may fail, return no transaction, or
report a failure. -/
def readOutcome (unanswered refused : String → FacilitatorError) (noTransaction noDetail : String)
    (answer : Except Status TransactionResponse) : Except FacilitatorError ExecutedTransaction :=
  match answer with
  | .error status => .error (unanswered status.text)
  | .ok response =>
    match response.transaction with
    | none => .error (refused noTransaction)
    | some executed =>
      match reportedFailure executed noDetail with
      | some detail => .error (refused detail)
      | none => .ok executed

/-- Step 3: it would actually execute. -/
def simulate (bytes : Bytes) : Chain ExecutedTransaction := do
  let answer ← rpc (.simulateTransaction bytes)
  liftExcept (readOutcome (fun text => .rpc ("SimulateTransaction: " ++ text)) .simulationFailed
    "simulation returned no transaction" "transaction would not succeed" answer)

def verify (payload : SuiExactPayload) (requirements : PaymentRequirements) :
    Chain VerifiedPayment := do
  let (transactionBytes, signatureBytes) ← liftExcept (decode payload)
  let transaction ← liftExcept (parseTransaction transactionBytes)
  let signature ← liftExcept (parseSignature signatureBytes)
  checkSignature transactionBytes signature transaction.sender
  let executed ← simulate transactionBytes
  assertInputsAreLive transaction
  liftExcept (assertCredits executed.balanceChanges requirements)
  pure { payer := transaction.sender, digest := executed.digest.getD "" }

/-! ## Settlement -/

/-- Broadcast the signed transaction and read the outcome. -/
def execute (bytes : Bytes) (signature : UserSignature) : Chain String := do
  let answer ← rpc (.executeTransaction bytes [signature])
  let executed ← liftExcept (readOutcome
    (fun text => .settlementFailed ("ExecuteTransaction: " ++ text)) .settlementFailed
    "execution returned no transaction" "transaction failed on chain" answer)
  pure (executed.digest.getD "")

/-- Broadcast the client-signed transaction. Returns the on-chain digest. -/
def settle (payload : SuiExactPayload) : Chain String := do
  let (transactionBytes, signatureBytes) ← liftExcept (decode payload)
  let signature ← liftExcept (parseSignature signatureBytes)
  execute transactionBytes signature

end

end SuiVerifier

end X402Verifier
