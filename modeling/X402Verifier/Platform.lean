import X402Verifier.RustStd.IpText

/-!
# The code the service links against

Everything here lies outside `src/`: the data types of `serde_json` and `sui_sdk_types` as far as
the service looks into them, and the functions it calls on them.

The functions are the fields of the class `Platform` and nothing is assumed about them. A result
that relies on one of them behaving as documented says so in a hypothesis.
-/

namespace X402Verifier

abbrev Bytes : Type := List UInt8

/-- The bytes of a string. -/
def utf8 (s : String) : Bytes := s.toUTF8.toList

theorem byteArray_toList_loop (bs : ByteArray) (i : Nat) (r : List UInt8) :
    ByteArray.toList.loop bs i r = r.reverse ++ bs.data.toList.drop i := by
  fun_induction ByteArray.toList.loop bs i r with
  | case1 i r h ih =>
    have hi : i < bs.data.toList.length := h
    have hget : bs.get! i = bs.data.toList[i] := by
      show bs.data[i]! = _
      rw [getElem!_pos bs.data i hi]
      rfl
    rw [ih, List.drop_eq_getElem_cons hi, hget]
    simp
  | case2 i r h =>
    have hi : bs.data.toList.length ≤ i := Nat.le_of_not_lt h
    rw [List.drop_eq_nil_of_le hi, List.append_nil]

theorem utf8_injective : Function.Injective utf8 := by
  intro s t h
  have hdata : s.toByteArray.data.toList = t.toByteArray.data.toList := by
    simpa [utf8, ByteArray.toList, byteArray_toList_loop] using h
  exact String.toByteArray_inj.mp (ByteArray.ext (Array.toList_inj.mp hdata))

/-! ## JSON values (`serde_json`) -/

/-- A float is kept as the text it prints as. -/
inductive JsonNumber where
  | posInt (n : Nat)
  | negInt (n : Int)
  | float (text : String)
  deriving DecidableEq

inductive Json where
  | null
  | bool (b : Bool)
  | num (n : JsonNumber)
  | str (s : String)
  | arr (items : List Json)
  | obj (fields : List (String × Json))

namespace Json

def nat (n : Nat) : Json := .num (.posInt n)

/-- `Value::get` by key. -/
def get? : Json → String → Option Json
  | .obj fields, key => (fields.find? fun f => f.1 == key).map (·.2)
  | _, _ => none

/-- `Value::as_str`. -/
def asStr? : Json → Option String
  | .str s => some s
  | _ => none

/-- How `serde` names a value of the wrong type. -/
def unexpected : Json → String
  | .null => "null"
  | .bool b => "boolean `" ++ toString b ++ "`"
  | .num (.posInt n) => "integer `" ++ toString n ++ "`"
  | .num (.negInt n) => "integer `" ++ toString n ++ "`"
  | .num (.float text) => "floating point `" ++ text ++ "`"
  | .str s => "string \"" ++ s ++ "\""
  | .arr _ => "sequence"
  | .obj _ => "map"

def invalidType (j : Json) (expected : String) : String :=
  "invalid type: " ++ j.unexpected ++ ", expected " ++ expected

/-- A derived struct: its name, and how many fields it has. -/
structure Struct where
  name : String
  size : Nat

/-- Field `name` of a derived struct, the `i`-th in the struct. A struct is read from an object by
name or from an array by position; an object that names a field twice is refused. -/
def field? (j : Json) (t : Struct) (i : Nat) (name : String) : Except String (Option Json) :=
  match j with
  | .obj fields =>
    match fields.filter fun f => f.1 == name with
    | [] => .ok none
    | [f] => .ok (some f.2)
    | _ => .error ("duplicate field `" ++ name ++ "`")
  | .arr items => .ok items[i]?
  | other => .error (other.invalidType ("struct " ++ t.name))

/-- How `serde` reports a field that is not there: by its name, or by its position. -/
def missing (j : Json) (t : Struct) (i : Nat) (name : String) : String :=
  match j with
  | .arr _ =>
    "invalid length " ++ toString i ++ ", expected struct " ++ t.name ++ " with " ++
      toString t.size ++ if t.size = 1 then " element" else " elements"
  | _ => "missing field `" ++ name ++ "`"

/-- A field without a default. -/
def required {α : Type} (j : Json) (t : Struct) (i : Nat) (name : String)
    (read : Json → Except String α) : Except String α := do
  match ← j.field? t i name with
  | some v => read v
  | none => .error (j.missing t i name)

/-- An `Option` field with `#[serde(default)]`; `null` reads as `None`. -/
def optional {α : Type} (j : Json) (t : Struct) (i : Nat) (name : String)
    (read : Json → Except String α) : Except String (Option α) := do
  match ← j.field? t i name with
  | none | some .null => .ok none
  | some v => some <$> read v

/-- What `from_slice` and `from_value` say of an array with this many items, when a struct has fewer
fields. -/
def trailing (_ : Nat) : String := "trailing characters"

def fewerElements (length : Nat) : String :=
  "invalid length " ++ toString length ++ ", expected fewer elements in array"

/-- A struct whose fields were read. An array that holds more than them is refused. -/
def closed {α : Type} (j : Json) (t : Struct) (surplus : Nat → String) (read : Except String α) :
    Except String α :=
  match read, j with
  | .ok v, .arr items => if t.size < items.length then .error (surplus items.length) else .ok v
  | read, _ => read

def readString : Json → Except String String
  | .str s => .ok s
  | j => .error (j.invalidType "a string")

/-- An unsigned integer type with values below `bound`. -/
def readUnsigned (type : String) (bound : Nat) : Json → Except String Nat
  | .num (.posInt n) =>
    if n < bound then .ok n
    else .error ("invalid value: integer `" ++ toString n ++ "`, expected " ++ type)
  | .num (.negInt n) => .error ("invalid value: integer `" ++ toString n ++ "`, expected " ++ type)
  | j => .error (j.invalidType type)

def readStrings : Json → Except String (List String)
  | .arr items => items.mapM readString
  | j => .error (j.invalidType "a sequence")

/-- Of the fields that share a key, the last. -/
def lastWins (fields : List (String × Json)) : List (String × Json) :=
  fields.foldr (fun f later => if later.any (·.1 == f.1) then later else f :: later) []

mutual

/-- The `serde_json::Value` of a tree: in every object a repeated key keeps its last value. -/
def toValue : Json → Json
  | .arr items => .arr (toValues items)
  | .obj fields => .obj (lastWins (toFields fields))
  | j => j

def toValues : List Json → List Json
  | [] => []
  | j :: rest => toValue j :: toValues rest

def toFields : List (String × Json) → List (String × Json)
  | [] => []
  | (key, j) :: rest => (key, toValue j) :: toFields rest

end

/-- A `serde_json::Value` field. -/
def readValue (j : Json) : Except String Json := .ok j.toValue

end Json

/-! ## Transactions (`sui_sdk_types`) -/

/-- An object pinned by a transaction, its id as printed. -/
structure ObjectReference where
  objectId : String
  version : Nat
  deriving DecidableEq

/-- An input of a programmable transaction; pure values and later kinds are `other`. -/
inductive Input where
  | immutableOrOwned (r : ObjectReference)
  | shared
  | receiving (r : ObjectReference)
  | other
  deriving DecidableEq

inductive TransactionKind where
  | programmableTransaction (inputs : List Input)
  | other
  deriving DecidableEq

/-- `TransactionData`, its sender as printed. -/
structure Transaction where
  kind : TransactionKind
  sender : String
  gasObjects : List ObjectReference
  deriving DecidableEq

/-- A parsed Sui user signature, as its bytes. -/
structure UserSignature where
  bytes : Bytes
  deriving DecidableEq

/-! ## Functions -/

/-- The crates and library functions the service calls. Failures carry the error's text. -/
class Platform where
  /-- `base64::engine::general_purpose::STANDARD`. -/
  b64Encode : Bytes → String
  b64Decode : String → Except String Bytes
  /-- The `hex` crate. -/
  hexEncode : Bytes → String
  hexDecode : String → Except String Bytes
  /-- `sha2` and `hmac`, the latter as key and message. -/
  sha256 : Bytes → Bytes
  hmacSha256 : Bytes → Bytes → Bytes
  /-- JSON text: to a tree that keeps repeated keys, and back. -/
  jsonFromSlice : Bytes → Except String Json
  jsonToString : Json → String
  /-- An error about a tree read from this text, with its position in the text. -/
  jsonErrorAt : Bytes → String → String
  /-- `bcs::from_bytes` at `Transaction`. -/
  bcsTransaction : Bytes → Except String Transaction
  /-- `UserSignature::from_bytes`. -/
  userSignature : Bytes → Except String UserSignature
  /-- What `{:?}` asks about a character. -/
  charTables : RustStd.CharTables

/-- `{:?}` of a `str`. -/
def debugStr [Platform] (s : String) : String :=
  RustStd.debugText Platform.charTables s

end X402Verifier
