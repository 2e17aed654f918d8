import RollupBridge.Bytes.Hex
import RollupBridge.Json.Outline
import RollupBridge.Text.Decimal
import RollupBridge.Uint

namespace RollupBridge

/-- A JSON value. Numbers keep their literal. A string is `none` when it holds half of a surrogate
pair, so that it spells no text. Objects keep their members in order, repeated keys included. -/
inductive Json
  | null
  | bool (value : Bool)
  | number (literal : List Char)
  | string (text : Option String)
  | array (items : List Json)
  | object (members : List (Option String × Json))

namespace Json

def text (s : String) : Json := .string (some s)

def ofNat (value : Nat) : Json := .number (Decimal.digits value)

/-- A byte string in `0x` form. -/
def ofBytes (bytes : Bytes) : Json := text (Hex.write bytes)

/-- A number as a `0x` quantity. -/
def quantity (value : Nat) : Json := text (Hex.quantity value)

def record (members : List (String × Json)) : Json :=
  .object (members.map fun (key, value) => (some key, value))

/-- A plain integer below `2 ^ bits`: digits only, no sign, point or exponent. -/
def uint? (bits : Nat) : Json → Option (Uint bits)
  | .number literal => (Decimal.read? literal).bind (Uint.ofNat? bits)
  | _ => none

/-- A plain integer of `bits` bits with a sign: digits only, no point or exponent, and no minus before
zero. -/
def int? (bits : Nat) : Json → Option Int
  | .number ('-' :: literal) => do
    let value ← Decimal.read? literal
    if 0 < value ∧ 2 * value ≤ Uint.size bits then some (-value) else none
  | .number literal => do
    let value ← Decimal.read? literal
    if 2 * value < Uint.size bits then some value else none
  | _ => none

def byte? (value : Json) : Option UInt8 := (value.uint? 8).map fun b => UInt8.ofNat b.toNat

/-- A byte string: hexadecimal text or an array of bytes. -/
def bytes? : Json → Option Bytes
  | .string (some s) => Hex.read? s.toList
  | .array items => items.mapM byte?
  | _ => none

/-- A byte string of a fixed width: hexadecimal text or an array of that many bytes. -/
def fixed? {width : Nat} : Json → Option (FixedBytes width)
  | .string (some s) => Hex.readFixed? s.toList
  | .array items => (items.mapM byte?).bind FixedBytes.ofBytes?
  | _ => none

/-- The items of an array, each read by `read?`. -/
def list? {α : Type} (read? : Json → Option α) : Json → Option (List α)
  | .array items => items.mapM read?
  | _ => none

/-- The name of a variant without content: a string, or an object with that one key and `null`. -/
def variant? : Json → Option String
  | .string s => s
  | .object [(key, .null)] => key
  | _ => none

/-- The members of an object whose keys are all texts. -/
def members? (members : List (Option String × Json)) : Option (List (String × Json)) :=
  members.mapM fun (key, value) => key.map fun k => (k, value)

/-- The value of the one member whose key is among `names`. -/
def member? (names : List String) (members : List (String × Json)) : Option Json :=
  match members.filter fun (key, _) => names.contains key with
  | [(_, value)] => some value
  | _ => none

/-- The value of the member with a key that may be left out, but not be given twice. -/
def optional? (name : String) (members : List (String × Json)) : Option (Option Json) :=
  match members.filter fun (key, _) => key == name with
  | [] => some none
  | [(_, value)] => some (some value)
  | _ => none

/-- The values of a record's fields, in order. An object holds every field exactly once and may hold
other keys; an array holds the fields alone. -/
def fields? (fields : List Field) : Json → Option (List Json)
  | .array items => if items.length = fields.length then some items else none
  | .object members => do
    let members ← members? members
    fields.mapM fun (names, _) => member? names members
  | _ => none

/-- The value of the first member with a key. -/
def get? (key : String) : Json → Option Json
  | .object members => (members.find? fun (k, _) => k == some key).map Prod.snd
  | _ => none

end Json

end RollupBridge
