import RollupBridge.Uint

namespace RollupBridge.Abi

/-- The types of arguments. A static value stands in its slot of 32 bytes; a dynamic one stands
behind all slots, and its slot holds the offset. A struct of static members takes one slot for each,
so it is written as those members. -/
inductive Ty
  | address
  | uint (bits : Nat)
  | bytes32
  | bool
  | bytes
  | array (element : Ty)
deriving DecidableEq

@[reducible] def Ty.Value : Ty → Type
  | .address => Address
  | .uint bits => Uint bits
  | .bytes32 => Word
  | .bool => Bool
  | .bytes => Bytes
  | .array element => List element.Value

@[reducible] def Args : List Ty → Type
  | [] => Unit
  | ty :: rest => ty.Value × Args rest

/-- What an argument contributes: its slot, or a tail that the slot points at. -/
inductive Part
  | inline (slot : Word)
  | tail (content : Bytes)

/-- A number in a word, big-endian. -/
def numberWord (value : Nat) : Word := FixedBytes.ofNat value

/-- The slots, where `offset` is the distance from the first slot to the next tail. -/
def heads : (offset : Nat) → List Part → Bytes
  | _, [] => []
  | offset, .inline slot :: rest => slot.bytes ++ heads offset rest
  | offset, .tail content :: rest =>
    (numberWord offset).bytes ++ heads (offset + content.length) rest

/-- The tails, one behind the other. -/
def tails : List Part → Bytes
  | [] => []
  | .inline _ :: rest => tails rest
  | .tail content :: rest => content ++ tails rest

/-- All slots, then all tails. -/
def layout (parts : List Part) : Bytes := heads (32 * parts.length) parts ++ tails parts

/-- The zero bytes that fill the last word of a content. -/
def fill (length : Nat) : Bytes := Bytes.zeros ((32 - length % 32) % 32)

def Ty.part : (ty : Ty) → ty.Value → Part
  | .address, account => .inline (Word.ofAddress account)
  | .uint _, value => .inline (Uint.toWord value)
  | .bytes32, word => .inline word
  | .bool, flag => .inline (numberWord flag.toNat)
  | .bytes, content => .tail ((numberWord content.length).bytes ++ content ++ fill content.length)
  | .array element, values =>
    .tail ((numberWord values.length).bytes ++ layout (values.map element.part))

def parts : (types : List Ty) → Args types → List Part
  | [], _ => []
  | ty :: rest, (value, values) => ty.part value :: parts rest values

def encode (types : List Ty) (args : Args types) : Bytes := layout (parts types args)

/-- A contract function: its signature, the selector that stands for it, and its arguments. -/
structure Function where
  signature : String
  selector : Selector
  params : List Ty

/-- The call of a function: the selector, then the arguments. -/
def Function.call (f : Function) (args : Args f.params) : Bytes :=
  f.selector.bytes ++ encode f.params args

end RollupBridge.Abi
