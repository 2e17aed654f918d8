import RollupBridge.Abi.Encode

namespace RollupBridge.Abi

/-- The number in the slot that starts at `position`. -/
def slotAt (frame : Bytes) (position : Nat) : Option Word :=
  FixedBytes.ofBytes? ((frame.drop position).take 32)

/-- The value in a slot, for the static types. What lies outside the width of the type is ignored,
and every non-zero word is true. -/
def Ty.ofWord : (ty : Ty) → Word → Option ty.Value
  | .address, word => some (Word.lowAddress word)
  | .uint _, word => some (Uint.ofWord word)
  | .bytes32, word => some word
  | .bool, word => some (word.toNat != 0)
  | .bytes, _ => none
  | .array _, _ => none

/-- The value at a slot of a frame, in standard form. -/
def Ty.decodeAt : (ty : Ty) → (frame : Bytes) → (position : Nat) → Option ty.Value
  | .address, frame, position => do
    let word ← slotAt frame position
    let account := Word.lowAddress word
    if Word.ofAddress account = word then some account else none
  | .uint bits, frame, position => do Uint.ofNat? bits (← slotAt frame position).toNat
  | .bytes32, frame, position => slotAt frame position
  | .bool, frame, position => do
    match (← slotAt frame position).toNat with
    | 0 => some false
    | 1 => some true
    | _ => none
  | .bytes, frame, position => do
    let tail := frame.drop (← slotAt frame position).toNat
    let length := (← slotAt tail 0).toNat
    let content := (tail.drop 32).take length
    let padding := ((tail.drop 32).drop length).take (fill length).length
    if content.length = length ∧ padding = fill length then some content else none
  | .array element, frame, position => do
    let tail := frame.drop (← slotAt frame position).toNat
    let count := (← slotAt tail 0).toNat
    if tail.length < 32 * (count + 1) then none
    else (List.range count).mapM fun i => element.decodeAt (tail.drop 32) (32 * i)

/-- The values of consecutive slots from `position` on. -/
def decodeFrom : (types : List Ty) → (frame : Bytes) → (position : Nat) → Option (Args types)
  | [], _, _ => some ()
  | ty :: rest, frame, position => do
    let value ← ty.decodeAt frame position
    let values ← decodeFrom rest frame (position + 32)
    return (value, values)

/-- The arguments in an encoding, which must be in the standard form: offsets in range, the unused
bytes of a slot and of a last word zero. -/
def decode (types : List Ty) (encoded : Bytes) : Option (Args types) := decodeFrom types encoded 0

/-- The arguments of a call of `f`. -/
def Function.decodeCall (f : Function) (calldata : Bytes) : Option (Args f.params) :=
  if calldata.take 4 = f.selector.bytes then decode f.params (calldata.drop 4) else none

end RollupBridge.Abi
