import RollupBridge.Bytes.Hex
import RollupBridge.Hash.Keccak

namespace RollupBridge

/-- Who sends a request from L1 to L2. -/
inductive SenderKind
  | contract
  | externallyOwned
deriving DecidableEq

namespace Address

/-- The hexadecimal digits of an address, in upper case where the hash of the lower-case digits has
a nibble of eight or more. -/
def checksumDigits (address : Address) : List Char :=
  let digits := Hex.digits address.bytes
  let hash := Hex.digits (keccak256 (digits.map fun c => UInt8.ofNat c.toNat)).bytes
  List.zipWith (fun c h => if 8 ≤ (Hex.value? h).getD 0 then c.toUpper else c) digits hash

/-- The checksummed `0x` form of an address. -/
def checksum (address : Address) : String := String.ofList ('0' :: 'x' :: checksumDigits address)

/-- What separates the address of an L1 contract from its alias on L2. -/
def aliasOffset : Address := FixedBytes.ofNat 0x1111000000000000000000000000000000001111

/-- The address a sender has on L2: contracts are moved by the offset, accounts stay. Addresses are
added as numbers modulo `2 ^ 160`, so this can always be undone. -/
def applyAlias (address : Address) : SenderKind → Address
  | .contract => FixedBytes.ofNat (address.toNat + aliasOffset.toNat)
  | .externallyOwned => address

/-- The L1 contract behind an alias. -/
def undoAlias (address : Address) : Address :=
  FixedBytes.ofNat (address.toNat + (Nat.pow 2 160 - aliasOffset.toNat))

end Address

end RollupBridge
