import RollupBridge.Bytes.Basic

namespace RollupBridge.Rlp

/-- What is encoded: a byte string, or a list of items. -/
inductive Item
  | bytes (content : Bytes)
  | list (items : List Item)

/-- A number as a byte string without leading zeros. -/
def Item.number (value : Nat) : Item := .bytes (Bytes.ofNatMinimal value)

/-- The mark of a length: one byte up to 55, else the number of length bytes and those bytes. -/
def lengthMark (base length : Nat) : Bytes :=
  if length ≤ 55 then [UInt8.ofNat (base + length)]
  else
    let digits := Bytes.ofNatMinimal length
    UInt8.ofNat (base + 55 + digits.length) :: digits

def encodeBytes (content : Bytes) : Bytes :=
  match content with
  | [byte] => if byte < 0x80 then [byte] else lengthMark 0x80 1 ++ [byte]
  | content => lengthMark 0x80 content.length ++ content

mutual

/-- The encoding of an item. A single byte below 128 stands for itself; other strings and all lists
carry their length in front, and lengths above 55 carry the length of the length as well. -/
def encode : Item → Bytes
  | .bytes content => encodeBytes content
  | .list items =>
    let payload := encodeAll items
    lengthMark 0xc0 payload.length ++ payload

def encodeAll : List Item → Bytes
  | [] => []
  | item :: rest => encode item ++ encodeAll rest

end

end RollupBridge.Rlp
