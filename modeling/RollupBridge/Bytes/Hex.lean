import RollupBridge.Bytes.Fixed

namespace RollupBridge.Hex

/-- The digit of a number below sixteen. -/
def digit (value : Nat) : Char :=
  if value < 10 then Char.ofNat (48 + value) else Char.ofNat (87 + value)

/-- The value of a hexadecimal digit of either case. -/
def value? (c : Char) : Option Nat :=
  if '0' ≤ c ∧ c ≤ '9' then some (c.toNat - 48)
  else if 'a' ≤ c ∧ c ≤ 'f' then some (c.toNat - 87)
  else if 'A' ≤ c ∧ c ≤ 'F' then some (c.toNat - 55)
  else none

/-- The number of digits below a base of up to sixteen; no digits are zero. -/
def numberIn? (base : Nat) (digits : List Char) : Option Nat :=
  digits.foldlM (fun value c => do
    let d ← value? c
    if d < base then some (value * base + d) else none) 0

/-- The number of hexadecimal digits; no digits are zero. -/
def number? (digits : List Char) : Option Nat := numberIn? 16 digits

/-- Two digits for each byte. -/
def digits (bytes : Bytes) : List Char :=
  bytes.flatMap fun byte => [digit (byte.toNat / 16), digit (byte.toNat % 16)]

/-- Reads digits in pairs behind the bytes already read, which stand in reverse. -/
def readPairs : List Char → Bytes → Option Bytes
  | [], seen => some seen.reverse
  | [_], _ => none
  | high :: low :: rest, seen =>
    match value? high, value? low with
    | some h, some l => readPairs rest (UInt8.ofNat (16 * h + l) :: seen)
    | _, _ => none

/-- The text without its `0x` or `0X`, if it has one. -/
def dropMark : List Char → List Char
  | '0' :: 'x' :: rest => rest
  | '0' :: 'X' :: rest => rest
  | text => text

/-- The bytes a hexadecimal text spells. -/
def read? (text : List Char) : Option Bytes := readPairs (dropMark text) []

/-- The bytes a hexadecimal text spells, when there are exactly `width` of them. -/
def readFixed? {width : Nat} (text : List Char) : Option (FixedBytes width) :=
  (read? text).bind FixedBytes.ofBytes?

/-- The `0x` form of a byte string. -/
def chars (bytes : Bytes) : List Char := '0' :: 'x' :: digits bytes

/-- The `0x` form of a byte string. -/
def write (bytes : Bytes) : String := String.ofList (chars bytes)

/-- The digits of a number without leading zeros, `0` for zero. -/
def quantityDigits (value : Nat) : List Char :=
  if value < 16 then [digit value] else quantityDigits (value / 16) ++ [digit (value % 16)]

/-- A number as a quantity: `0x` and its digits without leading zeros. -/
def quantity (value : Nat) : String := String.ofList ('0' :: 'x' :: quantityDigits value)

end RollupBridge.Hex
