import RollupBridge.Bytes.Basic

namespace RollupBridge.Base64

/-- The digits in the order of their values. -/
def digits : List Char := "ABCDEFGHIJKLMNOPQRSTUVWXYZabcdefghijklmnopqrstuvwxyz0123456789+/".toList

/-- The digit of a value below 64. -/
def digit (value : Nat) : Char := digits.getD value '='

/-- The digits of a number below `2 ^ (6 * count)`. -/
def group (count value : Nat) : List Char :=
  (List.range count).map fun i => digit (value / Nat.pow 64 (count - 1 - i) % 64)

/-- The text of a byte string: four digits for three bytes, equals signs for what is missing at the
end. -/
def write : Bytes → List Char
  | a :: b :: c :: rest => group 4 ((a.toNat * 256 + b.toNat) * 256 + c.toNat) ++ write rest
  | [a, b] => group 3 ((a.toNat * 256 + b.toNat) * 4) ++ ['=']
  | [a] => group 2 (a.toNat * 16) ++ ['=', '=']
  | [] => []

end RollupBridge.Base64
