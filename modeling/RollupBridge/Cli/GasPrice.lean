import RollupBridge.Text.Decimal
import RollupBridge.Text.Split
import RollupBridge.Text.Utf8
import RollupBridge.Uint

namespace RollupBridge.Cli.GasPrice

/-- Why a text is not taken as a gas price. -/
inductive Refusal
  | notANumber
  | outOfRange
  /-- The cut behind the ninth decimal falls inside a character. -/
  | brokenCharacter
deriving DecidableEq

/-- The decimals of a gwei in wei. -/
def decimals : Nat := 9

/-- The fraction up to the ninth decimal. Decimals are counted in bytes. -/
def cutFraction? (fraction : List Char) : Option (List Char) :=
  (Text.dropBytes? (Text.utf8Length fraction - decimals) fraction.reverse).map List.reverse

def digits? (text : List Char) : Option Nat := Decimal.readFrom 0 (text.filter (· ≠ '_'))

/-- The number that a word stands for, a signed one in two's complement. -/
def valueOf (isSigned : Bool) (word : Uint 256) : Int := if isSigned then word.toInt else word.toNat

/-- The word that stands for a number, if one does. -/
def word? (isSigned : Bool) (value : Int) : Option (Uint 256) :=
  if valueOf isSigned (BitVec.ofInt 256 value) = value then some (BitVec.ofInt 256 value) else none

/-- A way to multiply words, signed ones behind a minus sign. What becomes of a product that no word
stands for is up to it: it may be refused, or wrap around. -/
abbrev Times := (isSigned : Bool) → Uint 256 → Uint 256 → Option (Uint 256)

/-- The product, unless no word stands for it. -/
def Times.checked : Times := fun isSigned x y => word? isSigned (valueOf isSigned x * valueOf isSigned y)

def withSign (isNegative : Bool) (value : Nat) : Int := if isNegative then -value else value

/-- So many units of `10 ^ places` wei each. -/
def wei? (times : Times) (isNegative : Bool) (units places : Nat) : Option (Uint 256) := do
  times isNegative (← word? isNegative (withSign isNegative units)) (BitVec.ofNat 256 (Nat.pow 10 places))

/-- The price of so many units, which must fit 128 bits. The word is taken without regard to its sign,
so that no price below zero fits. -/
def price? (times : Times) (isNegative : Bool) (units places : Nat) : Option (Uint 128) := do
  Uint.ofNat? 128 (← wei? times isNegative units places).toNat

/-- The wei of a gas price in gwei. Underscores among the digits are skipped, and no digits at all
spell zero. -/
def read (times : Times) (text : List Char) : Except Refusal (Uint 128) := do
  let (whole, decimalPart) := (Text.splitOnce '.' text).getD (text, [])
  match cutFraction? decimalPart with
  | none => .error .brokenCharacter
  | some fraction =>
    let isNegative := text.head? == some '-'
    match digits? ((whole ++ fraction).drop isNegative.toNat) with
    | none => .error .notANumber
    | some units =>
      match price? times isNegative units (decimals - Text.utf8Length fraction) with
      | some price => .ok price
      | none => .error .outOfRange

end RollupBridge.Cli.GasPrice
