namespace RollupBridge.Decimal

def digit (value : Nat) : Char := Char.ofNat (48 + value)

def value? (c : Char) : Option Nat :=
  if '0' ≤ c ∧ c ≤ '9' then some (c.toNat - 48) else none

def isDigit (c : Char) : Bool := (value? c).isSome

/-- The numeral of a number, without leading zeros. -/
def digits (value : Nat) : List Char :=
  if value < 10 then [digit value] else digits (value / 10) ++ [digit (value % 10)]

def write (value : Nat) : String := String.ofList (digits value)

/-- Reads digits behind the value of those already read. -/
def readFrom : Nat → List Char → Option Nat
  | seen, [] => some seen
  | seen, c :: rest => match value? c with
    | some d => readFrom (10 * seen + d) rest
    | none => none

/-- The number of a text of digits only; leading zeros are allowed, an empty text is not. -/
def read? (text : List Char) : Option Nat :=
  if text.isEmpty then none else readFrom 0 text

/-- `read?` behind an optional plus sign. -/
def readSigned? : List Char → Option Nat
  | '+' :: rest => read? rest
  | text => read? text

end RollupBridge.Decimal
