import RollupBridge.Bytes.Hex
import RollupBridge.Text.Decimal

namespace RollupBridge.Json

/-- The four characters that may stand between tokens. -/
def isGap (c : Char) : Bool := c == ' ' || c == '\n' || c == '\t' || c == '\r'

/-- The text behind leading gaps. -/
def skipGap (text : List Char) : List Char := text.dropWhile isGap

/-- At least one digit. -/
def readDigits (text : List Char) : Option (List Char × List Char) :=
  match text.span Decimal.isDigit with
  | ([], _) => none
  | found => some found

/-- The integer part of a number: a zero, or digits that do not start with one. -/
def readWhole : List Char → Option (List Char × List Char)
  | '0' :: rest => some (['0'], rest)
  | text => readDigits text

/-- The part of a number behind a point, if there is one. -/
def readFraction : List Char → Option (List Char × List Char)
  | '.' :: rest => (readDigits rest).map fun (digits, rest) => ('.' :: digits, rest)
  | text => some ([], text)

/-- The exponent of a number, if there is one. -/
def readExponent : List Char → Option (List Char × List Char)
  | e :: rest =>
    if e = 'e' ∨ e = 'E' then
      match rest with
      | '+' :: rest => (readDigits rest).map fun (digits, rest) => (e :: '+' :: digits, rest)
      | '-' :: rest => (readDigits rest).map fun (digits, rest) => (e :: '-' :: digits, rest)
      | rest => (readDigits rest).map fun (digits, rest) => (e :: digits, rest)
    else some ([], e :: rest)
  | [] => some ([], [])

/-- The literal of a number without a sign. -/
def readUnsigned (text : List Char) : Option (List Char × List Char) := do
  let (whole, text) ← readWhole text
  let (fraction, text) ← readFraction text
  let (exponent, text) ← readExponent text
  return (whole ++ fraction ++ exponent, text)

def readNumber : List Char → Option (List Char × List Char)
  | '-' :: rest => (readUnsigned rest).map fun (literal, rest) => ('-' :: literal, rest)
  | text => readUnsigned text

/-- What a string is made of: characters, and units of two bytes given by an escape. -/
inductive Piece
  | char (c : Char)
  | unit (value : Nat)

/-- The character of an escape with one letter. -/
def escaped? : Char → Option Char
  | '"' => some '"'
  | '\\' => some '\\'
  | '/' => some '/'
  | 'b' => some '\x08'
  | 'f' => some '\x0c'
  | 'n' => some '\n'
  | 'r' => some '\r'
  | 't' => some '\t'
  | _ => none

def unit? (a b c d : Char) : Option Nat := do
  let a ← Hex.value? a
  let b ← Hex.value? b
  let c ← Hex.value? c
  let d ← Hex.value? d
  return ((a * 16 + b) * 16 + c) * 16 + d

/-- The pieces up to the closing quote. Those already read stand in reverse. -/
def readPieces : List Char → List Piece → Option (List Piece × List Char)
  | '"' :: rest, seen => some (seen.reverse, rest)
  | '\\' :: 'u' :: a :: b :: c :: d :: rest, seen =>
    match unit? a b c d with
    | some value => readPieces rest (.unit value :: seen)
    | none => none
  | '\\' :: e :: rest, seen =>
    match escaped? e with
    | some c => readPieces rest (.char c :: seen)
    | none => none
  | c :: rest, seen => if c = '\\' ∨ c.toNat < 0x20 then none else readPieces rest (.char c :: seen)
  | [], _ => none

/-- True for the first unit of a surrogate pair. -/
def isHigh (value : Nat) : Bool := 0xd800 ≤ value && value < 0xdc00

/-- True for the second unit of a surrogate pair. -/
def isLow (value : Nat) : Bool := 0xdc00 ≤ value && value < 0xe000

/-- The characters of the pieces, or nothing where half a pair is missing. Those already joined
stand in reverse. -/
def joinPieces : List Piece → List Char → Option (List Char)
  | [], seen => some seen.reverse
  | .char c :: rest, seen => joinPieces rest (c :: seen)
  | .unit high :: .unit low :: rest, seen =>
    if isHigh high && isLow low then
      joinPieces rest (Char.ofNat (0x10000 + (high - 0xd800) * 0x400 + (low - 0xdc00)) :: seen)
    else if isHigh high || isLow high then none
    else joinPieces (.unit low :: rest) (Char.ofNat high :: seen)
  | .unit value :: rest, seen =>
    if isHigh value || isLow value then none else joinPieces rest (Char.ofNat value :: seen)

def readString (text : List Char) : Option (Option String × List Char) :=
  (readPieces text []).map fun (pieces, rest) => ((joinPieces pieces []).map String.ofList, rest)

end RollupBridge.Json
