import RollupBridge.Json.Token
import RollupBridge.Text.Utf8

namespace RollupBridge.Json

/-- What is left behind a character that was taken and refused: one byte of it is gone. -/
def behindOne (c : Char) (rest : List Char) : Option (List Char) :=
  if c.utf8Size = 1 then some rest else none

/-- What is left behind a word. The first character that differs is taken too. -/
def behindWord : (word : List Char) → List Char → Option (List Char)
  | [], text => some text
  | _, [] => none
  | letter :: word, c :: rest => if c = letter then behindWord word rest else behindOne c rest

/-- The largest exponent that is counted. -/
def maxExponent : Nat := 2147483647

/-- What is left behind the digits of an exponent. An exponent too large to count is given up at the
digit that makes it so if that makes the number too large, else its digits are taken to the end. -/
def behindExponentDigits (isTooLarge : Bool) : (seen : Nat) → List Char → List Char
  | _, [] => []
  | seen, c :: rest =>
    match Decimal.value? c with
    | none => c :: rest
    | some d =>
      if 10 * seen + d ≤ maxExponent then behindExponentDigits isTooLarge (10 * seen + d) rest
      else if isTooLarge then rest
      else rest.dropWhile Decimal.isDigit

/-- What is left behind an exponent, its mark already taken, of a number whose digits are zero or
not. -/
def behindExponent (isZero : Bool) (text : List Char) : Option (List Char) :=
  let (isNegative, text) := match text with
    | '+' :: rest => (false, rest)
    | '-' :: rest => (true, rest)
    | text => (false, text)
  match text with
  | [] => none
  | c :: rest =>
    if Decimal.isDigit c then some (behindExponentDigits (!isZero && !isNegative) 0 (c :: rest))
    else behindOne c rest

/-- What is left behind the part of a number from its point or exponent on. A point without digits
is all that is taken. -/
def behindFraction (digits : List Char) : List Char → Option (List Char)
  | '.' :: rest =>
    let fraction := rest.takeWhile Decimal.isDigit
    let text := rest.dropWhile Decimal.isDigit
    match fraction, text with
    | [], text => some text
    | _, e :: rest =>
      if e = 'e' ∨ e = 'E' then behindExponent ((digits ++ fraction).all (· == '0')) rest
      else some (e :: rest)
    | _, [] => none
  | e :: rest =>
    if e = 'e' ∨ e = 'E' then behindExponent (digits.all (· == '0')) rest else some (e :: rest)
  | [] => none

/-- What is left behind a number, its sign already taken, unless it is a byte. A zero is not followed
by a digit. -/
def behindNumber (isNegative : Bool) : List Char → Option (List Char)
  | [] => none
  | '0' :: rest =>
    if (rest.head?.map Decimal.isDigit).getD false then some rest
    else if !isNegative && !startsFraction rest then none
    else behindFraction ['0'] rest
  | c :: rest =>
    if Decimal.isDigit c then
      let digits := (c :: rest).takeWhile Decimal.isDigit
      let text := (c :: rest).dropWhile Decimal.isDigit
      let isByte := !isNegative && !startsFraction text && ((Decimal.read? digits).getD 0 < 256)
      if isByte then none else behindFraction digits text
    else behindOne c rest
where
  /-- True for what continues a number that is no integer. -/
  startsFraction : List Char → Bool
    | c :: _ => c == '.' || c == 'e' || c == 'E'
    | [] => false

/-- The unit of the four hexadecimal digits at the start of a text. -/
def unitAt? : List Char → Option Nat
  | a :: b :: c :: d :: _ => unit? a b c d
  | _ => none

/-- What is left behind a string, its opening quote already taken. Half of a surrogate pair is given
up at what is not the other half. -/
def behindString : (fuel : Nat) → List Char → Option (List Char)
  | 0, _ => none
  | _, [] => none
  | _, '"' :: rest => some rest
  | fuel + 1, '\\' :: 'u' :: rest => do
    let behind ← Text.dropBytes? 4 rest
    match unitAt? rest with
    | none => some behind
    | some value =>
      if isLow value then some behind
      else if isHigh value then
        match behind with
        | '\\' :: 'u' :: rest => do
          let behind ← Text.dropBytes? 4 rest
          if ((unitAt? rest).map isLow).getD false then behindString fuel behind else some behind
        | '\\' :: c :: rest => behindOne c rest
        | c :: rest => behindOne c rest
        | [] => none
      else behindString fuel behind
  | fuel + 1, '\\' :: e :: rest =>
    if (escaped? e).isSome then behindString fuel rest else behindOne e rest
  | fuel + 1, c :: rest =>
    if c.toNat < 0x20 then some rest else behindString fuel rest

/-- What is left of a text behind a search for a byte that fails. Arrays, objects and what no value
starts with are not touched. The search takes the start of what it finds for a value, and gives up
where that turns out to be no byte. Nothing is left of a text that ends before the search does. -/
def missByte? : List Char → Option (List Char)
  | [] => none
  | 'n' :: rest => behindWord "ull".toList rest
  | 't' :: rest => behindWord "rue".toList rest
  | 'f' :: rest => behindWord "alse".toList rest
  | '-' :: rest => behindNumber true rest
  | '"' :: rest => behindString (rest.length + 1) rest
  | c :: rest => if Decimal.isDigit c then behindNumber false (c :: rest) else some (c :: rest)

end RollupBridge.Json
