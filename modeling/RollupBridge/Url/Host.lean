import RollupBridge.Domain.Name
import RollupBridge.Text.Decimal
import RollupBridge.Url.Percent

namespace RollupBridge.Url

inductive Host
  | name (text : List Char)
  | ipv4 (value : Nat)
  | ipv6 (groups : List Nat)
deriving DecidableEq

namespace Host

/-- Characters that no host may hold. -/
def isForbidden (c : Char) : Bool :=
  "\x00\t\n\r #/:<>?@[\\]^|".toList.contains c

/-- A part of an IPv4 address: hexadecimal behind `0x`, octal behind another zero, else decimal. -/
def ipv4Part? : List Char → Option Nat
  | [] => none
  | '0' :: 'x' :: digits => Hex.number? digits
  | '0' :: 'X' :: digits => Hex.number? digits
  | '0' :: d :: digits => Hex.numberIn? 8 (d :: digits)
  | digits => Hex.numberIn? 10 digits

/-- The parts between the points. An empty last part is left out. -/
def labels (name : List Char) : List (List Char) :=
  let parts := Text.split '.' name
  if parts.length ≠ 1 ∧ parts.getLast? = some [] then parts.dropLast else parts

/-- True for a name whose last part is a number, so that the name must be an IPv4 address. -/
def endsInNumber (name : List Char) : Bool :=
  match (labels name).getLast? with
  | some last => (!last.isEmpty && last.all Decimal.isDigit) || (ipv4Part? last).isSome
  | none => false

/-- An IPv4 address of up to four parts; the last part fills the bytes that are left. -/
def ipv4? (name : List Char) : Option Nat := do
  let parts ← (labels name).mapM ipv4Part?
  let last ← parts.getLast?
  let leading := parts.dropLast
  let room := Nat.pow 256 (4 - leading.length)
  if leading.length ≤ 3 ∧ leading.all (· ≤ 255) ∧ last < room then
    some (leading.foldl (fun value part => value * 256 + part) 0 * room + last)
  else none

/-- A byte of a dotted address in decimal, without leading zeros. -/
def octet? (text : List Char) : Option Nat := do
  let value ← Decimal.read? text
  if value ≤ 255 ∧ Decimal.digits value = text then some value else none

def dottedGroups? (text : List Char) : Option (List Nat) := do
  match ← (Text.split '.' text).mapM octet? with
  | [a, b, c, d] => some [a * 256 + b, c * 256 + d]
  | _ => none

def group? (text : List Char) : Option Nat :=
  if text.isEmpty ∨ 4 < text.length then none else Hex.number? text

/-- The groups between colons. The last two may be written as a dotted address. -/
def groups? : List (List Char) → Option (List Nat)
  | [] => some []
  | [last] => if last.contains '.' then dottedGroups? last else (group? last).map fun g => [g]
  | first :: rest => do return (← group? first) :: (← groups? rest)

/-- The groups on one side of the gap of an IPv6 address. -/
def side? (text : List Char) : Option (List Nat) :=
  if text.isEmpty then some [] else groups? (Text.split ':' text)

/-- The parts before and after the first `::`. -/
def splitGap : List Char → Option (List Char × List Char)
  | ':' :: ':' :: rest => some ([], rest)
  | c :: rest => (splitGap rest).map fun (before, after) => (c :: before, after)
  | [] => none

/-- The eight groups of an IPv6 address. A gap stands for at least one zero group. -/
def ipv6? (text : List Char) : Option (List Nat) :=
  match splitGap text with
  | none => do
    let groups ← groups? (Text.split ':' text)
    if groups.length = 8 then some groups else none
  | some (before, after) => do
    let left ← side? before
    let right ← side? after
    if before.contains '.' ∨ 7 < left.length + right.length then none
    else some (left ++ List.replicate (8 - left.length - right.length) 0 ++ right)

/-- A host in brackets is an IPv6 address. -/
def bracketed? (text : List Char) : Option Host :=
  if text.getLast? = some ']' then (ipv6? (text.drop 1).dropLast).map .ipv6 else none

/-- The host of a URL with a well-known scheme: an address, or a domain name in any script, written in
ASCII. -/
def domain? (text : List Char) : Option Host :=
  if text.head? = some '[' then bracketed? text
  else do
    let name ← Domain.toAscii? (← percentDecode? text)
    if name.isEmpty then none
    else if endsInNumber name then (ipv4? name).map .ipv4
    else some (.name name)

/-- The host of any other URL, kept as it is written. -/
def opaqueName? (text : List Char) : Option Host :=
  if text.head? = some '[' then bracketed? text
  else if text.any isForbidden then none
  else some (.name (percentEncode [] text))

/-- How many groups are zero before the first that is not. -/
def zeroRun (groups : List Nat) : Nat := (groups.takeWhile (· == 0)).length

/-- Start and length of the first of the longest runs of zero groups. -/
def longestZeroRun (groups : List Nat) : Nat × Nat :=
  (List.range groups.length).foldl (fun best start =>
    let run := zeroRun (groups.drop start)
    if best.2 < run then (start, run) else best) (0, 0)

/-- Groups with colons between them. -/
def groupChars (groups : List Nat) : List Char := Text.join [':'] (groups.map Hex.quantityDigits)

/-- The text of a host. A run of two or more zero groups is left out. -/
def chars : Host → List Char
  | .name text => text
  | .ipv4 value =>
    Text.join ['.'] ((Bytes.ofNat 4 value).map fun byte => Decimal.digits byte.toNat)
  | .ipv6 groups =>
    let (start, run) := longestZeroRun groups
    if run < 2 then '[' :: groupChars groups ++ [']']
    else
      '[' :: groupChars (groups.take start) ++ ':' :: ':' :: groupChars (groups.drop (start + run)) ++
        [']']

end Host

end RollupBridge.Url
