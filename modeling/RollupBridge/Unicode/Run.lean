import RollupBridge.Bytes.Hex

namespace RollupBridge.Unicode

structure Run (α : Type) where
  length : Nat
  value : α

def words (text : String) : List (List Char) :=
  let (word, words) := text.toList.foldl (fun (word, words) c =>
    if c.isWhitespace then ([], word.reverse :: words) else (c :: word, words)) ([], [])
  ((word.reverse :: words).filter fun word => !word.isEmpty).reverse

/-- True for the digits of lengths. -/
def isLengthDigit (c : Char) : Bool := c.isDigit || ('a' ≤ c && c ≤ 'f')

/-- The runs of a table, with values read by `value`. A word is the length of a run in hexadecimal,
unless it is one, and the value its characters share, which starts with none of those digits. The
tables hold the properties of Unicode 17. -/
def runs {α : Type} (value : List Char → α) (table : String) : List (Run α) :=
  (words table).map fun word =>
    let (digits, rest) := word.span isLengthDigit
    ⟨if digits.isEmpty then 1 else (Hex.number? digits).getD 0, value rest⟩

/-- The value at a position and how far into its run the position is. -/
def find? {α : Type} : List (Run α) → (position : Nat) → Option (Nat × α)
  | [], _ => none
  | run :: rest, position =>
    if position < run.length then some (position, run.value) else find? rest (position - run.length)

/-- The value of a character in a table that starts with the first of all, `fallback` behind its
end. -/
def valueOf {α : Type} (table : List (Run α)) (fallback : α) (c : Char) : α :=
  ((find? table c.toNat).map Prod.snd).getD fallback

/-- True for text of the first 128 characters. -/
def isAscii (text : List Char) : Bool := text.all fun c => c.toNat < 0x80

end RollupBridge.Unicode
