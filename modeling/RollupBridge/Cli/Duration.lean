import RollupBridge.Cli.Stop
import RollupBridge.Text.Blank
import RollupBridge.Text.Decimal
import RollupBridge.Uint

namespace RollupBridge.Cli.Duration

/-- A unit of time: its names, and its length in nanoseconds. -/
structure TimeUnit where
  names : List String
  length : Nat

/-- The nanoseconds of a second. -/
def second : Nat := 1000000000

/-- The units of time. A month is the twelfth part of a year of 365.25 days, rounded to 30.44 days. -/
def units : List TimeUnit :=
  [⟨["nanos", "nsec", "ns"], 1⟩,
    ⟨["usec", "us", "µs"], 1000⟩,
    ⟨["millis", "msec", "ms"], 1000000⟩,
    ⟨["seconds", "second", "secs", "sec", "s"], second⟩,
    ⟨["minutes", "minute", "min", "mins", "m"], 60 * second⟩,
    ⟨["hours", "hour", "hrs", "hr", "h"], 3600 * second⟩,
    ⟨["days", "day", "d"], 86400 * second⟩,
    ⟨["weeks", "week", "wk", "wks", "w"], 604800 * second⟩,
    ⟨["months", "month", "M"], 2630016 * second⟩,
    ⟨["years", "year", "yr", "yrs", "y"], 31557600 * second⟩]

def unit? (name : List Char) : Option TimeUnit :=
  units.find? fun u => u.names.any fun known => known.toList == name

/-- True for the characters of the names of units. -/
def isUnitChar (c : Char) : Bool := c.isAlpha || c = 'µ'

/-- True for what may stand in a number: digits, and blanks between them. -/
def isNumberChar (c : Char) : Bool := Decimal.isDigit c || Text.isBlank c

/-- A number and its unit. The digits behind a point stand apart. -/
structure Item where
  whole : List Char
  fraction : Option (List Char)
  unitName : List Char

/-- The digits of a text of digits and blanks. -/
def digitsOf (text : List Char) : List Char := text.filter Decimal.isDigit

/-- What stands behind the number of an item: a point and a fraction, which must have a digit, or
nothing. -/
def readFraction? : List Char → Option (Option (List Char) × List Char)
  | '.' :: text =>
    match digitsOf (text.takeWhile isNumberChar) with
    | [] => none
    | digits => some (some digits, text.dropWhile isNumberChar)
  | text => some (none, text)

/-- What may follow an item: a digit, blanks, or nothing. The blanks are skipped. -/
def readGap? : List Char → Option (List Char)
  | [] => some []
  | c :: rest =>
    if Decimal.isDigit c then some (c :: rest)
    else if Text.isBlank c then some (rest.dropWhile Text.isBlank)
    else none

/-- The item at the start of a text, which must be a digit, and the text behind the gap that
follows. -/
def readItem? (text : List Char) : Option (Item × List Char) :=
  if (text.head?.map Decimal.isDigit).getD false then
    match readFraction? (text.dropWhile isNumberChar) with
    | none => none
    | some (fraction, named) =>
      (readGap? (named.dropWhile isUnitChar)).map fun rest =>
        (⟨digitsOf (text.takeWhile isNumberChar), fraction, named.takeWhile isUnitChar⟩, rest)
  else none

theorem length_readFraction? {text rest : List Char} {fraction : Option (List Char)}
    (h : readFraction? text = some (fraction, rest)) : rest.length ≤ text.length := by
  unfold readFraction? at h
  split at h
  · split at h
    · cases h
    · cases h
      exact Nat.le_succ_of_le (List.dropWhile_suffix _).length_le
  · cases h
    exact Nat.le_refl _

theorem length_readGap? {text rest : List Char} (h : readGap? text = some rest) :
    rest.length ≤ text.length := by
  cases text with
  | nil =>
    cases h
    exact Nat.le_refl _
  | cons c tail =>
    simp only [readGap?] at h
    split at h
    · cases h
      exact Nat.le_refl _
    · split at h
      · cases h
        exact Nat.le_succ_of_le (List.dropWhile_suffix _).length_le
      · cases h

/-- Reading an item uses up some text. -/
theorem length_readItem? {text rest : List Char} {item : Item}
    (h : readItem? text = some (item, rest)) : rest.length < text.length := by
  unfold readItem? at h
  split at h
  · rename_i hdigit
    cases text with
    | nil => cases hdigit
    | cons c tail =>
      have hnumber : isNumberChar c = true := by
        simp only [List.head?_cons, Option.map_some, Option.getD_some] at hdigit
        simp [isNumberChar, hdigit]
      split at h
      · cases h
      · rename_i fraction named hfraction
        obtain ⟨gap, hgap, hrest⟩ := Option.map_eq_some_iff.1 h
        cases hrest
        have hle := length_readFraction? hfraction
        simp only [List.dropWhile_cons, hnumber, if_true] at hle
        have hunit := (List.dropWhile_suffix (l := named) isUnitChar).length_le
        have htail := (List.dropWhile_suffix (l := tail) isNumberChar).length_le
        have hgap := length_readGap? hgap
        simp only [List.length_cons]
        omega
  · cases h

/-- A sum of durations: whole seconds, and nanoseconds below a second. -/
structure Sum where
  seconds : Nat
  nanoseconds : Nat

/-- The sum in nanoseconds. -/
def Sum.total (sum : Sum) : Nat := sum.seconds * second + sum.nanoseconds

/-- A number that fits 64 bits. -/
def checked (value : Nat) : Except Stop Nat :=
  if value < Uint.size 64 then .ok value else .error .refusedValue

/-- Adds to a sum. Too large a sum is refused, but nanoseconds that make exactly one more second
than the seconds can count end the process. -/
def Sum.add (sum : Sum) (seconds nanoseconds : Nat) : Except Stop Sum := do
  let nanos ← checked (sum.nanoseconds + nanoseconds)
  let whole ← checked (sum.seconds + seconds)
  if nanos = second ∧ whole + 1 = Uint.size 64 then .error .aborted
  let whole ← checked (whole + nanos / second)
  return ⟨whole, nanos % second⟩

/-- Adds whole units: those shorter than a second as nanoseconds. -/
def Sum.addWhole (sum : Sum) (unit : TimeUnit) (count : Nat) : Except Stop Sum := do
  if unit.length < second then sum.add 0 (← checked (count * unit.length))
  else sum.add (← checked (count * (unit.length / second))) 0

/-- A part of a unit: so many of so many equal parts. -/
structure Fraction where
  numerator : Nat
  denominator : Nat

def Fraction.ofDigits (digits : List Char) : Except Stop Fraction := do
  return ⟨(Decimal.readFrom 0 digits).getD 0, ← checked (Nat.pow 10 digits.length)⟩

/-- A fraction of an amount, which must come out even. -/
def Fraction.of (fraction : Fraction) (amount : Nat) : Except Stop Nat := do
  let product ← checked (fraction.numerator * amount)
  if product % fraction.denominator = 0 then return product / fraction.denominator
  else .error .refusedValue

/-- Adds a fraction of a unit. Units of up to a minute are divided into nanoseconds, longer ones into
seconds, and a nanosecond is not divided. -/
def Sum.addFraction (sum : Sum) (unit : TimeUnit) (fraction : Fraction) : Except Stop Sum := do
  if unit.length = 1 then .error .refusedValue
  else if unit.length ≤ 60 * second then sum.add 0 (← fraction.of unit.length)
  else sum.add (← fraction.of (unit.length / second)) 0

def Sum.addItem (sum : Sum) (item : Item) : Except Stop Sum := do
  let count ← checked ((Decimal.readFrom 0 item.whole).getD 0)
  let fraction ← item.fraction.mapM Fraction.ofDigits
  match unit? item.unitName with
  | none => .error .refusedValue
  | some unit =>
    let sum ← sum.addWhole unit count
    match fraction with
    | none => return sum
    | some fraction => sum.addFraction unit fraction

/-- Adds the items of a text to a sum. -/
def readOnto (sum : Sum) (text : List Char) : Except Stop Sum :=
  match _hitem : readItem? text with
  | none => .error .refusedValue
  | some (item, rest) => do
    let sum ← sum.addItem item
    if rest.isEmpty then return sum else readOnto sum rest
termination_by text.length
decreasing_by exact length_readItem? _hitem

/-- The nanoseconds of a duration. Items such as `1h 30m` are summed. Only zero may stand without a
unit. -/
def read (text : List Char) : Except Stop Nat :=
  if text = ['0'] then .ok 0
  else Sum.total <$> readOnto ⟨0, 0⟩ (text.dropWhile Text.isBlank)

end RollupBridge.Cli.Duration
