import RollupBridge.Bytes.Hex
import RollupBridge.Cli.Duration
import RollupBridge.Cli.GasPrice
import RollupBridge.Fee
import RollupBridge.Url.Reader

namespace RollupBridge.Cli

/-- A way to read the value of an argument. -/
abbrev Reader (α : Type) := String → Except Stop α

namespace Reader

variable {α : Type}

/-- A value that a text may spell or not. -/
def ofOption (read? : List Char → Option α) : Reader α := fun text =>
  match read? text.toList with
  | some value => .ok value
  | none => .error .refusedValue

/-- Any text. -/
def text : Reader String := .ok

/-- A path, which must not be empty. -/
def path : Reader String := fun text => if text.isEmpty then .error .invalidValue else .ok text

def choice (values : List (String × α)) : Reader α := fun text =>
  match values.lookup text with
  | some value => .ok value
  | none => .error .invalidValue

def fixed {width : Nat} : Reader (FixedBytes width) := ofOption Hex.readFixed?

def bytes : Reader Bytes := ofOption Hex.read?

def url : Reader Url := ofOption Url.parse?

/-- An integer, with an optional plus sign. -/
def uint {bits : Nat} : Reader (Uint bits) := ofOption fun text => do
  Uint.ofNat? bits (← Decimal.readSigned? text)

/-- An integer with an optional sign. Zero is the only one that may have a minus. -/
def signedUint {bits : Nat} : Reader (Uint bits) := ofOption fun text =>
  match text with
  | '-' :: digits => if Decimal.read? digits = some 0 then some 0 else none
  | text => do Uint.ofNat? bits (← Decimal.readSigned? text)

/-- A margin: an integer, or two with a slash between them. Blanks around an integer are ignored. -/
def margin : Reader SafetyMargin := ofOption fun text => do
  let (numerator, denominator) := (Text.splitOnce '/' text).getD (text, ['1'])
  let part (text : List Char) : Option (Uint 64) := do
    Uint.ofNat? 64 (← Decimal.readSigned? (Text.trim text))
  (SafetyMargin.ofRatio (← part numerator) (← part denominator)).toOption

/-- A gas price in gwei, as wei, with words multiplied in some way. -/
def gasPriceBy (times : GasPrice.Times) : Reader (Uint 128) := fun text =>
  match GasPrice.read times text.toList with
  | .ok price => .ok price
  | .error .brokenCharacter => .error .aborted
  | .error _ => .error .refusedValue

/-- A gas price in gwei, as wei. A product that does not fit its word is refused. -/
def gasPrice : Reader (Uint 128) := gasPriceBy GasPrice.Times.checked

/-- A duration, in nanoseconds. -/
def duration : Reader Nat := fun text => Duration.read text.toList

end Reader

end RollupBridge.Cli
