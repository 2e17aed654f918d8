import RollupBridge.Domain.MappingTable
import RollupBridge.Text.Split
import RollupBridge.Unicode.Compose

namespace RollupBridge.Domain

open Unicode

/-- What becomes of a character before a domain name is looked at: upper case and other spellings
give way to the usual one. -/
inductive Mapping
  | keep
  | refuse
  | drop
  | alternate
  | shift (first : Nat)
  | replace (text : List Char)

/-- The meaning of a word in `mappingTable`. -/
def Mapping.ofWord : List Char → Mapping
  | ['.'] => keep
  | ['-'] => drop
  | ['~'] => alternate
  | '>' :: first => shift ((Hex.number? first).getD 0)
  | '=' :: text => replace ((Text.split '+' text).map charOf)
  | _ => refuse

/-- The runs of `mappingTable`. -/
def mappingRuns : List (Run Mapping) := runs Mapping.ofWord mappingTable

/-- What becomes of a character, unless it may not stand in a name. -/
def mapChar? (c : Char) : Option (List Char) :=
  if c.toNat < 0x80 then some [c.toLower]
  else
    match find? mappingRuns (c.toNat - 0x80) with
    | some (_, .keep) => some [c]
    | some (_, .drop) => some []
    | some (position, .alternate) => some [if position % 2 = 0 then Char.ofNat (c.toNat + 1) else c]
    | some (position, .shift first) => some [Char.ofNat (first + position)]
    | some (_, .replace text) => some text
    | _ => none

def normalize? (name : List Char) : Option (List Char) := do
  return compose (← name.mapM mapChar?).flatten

def isNormal (text : List Char) : Bool := normalize? text == some text

end RollupBridge.Domain
