import RollupBridge.Domain.Label

namespace RollupBridge.Domain

/-- ASCII characters that no domain name may hold. -/
def isForbidden (c : Char) : Bool :=
  c.toNat ≤ 0x20 || c.toNat == 0x7f || "%#/:<>?@[\\]^|".toList.contains c

/-- True for labels whose name has nothing that is written from right to left, or that all keep
their direction. -/
def keepDirection (labels : List Label) : Bool :=
  labels.all (fun label => !label.text.any Unicode.isRightToLeft) || labels.all Label.keepsDirection

/-- How a domain name is written in ASCII, if it is one. -/
def toAscii? (name : List Char) : Option (List Char) := do
  let name ← normalize? name
  if name.any isForbidden then none
  let labels ← (Text.split '.' name).mapM Label.ofPart?
  if keepDirection labels then some (Text.join ['.'] (labels.map Label.ascii)) else none

end RollupBridge.Domain
