import RollupBridge.Domain.Mapping
import RollupBridge.Domain.Punycode
import RollupBridge.Unicode.Bidi
import RollupBridge.Unicode.Joining
import RollupBridge.Unicode.Mark

namespace RollupBridge.Domain

open Unicode

/-- A label: its text, and how it is written in ASCII. One in any other script is written as
Punycode behind `xn--`. -/
structure Label where
  text : List Char
  ascii : List Char

namespace Label

def codeMark : List Char := "xn--".toList

/-- The most characters of a label that are written in Punycode. -/
def maxLength : Nat := 1000

/-- The most characters of Punycode that are read. -/
def maxCodeLength : Nat := 2000

/-- True if the nearest letter that is not transparent joins on a side. -/
def reaches (side : JoiningType) : List Char → Bool
  | [] => false
  | c :: rest =>
    match joiningType c with
    | .transparent => reaches side rest
    | .dual => true
    | joining => joining == side

/-- True if the joiners of a text stand where they are seen: behind a virama, and those that part
letters also between letters that join. What stands before is in reverse. -/
def joinersAreSeen : (before : List Char) → List Char → Bool
  | _, [] => true
  | before, c :: rest =>
    let isBehindVirama := before.head?.any (combiningClass · == virama)
    let partsLetters := reaches .left before && reaches .right rest
    (if c = '\u200d' then isBehindVirama else c != '\u200c' || isBehindVirama || partsLetters) &&
      joinersAreSeen (c :: before) rest

/-- True for the text of a label. Any ASCII text is; other texts are not too long, do not start with
a mark, and have joiners only where they are seen. -/
def isLabel (text : List Char) : Bool :=
  isAscii text ||
    (text.length ≤ maxLength && !text.head?.any isMark && joinersAreSeen [] text)

/-- The text of a label in Punycode. It is spelled as usual. -/
def decode? (code : List Char) : Option (List Char) := do
  if code.isEmpty ∨ code.getLast? = some '-' ∨ maxCodeLength < code.length ∨ ¬ isAscii code then none
  let text ← Punycode.decode? code
  if isNormal text then some text else none

/-- The label of a part of a name that is spelled as usual. -/
def ofPart? (part : List Char) : Option Label := do
  let text ← if codeMark.isPrefixOf part then decode? (part.drop codeMark.length) else some part
  if isLabel text then
    some ⟨text, if isAscii part then part else codeMark ++ Punycode.encode part⟩
  else none

/-- True for a label that reads the same in a name of either direction: it starts with a letter, ends
in a letter or a digit and maybe marks, and does not mix directions or kinds of digits. -/
def keepsDirection (label : Label) : Bool :=
  let classes := label.text.map bidiClass
  let last := (classes.reverse.dropWhile (· == .mark)).head?
  match classes.head? with
  | none => true
  | some .leftToRight =>
    classes.all ([.leftToRight, .europeanDigit, .neutral, .mark].contains ·) &&
      last.any ([.leftToRight, .europeanDigit].contains ·)
  | some .rightToLeft =>
    classes.all ([.rightToLeft, .arabicDigit, .europeanDigit, .neutral, .mark].contains ·) &&
      last.any ([.rightToLeft, .arabicDigit, .europeanDigit].contains ·) &&
      !(classes.contains .arabicDigit && classes.contains .europeanDigit)
  | _ => false

end Label

end RollupBridge.Domain
