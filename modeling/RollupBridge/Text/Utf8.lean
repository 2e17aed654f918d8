import RollupBridge.Bytes.Basic

namespace RollupBridge.Text

/-- The characters of a byte string, if it is UTF-8. -/
def ofUtf8? (bytes : Bytes) : Option (List Char) :=
  (String.fromUTF8? ⟨bytes.toArray⟩).map String.toList

/-- The bytes of a text in UTF-8. -/
def toUtf8 (text : List Char) : Bytes := text.flatMap String.utf8EncodeChar

/-- The number of bytes of a text in UTF-8. -/
def utf8Length : List Char → Nat
  | [] => 0
  | c :: rest => c.utf8Size + utf8Length rest

/-- A text without its first `count` bytes, unless it has fewer or that breaks a character. -/
def dropBytes? : (count : Nat) → List Char → Option (List Char)
  | 0, text => some text
  | _ + 1, [] => none
  | count + 1, c :: rest =>
    if c.utf8Size ≤ count + 1 then dropBytes? (count + 1 - c.utf8Size) rest else none

end RollupBridge.Text
