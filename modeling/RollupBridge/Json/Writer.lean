import RollupBridge.Json.Value

namespace RollupBridge.Json

def writeChar (c : Char) : List Char :=
  match c with
  | '"' => ['\\', '"']
  | '\\' => ['\\', '\\']
  | '\x08' => ['\\', 'b']
  | '\x0c' => ['\\', 'f']
  | '\n' => ['\\', 'n']
  | '\r' => ['\\', 'r']
  | '\t' => ['\\', 't']
  | c =>
    if c.toNat < 0x20 then ['\\', 'u', '0', '0', Hex.digit (c.toNat / 16), Hex.digit (c.toNat % 16)]
    else [c]

/-- The text of a string, in quotes. One that spells no text is written as half a surrogate pair,
which reads back as such a string. -/
def writeString : Option String → List Char
  | some s => '"' :: s.toList.flatMap writeChar ++ ['"']
  | none => "\"\\ud800\"".toList

mutual

def compactChars : Json → List Char
  | .null => "null".toList
  | .bool true => "true".toList
  | .bool false => "false".toList
  | .number literal => literal
  | .string s => writeString s
  | .array items => '[' :: compactItems items ++ [']']
  | .object members => '\x7b' :: compactMembers members ++ ['\x7d']

def compactItems : List Json → List Char
  | [] => []
  | [item] => compactChars item
  | item :: rest => compactChars item ++ ',' :: compactItems rest

def compactMembers : List (Option String × Json) → List Char
  | [] => []
  | [(key, value)] => writeString key ++ ':' :: compactChars value
  | (key, value) :: rest => writeString key ++ ':' :: compactChars value ++ ',' :: compactMembers rest

end

def compact (value : Json) : String := String.ofList (compactChars value)

/-- A line break and the indentation of a depth. -/
def newline (depth : Nat) : List Char := '\n' :: List.replicate (2 * depth) ' '

mutual

/-- A value over several lines, from a depth on. Empty arrays and objects stay closed. -/
def indentedChars : (depth : Nat) → Json → List Char
  | _, .array [] => "[]".toList
  | depth, .array items =>
    '[' :: newline (depth + 1) ++ indentedItems (depth + 1) items ++ newline depth ++ [']']
  | _, .object [] => ['\x7b', '\x7d']
  | depth, .object members =>
    '\x7b' :: newline (depth + 1) ++ indentedMembers (depth + 1) members ++ newline depth ++ ['\x7d']
  | _, value => compactChars value

def indentedItems : (depth : Nat) → List Json → List Char
  | _, [] => []
  | depth, [item] => indentedChars depth item
  | depth, item :: rest =>
    indentedChars depth item ++ ',' :: newline depth ++ indentedItems depth rest

def indentedMembers : (depth : Nat) → List (Option String × Json) → List Char
  | _, [] => []
  | depth, [(key, value)] => writeString key ++ ':' :: ' ' :: indentedChars depth value
  | depth, (key, value) :: rest =>
    writeString key ++ ':' :: ' ' :: indentedChars depth value ++ ',' :: newline depth ++
      indentedMembers depth rest

end

def indented (value : Json) : String := String.ofList (indentedChars 0 value)

end RollupBridge.Json
