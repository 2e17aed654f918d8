import RollupBridge.Json.Miss
import RollupBridge.Json.Outline
import RollupBridge.Json.Value

namespace RollupBridge.Json

/-- The text behind an array of bytes that lacks none, from the comma behind the last one on. Behind
that comma another byte is sought, and whatever that takes without finding one is passed over. -/
def closeBytes? (text : List Char) : Option (List Char) :=
  let close? (text : List Char) : Option (List Char) :=
    match skipGap text with
    | ']' :: rest => some rest
    | _ => none
  (close? text).or ((missByte? (skipGap text)).bind close?)

mutual

/-- The value at the start of a text, read as what is expected, and what is behind it. Values nest
to any depth. The fuel is twice the length of the text, which no text can use up. -/
def readValue : (fuel : Nat) → Outline → List Char → Option (Json × List Char)
  | 0, _, _ => none
  | fuel + 1, outline, text =>
    match skipGap text with
    | 'n' :: 'u' :: 'l' :: 'l' :: rest => some (.null, rest)
    | 't' :: 'r' :: 'u' :: 'e' :: rest => some (.bool true, rest)
    | 'f' :: 'a' :: 'l' :: 's' :: 'e' :: rest => some (.bool false, rest)
    | '"' :: rest => (readString rest).map fun (s, rest) => (.string s, rest)
    | '[' :: rest =>
      match skipGap rest with
      | ']' :: rest => some (.array [], rest)
      | rest => readItems fuel outline rest []
    | '{' :: rest =>
      match skipGap rest with
      | '}' :: rest => some (.object [], rest)
      | rest => readMembers fuel outline rest []
    | rest => (readNumber rest).map fun (literal, rest) => (.number literal, rest)

/-- The items of an array from one item on. Those already read stand in reverse. -/
def readItems : (fuel : Nat) → Outline → List Char → List Json → Option (Json × List Char)
  | 0, _, _, _ => none
  | fuel + 1, outline, text, seen =>
    match readValue fuel (outline.item seen.length) text with
    | none => none
    | some (item, rest) =>
      match skipGap rest with
      | ',' :: rest =>
        if outline.isFull (seen.length + 1) then
          (closeBytes? rest).map fun rest => (.array (item :: seen).reverse, rest)
        else readItems fuel outline rest (item :: seen)
      | ']' :: rest => some (.array (item :: seen).reverse, rest)
      | _ => none

/-- The members of an object from one key on. Those already read stand in reverse. -/
def readMembers : (fuel : Nat) → Outline → List Char → List (Option String × Json) →
    Option (Json × List Char)
  | 0, _, _, _ => none
  | fuel + 1, outline, text, seen =>
    match skipGap text with
    | '"' :: rest =>
      match readString rest with
      | none => none
      | some (key, rest) =>
        match skipGap rest with
        | ':' :: rest =>
          match readValue fuel (outline.member key) rest with
          | none => none
          | some (value, rest) =>
            match skipGap rest with
            | ',' :: rest => readMembers fuel outline rest ((key, value) :: seen)
            | '}' :: rest => some (.object ((key, value) :: seen).reverse, rest)
            | _ => none
        | _ => none
    | _ => none

end

/-- The value of a text that holds one value and gaps around it, read as what is expected. -/
def readAs? (outline : Outline) (text : List Char) : Option Json :=
  match readValue (2 * text.length + 2) outline text with
  | some (value, rest) => if (skipGap rest).isEmpty then some value else none
  | none => none

/-- The value of a text of which nothing is expected. -/
def read? (text : List Char) : Option Json := readAs? .any text

end RollupBridge.Json
