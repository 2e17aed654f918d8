namespace RollupBridge.Json

/-- What is expected of a value: nothing, a byte string of a width, a list of items, or a record of
fields. Each field is given by the names it may have. -/
inductive Outline
  | any
  | bytes (width : Nat)
  | list (item : Outline)
  | record (fields : List (List String × Outline))

/-- A field of a record: the names it may have, and what is expected of its value. -/
abbrev Field := List String × Outline

namespace Outline

/-- What is expected of the item behind `count` others. -/
def item (count : Nat) : Outline → Outline
  | list item => item
  | record fields => (fields[count]?.map Prod.snd).getD any
  | _ => any

/-- What is expected of the value of a key. -/
def member (key : Option String) : Outline → Outline
  | record fields =>
    ((fields.find? fun (names, _) => names.any fun name => key == some name).map Prod.snd).getD any
  | _ => any

/-- True for an array of `count` bytes that lacks none of a fixed width. -/
def isFull (count : Nat) : Outline → Bool
  | bytes width => count == width
  | _ => false

end Outline

end RollupBridge.Json
