import RollupBridge.Text.Split
import RollupBridge.Url.Percent

namespace RollupBridge.Url

def pathReserved : List Char := " \"#<>?^`\x7b\x7d".toList

/-- True for the characters that part an authority and the segments of a path. -/
def isSlash (special : Bool) (c : Char) : Bool := c == '/' || (special && c == '\\')

/-- True for the segment that stands for the directory itself. -/
def isHere (segment : List Char) : Bool :=
  [".", "%2e"].any fun s => s.toList == segment.map Char.toLower

/-- True for the segment that stands for the directory above. -/
def isAbove (segment : List Char) : Bool :=
  ["..", ".%2e", "%2e.", "%2e%2e"].any fun s => s.toList == segment.map Char.toLower

/-- True for a letter with a colon or a bar behind it. -/
def isDrive : List Char → Bool
  | [letter, mark] => letter.isAlpha && (mark == ':' || mark == '|')
  | _ => false

/-- True for segments that are not left upwards: drives, and what a backslash parts from one. -/
def isRoot (segment : List Char) : Bool := isDrive (segment.takeWhile (· != '\\'))

/-- The segments above the last one. Segments stand in reverse. -/
def above : List (List Char) → List (List Char)
  | [] => []
  | segment :: rest => if isRoot segment then segment :: rest else rest

/-- Segments without the ones that only move about. Those already passed stand in reverse; one that
moves at the end leaves an empty segment. -/
def resolve : (segments seen : List (List Char)) → List (List Char)
  | [], seen => seen.reverse
  | segment :: rest, seen =>
    let seen := if isAbove segment then above seen else if isHere segment then seen else segment :: seen
    if rest.isEmpty ∧ (isAbove segment ∨ isHere segment) then ([] :: seen).reverse else resolve rest seen

/-- The percent-encoded segments of a path, the slash in front of it already taken. -/
def segments (special : Bool) (text : List Char) : List (List Char) :=
  (Text.split '/' (text.map fun c => if isSlash special c then '/' else c)).map
    (percentEncode pathReserved)

/-- Segments with a slash in front of each. -/
def joinSegments (segments : List (List Char)) : List Char := '/' :: Text.join ['/'] segments

/-- A path that starts with a slash, which is already taken. -/
def pathChars (special : Bool) (text : List Char) : List Char :=
  joinSegments (resolve (segments special text) [])

/-- The path behind an authority. Only the well-known schemes put a slash where there is nothing;
before anything but a slash all do. -/
def authorityPath (special : Bool) : List Char → List Char
  | [] => if special then ['/'] else []
  | c :: rest => if isSlash special c then pathChars special rest else pathChars special (c :: rest)

/-- The segments of a file's path, and whether a drive comes first. A drive is written with a colon. -/
def resolveFile : (segments seen : List (List Char)) → List (List Char) × Bool
  | [], seen => (seen.reverse, false)
  | segment :: rest, seen =>
    if isDrive segment ∧ seen.isEmpty then (resolve rest [segment.take 1 ++ [':']], true)
    else
      let seen :=
        if isAbove segment then above seen else if isHere segment then seen else segment :: seen
      if rest.isEmpty ∧ (isAbove segment ∨ isHere segment) then (([] :: seen).reverse, false)
      else resolveFile rest seen

/-- The path of a file, the slash in front of it already taken, and whether it starts with a drive.
More slashes in front are left out. -/
def filePath (text : List Char) : List Char × Bool :=
  let (segments, hasDrive) := resolveFile (segments true text) []
  ('/' :: (joinSegments segments).dropWhile (· == '/'), hasDrive)

end RollupBridge.Url
