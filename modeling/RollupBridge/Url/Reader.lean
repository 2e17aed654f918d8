import RollupBridge.Url.Authority

namespace RollupBridge.Url

/-- A text without blank and control characters at its ends, and without tabs and line breaks. -/
def prepare (text : List Char) : List Char :=
  let isEdge (c : Char) : Bool := c.toNat ≤ 0x20
  let inner := ((text.dropWhile isEdge).reverse.dropWhile isEdge).reverse
  inner.filter fun c => c != '\t' && c != '\n' && c != '\r'

/-- The scheme in lower case, and what stands behind its colon. -/
def scheme? (text : List Char) : Option (List Char × List Char) :=
  let (scheme, rest) := text.span fun c => c.isAlphanum || c == '+' || c == '-' || c == '.'
  match scheme, rest with
  | first :: _, ':' :: rest => if first.isAlpha then some (scheme.map Char.toLower, rest) else none
  | _, _ => none

def queryReserved (special : Bool) : List Char :=
  if special then " \"#<>'".toList else " \"#<>".toList

def fragmentReserved : List Char := " \"<>`".toList

/-- A file that has no server unless a name stands behind two slashes. The computer's own name is no
server, and a drive is on none. -/
def file? (text : List Char) : Option (Authority × List Char) :=
  let place (host : Option Host) (text : List Char) : Authority × List Char :=
    let (path, hasDrive) := filePath text
    ({ host := if hasDrive then none else host, port := none }, path)
  match text with
  | a :: b :: rest =>
    if isSlash true a && isSlash true b then
      let (hostText, path) := rest.span fun c => !isSlash true c
      if isDrive hostText then some (place none rest)
      else if hostText.isEmpty then some (place none path)
      else do
        let host ← Host.domain? hostText
        if host = .name "localhost".toList then some (place none path)
        else some (place host (path.drop 1))
    else some (place none (if isSlash true a then b :: rest else text))
  | [a] => some (place none (if isSlash true a then [] else [a]))
  | [] => some (place none [])

/-- Authority and path of the part between the scheme and the query or fragment, one of which
follows or not. -/
def place? (scheme text : List Char) (isFollowed : Bool) :
    Option (Option Authority × List Char) :=
  let special := isSpecial scheme
  let behindSlashes (text : List Char) : Option (Option Authority × List Char) := do
    let (authority, path) ← authority? scheme text isFollowed
    some (some authority, authorityPath special path)
  if scheme = "file".toList then (file? text).map fun (authority, path) => (some authority, path)
  else if special then behindSlashes (text.dropWhile (isSlash true))
  else match text with
    | '/' :: '/' :: rest => behindSlashes rest
    | '/' :: rest => some (none, pathChars false rest)
    | rest => some (none, percentEncode [] rest)

/-- The URL that a text is read as by the rules browsers share. In the well-known schemes a
backslash is a slash, and any number of slashes may stand before the host. -/
def parse? (text : List Char) : Option Url := do
  let (scheme, rest) ← scheme? (prepare text)
  let (rest, fragment) := match Text.splitOnce '#' rest with
    | some (rest, fragment) => (rest, some fragment)
    | none => (rest, none)
  let (rest, query) := match Text.splitOnce '?' rest with
    | some (rest, query) => (rest, some query)
    | none => (rest, none)
  let (authority, path) ← place? scheme rest (query.isSome || fragment.isSome)
  return {
    scheme, authority, path
    query := query.map (percentEncode (queryReserved (isSpecial scheme)))
    fragment := fragment.map (percentEncode fragmentReserved) }

end RollupBridge.Url
