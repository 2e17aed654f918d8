import RollupBridge.Url.Basic
import RollupBridge.Url.Path

namespace RollupBridge.Url

/-- What is percent-encoded in the name of a user and in a password. -/
def userReserved : List Char := pathReserved ++ "/:;=@[\\]|".toList

/-- The parts before and after the last at sign. -/
def splitUser (text : List Char) : Option (List Char × List Char) :=
  let (host, user) := text.reverse.span (· != '@')
  match user with
  | _ :: user => some (user.reverse, host.reverse)
  | [] => none

/-- The user and the password, parted by the first colon. -/
def splitPassword (text : List Char) : List Char × List Char :=
  let (user, password) := (Text.splitOnce ':' text).getD (text, [])
  (percentEncode userReserved user, percentEncode userReserved password)

/-- The host text and what stands behind it. Colons within brackets belong to the host. -/
def splitHost : (bracketed : Bool) → List Char → List Char × List Char
  | _, [] => ([], [])
  | bracketed, c :: rest =>
    if c = ':' ∧ ¬ bracketed then ([], c :: rest)
    else
      let (host, port) := splitHost (if c = '[' then true else if c = ']' then false else bracketed) rest
      (c :: host, port)

/-- A port behind a colon, below 65536, and what stands behind it, which is nothing or starts with a
backslash. No digits and the scheme's own port are no port. -/
def port? (scheme : List Char) : List Char → Option (Option Nat × List Char)
  | ':' :: text => do
    let (digits, rest) := text.span Decimal.isDigit
    let port := if digits.isEmpty then none else Decimal.read? digits
    if port.any (65536 ≤ ·) ∨ rest.head?.any (· != '\\') then none
    else some (if port = defaultPort scheme then none else port, rest)
  | rest => some (none, rest)

/-- The authority with the server of a text, and what is left for the path. Only URLs of other schemes
may lack a server, and only if no port is given and nobody signs in. -/
def server? (scheme user password text : List Char) : Option (Authority × List Char) := do
  let (hostText, portText) := splitHost false text
  if hostText.isEmpty then
    if isSpecial scheme ∨ ¬ portText.isEmpty ∨ ¬ user.isEmpty ∨ ¬ password.isEmpty then none
    else some ({ host := none, port := none }, [])
  else
    let host ← if isSpecial scheme then Host.domain? hostText else Host.opaqueName? hostText
    let (port, rest) ← port? scheme portText
    some ({ user, password, host, port }, rest)

/-- The authority at the start of a text, up to the first slash, and what is left for the path. A lone
at sign in front is passed over, unless `isFollowed` says that more than the authority follows and
nothing stands between. -/
def authority? (scheme text : List Char) (isFollowed : Bool) :
    Option (Authority × List Char) := do
  let (text, path) := text.span fun c => !isSlash (isSpecial scheme) c
  let (authority, rest) ← match splitUser text with
    | none => server? scheme [] [] text
    | some ([], []) => if isFollowed ∨ ¬ path.isEmpty then none else server? scheme [] [] []
    | some (user, text) =>
      let (user, password) := splitPassword user
      server? scheme user password text
  some (authority, rest ++ path)

end RollupBridge.Url
