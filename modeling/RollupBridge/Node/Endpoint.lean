import RollupBridge.Bytes.Base64
import RollupBridge.Url.Basic

namespace RollupBridge

structure Credentials where
  user : List Char
  password : Option (List Char)

def Credentials.header (credentials : Credentials) : List Char :=
  let text := credentials.user ++ ':' :: credentials.password.getD []
  "Authorization: Basic ".toList ++ Base64.write (Text.toUtf8 text)

namespace Url

/-- Who signs in at a URL, unless the name of the user spells no text. A password that spells none is
left out. -/
def credentials? (url : Url) : Option Credentials := do
  let authority ← url.authority
  let user ← percentDecode? authority.user
  let password := if authority.password.isEmpty then none else percentDecode? authority.password
  if user.isEmpty ∧ password.isNone then none else some ⟨user, password⟩

/-- The URL that a request names. Who signs in stays where no header tells it. -/
def requested (url : Url) : Url :=
  if url.credentials?.isSome then { url with authority := url.authority.map Authority.withoutUser }
  else url

/-- True for the schemes that requests can be made in. -/
def isHttp (url : Url) : Bool := url.scheme == "http".toList || url.scheme == "https".toList

def maxLength : Nat := 65534

/-- True for a URL that a request can name: it is not too long, and its server's name is free of
quotes and braces. -/
def canBeRequested (url : Url) : Bool :=
  let host := (url.host?.map Host.chars).getD []
  url.isHttp && Text.utf8Length url.requested.chars ≤ maxLength &&
    !host.any fun c => "\"\x60\x7b\x7d".toList.contains c

/-- Why a URL cannot be reached when nothing answers there. -/
def refusal (url : Url) : String :=
  (if url.canBeRequested then "error sending request" else "builder error") ++ " for url (" ++
    url.requested.text ++ ")"

end Url

end RollupBridge
