import RollupBridge.Url.Host

namespace RollupBridge

/-- What stands behind two slashes: who signs in, a server, and its port unless the port is the
scheme's own. User and password are percent-encoded; an empty text is none. -/
structure Url.Authority where
  user : List Char := []
  password : List Char := []
  host : Option Url.Host
  port : Option Nat
deriving DecidableEq

structure Url where
  scheme : List Char
  authority : Option Url.Authority
  path : List Char
  query : Option (List Char)
  fragment : Option (List Char)
deriving DecidableEq

namespace Url

def host? (url : Url) : Option Host := url.authority.bind Authority.host

/-- The ports of the well-known schemes, none for files. -/
def specialSchemes : List (String × Option Nat) :=
  [("http", some 80), ("https", some 443), ("ws", some 80), ("wss", some 443), ("ftp", some 21),
    ("file", none)]

/-- True for the well-known schemes, whose hosts are domains and whose paths are never empty. -/
def isSpecial (scheme : List Char) : Bool :=
  specialSchemes.any fun (name, _) => name.toList == scheme

/-- The port a scheme uses unless another is given. -/
def defaultPort (scheme : List Char) : Option Nat :=
  (specialSchemes.find? fun (name, _) => name.toList == scheme).bind Prod.snd

namespace Authority

/-- True for an authority that says who signs in. -/
def namesUser (authority : Authority) : Bool :=
  !authority.user.isEmpty || !authority.password.isEmpty

/-- An authority that says nothing of who signs in. -/
def withoutUser (authority : Authority) : Authority := { authority with user := [], password := [] }

def chars (authority : Authority) : List Char :=
  let password := if authority.password.isEmpty then [] else ':' :: authority.password
  let user := if authority.namesUser then authority.user ++ password ++ ['@'] else []
  user ++ (authority.host.map Host.chars).getD [] ++
    (authority.port.map fun port => ':' :: Decimal.digits port).getD []

end Authority

/-- The text of a URL. A path that starts with two slashes and has no authority gets `/.` in front,
lest it be read as one. -/
def chars (url : Url) : List Char :=
  let place := match url.authority, url.path with
    | some authority, path => '/' :: '/' :: authority.chars ++ path
    | none, '/' :: '/' :: path => '/' :: '.' :: '/' :: '/' :: path
    | none, path => path
  url.scheme ++ ':' :: place ++ (url.query.map fun query => '?' :: query).getD [] ++
    (url.fragment.map fun fragment => '#' :: fragment).getD []

def text (url : Url) : String := String.ofList url.chars

end Url

end RollupBridge
