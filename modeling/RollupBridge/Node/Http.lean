import RollupBridge.Node.Client
import RollupBridge.Node.Endpoint
import RollupBridge.Text.Blank

namespace RollupBridge.Http

/-- The path and the query that a request names. -/
def target (url : Url) : List Char :=
  (if url.path.isEmpty then ['/'] else url.path) ++ (url.query.map fun query => '?' :: query).getD []

/-- The text of a call, which is posted on a connection of its own. -/
def request (url : Url) (call : NodeCall) : Bytes :=
  let body := Text.toUtf8 call.text.toList
  let host := (url.authority.map fun authority => authority.withoutUser.chars).getD []
  let head := ["POST ".toList ++ target url ++ " HTTP/1.1".toList, "Host: ".toList ++ host,
    "Content-Type: application/json".toList,
    "Content-Length: ".toList ++ Decimal.digits body.length, "Connection: close".toList]
  let signIn := (url.credentials?.map fun credentials => credentials.header).toList
  Text.toUtf8 ((head ++ signIn ++ [[]]).flatMap fun line => line ++ ['\r', '\n']) ++ body

/-- The line at the start of a text, without its end, and what follows it. -/
def nextLine? : Bytes → Option (Bytes × Bytes)
  | [] => none
  | 13 :: 10 :: rest => some ([], rest)
  | byte :: rest => (nextLine? rest).map fun (line, rest) => (byte :: line, rest)

theorem length_nextLine? {text line rest : Bytes} (h : nextLine? text = some (line, rest)) :
    rest.length < text.length := by
  fun_induction nextLine? text generalizing line rest with
  | case1 => cases h
  | case2 tail =>
    cases h
    simp only [List.length_cons]
    omega
  | case3 byte tail _ ih =>
    obtain ⟨⟨line', rest'⟩, hnext, heq⟩ := Option.map_eq_some_iff.1 h
    cases heq
    have hlt := ih hnext
    simp only [List.length_cons]
    omega

def latin (bytes : Bytes) : List Char := bytes.map fun byte => Char.ofNat byte.toNat

/-- The headers at the start of a text, up to an empty line, with names in lower case. -/
def headers? (text : Bytes) : Option (List (String × List Char) × Bytes) :=
  match _hline : nextLine? text with
  | none => none
  | some ([], rest) => some ([], rest)
  | some (line, rest) => do
    let (name, value) := (Text.splitOnce ':' (latin line)).getD (latin line, [])
    let (headers, body) ← headers? rest
    return ((String.ofList (name.map Char.toLower), Text.trim value) :: headers, body)
termination_by text.length
decreasing_by exact length_nextLine? _hline

/-- The number of a chunk's length in hexadecimal. What follows a semicolon is ignored. -/
def chunkLength? (line : List Char) : Option Nat :=
  match Text.trim (line.takeWhile (· ≠ ';')) with
  | [] => none
  | digits => Hex.number? digits

/-- The chunks of a body up to an empty one, which stands at its end. -/
def unchunk? (text : Bytes) : Option Bytes :=
  match _hline : nextLine? text with
  | none => none
  | some (line, rest) =>
    match chunkLength? (latin line) with
    | none => none
    | some 0 => some []
    | some length =>
      if rest.length < length + 2 then none
      else (unchunk? (rest.drop (length + 2))).map (rest.take length ++ ·)
termination_by text.length
decreasing_by
  have hlt := length_nextLine? _hline
  simp only [List.length_drop]
  omega

/-- The body of an answer, once all of it is there. -/
def body? (headers : List (String × List Char)) (isClosed : Bool) (text : Bytes) : Option Bytes :=
  if headers.lookup "transfer-encoding" = some "chunked".toList then unchunk? text
  else
    match (headers.lookup "content-length").bind Decimal.read? with
    | some length => if length ≤ text.length then some (text.take length) else none
    | none => if isClosed then some text else none

/-- The status in the first line of an answer. -/
def status? (line : List Char) : Option Nat :=
  match Text.split ' ' line with
  | _ :: code :: _ => Decimal.read? code
  | _ => none

/-- The answer, once all of it is there. -/
def response? (isClosed : Bool) (text : Bytes) : Option NodeReply := do
  let (line, rest) ← nextLine? text
  let (headers, rest) ← headers? rest
  return .response (← status? (latin line)) (← body? headers isClosed rest)

end RollupBridge.Http
