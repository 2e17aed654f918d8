import RollupBridge.Cli.Run
import RollupBridge.Node.Http
import Std.Async.DNS
import Std.Async.TCP

namespace RollupBridge

open Std.Async Std.Net

/-- A step of the system, with the text of its error. -/
def attempt {α : Type} (step : IO α) : IO (Except String α) := do
  match ← step.toBaseIO with
  | .ok value => return .ok value
  | .error error => return .error error.toString

/-- What stands under a name. No link is followed; what is neither a file nor a directory is passed
over like a link. -/
partial def readEntry (entry : IO.FS.DirEntry) : IO (FileTree Unit) := do
  match (← entry.path.symlinkMetadata).type with
  | .dir =>
    let entries := (← entry.path.readDir).toList
    return .directory (← entries.mapM fun entry => do return (entry.fileName, ← readEntry entry))
  | .file => return .file ()
  | _ => return .link ""

def readTree (path : String) : IO (FileTree Unit) := do
  let root ← IO.FS.realPath path
  match (← root.metadata).type with
  | .dir =>
    let entries := (← root.readDir).toList
    return .directory (← entries.mapM fun entry => do return (entry.fileName, ← readEntry entry))
  | _ => return .file ()

/-- Receives an answer. -/
partial def receive (socket : TCP.Socket.Client) (seen : ByteArray) : Async (Option NodeReply) := do
  match ← socket.recv? 65536 with
  | none => return Http.response? true seen.toList
  | some more =>
    let seen := seen ++ more
    match Http.response? false seen.toList with
    | some reply => return some reply
    | none => receive socket seen

def converse (address : IPAddr) (port : UInt16) (request : Bytes) : Async (Option NodeReply) := do
  let socket ← TCP.Socket.Client.mk
  socket.connect (match address with
    | .v4 address => .v4 ⟨address, port⟩
    | .v6 address => .v6 ⟨address, port⟩)
  socket.send ⟨request.toArray⟩
  receive socket .empty

/-- The server of a URL, as it is looked up. -/
def serverName (host : Url.Host) : String :=
  String.ofList (host.chars.filter fun c => c ≠ '[' ∧ c ≠ ']')

/-- Posts a call at the first address of a server. -/
def postAt (url : Url) (host : Url.Host) (port : Nat) (call : NodeCall) :
    Async (Option NodeReply) := do
  match (← DNS.getAddrInfo (serverName host) (Decimal.write port))[0]? with
  | some address => converse address port.toUInt16 (Http.request url call)
  | none => return none

/-- Posts a call. Only clear text is spoken. -/
def post (url : Url) (call : NodeCall) : IO NodeReply := do
  match url.host? with
  | none => return .unreachable url.refusal
  | some host =>
    if url.scheme ≠ "http".toList then return .unreachable url.refusal
    let port := (url.authority.bind Url.Authority.port).getD 80
    match ← attempt (Async.block (postAt url host port call)) with
    | .ok (some reply) => return reply
    | _ => return .unreachable url.refusal

def systemHost : Cli.Host IO Unit where
  read path := attempt do return (← IO.FS.readBinFile path).toList
  search path := attempt (readTree path)
  post := post
  pause nanoseconds := IO.sleep (nanoseconds / 1000000).toUInt32

/-- Runs the program in the environment of the process and returns its exit code. -/
def runInSystem (arguments : List String) : IO UInt32 := do
  let environment ← Cli.environmentNames.mapM fun name => do return (name, ← IO.getEnv name)
  let outcome ← Cli.runProgram systemHost (fun name => (environment.lookup name).join) arguments
  IO.print outcome.output
  match outcome.error with
  | some error => IO.eprintln ("Error: " ++ error)
  | none => pure ()
  return outcome.exitCode.toUInt32

end RollupBridge

def main (arguments : List String) : IO UInt32 := RollupBridge.runInSystem arguments
