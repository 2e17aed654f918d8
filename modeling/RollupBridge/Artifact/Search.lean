import RollupBridge.Artifact.Error
import RollupBridge.Counterpart
import RollupBridge.Files.Path
import RollupBridge.Files.Tree
import RollupBridge.Json.Reader
import RollupBridge.Text.Utf8

namespace RollupBridge.Artifact

/-- True for the names on the way to the artifact of a contract. That of `N` is a file `N.json` in a
directory `N.sol`, at any depth. -/
def isArtifactPath (contract : String) (names : List String) : Bool :=
  match names.reverse with
  | file :: parent :: _ => file == contract ++ ".json" && parent == contract ++ ".sol"
  | _ => false

/-- The first artifact of a contract below a root, with its path. The name of the root may be the
directory the artifact must stand in. -/
def locate? {α : Type} (root : String) (tree : FileTree α) (contract : String) :
    Option (String × α) :=
  (tree.files.find? fun (names, _) => isArtifactPath contract (Path.names root ++ names)).map
    fun (names, content) => (Path.joinAll root names, content)

/-- The bytecode in an artifact: the one field that is read of a JSON record. -/
def bytecode? (text : List Char) : Option Bytes := do
  match ← (← Json.read? text).fields? [(["bytecode"], .any)] with
  | [bytecode] => bytecode.bytes?
  | _ => none

/-- The bytecode in the content of an artifact, which must be text. -/
def parse (path : String) (content : Bytes) : Except ArtifactError Bytes :=
  match Text.ofUtf8? content with
  | none => .error (.unreadable path "stream did not contain valid UTF-8")
  | some text =>
    match bytecode? text with
    | some bytecode => .ok bytecode
    | none => .error (.malformed path "not an artifact with a bytecode")

/-- The bytecode of a contract. `fetch` gets the content of the artifact that was found. -/
def read {m : Type → Type} [Monad m] {α : Type} (fetch : String → α → m (Except String Bytes))
    (root : String) (tree : FileTree α) (contract : String) : m (Except ArtifactError Bytes) :=
  match locate? root tree contract with
  | none => return .error (.missing contract root)
  | some (path, content) => do
    match ← fetch path content with
    | .error cause => return .error (.unreadable path cause)
    | .ok content => return parse path content

/-- The bytecodes of the counterpart, or the first error in the order of the fields. -/
def readBridge {m : Type → Type} [Monad m] {α : Type} (fetch : String → α → m (Except String Bytes))
    (root : String) (tree : FileTree α) : m (Except ArtifactError BridgeBytecodes) :=
  ExceptT.run do
    let implementation ← ExceptT.mk (read fetch root tree "L2ERC20Bridge")
    let proxy ← ExceptT.mk (read fetch root tree "TransparentUpgradeableProxy")
    let tokenProxy ← ExceptT.mk (read fetch root tree "BeaconProxy")
    let standardToken ← ExceptT.mk (read fetch root tree "L2StandardERC20")
    let tokenBeacon ← ExceptT.mk (read fetch root tree "UpgradeableBeacon")
    return ⟨implementation, proxy, tokenProxy, standardToken, tokenBeacon⟩

end RollupBridge.Artifact
