import RollupBridge.Bytes.Basic
import RollupBridge.Files.Path
import RollupBridge.Files.Tree

namespace RollupBridge

/-- A disk in memory: one directory tree at an absolute path, which is also the working directory.
The targets of its links are paths below that directory. -/
structure Disk where
  mount : String
  tree : FileTree Bytes

namespace Disk

/-- A disk with an empty directory. -/
def empty (mount : String) : Disk := ⟨mount, .directory []⟩

/-- Changes what stands at a path and makes the directories on the way. -/
def updateAt (change : Option (FileTree Bytes) → FileTree Bytes) :
    List String → Option (FileTree Bytes) → FileTree Bytes
  | [], old => change old
  | name :: rest, old =>
    let entries := match old with
      | some (.directory entries) => entries
      | _ => []
    let child := (entries.find? fun entry => entry.1 == name).map Prod.snd
    .directory (entries.filter (fun entry => entry.1 != name) ++ [(name, updateAt change rest child)])

def insert (disk : Disk) (path : String) (value : FileTree Bytes) : Disk :=
  { disk with tree := updateAt (fun _ => value) (Path.names path) disk.tree }

/-- The disk with a directory at a path, which keeps what it already holds. -/
def makeDirectory (disk : Disk) (path : String) : Disk :=
  let change (old : Option (FileTree Bytes)) : FileTree Bytes := match old with
    | some (.directory entries) => .directory entries
    | _ => .directory []
  { disk with tree := updateAt change (Path.names path) disk.tree }

/-- Goes from a directory, whose ancestors are given innermost first, along the steps of a path.
Links on the way are followed, one at the end only if `followLast`, and no more than `links` of them.
Every link followed and every step taken uses up one unit of fuel. -/
def walk (root : FileTree Bytes) (followLast : Bool) :
    (fuel links : Nat) → (ancestors : List (FileTree Bytes)) → FileTree Bytes → List String →
      Option (FileTree Bytes)
  | 0, _, _, _, _ => none
  | _ + 1, _, _, here, [] => some here
  | fuel + 1, links, ancestors, here, step :: rest =>
    match here with
    | .directory entries =>
      if step = "" ∨ step = "." then walk root followLast fuel links ancestors here rest
      else if step = ".." then
        match ancestors with
        | [] => none
        | parent :: ancestors => walk root followLast fuel links ancestors parent rest
      else
        match entries.find? fun entry => entry.1 == step with
        | none => none
        | some (_, .link target) =>
          if rest.isEmpty ∧ ¬ followLast then some (.link target)
          else match links with
            | 0 => none
            | links + 1 => walk root followLast fuel links [] root (Path.steps target ++ rest)
        | some (_, child) => walk root followLast fuel links (here :: ancestors) child rest
    | _ => none

/-- The steps of a path from the top of the disk. Relative paths start there. -/
def stepsFromTop (disk : Disk) (path : String) : Option (List String) :=
  if path.isEmpty then none
  else if path.startsWith "/" then
    let top := Path.names disk.mount
    let steps := Path.steps path
    let named := steps.dropWhile (· == "")
    if named.take top.length = top then some (named.drop top.length) else none
  else some (Path.steps path)

/-- The number of steps a walk may take: enough for every path that a system would follow. -/
def patience : Nat := 4096

/-- The number of links that are followed for one path. -/
def maxLinks : Nat := 40

def lookup? (disk : Disk) (path : String) (followLast : Bool) : Option (FileTree Bytes) := do
  walk disk.tree followLast patience maxLinks [] disk.tree (← disk.stepsFromTop path)

/-- The content of the regular file a path leads to, or why there is none. -/
def read (disk : Disk) (path : String) : Except String Bytes :=
  match disk.lookup? path true with
  | some (.file content) => .ok content
  | some _ => .error "Is a directory (os error 21)"
  | none => .error "No such file or directory (os error 2)"

/-- The tree a search starts from. A link to a directory counts as that directory. -/
def search (disk : Disk) (path : String) : Except String (FileTree Bytes) :=
  match disk.lookup? path true, disk.lookup? path false with
  | some (.directory entries), _ => .ok (.directory entries)
  | some _, some tree => .ok tree
  | _, _ =>
    .error ("IO error for operation on " ++ path ++ ": No such file or directory (os error 2)")

end Disk

end RollupBridge
