namespace RollupBridge

/-- What stands under a name: a regular file with some content, a link, or a directory. The names in
a directory are distinct and may stand in any order. -/
inductive FileTree (α : Type)
  | file (content : α)
  | link (target : String)
  | directory (entries : List (String × FileTree α))

namespace FileTree

variable {α : Type}

/-- Entries in the order of their names. Names are compared by code points, which is the order of
their bytes. -/
def inNameOrder {β : Type} (entries : List (String × β)) : List (String × β) :=
  entries.mergeSort fun a b => decide (a.1 ≤ b.1)

/-- The path of a file below a directory that is entered by a name. -/
def prepend (name : String) (files : List (List String × α)) : List (List String × α) :=
  files.map fun (path, content) => (name :: path, content)

mutual

/-- The regular files of a tree, each with its path from the root, in the order of a visit. What is
in a directory comes in the order of the names, each subdirectory where its name stands, and no link
is followed. -/
def files : FileTree α → List (List String × α)
  | .file content => [([], content)]
  | .link _ => []
  | .directory entries => (inNameOrder (entryFiles entries)).flatMap fun (name, files) => prepend name files

def entryFiles : List (String × FileTree α) → List (String × List (List String × α))
  | [] => []
  | (name, tree) :: rest => (name, files tree) :: entryFiles rest

end

end FileTree

end RollupBridge
