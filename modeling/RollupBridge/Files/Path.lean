import RollupBridge.Text.Split

namespace RollupBridge.Path

/-- The path of a name in a directory. A name that starts with a slash is a path of its own. -/
def join (directory name : String) : String :=
  if name.startsWith "/" || directory.isEmpty then name
  else if directory.endsWith "/" then directory ++ name
  else directory ++ "/" ++ name

def joinAll (directory : String) (names : List String) : String := names.foldl join directory

/-- The steps of a path, empty ones included: `a//b/` has the steps `a`, nothing, `b` and nothing. -/
def steps (path : String) : List String := (Text.split '/' path.toList).map String.ofList

/-- The names in a path. Empty steps and single points name nothing. -/
def names (path : String) : List String := (steps path).filter fun step => step != "" && step != "."

end RollupBridge.Path
