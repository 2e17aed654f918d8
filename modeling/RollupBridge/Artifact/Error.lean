namespace RollupBridge

/-- Why a contract artifact cannot be loaded. The cause is the text of the system or of the reader. -/
inductive ArtifactError
  | unreadable (path cause : String)
  | unwalkable (directory cause : String)
  | malformed (path cause : String)
  | missing (name directory : String)
deriving DecidableEq

namespace ArtifactError

/-- The text of an artifact error up to its cause. -/
def summary : ArtifactError → String
  | .unreadable path _ => "failed to read " ++ path ++ ": "
  | .unwalkable directory _ => "failed to walk " ++ directory ++ ": "
  | .malformed path _ => "failed to parse artifact " ++ path ++ ": "
  | .missing name directory => "artifact " ++ name ++ " not found under " ++ directory

/-- What caused an artifact error, if it has a cause of its own. -/
def cause : ArtifactError → String
  | .unreadable _ cause => cause
  | .unwalkable _ cause => cause
  | .malformed _ cause => cause
  | .missing _ _ => ""

def message (error : ArtifactError) : String := error.summary ++ error.cause

end ArtifactError

end RollupBridge
