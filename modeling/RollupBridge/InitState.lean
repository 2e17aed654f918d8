namespace RollupBridge

/-- How far a bridge has come. Each state is entered from the one before. -/
inductive InitState
  | unpublished
  | bytecodesPublished
  | initialized
  | governanceConfigured
deriving DecidableEq

/-- A step that does not lead to the next state. -/
structure InvalidTransition where
  source : InitState
  target : InitState
deriving DecidableEq

namespace InitState

/-- The position of a state. -/
def rank : InitState → Nat
  | .unpublished => 0
  | .bytecodesPublished => 1
  | .initialized => 2
  | .governanceConfigured => 3

instance : LE InitState := ⟨fun s t => s.rank ≤ t.rank⟩

instance : LT InitState := ⟨fun s t => s.rank < t.rank⟩

instance (s t : InitState) : Decidable (s ≤ t) := inferInstanceAs (Decidable (s.rank ≤ t.rank))

instance (s t : InitState) : Decidable (s < t) := inferInstanceAs (Decidable (s.rank < t.rank))

/-- The state after this one. -/
def next? : InitState → Option InitState
  | .unpublished => some .bytecodesPublished
  | .bytecodesPublished => some .initialized
  | .initialized => some .governanceConfigured
  | .governanceConfigured => none

/-- True once no further step is possible. -/
def isTerminal (s : InitState) : Bool := s == .governanceConfigured

/-- True once the bridge can take deposits. -/
def isOperational (s : InitState) : Bool := s == .initialized || s == .governanceConfigured

/-- The step to `target`, which must be the next state. -/
def advance (s target : InitState) : Except InvalidTransition InitState :=
  if s.next? = some target then .ok target else .error ⟨s, target⟩

def name : InitState → String
  | .unpublished => "unpublished"
  | .bytecodesPublished => "bytecodes-published"
  | .initialized => "initialized"
  | .governanceConfigured => "governance-configured"

end InitState

def InvalidTransition.message (t : InvalidTransition) : String :=
  "invalid transition from " ++ t.source.name ++ " to " ++ t.target.name

end RollupBridge
