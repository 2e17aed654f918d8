import RollupBridge.Unicode.Run

namespace RollupBridge.Unicode

/-- On which sides a character joins others. Transparent ones let their neighbours join. -/
inductive JoiningType
  | left
  | right
  | dual
  | transparent
  | nonJoining
deriving DecidableEq

/-- Runs of joining types, each by its first letter; a `U` joins nothing. -/
def joiningTable : String := "
adU T 252U 70T 113U 7T 107U 2dT U T U 2T U 2T U T 48U bT U T 3U D U 4R D R D R 5D 4R dD U 7D R 2D
15T eU 2D T 3R U 3R 10D 12R 26D R 2D 9R D R D R 2D 2R U R 7T 2U 6T 2U 2T U 4T 2R aU 3D 2U D fU T R
T 3D 5R 4D R 9D R D R D R 2D R 1bT 2U R bD 3R fD 2R 4D R D 2R 3D 2R 6D 26U bT 19U 21D 9T 9U T 18U
4T U 9T U 3T U 5T 12U R 5D 2R D R aD R D 3R 3T 4U D U 4D U R D 2R 5U 13R 3U D 2U 5D R D 7U 9T aD
3R U R 2D 2R 6D R fD U 18T U 20T 37U T U T 4U 8T 4U T 3U 7T aU 2T 1dU T 3aU T 4U 4T 8U T 14U 2T
1aU T 2U 2T 39U T 4U 2T 4U 2T 2U 3T 3U T 1eU 2T 3U T bU 2T 39U T 4U 5T U 2T 4U T 14U 2T 16U 6T U T
3aU T 2U T U 4T 8U T 7U 2T bU 2T 1eU T 3dU T cU T 32U T 3U T 37U T U 3T 5U 3T U 4T 7U 2T bU 2T 1dU
T 3aU T 2U T 6U T 5U 2T 14U 2T 1cU 2T 39U 2T 4U 4T 8U T 14U 2T 1dU T 48U T 7U 3T U T 5aU T 2U 7T
cU 8T 62U T 2U 9T bU 7T 49U 2T 1bU T U T U T 37U eT U 5T U 2T 5U bT U 24T 9U T 66U 4T U 6T U 2T 2U
2T 19U 2T 4U 3T 10U 4T dU T 2U 2T 6U T fU T 2bfU 3T 3b2U 3T 1dU 2T 1eU 2T 1eU 2T 40U 2T U 7T 8U T
2U bT 9U T 29U D 3U 3T U T 10U 59D cU 2T 22D T D 75U 3T 4U 2T 9U T 6U 3T dbU 2T 2U T 3aU T U 7T U
T U T 2U 8T 6U aT 2U T 30U 2eT 2U cT 14U 4T 30U T U 5T U T 5U T 28U 9T cU 2T 20U 4T 2U 2T U 3T 38U
T U 2T 3U T U 3T 3aU 8T 2U 2T 98U 3T U dT U 7T 4U T 6U T 3U 2T c6U 40T 20bU T 2U 2T 1aU 5T 31U 5T
5U 6T 60U 21T bfeU 3T 8dU T 60U 20T 22aU 4T 6bU 2T 75d4U 4T U aT 20U 2T 50U 2T 110U T 3U T 4U T
19U 2T 5U T 13U 32D L 51U 2T 1aU 12T dU T 26U 8T 19U bT 2eU 3T 30U T 2U 4T 2U 2T 27U T 43U 6T 2U
2T 2U 2T cU T 8U T 2fU T 33U T U 3T 2U 2T 5U 2T U T 2aU 2T 8U T eeU T 2U T 4U T 4f30U T 2e1U 10T
10U 10T cfU T f9U 3T 201U T e2U T 95U 5T 686U 3T U 2T 5U 4T 28U 3T 4U T 80U 5D R U R U 2R 2U L 5R
4D L 5D R 3D R 2U R 2T 4U 4D R 90U D R D 3R 3D R 2D R D 2R D R 17U 4R 2D 151U L 21D R D 4T 41U 5T
13dU 2T 15U R 2D U 2D 32U 6T 30U 3D R 11D U bT 3D R 1bU 4D 2R cD 4T 2aU D U 2D 3R U D 2R 2D R 2D U
D 2R D 4U R D L 35U T 36U fT 29U T 2U 2T aU 3T 31U 4T 2U 2T 7U T 3dU 3T 24U 5T U 8T 3eU T cU 2T
34U 9T aU 4T 2U T 5fU 3T 2U T U 2T 6U T 2U T 9dU T 3U 8T 15U 2T 39U 2T 3U T 25U 7T 3U 5T 46U 6T dU
T U T U T eU 2T 55U 8T 2U 3T U T 17U T 54U 6T U T 4U 2T U 2T eeU 4T 6U 2T U 2T 1bU 2T 55U 8T 2U T
U 2T 6aU T U T 2U 6T U T 65U T U T 2U 4T U 5T 103U 9T U 2T 100U 2T U T 4U T 90U 4T 2U 2T 4U T 20U
aT 28U 6T 2U 4T 8U T 9U 6T 2U 3T 2eU dT U 2T c6U T U 3T U T c9U 7T U 6T U T 52U 16T 2U 7T U 2T U
2T 7aU 6T 3U T U 2T U 7T U T 48U 2T 3U T U T 15bU 2T bU 2T 34U 5T 5U T U T 17U T 14d5U 11T 6U fT
2cc8U cT 3U 3T 9c0U 5T 3bU 7T 418U T 3fU 4T 51U T 4cb8U 2T U 4T 125cU 2eT 2U 17T 220U 3T 9U 10T 2U
7T 1eU 4T 94U 3T 7bbU 37T 4U 32T 8U T eU T 16U 5T U fT 550U 7T U 11T 2U 7T U 2T U 5T 64U T a0U 7T
177U T 3dU 4T 1fcU 4T feU 2T f3U T 2U T 7U 2T 5U T 1daU 7T 29U 44D 8T c16b5U T 1eU 60T 80U f0T"

/-- The joining type of a letter in `joiningTable`. -/
def JoiningType.ofWord : List Char → JoiningType
  | ['L'] => left
  | ['R'] => right
  | ['D'] => dual
  | ['T'] => transparent
  | _ => nonJoining

/-- The runs of `joiningTable`. -/
def joiningRuns : List (Run JoiningType) := runs JoiningType.ofWord joiningTable

def joiningType (c : Char) : JoiningType := valueOf joiningRuns .nonJoining c

end RollupBridge.Unicode
