import RollupBridge.Unicode.Run

namespace RollupBridge.Unicode

/-- Runs of marks, and of other characters. -/
def markTable : String := "
300O 70M 113O 7M 107O 2dM O M O 2M O 2M O M 48O bM 30O 15M 10O M 65O 7M 2O 6M 2O 2M O 4M 23O M 1eO
1bM 5bO bM 3aO 9M 9O M 18O 4M O 9M O 3M O 5M 2bO 3M 3bO 9M 2aO 18M O 21M 36O 3M O 12M O 7M aO 2M
1dO 3M 38O M O 7M 2O 2M 2O 3M 9O M aO 2M 1aO M 2O 3M 38O M O 5M 4O 2M 2O 3M 3O M 1eO 2M 3O M bO 3M
38O M O 8M O 3M O 3M 14O 2M 16O 6M O 3M 38O M O 7M 2O 2M 2O 3M 7O 3M aO 2M 1eO M 3bO 5M 3O 3M O 4M
9O M 28O 5M 37O M O 7M O 3M O 4M 7O 2M bO 2M 1dO 3M 38O M O 7M O 3M O 4M 7O 2M bO 2M fO M cO 4M
37O 2M O 7M O 3M O 4M 9O M aO 2M 1dO 3M 46O M 4O 6M O M O 8M 12O 2M 3dO M 2O 7M cO 8M 62O M 2O 9M
bO 7M 49O 2M 1bO M O M O M 4O 2M 31O 14M O 2M 5O bM O 24M 9O M 64O 14M 17O 4M 4O 3M O 3M 2O 7M 3O
4M dO cM O M aO 4M 2bfO 3M 3b2O 4M 1cO 3M 1dO 2M 1eO 2M 40O 20M 9O M 2dO 3M O M 75O 2M 22O M 76O
cM 4O cM dbO 5M 39O aM O 1dM 2O M 30O 2eM 2O cM 14O 5M 2fO 11M 26O 9M cO 3M 1eO dM 38O eM 30O 14M
98O 3M O 15M 4O M 6O M 2O 3M c6O 40M 2d0O 21M bfeO 3M 8dO M 60O 20M 22aO 6M 69O 2M 75d4O 4M O aM
20O 2M 50O 2M 110O M 3O M 4O M 17O 5M 4O M 53O 2M 32O 12M 1aO 12M dO M 26O 8M 19O dM 2cO 4M 2fO eM
24O M 43O eM cO M 8O 2M 2dO 3M 32O M O 3M 2O 2M 5O 2M O M 29O 5M 5O 2M ecO 8M O 2M 4f30O M 2e1O
10M 10O 10M 3cdO M e2O M 95O 5M 686O 3M O 2M 5O 4M 28O 3M 4O M a5O 2M 23dO 4M 41O 5M 13dO 2M 4dO
6M 46O bM 31O 4M 7aO 3M 35O fM 29O M 2O 2M aO 4M 2dO bM 7O M 3dO 3M 24O eM 10O 2M 2cO M cO 3M 30O
eM 8O 4M O 2M 5cO cM 6O M 2O M 9dO cM 15O 4M 37O 2M O 7M 2O 2M 2O 3M 9O M aO 2M 2O 7M 3O 5M 43O 9M
O M 2O M O 4M O 5M O M eO 2M 52O 12M 17O M 51O 14M ebO 7M 2O 9M 1bO 2M 52O 11M 6aO dM 65O fM 100O
fM f5O 6M O 2M 2O 4M O M O 2M 8dO 7M 2O 7M 3O M 1cO aM 28O 7M O 4M 8O M 9O bM 2eO 10M c6O 8M c7O
8M O 8M 52O 16M O eM 7aO 6M 3O M O 2M O 7M O M 42O 5M O 2M O 5M 15bO 4M 9O 2M O M 30O 7M 3O 5M 17O
M 14e5O M 6O fM 2cc8O 12M 9c0O 5M 3bO 7M 418O M O 37M 7O 4M 51O M bO 2M 4cabO 2M 1261O 2eM 2O 17M
21eO 5M 3O 6M 8O 8M 2O 7M 1eO 4M 94O 3M 7bbO 37M 4O 32M 8O M eO M 16O 5M O fM 550O 7M O 11M 2O 7M
O 2M O 5M 64O M a0O 7M 177O M 3dO 4M 1fcO 4M feO 2M f3O M 2O M 7O 2M 5O M 1daO 7M 6dO 7M c17b5O
f0M"

/-- The runs of `markTable`, true for marks. -/
def markRuns : List (Run Bool) := runs (· == ['M']) markTable

def isMark (c : Char) : Bool := valueOf markRuns false c

end RollupBridge.Unicode
