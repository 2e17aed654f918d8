import RollupBridge.Unicode.Run

namespace RollupBridge.Unicode

/-- The direction of a character. European digits and marks have none of their own; a neutral
character takes its neighbours', and any other does not belong into a line. -/
inductive BidiClass
  | leftToRight
  | rightToLeft
  | arabicDigit
  | europeanDigit
  | mark
  | neutral
  | other
deriving DecidableEq

/-- Runs of directions: `L` and `R`, `N` and `E` for Arabic and European digits, `M` for marks, `O`
for neutral characters and `X` for any other. -/
def bidiTable : String := "
9O 5X eO 5X fO aE 7O 1aL 6O 1aL aO X 24O L 7O 2E O L 3O E L 5O 17L O 1fL O 1c1L 2O 7L eO 2L eO 5L
9O L 11O 70M 4L 2O 8L O 5L 2O L O 6eL O 8cL 7M 100L O 2L 3O R 2dM R M R 2M R 2M R M 38R 6N 2O R 2O
R O R 2O bM 30R 15M aN O 2N 3R M 65R 7M N O 6M 2R 2M O 4M 2R aE 17R M 1eR 1bM 5bR bM 3aR 9M 2R 4O
3R M 18R 4M R 9M R 3M R 5M 2bR 3M 34R 2N 5R 9M 2aR 18M N 20M 37L M L M 4L 8M 4L M 3L 7M aL 2M 1dL
M 3aL M 4L 4M 8L M 14L 2M eL 2O 7L O 2L M 2L 2M 39L M 4L 2M 4L 2M 2L 3M 3L M 1eL 2M 3L M bL 2M 39L
M 4L 5M L 2M 4L M 14L 2M dL O 8L 6M L M 3aL M 2L M L 4M 8L M 7L 2M bL 2M 1eL M 3dL M cL M 25L 8O
5L M 3L M 37L M L 3M 5L 3M L 4M 7L 2M bL 2M 14L 7O 2L M 3aL M fL 2M 14L 2M 1cL 2M 39L 2M 4L 4M 8L
M 14L 2M 1dL M 48L M 7L 3M L M 5aL M 2L 7M 4L O 7L 8M 62L M 2L 9M bL 7M 49L 2M 1bL M L M L M 4O
33L eM L 5M L 2M 5L bM L 24M 9L M 66L 4M L 6M L 2M 2L 2M 19L 2M 4L 3M 10L 4M dL M 2L 2M 6L M fL M
2bfL 3M 30L aO 66L O 27fL X 1aL 2O 75L 3M 1dL 2M 1eL 2M 1eL 2M 40L 2M L 7M 8L M 2L bM 7L O L M 12L
aO 6L bO 3M O M 75L 2M 22L M 76L 3M 4L 2M 9L M 6L 3M 4L O 3L 2O 98L 22O 17L 2M 2L M 3aL M L 7M L M
L M 2L 8M 6L aM 2L M 30L 2eM 2L cM 14L 4M 30L M L 5M L M 5L M 28L 9M cL 2M 20L 4M 2L 2M L 3M 38L M
L 2M 3L M L 3M 3aL 8M 2L 2M 98L 3M L dM L 7M 4L M 6L M 3L 2M c6L 40M 1bdL O L 3O bL 3O dL 3O dL 3O
dL 2O L bX 3O L R 18O 7X 30O X 6O 4X 6O E 3L 6E 5O L aE 5O 11L 30O 21M fL 2O L 4O L 2O aL O L 3O
5L 6O L O L O L O 4L O bL 2O 4L 5O 5L 4O 2L 10O 29L 3O 4L 1a6O 45L 1aO L 94O 16L bO 15L 28O 14E
4eL 1c2O L 153O 100L 274O 2L 8aO e5L 6O 4L 3M 7L 7O 7fL M 60L 20M 5eO 22L 1aO L 59O cL d6O 1aL 10O
X 4O 3L 19O 9L 4M 2L O 5L 2O 5L 3O 59L 2M 2O 3L O 5aL O c4L 26O 9L O 2dL 2O 31L 10O 1cL 3O 32L fO
cL 4O a7L 4O 63L 2O 1fL O 19c0L 40O 5690L 37O 146L 3O 5fL 4M O aM 2O 1eL 2M 50L 2M eL 22O 66L O
79L M 3L M 4L M 19L 2M L 4O M bL 2O 3aL 4O 4cL 2M 1aL 12M dL M 26L 8M 19L bM 2eL 3M 30L M 2L 4M 2L
2M 27L M 43L 6M 2L 2M 2L 2M cL M 8L M 2fL M 33L M L 3M 2L 2M 5L 2M L M 2aL 2M 8L M 73L 2O 79L M 2L
M 4L M 4f2fL R M aR O 99R 10O 16bR 12O 40R 2O 36R 28O dR 3O 10M aO 6L 10M 23O L 13O L 4O 4L 8fR O
L fO aE 7O 1aL 6O 1aL bO 7aL 7O L 7O L 10O 101L O 3eL 4dO 3L dO 3L O 5cL M e2L M 1bE 7aL 5M 485L
11fR O e1R 3M R 2M 5R 4M 28R 3M 4R M a5R 2M 52R 7O 1e4R 4M 8R aN 6R aN 1fR 5M O f1R 1fN 2cR 2M 23R
9O 21R 6M 46R bM 31R 4M 7aR L M 36L fM bL 14O aL M 2L 2M aL 3M 31L 4M 2L 2M 7L M 3dL 3M 24L 5M L
8M 3eL M cL 2M 34L 9M aL 4M 2L M 5fL 3M 2L M L 2M 6L M 2L M 9dL M 3L 8M 15L 2M 39L 2M 3L M 25L 7M
3L 5M 46L 6M dL M L M L M eL 2M 55L 8M 2L 3M L M 17L M 54L 6M L M 4L 2M L 2M eeL 4M 6L 2M L 2M 1bL
2M 55L 8M 2L M L 2M 1fL dO 3eL M L M 2L 6M L M 65L M L M 2L 4M L 5M 103L 9M L 2M 100L 2M L M 4L M
90L 4M 2L 2M 4L M 20L 6M 2L 2M 28L 6M 2L 4M 8L M 9L 6M 2L 3M 2eL dM L 2M c6L M L 3M L M c9L 7M L
6M 54L 16M 2L 7M L 2M L 2M 7aL 6M 3L M L 2M L 7M L M 48L 2M 3L M L M 15bL 2M bL 2M 34L 5M 5L M L M
17L M 7aL 1dO 144eL M 6L fM 2cc8L cM 3L 3M 9c0L 5M 3bL 7M 418L M 3fL 4M 4fL O L M 4cb8L 2M L 4O
f5cL d6O 1aL aE 3O 3L 1b4O 6L 17O fL 11O fL 2eM 2L 17M 220L 3M 9L 8O 8M 2L 7M 1eL 4M 3bL 2O 15L
42O 3M O baL 57O 36aL O 19L O 1fL O 19L O 1fL O 19L O 1fL O 19L O 1fL O 19L O aL 32E 200L 37M 4L
32M 8L M eL M 16L 5M L fM 550L 7M L 11M 2L 7M L 2M L 5M 64L M a0L 7M 177L M 3dL 4M fL O 1ecL 4M
feL 2M f3L M 2L M 7L 2M 5L M 10aL d0R 7M 6dR 7M 5a5R 2O 10eR 2cO 4L 64O cL fO 2L fO L fO L 25O aL
bE 5O 1fL O 3aL 6O 3dL O b2L 6O 9aL 3d9O 3L 11O 3L dO 3L daO 6L cO 4L O fL cO 4L 38O 8L aO 6L 28O
8L 1eO 2L cO 4L 2O eL 9O 27L 158O 8L eO 2L dO 3L bO 3L 39O L O 4L 10O 2L cO 4L aO 7L 93O L 5cO aE
O 403L 2O fffeL 2O fffeL 2O fffeL 2O fffeL 2O fffeL 2O fffeL 2O fffeL 2O fffeL 2O fffeL 2O fffeL
2O fffeL 2O fffeL 102O f0M e10O"

/-- The direction of a letter in `bidiTable`. -/
def BidiClass.ofWord : List Char → BidiClass
  | ['L'] => leftToRight
  | ['R'] => rightToLeft
  | ['N'] => arabicDigit
  | ['E'] => europeanDigit
  | ['M'] => mark
  | ['O'] => neutral
  | _ => other

/-- The runs of `bidiTable`. -/
def bidiRuns : List (Run BidiClass) := runs BidiClass.ofWord bidiTable

def bidiClass (c : Char) : BidiClass := valueOf bidiRuns .other c

/-- The first character that is written from right to left. -/
def firstRightToLeft : Nat := 0x590

/-- True for letters and digits of scripts that are written from right to left. -/
def isRightToLeft (c : Char) : Bool :=
  firstRightToLeft ≤ c.toNat && (bidiClass c == .rightToLeft || bidiClass c == .arabicDigit)

end RollupBridge.Unicode
