import RollupBridge.Unicode.Run

namespace RollupBridge.Unicode

/-- Runs of combining classes, in hexadecimal behind an `x`. -/
def classTable : String := "
300x0 15xe6 xe8 4xdc xe8 xd8 5xdc 2xca 4xdc 2xca bxdc 5x1 4xdc 3xe6 2x0 xe6 2x0 xf0 xe6 3xdc 3xe6
2xdc x0 3xe6 4xdc xe6 xe8 2xdc xe6 xe9 2xea xe9 2xea xe9 dxe6 113x0 5xe6 109x0 xdc 4xe6 xdc 3xe6
xde xdc 6xe6 6xdc 2xe6 xdc 2xe6 xde xe4 xe6 xa xb xc xd xe xf x10 x11 x12 2x13 x14 x15 x16 x0 x17
x0 x18 x19 x0 xe6 xdc x0 x12 48x0 8xe6 x1e x1f x20 30x0 x1b x1c x1d x1e x1f x20 x21 x22 2xe6 2xdc
5xe6 xdc 2xe6 xdc 10x0 x23 65x0 7xe6 2x0 4xe6 xdc xe6 2x0 2xe6 x0 xdc 2xe6 xdc 23x0 x24 1ex0 xe6
xdc 2xe6 xdc 2xe6 3xdc xe6 2xdc xe6 xdc 3xe6 xdc xe6 xdc xe6 xdc xe6 xdc 2xe6 a0x0 7xe6 xdc xe6
9x0 xdc 18x0 4xe6 x0 9xe6 x0 3xe6 x0 5xe6 2bx0 3xdc 3bx0 2xe6 3xdc 4xe6 2ax0 5xe6 5xdc exe6 x0 xdc
2xe6 xdc 2xe6 xdc 3xe6 3xdc x1b x1c x1d 3xe6 xdc 2xe6 2xdc 5xe6 3cx0 x7 10x0 x9 3x0 xe6 xdc 2xe6
67x0 x7 10x0 x9 30x0 xe6 3dx0 x7 10x0 x9 6ex0 x7 10x0 x9 6ex0 x7 10x0 x9 7fx0 x9 6ex0 x7 10x0 x9
7x0 x54 x5b 65x0 x7 10x0 x9 6dx0 2x9 10x0 x9 7cx0 x9 6dx0 2x67 x9 dx0 4x6b 6cx0 2x76 x9 dx0 4x7a
4cx0 2xdc 1bx0 xdc x0 xdc x0 xd8 37x0 x81 x82 x0 x84 5x0 4x82 2x0 x82 x0 2xe6 x9 x0 2xe6 3ex0 xdc
70x0 x7 x0 2x9 52x0 xdc 2cfx0 3xe6 3b4x0 2x9 1ex0 x9 9dx0 x9 ax0 xe6 cbx0 xe4 8fx0 xde xe6 xdc
dbx0 xe6 xdc 47x0 x9 14x0 8xe6 2x0 xdc 30x0 5xe6 6xdc 2xe6 xdc x0 2xdc 2xe6 2xdc 5xe6 xdc 12xe6
xdc 2x0 6xe6 xdc 4xe6 xea 48x0 x7 fx0 x9 26x0 xe6 xdc 7xe6 36x0 2x9 3ax0 x7 bx0 2x9 43x0 x7 98x0
3xe6 x0 x1 5xdc 2xe6 4xdc xe6 x0 7x1 4x0 xdc 6x0 xe6 3x0 2xe6 c6x0 2xe6 xdc 7xe6 xdc 2xe6 xea xd6
xdc xca 25xe6 xe8 2xe4 xdc xda xe6 xe9 xdc xe6 xdc 2d0x0 2xe6 2x1 4xe6 3x1 2xe6 4x0 xe6 3x0 2x1
xe6 xdc xe6 2x1 4xdc xe6 bfex0 3xe6 8dx0 x9 60x0 20xe6 22ax0 xda xe4 xe8 xde 2xe0 69x0 2x8 75d4x0
xe6 4x0 axe6 20x0 2xe6 50x0 2xe6 114x0 x9 25x0 x9 97x0 x9 1bx0 12xe6 39x0 3xdc 25x0 x9 5fx0 x7 cx0
x9 efx0 xe6 x0 2xe6 xdc 2x0 2xe6 5x0 2xe6 x0 xe6 34x0 x9 f6x0 x9 4f30x0 x1a 301x0 7xe6 7xdc 2xe6
3cdx0 xdc e2x0 xdc 95x0 5xe6 692x0 xdc x0 xe6 28x0 xe6 x1 xdc 4x0 x9 a5x0 xe6 xdc 23dx0 4xe6 41x0
5xe6 13dx0 2xe6 4dx0 2xdc x0 3xdc 46x0 2xdc 3xe6 xdc xe6 4xdc 31x0 xe6 xdc xe6 xdc c0x0 x9 29x0 x9
ex0 x9 39x0 x9 x7 45x0 3xe6 30x0 2x9 3ex0 x7 4cx0 x9 9x0 x7 6ax0 x9 x7 b2x0 x7 x9 50x0 2x7 10x0 x9
18x0 7xe6 3x0 5xe6 59x0 3x9 71x0 x9 3x0 x7 17x0 xe6 63x0 x9 x7 fbx0 x9 x7 7ex0 x9 76x0 x9 x7 73x0
x9 10dx0 x9 x7 102x0 2x9 4x0 x7 9cx0 x9 53x0 x9 12x0 x9 51x0 x9 1a5x0 x9 102x0 x7 x0 2x9 51x0 x9
1a9x0 2x9 41ecx0 x9 9c0x0 5x1 3bx0 7xe6 4b9x0 2x6 4cacx0 x1 14c6x0 2xd8 3x1 3x0 xe2 5xd8 8x0 8xdc
2x0 5xe6 2xdc 1ex0 4xe6 94x0 3xe6 dbbx0 7xe6 x0 11xe6 2x0 7xe6 x0 2xe6 x0 5xe6 64x0 xe6 a0x0 7xe6
177x0 xe6 3dx0 4xe6 1fcx0 2xe8 xdc xe6 fex0 xe6 xdc f3x0 xe6 2x0 xe6 7x0 2xe6 5x0 xe6 1dax0 7xdc
6dx0 6xe6 x7"

/-- The runs of `classTable`. -/
def classRuns : List (Run Nat) := runs (fun word => (Hex.number? (word.drop 1)).getD 0) classTable

def combiningClass (c : Char) : Nat := valueOf classRuns 0 c

/-- The class of the marks that take the vowel from a consonant. -/
def virama : Nat := 9

/-- Puts a character behind those that it may not pass. The text stands in reverse. -/
def insertMark (c : Char) : (seen : List Char) → List Char
  | [] => [c]
  | last :: rest =>
    if 0 < combiningClass c ∧ combiningClass c < combiningClass last then last :: insertMark c rest
    else c :: last :: rest

/-- A text with its marks in the order of their classes. Marks of one class may not change places,
and a character of class zero starts anew. -/
def sortMarks (text : List Char) : List Char :=
  (text.foldl (fun seen c => insertMark c seen) []).reverse

end RollupBridge.Unicode
