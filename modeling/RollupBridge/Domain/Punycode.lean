namespace RollupBridge.Domain.Punycode

def value? (c : Char) : Option Nat :=
  if c.isLower then some (c.toNat - 97)
  else if c.isUpper then some (c.toNat - 65)
  else if c.isDigit then some (c.toNat - 22)
  else none

/-- The digit of a value below 36. -/
def digit (value : Nat) : Char := Char.ofNat (if value < 26 then value + 97 else value + 22)

/-- A digit at a position ends a gap if it is below this. Positions are counted in steps of 36. -/
def threshold (bias position : Nat) : Nat := max 1 (min 26 (position - bias))

theorem threshold_pos (bias position : Nat) : 0 < threshold bias position := by
  unfold threshold
  omega

/-- A gap divided by 35 until it is below 456, and 36 for each division. -/
def shrink (gap : Nat) : Nat × Nat :=
  if 455 < gap then
    let (rest, steps) := shrink (gap / 35)
    (rest, steps + 36)
  else (gap, 0)
termination_by gap
decreasing_by omega

/-- The bias behind a gap that was the first or not, once `count` characters are there. -/
def adapt (gap count : Nat) (isFirst : Bool) : Nat :=
  let gap := if isFirst then gap / 700 else gap / 2
  let (rest, steps) := shrink (gap + gap / count)
  steps + 36 * rest / (rest + 38)

/-- What numbers stay below. -/
def limit : Nat := 4294967296

/-- Adds the gap at the start of a text to a number. -/
def gap? (bias : Nat) : (position weight value : Nat) → List Char → Option (Nat × List Char)
  | _, _, _, [] => none
  | position, weight, value, c :: rest => do
    let d ← value? c
    let value := value + d * weight
    let next := weight * (36 - threshold bias position)
    if limit ≤ value then none
    else if d < threshold bias position then some (value, rest)
    else if limit ≤ next then none
    else gap? bias (position + 36) next value rest

theorem length_gap? {bias position weight value : Nat} {text : List Char} {found : Nat × List Char}
    (h : gap? bias position weight value text = some found) : found.2.length < text.length := by
  induction text generalizing position weight value with
  | nil => cases h
  | cons c rest ih =>
    rw [gap?] at h
    obtain ⟨d, _, h⟩ := Option.bind_eq_some_iff.1 h
    dsimp only at h
    simp only [List.length_cons]
    split at h
    · cases h
    · split at h
      · cases h
        exact Nat.lt_succ_self _
      · split at h
        · cases h
        · exact Nat.lt_succ_of_lt (ih h)

/-- Inserts the characters told by what is left into a text. The next one is not below `level`, and
not in front of `position` if it is `level`. -/
def insertions? (bias level position : Nat) (text rest : List Char) : Option (List Char) :=
  if rest.isEmpty then some text
  else
    match _hgap : gap? bias 36 1 position rest with
    | none => none
    | some (value, rest) =>
      let count := text.length + 1
      let level := level + value / count
      if Nat.isValidChar level then
        insertions? (adapt (value - position) count (position == 0)) level (value % count + 1)
          (text.insertIdx (value % count) (Char.ofNat level)) rest
      else none
termination_by rest.length
decreasing_by exact length_gap? _hgap

/-- The text that is told. A hyphen in front of everything is no separator. -/
def decode? (text : List Char) : Option (List Char) :=
  let (last, first) := text.reverse.span (· != '-')
  match first with
  | _ :: c :: first => insertions? 72 0x80 0 (c :: first).reverse last.reverse
  | _ => insertions? 72 0x80 0 [] text

def gapDigits (bias position gap : Nat) : List Char :=
  let t := threshold bias position
  if gap < t then [digit gap]
  else digit (t + (gap - t) % (36 - t)) :: gapDigits bias (position + 36) ((gap - t) / (36 - t))
termination_by gap
decreasing_by
  have hpos := threshold_pos bias position
  exact Nat.lt_of_le_of_lt (Nat.div_le_self _ _) (by omega)

/-- Where an encoder stands: what it has written, the gap so far, the bias, and how many characters are
told. -/
structure Encoder where
  written : List Char
  gap : Nat
  bias : Nat
  count : Nat

/-- Passes a character while those that are `level` are told. -/
def Encoder.pass (level : Nat) (encoder : Encoder) (c : Char) : Encoder :=
  if c.toNat < level then { encoder with gap := encoder.gap + 1 }
  else if c.toNat = level then
    { written := encoder.written ++ gapDigits encoder.bias 36 encoder.gap
      gap := 0
      bias := adapt encoder.gap (encoder.count + 1) encoder.written.isEmpty
      count := encoder.count + 1 }
  else encoder

/-- Tells the characters of a text level by level. Those below `next` are told. -/
def Encoder.tell (text : List Char) (encoder : Encoder) : (next : Nat) → (levels : List Nat) → Encoder
  | _, [] => encoder
  | next, level :: levels =>
    let start := { encoder with gap := encoder.gap + (level - next) * (encoder.count + 1) }
    let passed := text.foldl (Encoder.pass level) start
    tell text { passed with gap := passed.gap + 1 } (level + 1) levels

/-- The letters, digits and hyphens that tell a text. The first 128 characters stand in front.
Behind a hyphen it is told where the others go, in their order: a gap to the next one, in digits of
base 36 whose last one is below a threshold that follows the size of the gaps. -/
def encode (text : List Char) : List Char :=
  let (first, others) := text.partition fun c => c.toNat < 0x80
  let levels := ((others.map Char.toNat).mergeSort).eraseReps
  let encoder := Encoder.tell text ⟨[], 0, 72, first.length⟩ 0x80 levels
  first ++ (if first.isEmpty then [] else ['-']) ++ encoder.written

end RollupBridge.Domain.Punycode
