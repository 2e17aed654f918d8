import Mathlib.Data.List.DropRight
import Mathlib.Data.List.TakeWhile
import RollupBridge.Json.Token
import RollupBridge.Json.Value

namespace RollupBridge.Json

/-- Only what may stand between tokens. -/
def IsGap (text : List Char) : Prop := ∀ c ∈ text, isGap c = true

section Number

/-- At least one digit, and nothing else. -/
def AreDigits (text : List Char) : Prop := text ≠ [] ∧ ∀ c ∈ text, Decimal.isDigit c = true

/-- The integer part of a number: a zero, or digits that do not start with one. -/
inductive IsWhole : List Char → Prop
  | zero : IsWhole ['0']
  | digits {text : List Char} (hdigits : AreDigits text) (hhead : text.head? ≠ some '0') : IsWhole text

/-- The part of a number behind a point, if there is one. -/
inductive IsFraction : List Char → Prop
  | none : IsFraction []
  | point {text : List Char} (hdigits : AreDigits text) : IsFraction ('.' :: text)

/-- The exponent of a number, if there is one. -/
inductive IsExponent : List Char → Prop
  | none : IsExponent []
  | plain {e : Char} {text : List Char} (he : e = 'e' ∨ e = 'E') (hdigits : AreDigits text) :
      IsExponent (e :: text)
  | signed {e sign : Char} {text : List Char} (he : e = 'e' ∨ e = 'E') (hsign : sign = '+' ∨ sign = '-')
      (hdigits : AreDigits text) : IsExponent (e :: sign :: text)

/-- A number without a sign. -/
def IsUnsigned (text : List Char) : Prop :=
  ∃ whole fraction exponent, IsWhole whole ∧ IsFraction fraction ∧ IsExponent exponent ∧
    text = whole ++ fraction ++ exponent

/-- The spelling of a number. -/
inductive IsNumber : List Char → Prop
  | unsigned {text : List Char} (hunsigned : IsUnsigned text) : IsNumber text
  | negative {text : List Char} (hunsigned : IsUnsigned text) : IsNumber ('-' :: text)

end Number

/-- The text between two quotes, and the pieces that it spells. -/
inductive SpellsPieces : List Piece → List Char → Prop
  | nil : SpellsPieces [] []
  | char {c : Char} {pieces : List Piece} {text : List Char} (hquote : c ≠ '"') (hslash : c ≠ '\\')
      (hcontrol : 0x20 ≤ c.toNat) (hrest : SpellsPieces pieces text) :
      SpellsPieces (.char c :: pieces) (c :: text)
  | letter {e c : Char} {pieces : List Piece} {text : List Char} (hescaped : escaped? e = some c)
      (hrest : SpellsPieces pieces text) : SpellsPieces (.char c :: pieces) ('\\' :: e :: text)
  | unit {a b c d : Char} {value : Nat} {pieces : List Piece} {text : List Char}
      (hunit : unit? a b c d = some value) (hrest : SpellsPieces pieces text) :
      SpellsPieces (.unit value :: pieces) ('\\' :: 'u' :: a :: b :: c :: d :: text)

/-- The text between two quotes spells a string. -/
def SpellsString (s : Option String) (text : List Char) : Prop :=
  ∃ pieces, SpellsPieces pieces text ∧ s = (joinPieces pieces []).map String.ofList

/-- The spelling of a value that holds no other value. -/
inductive SpellsScalar : Json → List Char → Prop
  | null : SpellsScalar .null ['n', 'u', 'l', 'l']
  | true : SpellsScalar (.bool true) ['t', 'r', 'u', 'e']
  | false : SpellsScalar (.bool false) ['f', 'a', 'l', 's', 'e']
  | number {literal : List Char} (hnumber : IsNumber literal) : SpellsScalar (.number literal) literal
  | string {s : Option String} {text : List Char} (hstring : SpellsString s text) :
      SpellsScalar (.string s) ('"' :: text ++ ['"'])

/-- A key in quotes and the colon behind it. -/
inductive SpellsKey (key : Option String) : List Char → Prop
  | intro {before text after : List Char} (hbefore : IsGap before) (hkey : SpellsString key text)
      (hafter : IsGap after) : SpellsKey key (before ++ '"' :: text ++ '"' :: after ++ [':'])

/-- What a text may spell: a value, a value with gaps around it, the items of an array or the members of an
object. -/
inductive Part
  | value (value : Json)
  | padded (value : Json)
  | items (items : List Json)
  | members (members : List (Option String × Json))

/-- The grammar. Items and members are at least one. -/
inductive Spells : Part → List Char → Prop
  | scalar {value : Json} {text : List Char} (hscalar : SpellsScalar value text) :
      Spells (.value value) text
  | emptyArray {gap : List Char} (hgap : IsGap gap) : Spells (.value (.array [])) ('[' :: gap ++ [']'])
  | array {items : List Json} {text : List Char} (hitems : Spells (.items items) text) :
      Spells (.value (.array items)) ('[' :: text ++ [']'])
  | emptyObject {gap : List Char} (hgap : IsGap gap) :
      Spells (.value (.object [])) ('\x7b' :: gap ++ ['\x7d'])
  | object {members : List (Option String × Json)} {text : List Char}
      (hmembers : Spells (.members members) text) :
      Spells (.value (.object members)) ('\x7b' :: text ++ ['\x7d'])
  | padded {value : Json} {before text after : List Char} (hbefore : IsGap before)
      (hvalue : Spells (.value value) text) (hafter : IsGap after) :
      Spells (.padded value) (before ++ text ++ after)
  | item {item : Json} {text : List Char} (hitem : Spells (.padded item) text) :
      Spells (.items [item]) text
  | items {item : Json} {items : List Json} {text rest : List Char} (hitem : Spells (.padded item) text)
      (hitems : Spells (.items items) rest) : Spells (.items (item :: items)) (text ++ ',' :: rest)
  | member {key : Option String} {value : Json} {keyText text : List Char} (hkey : SpellsKey key keyText)
      (hvalue : Spells (.padded value) text) : Spells (.members [(key, value)]) (keyText ++ text)
  | members {key : Option String} {value : Json} {members : List (Option String × Json)}
      {keyText text rest : List Char} (hkey : SpellsKey key keyText)
      (hvalue : Spells (.padded value) text) (hmembers : Spells (.members members) rest) :
      Spells (.members ((key, value) :: members)) (keyText ++ text ++ ',' :: rest)

section Gap

theorem IsGap.nil : IsGap [] := fun _ hc => absurd hc List.not_mem_nil

theorem Spells.bare {value : Json} {text : List Char} (hvalue : Spells (.value value) text) :
    Spells (.padded value) text := by
  simpa using Spells.padded .nil hvalue .nil

theorem isGap_iff {c : Char} : isGap c = true ↔ c = ' ' ∨ c = '\n' ∨ c = '\t' ∨ c = '\r' := by
  simp only [isGap, Bool.or_eq_true, beq_iff_eq, or_assoc]

theorem IsGap.takeWhile (text : List Char) : IsGap (text.takeWhile isGap) :=
  fun _ hc => List.mem_takeWhile_imp hc

variable {gap : List Char}

/-- A text is a gap and what is behind it. -/
theorem exists_gap (text : List Char) : ∃ gap, IsGap gap ∧ text = gap ++ skipGap text :=
  ⟨_, .takeWhile text, List.takeWhile_append_dropWhile.symm⟩

theorem skipGap_cons {c : Char} (hgap : isGap c = false) (rest : List Char) :
    skipGap (c :: rest) = c :: rest := by
  rw [skipGap, List.dropWhile_cons_of_neg (by simp [hgap])]

@[simp]
theorem skipGap_append (hgap : IsGap gap) (text : List Char) : skipGap (gap ++ text) = skipGap text :=
  List.dropWhile_append_of_pos hgap

@[simp]
theorem skipGap_skipGap (text : List Char) : skipGap (skipGap text) = skipGap text :=
  List.dropWhile_idempotent ..

theorem skipGap_eq_nil_iff : skipGap gap = [] ↔ IsGap gap :=
  List.dropWhile_eq_nil_iff

end Gap

section Characters

theorem isGap_eq_false_of_isDigit {c : Char} (hc : Decimal.isDigit c = true) : isGap c = false := by
  cases hgap : isGap c with
  | false => rfl
  | true =>
    rcases isGap_iff.mp hgap with rfl | rfl | rfl | rfl <;> cases hc

/-- What opens, closes or parts the values of a text. -/
def isMark (c : Char) : Bool := c ∈ ['[', ']', '\x7b', '\x7d', ',', ':']

/-- What is neither a mark nor has a meaning in strings. -/
def isPlain (c : Char) : Bool := c ∉ ['[', ']', '\x7b', '\x7d', ',', ':', '"', '\\']

/-- No character of a text has a meaning in strings. -/
def IsSafe (text : List Char) : Prop := ∀ c ∈ text, c ≠ '"' ∧ c ≠ '\\'

/-- A text of plain characters. -/
def ArePlain (text : List Char) : Prop := ∀ c ∈ text, isPlain c = true

/-- A text without a mark. -/
def IsUnmarked (text : List Char) : Prop := ∀ c ∈ text, isMark c = false

instance (text : List Char) : Decidable (IsSafe text) := List.decidableBAll _ _

instance (text : List Char) : Decidable (ArePlain text) := List.decidableBAll _ _

instance (text : List Char) : Decidable (IsUnmarked text) := List.decidableBAll _ _

variable {text : List Char} {c : Char}

theorem isPlain_of_isDigit (hc : Decimal.isDigit c = true) : isPlain c = true := by
  simp only [isPlain, List.mem_cons, List.not_mem_nil, or_false, decide_eq_true_eq]
  rintro (rfl | rfl | rfl | rfl | rfl | rfl | rfl | rfl) <;> cases hc

theorem IsUnsigned.arePlain (hunsigned : IsUnsigned text) : ArePlain text := by
  have hdigits {text : List Char} (hdigits : AreDigits text) : ArePlain text :=
    fun c hc => isPlain_of_isDigit (hdigits.2 c hc)
  have hmark {e : Char} (he : e = 'e' ∨ e = 'E') : isPlain e = true := by
    rcases he with rfl | rfl <;> rfl
  have hsign {sign : Char} (hsign : sign = '+' ∨ sign = '-') : isPlain sign = true := by
    rcases hsign with rfl | rfl <;> rfl
  obtain ⟨whole, fraction, exponent, hwhole, hfraction, hexponent, rfl⟩ := hunsigned
  refine List.forall_mem_append.mpr ⟨List.forall_mem_append.mpr ⟨?_, ?_⟩, ?_⟩
  · cases hwhole with
    | zero => exact List.forall_mem_singleton.mpr rfl
    | digits h => exact hdigits h
  · cases hfraction with
    | none => simp
    | point h => exact List.forall_mem_cons.mpr ⟨rfl, hdigits h⟩
  · cases hexponent with
    | none => simp
    | plain he h => exact List.forall_mem_cons.mpr ⟨hmark he, hdigits h⟩
    | signed he hs h =>
      exact List.forall_mem_cons.mpr ⟨hmark he, List.forall_mem_cons.mpr ⟨hsign hs, hdigits h⟩⟩

theorem IsNumber.arePlain (hnumber : IsNumber text) : ArePlain text := by
  cases hnumber with
  | unsigned hunsigned => exact hunsigned.arePlain
  | negative hunsigned => exact List.forall_mem_cons.mpr ⟨rfl, hunsigned.arePlain⟩

theorem IsGap.arePlain (hgap : IsGap text) : ArePlain text := by
  intro c hc
  rcases isGap_iff.mp (hgap c hc) with rfl | rfl | rfl | rfl <;> rfl

theorem ArePlain.isSafe (hplain : ArePlain text) : IsSafe text := by
  intro c hc
  have hc := hplain c hc
  constructor <;> rintro rfl <;> cases hc

theorem IsGap.isSafe (hgap : IsGap text) : IsSafe text := hgap.arePlain.isSafe

end Characters

end RollupBridge.Json
