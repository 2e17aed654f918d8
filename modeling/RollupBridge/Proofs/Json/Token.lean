import Mathlib.Data.List.TakeDrop
import RollupBridge.Json.Writer
import RollupBridge.Proofs.Bytes.Hex
import RollupBridge.Proofs.Json.Grammar
import RollupBridge.Proofs.Text.Decimal

namespace RollupBridge.Json

/-- What may follow a value: nothing, a gap, the next value, or the end of what holds it. -/
inductive Ends : List Char → Prop
  | nil : Ends []
  | comma (rest : List Char) : Ends (',' :: rest)
  | bracket (rest : List Char) : Ends (']' :: rest)
  | brace (rest : List Char) : Ends ('\x7d' :: rest)
  | gap {c : Char} (hgap : isGap c = true) (rest : List Char) : Ends (c :: rest)

section Number

variable {rest : List Char}

/-- Nothing that continues a number follows a value. -/
theorem Ends.of_mem_head? (hends : Ends rest) {c : Char} (hc : c ∈ rest.head?) :
    Decimal.isDigit c = false ∧ c ≠ '.' ∧ c ≠ 'e' ∧ c ≠ 'E' := by
  cases hends with
  | nil => cases hc
  | comma | bracket | brace =>
    cases hc
    decide
  | gap hgap =>
    cases hc
    rcases isGap_iff.mp hgap with rfl | rfl | rfl | rfl <;> decide

theorem Ends.append {gap : List Char} (hgap : IsGap gap) (hends : Ends rest) : Ends (gap ++ rest) := by
  cases gap with
  | nil => exact hends
  | cons c gap => exact .gap (hgap c List.mem_cons_self) _

theorem AreDigits.eq_cons {digits : List Char} (hdigits : AreDigits digits) :
    ∃ c more, digits = c :: more ∧ Decimal.isDigit c = true := by
  obtain ⟨hsome, hall⟩ := hdigits
  cases digits with
  | nil => exact absurd rfl hsome
  | cons c more => exact ⟨c, more, rfl, hall c List.mem_cons_self⟩

/-- Digits are read up to where they end. -/
theorem readDigits_append {digits : List Char} (hdigits : AreDigits digits)
    (hrest : ∀ c ∈ rest.head?, Decimal.isDigit c = false) :
    readDigits (digits ++ rest) = some (digits, rest) := by
  have hstop : rest.takeWhile Decimal.isDigit = [] ∧ rest.dropWhile Decimal.isDigit = rest := by
    cases rest with
    | nil => exact ⟨rfl, rfl⟩
    | cons c rest => simp [hrest c rfl]
  have htake : (digits ++ rest).takeWhile Decimal.isDigit = digits := by
    rw [List.takeWhile_append_of_pos hdigits.2, hstop.1, List.append_nil]
  have hdrop : (digits ++ rest).dropWhile Decimal.isDigit = rest := by
    rw [List.dropWhile_append_of_pos hdigits.2, hstop.2]
  rw [readDigits, List.span_eq_takeWhile_dropWhile, htake, hdrop]
  obtain ⟨c, more, rfl, _⟩ := hdigits.eq_cons
  rfl

theorem readDigits_eq_some {text digits : List Char} (hread : readDigits text = some (digits, rest)) :
    AreDigits digits ∧ text = digits ++ rest := by
  rw [readDigits, List.span_eq_takeWhile_dropWhile] at hread
  split at hread
  · cases hread
  · rename_i hsome
    cases hread
    refine ⟨⟨?_, fun _ hc => List.mem_takeWhile_imp hc⟩, List.takeWhile_append_dropWhile.symm⟩
    intro hnil
    rw [hnil] at hsome
    exact hsome _ rfl

theorem readWhole_append {whole : List Char} (hwhole : IsWhole whole)
    (hrest : ∀ c ∈ rest.head?, Decimal.isDigit c = false) :
    readWhole (whole ++ rest) = some (whole, rest) := by
  cases hwhole with
  | zero => rfl
  | digits hdigits hhead =>
    have hread := readDigits_append hdigits hrest
    obtain ⟨c, more, rfl, _⟩ := hdigits.eq_cons
    have hc : c ≠ '0' := by simpa using hhead
    simpa [readWhole, hc] using hread

theorem readWhole_eq_some {text whole : List Char} (hread : readWhole text = some (whole, rest)) :
    IsWhole whole ∧ text = whole ++ rest := by
  unfold readWhole at hread
  split at hread
  · cases hread
    exact ⟨.zero, rfl⟩
  · rename_i hzero
    obtain ⟨hdigits, rfl⟩ := readDigits_eq_some hread
    refine ⟨.digits hdigits ?_, rfl⟩
    obtain ⟨c, more, rfl, _⟩ := hdigits.eq_cons
    rintro ⟨⟩
    exact hzero _ rfl

theorem readFraction_append {fraction : List Char} (hfraction : IsFraction fraction)
    (hrest : ∀ c ∈ rest.head?, Decimal.isDigit c = false ∧ c ≠ '.') :
    readFraction (fraction ++ rest) = some (fraction, rest) := by
  cases hfraction with
  | none =>
    cases rest with
    | nil => rfl
    | cons c rest => simp [readFraction, (hrest c rfl).2]
  | point hdigits =>
    have hread := readDigits_append hdigits fun c hc => (hrest c hc).1
    rw [List.cons_append, readFraction, hread]
    rfl

theorem readFraction_eq_some {text fraction : List Char}
    (hread : readFraction text = some (fraction, rest)) :
    IsFraction fraction ∧ text = fraction ++ rest := by
  unfold readFraction at hread
  split at hread
  · obtain ⟨⟨digits, _⟩, hfound, heq⟩ := Option.map_eq_some_iff.mp hread
    cases heq
    obtain ⟨hdigits, rfl⟩ := readDigits_eq_some hfound
    exact ⟨.point hdigits, rfl⟩
  · cases hread
    exact ⟨.none, rfl⟩

theorem readExponent_append {exponent : List Char} (hexponent : IsExponent exponent) (hends : Ends rest) :
    readExponent (exponent ++ rest) = some (exponent, rest) := by
  have hdigit {digits : List Char} (hdigits : AreDigits digits) :=
    readDigits_append hdigits fun c hc => (hends.of_mem_head? hc).1
  cases hexponent with
  | none =>
    cases rest with
    | nil => rfl
    | cons c rest =>
      obtain ⟨_, _, hlower, hupper⟩ := hends.of_mem_head? (c := c) rfl
      simp [readExponent, hlower, hupper]
  | plain he hdigits =>
    have hread := hdigit hdigits
    obtain ⟨c, more, rfl, hc⟩ := hdigits.eq_cons
    have hplus : c ≠ '+' := by
      rintro rfl
      cases hc
    have hminus : c ≠ '-' := by
      rintro rfl
      cases hc
    simp only [List.cons_append] at hread ⊢
    simp [readExponent, he, hplus, hminus, hread]
  | signed he hsign hdigits =>
    rcases hsign with rfl | rfl <;> simp [readExponent, he, hdigit hdigits]

theorem readExponent_eq_some {text exponent : List Char}
    (hread : readExponent text = some (exponent, rest)) :
    IsExponent exponent ∧ text = exponent ++ rest := by
  unfold readExponent at hread
  split at hread
  · split at hread
    · rename_i he
      split at hread <;>
        obtain ⟨⟨digits, _⟩, hfound, heq⟩ := Option.map_eq_some_iff.mp hread <;> cases heq <;>
        obtain ⟨hdigits, rfl⟩ := readDigits_eq_some hfound
      · exact ⟨.signed he (Or.inl rfl) hdigits, rfl⟩
      · exact ⟨.signed he (Or.inr rfl) hdigits, rfl⟩
      · exact ⟨.plain he hdigits, rfl⟩
    · cases hread
      exact ⟨.none, rfl⟩
  · cases hread
    exact ⟨.none, rfl⟩

theorem IsExponent.of_mem_head?_append {exponent : List Char} (hexponent : IsExponent exponent)
    (hends : Ends rest) {c : Char} (hc : c ∈ (exponent ++ rest).head?) :
    Decimal.isDigit c = false ∧ c ≠ '.' := by
  cases hexponent with
  | none => exact (hends.of_mem_head? hc).imp_right And.left
  | plain he | signed he =>
    cases hc
    rcases he with rfl | rfl <;> decide

theorem readUnsigned_append {literal : List Char} (hunsigned : IsUnsigned literal) (hends : Ends rest) :
    readUnsigned (literal ++ rest) = some (literal, rest) := by
  obtain ⟨whole, fraction, exponent, hwhole, hfraction, hexponent, rfl⟩ := hunsigned
  have hbehindFraction {c : Char} (hc : c ∈ (exponent ++ rest).head?) :=
    hexponent.of_mem_head?_append hends hc
  have hbehindWhole {c : Char} (hc : c ∈ (fraction ++ (exponent ++ rest)).head?) :
      Decimal.isDigit c = false := by
    cases hfraction with
    | none => exact (hbehindFraction hc).1
    | point =>
      cases hc
      rfl
  simp only [readUnsigned, List.append_assoc, readWhole_append hwhole fun c hc => hbehindWhole hc,
    readFraction_append hfraction fun c hc => hbehindFraction hc, readExponent_append hexponent hends,
    Option.bind_eq_bind, Option.bind_some]
  rfl

theorem readUnsigned_eq_some {text literal : List Char} (hread : readUnsigned text = some (literal, rest)) :
    IsUnsigned literal ∧ text = literal ++ rest := by
  obtain ⟨⟨whole, _⟩, hfirst, hread⟩ := Option.bind_eq_some_iff.mp hread
  obtain ⟨⟨fraction, _⟩, hsecond, hread⟩ := Option.bind_eq_some_iff.mp hread
  obtain ⟨⟨exponent, _⟩, hthird, hread⟩ := Option.bind_eq_some_iff.mp hread
  cases hread
  obtain ⟨hwhole, rfl⟩ := readWhole_eq_some hfirst
  obtain ⟨hfraction, rfl⟩ := readFraction_eq_some hsecond
  obtain ⟨hexponent, rfl⟩ := readExponent_eq_some hthird
  exact ⟨⟨whole, fraction, exponent, hwhole, hfraction, hexponent, rfl⟩, by simp⟩

/-- A number without a sign starts with a digit. -/
theorem IsUnsigned.eq_cons {literal : List Char} (hunsigned : IsUnsigned literal) :
    ∃ c text, literal = c :: text ∧ Decimal.isDigit c = true := by
  obtain ⟨whole, fraction, exponent, hwhole, _, _, rfl⟩ := hunsigned
  cases hwhole with
  | zero => exact ⟨'0', _, rfl, rfl⟩
  | digits hdigits =>
    obtain ⟨c, more, rfl, hc⟩ := hdigits.eq_cons
    exact ⟨c, _, rfl, hc⟩

/-- A number is read up to where the value ends. -/
theorem readNumber_append {literal : List Char} (hnumber : IsNumber literal) (hends : Ends rest) :
    readNumber (literal ++ rest) = some (literal, rest) := by
  cases hnumber with
  | unsigned hunsigned =>
    have hread := readUnsigned_append hunsigned hends
    obtain ⟨c, text, rfl, hc⟩ := hunsigned.eq_cons
    have hminus : c ≠ '-' := by
      rintro rfl
      cases hc
    simpa [readNumber, hminus] using hread
  | negative hunsigned =>
    rw [List.cons_append, readNumber, readUnsigned_append hunsigned hends]
    rfl

theorem readNumber_eq_some {text literal : List Char} (hread : readNumber text = some (literal, rest)) :
    IsNumber literal ∧ text = literal ++ rest := by
  unfold readNumber at hread
  split at hread
  · obtain ⟨⟨unsigned, _⟩, hfound, heq⟩ := Option.map_eq_some_iff.mp hread
    cases heq
    obtain ⟨hunsigned, rfl⟩ := readUnsigned_eq_some hfound
    exact ⟨.negative hunsigned, rfl⟩
  · exact (readUnsigned_eq_some hread).imp_left .unsigned

theorem isNumber_digits (value : Nat) : IsNumber (Decimal.digits value) := by
  refine .unsigned ⟨Decimal.digits value, [], [], ?_, .none, .none, by simp⟩
  rcases Nat.eq_zero_or_pos value with rfl | hpos
  · rw [Decimal.digits_zero]
    exact .zero
  · refine .digits ⟨Decimal.digits_ne_nil value, fun _ => Decimal.isDigit_of_mem_digits⟩ ?_
    obtain ⟨c, digits, hdigits, hc⟩ := Decimal.digits_eq_cons hpos
    simpa [hdigits] using hc

end Number

section Text

variable {rest text : List Char} {pieces : List Piece}

/-- A string is read up to its closing quote. -/
theorem readPieces_append (hspells : SpellsPieces pieces text) (seen : List Piece) :
    readPieces (text ++ '"' :: rest) seen = some (seen.reverse ++ pieces, rest) := by
  induction hspells generalizing seen with
  | nil => simp [readPieces]
  | char hquote hslash hcontrol _ ih =>
    have hplain : ¬(_ = '\\' ∨ _ < 0x20) := not_or.mpr ⟨hslash, Nat.not_lt.mpr hcontrol⟩
    rw [List.cons_append, readPieces, if_neg hplain, ih]
    · simp
    · exact hquote
    · intro _ _ _ _ _ hsame
      exact absurd hsame hslash
    · intro _ _ hsame
      exact absurd hsame hslash
  | @letter e c _ text hescaped _ ih =>
    have hunit : e ≠ 'u' := by
      rintro rfl
      cases hescaped
    rw [List.cons_append, List.cons_append, readPieces, hescaped]
    · exact (ih _).trans (by simp)
    · intro _ _ _ _ _ hsame
      exact absurd hsame hunit
  | unit hunit _ ih =>
    simp only [List.cons_append, readPieces, hunit]
    exact (ih _).trans (by simp)

theorem readPieces_eq_some {seen all : List Piece} (hread : readPieces text seen = some (all, rest)) :
    ∃ pieces raw, SpellsPieces pieces raw ∧ all = seen.reverse ++ pieces ∧ text = raw ++ '"' :: rest := by
  fun_induction readPieces text seen with
  | case1 rest' seen =>
    cases hread
    exact ⟨[], [], .nil, by simp, rfl⟩
  | case2 a b c d rest' seen value hunit ih =>
    obtain ⟨pieces, raw, hspells, rfl, rfl⟩ := ih hread
    exact ⟨_, _, .unit hunit hspells, by simp, rfl⟩
  | case3 => cases hread
  | case4 e rest' seen _ c hescaped ih =>
    obtain ⟨pieces, raw, hspells, rfl, rfl⟩ := ih hread
    exact ⟨_, _, .letter hescaped hspells, by simp, rfl⟩
  | case5 => cases hread
  | case6 => cases hread
  | case7 c rest' seen hquote _ _ hplain ih =>
    obtain ⟨pieces, raw, hspells, rfl, rfl⟩ := ih hread
    rw [not_or] at hplain
    exact ⟨_, _, .char hquote hplain.1 (Nat.le_of_not_lt hplain.2) hspells, by simp, rfl⟩
  | case8 => cases hread

theorem readString_append {s : Option String} (hspells : SpellsString s text) :
    readString (text ++ '"' :: rest) = some (s, rest) := by
  obtain ⟨pieces, hpieces, rfl⟩ := hspells
  rw [readString, readPieces_append hpieces]
  rfl

theorem readString_eq_some {s : Option String} (hread : readString text = some (s, rest)) :
    ∃ raw, SpellsString s raw ∧ text = raw ++ '"' :: rest := by
  obtain ⟨⟨pieces, _⟩, hpieces, heq⟩ := Option.map_eq_some_iff.mp hread
  cases heq
  obtain ⟨pieces, raw, hspells, rfl, rfl⟩ := readPieces_eq_some hpieces
  exact ⟨raw, ⟨pieces, hspells, rfl⟩, rfl⟩

/-- What a character that is written in a string is read as. A control character without a letter of
its own is a unit. -/
def pieceOf (c : Char) : Piece :=
  if c.toNat < 0x20 ∧ c ∉ ['\x08', '\x0c', '\n', '\r', '\t'] then .unit c.toNat else .char c

/-- The escape of a control character is read as the unit of its number. -/
theorem unit?_digits {value : Nat} (hvalue : value < 0x20) :
    unit? '0' '0' (Hex.digit (value / 16)) (Hex.digit (value % 16)) = some value := by
  have hzero : Hex.value? '0' = some 0 := by decide
  have hhigh : value / 16 < 16 := by omega
  have hlow : value % 16 < 16 := Nat.mod_lt _ (by decide)
  simp only [unit?, hzero, Hex.value?_digit hhigh, Hex.value?_digit hlow, Option.bind_eq_bind,
    Option.bind_some]
  exact congrArg some (by omega)

/-- A character that is written spells one piece. -/
theorem SpellsPieces.writeChar_append (c : Char) (hspells : SpellsPieces pieces text) :
    SpellsPieces (pieceOf c :: pieces) (writeChar c ++ text) := by
  unfold writeChar
  split
  · exact .letter rfl hspells
  · exact .letter rfl hspells
  · exact .letter rfl hspells
  · exact .letter rfl hspells
  · exact .letter rfl hspells
  · exact .letter rfl hspells
  · exact .letter rfl hspells
  -- What is left has no letter of its own.
  · rename_i hquote hslash hback hfeed hline hreturn htab
    by_cases hcontrol : c.toNat < 0x20
    · have hpiece : pieceOf c = .unit c.toNat := by
        rw [pieceOf, if_pos]
        refine ⟨hcontrol, ?_⟩
        simp only [List.mem_cons, List.not_mem_nil, or_false, not_or]
        exact ⟨hback, hfeed, hline, hreturn, htab⟩
      rw [if_pos hcontrol, hpiece]
      exact .unit (unit?_digits hcontrol) hspells
    · have hpiece : pieceOf c = .char c := by
        rw [pieceOf, if_neg]
        simp [hcontrol]
      rw [if_neg hcontrol, hpiece]
      exact .char hquote hslash (Nat.le_of_not_lt hcontrol) hspells

/-- The unit of a control character is that character, whatever follows it. -/
theorem joinPieces_unit {value : Nat} (hvalue : value < 0x20) (rest : List Piece) (seen : List Char) :
    joinPieces (.unit value :: rest) seen = joinPieces rest (Char.ofNat value :: seen) := by
  have hhigh : isHigh value = false := by simp [isHigh]; omega
  have hlow : isLow value = false := by simp [isLow]; omega
  cases rest with
  | nil => simp [joinPieces, hhigh, hlow]
  | cons piece rest => cases piece <;> simp [joinPieces, hhigh, hlow]

theorem joinPieces_map_pieceOf (chars seen : List Char) :
    joinPieces (chars.map pieceOf) seen = some (seen.reverse ++ chars) := by
  induction chars generalizing seen with
  | nil => simp [joinPieces]
  | cons c chars ih =>
    have hstep : joinPieces (pieceOf c :: chars.map pieceOf) seen =
        joinPieces (chars.map pieceOf) (c :: seen) := by
      unfold pieceOf
      split
      · rename_i hcontrol
        rw [joinPieces_unit hcontrol.1, Char.ofNat_toNat]
      · rfl
    rw [List.map_cons, hstep, ih, List.reverse_cons, List.append_assoc, List.singleton_append]

/-- A string is spelled as it is written, also one that spells no text. -/
theorem exists_writeString (s : Option String) :
    ∃ text, writeString s = '"' :: text ++ ['"'] ∧ SpellsString s text := by
  cases s with
  | none =>
    have hhalf : unit? 'd' '8' '0' '0' = some 0xd800 := by decide
    exact ⟨"\\ud800".toList, rfl, _, .unit hhalf .nil, rfl⟩
  | some s =>
    have hspells (chars : List Char) : SpellsPieces (chars.map pieceOf) (chars.flatMap writeChar) := by
      induction chars with
      | nil => exact .nil
      | cons c chars ih => exact ih.writeChar_append c
    refine ⟨s.toList.flatMap writeChar, rfl, _, hspells s.toList, ?_⟩
    simp [joinPieces_map_pieceOf]

end Text

end RollupBridge.Json
