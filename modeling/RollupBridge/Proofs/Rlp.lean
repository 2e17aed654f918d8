import RollupBridge.Proofs.Bytes.Number
import RollupBridge.Rlp

namespace RollupBridge.Rlp

/-- True of a single byte below 128, which stands for itself. -/
def isBare : Bytes → Bool
  | [byte] => byte < 0x80
  | _ => false

/-- The number spelled by so many bytes, if it needs them all and is too large for a mark of its own. -/
def readLength (count : Nat) (text : Bytes) : Option (Nat × Bytes) :=
  let digits : Bytes := text.take count
  if digits.length = count ∧ digits.head? ≠ some 0 ∧ 55 < digits.toNat then
    some (digits.toNat, text.drop count)
  else none

/-- What stands behind a mark: as many bytes as the mark says above its base, or as the length behind it
says. -/
def readContent (base : Nat) (first : UInt8) (text : Bytes) : Option (Bytes × Bytes) :=
  let mark := first.toNat - base
  (if mark ≤ 55 then some (mark, text) else readLength (mark - 55) text).bind fun (length, text) =>
    if length ≤ text.length then some (text.take length, text.drop length) else none

mutual

/-- The item at the start of a text, and the text behind it. -/
def readItem : (fuel : Nat) → Bytes → Option (Item × Bytes)
  | 0, _ => none
  | _ + 1, [] => none
  | fuel + 1, first :: text =>
    if first < 0x80 then some (.bytes [first], text)
    else if first < 0xc0 then
      (readContent 0x80 first text).bind fun (content, rest) =>
        if isBare content then none else some (.bytes content, rest)
    else
      (readContent 0xc0 first text).bind fun (payload, rest) =>
        (readItems fuel payload).map fun items => (.list items, rest)

/-- The items of a text that holds items only. -/
def readItems : (fuel : Nat) → Bytes → Option (List Item)
  | _, [] => some []
  | 0, _ :: _ => none
  | fuel + 1, first :: text =>
    (readItem fuel (first :: text)).bind fun (item, rest) =>
      (readItems fuel rest).map fun items => item :: items

end

/-- The item of a text that is one encoding. The fuel is twice the length of the text. No length may
be written longer than need be, a byte that stands for itself has no mark, and nothing follows the
item. -/
def decode? (text : Bytes) : Option Item :=
  match readItem (2 * text.length) text with
  | some (item, []) => some item
  | _ => none

variable {content text rest : Bytes} {fuel : Nat}

theorem isBare_iff : isBare content = true ↔ ∃ byte, content = [byte] ∧ byte < 0x80 := by
  unfold isBare
  split
  · simp
  · rename_i hlong
    simp only [Bool.false_eq_true, false_iff, not_exists, not_and]
    exact fun byte hsingle => absurd hsingle (hlong byte)

theorem encodeBytes_of_isBare (hbare : isBare content = true) : encodeBytes content = content := by
  obtain ⟨byte, rfl, hbyte⟩ := isBare_iff.mp hbare
  rw [encodeBytes, if_pos hbyte]

theorem encodeBytes_of_not_isBare (hbare : isBare content = false) :
    encodeBytes content = lengthMark 0x80 content.length ++ content := by
  unfold encodeBytes
  split
  · rename_i byte
    rw [if_neg (by simpa [isBare] using hbare)]
    rfl
  · rfl

theorem lengthMark_of_le {base length : Nat} (hshort : length ≤ 55) :
    lengthMark base length = [UInt8.ofNat (base + length)] :=
  if_pos hshort

theorem lengthMark_of_lt {base length : Nat} (hlong : 55 < length) :
    lengthMark base length =
      UInt8.ofNat (base + (55 + (Bytes.ofNatMinimal length).length)) :: Bytes.ofNatMinimal length := by
  rw [lengthMark, if_neg (Nat.not_le_of_lt hlong)]
  simp only [Nat.add_assoc]

/-- The first byte of a mark tells how far the mark is above its base. -/
theorem toNat_ofNat_add {base mark : Nat} (hbase : base ≤ 0xc0) (hmark : mark < 64) :
    (UInt8.ofNat (base + mark)).toNat = base + mark := by
  rw [UInt8.toNat_ofNat', Nat.mod_eq_of_lt (by omega)]

/-- A length that can be marked is read back from its mark. -/
theorem readContent_of_lengthMark (base : Nat) (hbase : base ≤ 0xc0) (content rest : Bytes)
    (hlength : content.length < Uint.size 64) :
    ∃ mark digits, mark < 64 ∧ lengthMark base content.length = UInt8.ofNat (base + mark) :: digits ∧
      readContent base (UInt8.ofNat (base + mark)) (digits ++ (content ++ rest)) =
        some (content, rest) := by
  rcases Nat.lt_or_ge 55 content.length with hlong | hshort
  · generalize hdigits : Bytes.ofNatMinimal content.length = digits
    have hsize : Uint.size 64 = 256 ^ 8 := by decide
    have hcount : digits.length ≤ 8 :=
      hdigits ▸ Bytes.length_ofNatMinimal_le (Nat.lt_of_lt_of_eq hlength hsize)
    have hsome : 0 < digits.length :=
      List.length_pos_iff.mpr (hdigits ▸ Bytes.ofNatMinimal_ne_nil (by omega))
    have hvalue : Bytes.toNat digits = content.length := by rw [← hdigits, Bytes.toNat_ofNatMinimal]
    have hhead : digits.head? ≠ some 0 := hdigits ▸ Bytes.head?_ofNatMinimal_ne _
    have hread : readLength digits.length (digits ++ (content ++ rest)) =
        some (content.length, content ++ rest) := by
      simp only [readLength, List.take_left, List.drop_left, hvalue]
      exact if_pos ⟨trivial, hhead, hlong⟩
    have hmark : 55 + digits.length < 64 := by omega
    refine ⟨55 + digits.length, digits, hmark, ?_, ?_⟩
    · rw [lengthMark_of_lt hlong, hdigits]
    · simp only [readContent, toNat_ofNat_add hbase hmark, Nat.add_sub_cancel_left]
      rw [if_neg (by omega), hread]
      simp
  · have hmark : content.length < 64 := by omega
    refine ⟨content.length, [], hmark, lengthMark_of_le hshort, ?_⟩
    simp only [readContent, toNat_ofNat_add hbase hmark, Nat.add_sub_cancel_left]
    simp [hshort]

/-- What is read behind a mark was written with that mark. -/
theorem lengthMark_of_readContent {base : Nat} {first : UInt8} (hbase : base ≤ first.toNat)
    (hread : readContent base first text = some (content, rest)) :
    ∃ digits, lengthMark base content.length = first :: digits ∧ text = digits ++ (content ++ rest) := by
  obtain ⟨⟨length, behind⟩, hlength, hread⟩ := Option.bind_eq_some_iff.mp hread
  dsimp only at hread
  split at hread
  case isFalse => cases hread
  case isTrue hfits =>
    cases hread
    rw [List.length_take_of_le hfits, List.take_append_drop]
    split at hlength
    case isTrue hshort =>
      cases hlength
      refine ⟨[], ?_, rfl⟩
      rw [lengthMark_of_le hshort, Nat.add_sub_cancel' hbase, UInt8.ofNat_toNat]
    case isFalse hlong =>
      rw [readLength] at hlength
      split at hlength
      case isFalse => cases hlength
      case isTrue hform =>
        obtain ⟨hcount, hhead, hlarge⟩ := hform
        cases hlength
        refine ⟨_, ?_, (List.take_append_drop _ _).symm⟩
        rw [lengthMark_of_lt hlarge, Bytes.ofNatMinimal_toNat hhead, hcount,
          Nat.add_sub_cancel' (Nat.le_of_not_le hlong), Nat.add_sub_cancel' hbase, UInt8.ofNat_toNat]

/-- With so much fuel, whatever is encoded is read back: an item in front of other text, and a text of
items. -/
structure ReadsBack (fuel : Nat) : Prop where
  item {item : Item} {rest : Bytes} (hlength : (encode item).length < Uint.size 64)
    (hfuel : 2 * (encode item).length ≤ fuel) :
    readItem fuel (encode item ++ rest) = some (item, rest)
  items {items : List Item} (hlength : (encodeAll items).length < Uint.size 64)
    (hfuel : 2 * (encodeAll items).length + 1 ≤ fuel) : readItems fuel (encodeAll items) = some items

theorem encode_ne_nil (item : Item) : encode item ≠ [] := by
  have hmark (base length : Nat) (content : Bytes) : lengthMark base length ++ content ≠ [] := by
    rcases Nat.lt_or_ge 55 length with hlong | hshort
    · simp [lengthMark_of_lt hlong]
    · simp [lengthMark_of_le hshort]
  cases item with
  | bytes content =>
    rw [encode]
    cases hbare : isBare content with
    | true =>
      rw [encodeBytes_of_isBare hbare]
      rintro rfl
      cases hbare
    | false => rw [encodeBytes_of_not_isBare hbare]; exact hmark _ _ _
  | list items => rw [encode]; exact hmark _ _ _

namespace ReadsBack

theorem readItem_bytes {content : Bytes} (hlength : (encodeBytes content).length < Uint.size 64)
    (fuel : Nat) (rest : Bytes) :
    readItem (fuel + 1) (encodeBytes content ++ rest) = some (.bytes content, rest) := by
  cases hbare : isBare content with
  | true =>
    obtain ⟨byte, rfl, hbyte⟩ := isBare_iff.mp hbare
    rw [encodeBytes_of_isBare hbare, List.singleton_append, readItem, if_pos hbyte]
  | false =>
    rw [encodeBytes_of_not_isBare hbare] at hlength ⊢
    rw [List.length_append] at hlength
    obtain ⟨mark, digits, hmark, hwritten, hread⟩ :=
      readContent_of_lengthMark 0x80 (by decide) content rest (by omega)
    have hfirst : (UInt8.ofNat (0x80 + mark)).toNat = 0x80 + mark := toNat_ofNat_add (by decide) hmark
    have hlow : ¬UInt8.ofNat (0x80 + mark) < 0x80 := by
      rw [UInt8.lt_iff_toNat_lt, hfirst]
      simp
    have hhigh : UInt8.ofNat (0x80 + mark) < 0xc0 := by
      rw [UInt8.lt_iff_toNat_lt, hfirst]
      simp
      omega
    rw [hwritten, List.cons_append, List.cons_append, List.append_assoc, readItem, if_neg hlow,
      if_pos hhigh, hread]
    simp [hbare]

theorem readItem_succ (hback : ReadsBack fuel) {item : Item} (hlength : (encode item).length < Uint.size 64)
    (hfuel : 2 * (encode item).length ≤ fuel + 1) (rest : Bytes) :
    readItem (fuel + 1) (encode item ++ rest) = some (item, rest) := by
  cases item with
  | bytes content =>
    rw [encode] at hlength ⊢
    exact readItem_bytes hlength fuel rest
  | list items =>
    simp only [encode, List.length_append] at hlength hfuel ⊢
    obtain ⟨mark, digits, hmark, hwritten, hread⟩ :=
      readContent_of_lengthMark 0xc0 (Nat.le_refl _) (encodeAll items) rest (by omega)
    have hfirst : (UInt8.ofNat (0xc0 + mark)).toNat = 0xc0 + mark :=
      toNat_ofNat_add (Nat.le_refl 0xc0) hmark
    have hlow : ¬UInt8.ofNat (0xc0 + mark) < 0x80 := by
      rw [UInt8.lt_iff_toNat_lt, hfirst]
      simp
      omega
    have hhigh : ¬UInt8.ofNat (0xc0 + mark) < 0xc0 := by
      rw [UInt8.lt_iff_toNat_lt, hfirst]
      simp
    rw [hwritten, List.length_cons] at hfuel
    have hitems : readItems fuel (encodeAll items) = some items := hback.items (by omega) (by omega)
    rw [hwritten, List.cons_append, List.cons_append, List.append_assoc, readItem, if_neg hlow,
      if_neg hhigh, hread]
    simp [hitems]

theorem readItems_succ (hback : ReadsBack fuel) {items : List Item}
    (hlength : (encodeAll items).length < Uint.size 64)
    (hfuel : 2 * (encodeAll items).length + 1 ≤ fuel + 1) :
    readItems (fuel + 1) (encodeAll items) = some items := by
  cases items with
  | nil => rw [encodeAll, readItems]
  | cons item items =>
    rw [encodeAll] at hlength hfuel ⊢
    rw [List.length_append] at hlength hfuel
    have hsome := List.length_pos_iff.mpr (encode_ne_nil item)
    have hitem : readItem fuel (encode item ++ encodeAll items) = some (item, encodeAll items) :=
      hback.item (by omega) (by omega)
    have hitems : readItems fuel (encodeAll items) = some items := hback.items (by omega) (by omega)
    cases htext : encode item ++ encodeAll items with
    | nil => exact absurd (List.append_eq_nil_iff.mp htext).1 (encode_ne_nil item)
    | cons first text =>
      rw [htext] at hitem
      simp only [readItems, hitem, Option.bind_some, hitems, Option.map_some]

/-- Whatever the fuel is, all that is encoded within it is read back. -/
theorem all (fuel : Nat) : ReadsBack fuel := by
  induction fuel with
  | zero =>
    refine ⟨fun {item _} _ hfuel => ?_, fun _ hfuel => absurd hfuel (by omega)⟩
    have hsome := List.length_pos_iff.mpr (encode_ne_nil item)
    omega
  | succ fuel hback =>
    exact ⟨fun hlength hfuel => hback.readItem_succ hlength hfuel _, hback.readItems_succ⟩

end ReadsBack

/-- With so much fuel, whatever is read is the encoding of what it is read as. -/
structure ReadsStrictly (fuel : Nat) : Prop where
  item {text rest : Bytes} {item : Item} (hread : readItem fuel text = some (item, rest)) :
    text = encode item ++ rest
  items {text : Bytes} {items : List Item} (hread : readItems fuel text = some items) :
    text = encodeAll items

namespace ReadsStrictly

theorem readItem_succ (hstrict : ReadsStrictly fuel) {item : Item}
    (hread : readItem (fuel + 1) text = some (item, rest)) : text = encode item ++ rest := by
  cases text with
  | nil =>
    rw [readItem] at hread
    cases hread
  | cons first text =>
    rw [readItem] at hread
    split at hread
    case isTrue hlow =>
      cases hread
      rw [encode, encodeBytes, if_pos hlow, List.singleton_append]
    case isFalse hlow =>
      split at hread
      case isTrue =>
        have hbase : 0x80 ≤ first.toNat := by simpa [UInt8.lt_iff_toNat_lt] using hlow
        obtain ⟨⟨content, behind⟩, hcontent, hitem⟩ := Option.bind_eq_some_iff.mp hread
        obtain ⟨digits, hmark, rfl⟩ := lengthMark_of_readContent hbase hcontent
        dsimp only at hitem
        split at hitem
        case isTrue => cases hitem
        case isFalse hbare =>
          cases hitem
          rw [encode, encodeBytes_of_not_isBare (eq_false_of_ne_true hbare), hmark,
            List.cons_append, List.cons_append, List.append_assoc]
      case isFalse hhigh =>
        have hbase : 0xc0 ≤ first.toNat := by simpa [UInt8.lt_iff_toNat_lt] using hhigh
        obtain ⟨⟨payload, behind⟩, hpayload, hitem⟩ := Option.bind_eq_some_iff.mp hread
        obtain ⟨digits, hmark, rfl⟩ := lengthMark_of_readContent hbase hpayload
        obtain ⟨items, hitems, hsame⟩ := Option.map_eq_some_iff.mp hitem
        cases hsame
        rw [encode, ← hstrict.items hitems, hmark, List.cons_append, List.cons_append,
          List.append_assoc]

theorem readItems_succ (hstrict : ReadsStrictly fuel) {items : List Item}
    (hread : readItems (fuel + 1) text = some items) : text = encodeAll items := by
  cases text with
  | nil =>
    rw [readItems] at hread
    cases hread
    rw [encodeAll]
  | cons first text =>
    rw [readItems] at hread
    obtain ⟨⟨item, rest⟩, hitem, hread⟩ := Option.bind_eq_some_iff.mp hread
    obtain ⟨items, hitems, rfl⟩ := Option.map_eq_some_iff.mp hread
    rw [encodeAll, hstrict.item hitem, hstrict.items hitems]

theorem all (fuel : Nat) : ReadsStrictly fuel := by
  induction fuel with
  | zero =>
    refine ⟨fun hread => ?_, fun {text _} hread => ?_⟩
    · rw [readItem] at hread
      cases hread
    · cases text with
      | nil =>
        rw [readItems] at hread
        cases hread
        rw [encodeAll]
      | cons first text =>
        rw [readItems] at hread
        cases hread
  | succ fuel hstrict => exact ⟨hstrict.readItem_succ, hstrict.readItems_succ⟩

end ReadsStrictly

/-- Exactly the encodings are read. -/
theorem decode?_eq_some_iff {item : Item} (hlength : text.length < Uint.size 64) :
    decode? text = some item ↔ encode item = text := by
  constructor
  · intro hread
    rw [decode?] at hread
    split at hread
    · rename_i hitem
      cases hread
      rw [(ReadsStrictly.all _).item hitem, List.append_nil]
    · cases hread
  · rintro rfl
    have hback : readItem (2 * (encode item).length) (encode item ++ []) = some (item, []) :=
      (ReadsBack.all _).item hlength (Nat.le_refl _)
    rw [List.append_nil] at hback
    rw [decode?, hback]

/-- An item has one encoding, and an encoding one item. -/
theorem encode_inj {item other : Item} (hlength : (encode item).length < Uint.size 64) :
    encode item = encode other ↔ item = other := by
  constructor
  · intro hsame
    have hread := (decode?_eq_some_iff hlength).mpr rfl
    exact Option.some.inj (hread.symm.trans ((decode?_eq_some_iff hlength).mpr hsame.symm))
  · rintro rfl
    rfl

end RollupBridge.Rlp
