import RollupBridge.Json.Reader
import RollupBridge.Proofs.Json.Token

namespace RollupBridge.Json

variable {fuel : Nat} {outline : Outline} {value result : Json} {gap text rest : List Char}

section Steps

/-- What is read of the items of an array from one on: that item is the last one, or others follow, or
the array lacks no byte and ends loosely. -/
inductive ItemsStep (fuel : Nat) (outline : Outline) (text : List Char) (seen : List Json) (result : Json)
    (rest : List Char) : Prop
  | last {item : Json} {gap : List Char} (hgap : IsGap gap)
      (hitem : readValue fuel (outline.item seen.length) text = some (item, gap ++ ']' :: rest))
      (hresult : result = .array (seen.reverse ++ [item]))
  | more {item : Json} {gap next : List Char} (hgap : IsGap gap)
      (hitem : readValue fuel (outline.item seen.length) text = some (item, gap ++ ',' :: next))
      (hfull : outline.isFull (seen.length + 1) = false)
      (hmore : readItems fuel outline next (item :: seen) = some (result, rest))
  | loose {item : Json} {gap next : List Char} (hgap : IsGap gap)
      (hitem : readValue fuel (outline.item seen.length) text = some (item, gap ++ ',' :: next))
      (hfull : outline.isFull (seen.length + 1) = true) (hclose : closeBytes? next = some rest)
      (hresult : result = .array (seen.reverse ++ [item]))

theorem readItems_eq_some_iff {seen : List Json} :
    readItems (fuel + 1) outline text seen = some (result, rest) ↔
      ItemsStep fuel outline text seen result rest := by
  have hcomma : isGap ',' = false := rfl
  have hbracket : isGap ']' = false := rfl
  constructor
  · intro hread
    rw [readItems] at hread
    split at hread
    · cases hread
    rename_i item behind hitem
    obtain ⟨gap, hgap, hbehind⟩ := exists_gap behind
    generalize skipGap behind = tail at hread hbehind
    subst hbehind
    split at hread
    · rename_i next
      split at hread
      case isTrue hfull =>
        obtain ⟨_, hclose, heq⟩ := Option.map_eq_some_iff.mp hread
        cases heq
        exact .loose hgap hitem hfull hclose (congrArg array List.reverse_cons)
      case isFalse hfull => exact .more hgap hitem (eq_false_of_ne_true hfull) hread
    · cases hread
      exact .last hgap hitem (congrArg array List.reverse_cons)
    · cases hread
  · rintro (⟨hgap, hitem, rfl⟩ | ⟨hgap, hitem, hfull, hmore⟩ | ⟨hgap, hitem, hfull, hclose, rfl⟩)
    · simp [readItems, hitem, hgap, skipGap_cons hbracket]
    · simp [readItems, hitem, hgap, skipGap_cons hcomma, hfull, hmore]
    · simp [readItems, hitem, hgap, skipGap_cons hcomma, hfull, hclose]

/-- A loose end is a bracket, or what a search for another byte leaves in front of one. -/
theorem closeBytes?_eq_some (hclose : closeBytes? text = some rest) : skipGap text = ']' :: rest ∨
    ∃ behind, missByte? (skipGap text) = some behind ∧ skipGap behind = ']' :: rest := by
  rcases Option.or_eq_some_iff.mp hclose with hclose | ⟨_, hclose⟩
  · dsimp only at hclose
    split at hclose
    · rename_i htext
      cases hclose
      exact .inl htext
    · cases hclose
  · obtain ⟨behind, hmiss, hclose⟩ := Option.bind_eq_some_iff.mp hclose
    split at hclose
    · rename_i hbehind
      cases hclose
      exact .inr ⟨behind, hmiss, hbehind⟩
    · cases hclose

/-- An array starts with the items that are already read. -/
theorem exists_of_readItems {seen : List Json}
    (hread : readItems fuel outline text seen = some (result, rest)) :
    ∃ items, result = .array (seen.reverse ++ items) := by
  induction fuel generalizing text seen with
  | zero =>
    rw [readItems] at hread
    cases hread
  | succ fuel ih =>
    cases readItems_eq_some_iff.mp hread with
    | last _ _ hresult => exact ⟨_, hresult⟩
    | more _ _ _ hmore =>
      obtain ⟨items, rfl⟩ := ih hmore
      exact ⟨_ :: items, by rw [List.reverse_cons, List.append_assoc]; rfl⟩
    | loose _ _ _ _ hresult => exact ⟨_, hresult⟩

/-- What is read of the members of an object from one on: that member is the last one, or others
follow. -/
inductive MembersStep (fuel : Nat) (outline : Outline) (text : List Char)
    (seen : List (Option String × Json)) (result : Json) (rest : List Char) : Prop
  | last {key : Option String} {value : Json} {keyText behind gap : List Char}
      (hkey : SpellsKey key keyText) (htext : text = keyText ++ behind) (hgap : IsGap gap)
      (hvalue : readValue fuel (outline.member key) behind = some (value, gap ++ '\x7d' :: rest))
      (hresult : result = .object (seen.reverse ++ [(key, value)]))
  | more {key : Option String} {value : Json} {keyText behind gap next : List Char}
      (hkey : SpellsKey key keyText) (htext : text = keyText ++ behind) (hgap : IsGap gap)
      (hvalue : readValue fuel (outline.member key) behind = some (value, gap ++ ',' :: next))
      (hmore : readMembers fuel outline next ((key, value) :: seen) = some (result, rest))

theorem readMembers_eq_some_iff {seen : List (Option String × Json)} :
    readMembers (fuel + 1) outline text seen = some (result, rest) ↔
      MembersStep fuel outline text seen result rest := by
  have hquote : isGap '"' = false := rfl
  have hcolon : isGap ':' = false := rfl
  have hcomma : isGap ',' = false := rfl
  have hbrace : isGap '\x7d' = false := rfl
  constructor
  · intro hread
    rw [readMembers] at hread
    obtain ⟨before, hbefore, htext⟩ := exists_gap text
    generalize skipGap text = tail at hread htext
    subst htext
    split at hread
    case h_2 => cases hread
    split at hread
    · cases hread
    rename_i key afterKey hstring
    obtain ⟨raw, hraw, rfl⟩ := readString_eq_some hstring
    obtain ⟨after, hafter, hafterKey⟩ := exists_gap afterKey
    generalize skipGap afterKey = tail at hread hafterKey
    subst hafterKey
    split at hread
    case h_2 => cases hread
    rename_i behind
    have hkey : SpellsKey key _ := .intro hbefore hraw hafter
    have htext : before ++ '"' :: (raw ++ '"' :: (after ++ ':' :: behind)) =
        before ++ '"' :: raw ++ '"' :: after ++ [':'] ++ behind := by simp
    split at hread
    · cases hread
    rename_i value afterValue hvalue
    obtain ⟨gap, hgap, hafterValue⟩ := exists_gap afterValue
    generalize skipGap afterValue = tail at hread hafterValue
    subst hafterValue
    split at hread
    · exact .more hkey htext hgap hvalue hread
    · cases hread
      exact .last hkey htext hgap hvalue (congrArg object List.reverse_cons)
    · cases hread
  · rintro (⟨⟨hbefore, hraw, hafter⟩, rfl, hgap, hvalue, rfl⟩ |
      ⟨⟨hbefore, hraw, hafter⟩, rfl, hgap, hvalue, hmore⟩)
    · simp [readMembers, hbefore, skipGap_cons hquote, readString_append hraw, hafter, skipGap_cons hcolon,
        hvalue, hgap, skipGap_cons hbrace]
    · simp [readMembers, hbefore, skipGap_cons hquote, readString_append hraw, hafter, skipGap_cons hcolon,
        hvalue, hgap, skipGap_cons hcomma, hmore]

theorem membersStep_of_readMembers {seen : List (Option String × Json)}
    (hread : readMembers fuel outline text seen = some (result, rest)) :
    ∃ less, fuel = less + 1 ∧ MembersStep less outline text seen result rest := by
  cases fuel with
  | zero =>
    rw [readMembers] at hread
    cases hread
  | succ fuel => exact ⟨fuel, rfl, readMembers_eq_some_iff.mp hread⟩

theorem readValue_append_gap (hgap : IsGap gap) (fuel : Nat) (outline : Outline) (text : List Char) :
    readValue fuel outline (gap ++ text) = readValue fuel outline text := by
  cases fuel with
  | zero => rw [readValue, readValue]
  | succ fuel => rw [readValue, readValue, skipGap_append hgap]

theorem readItems_skipGap (fuel : Nat) (outline : Outline) (text : List Char) (seen : List Json) :
    readItems fuel outline (skipGap text) seen = readItems fuel outline text seen := by
  obtain ⟨gap, hgap, htext⟩ := exists_gap text
  cases fuel with
  | zero => rw [readItems, readItems]
  | succ fuel =>
    conv => rhs; rw [htext]
    rw [readItems, readItems, readValue_append_gap hgap]

theorem readMembers_skipGap (fuel : Nat) (outline : Outline) (text : List Char)
    (seen : List (Option String × Json)) :
    readMembers fuel outline (skipGap text) seen = readMembers fuel outline text seen := by
  cases fuel with
  | zero => rw [readMembers, readMembers]
  | succ fuel => rw [readMembers, readMembers, skipGap_skipGap]

/-- What is read behind a brace is an object, empty or from its first member on. -/
theorem readMembers_of_readValue
    (hread : readValue (fuel + 1) outline ('\x7b' :: text) = some (value, rest)) :
    value = .object [] ∨ readMembers fuel outline text [] = some (value, rest) := by
  have hopen : isGap '\x7b' = false := rfl
  simp only [readValue, skipGap_cons hopen] at hread
  split at hread
  · cases hread
    exact Or.inl rfl
  · exact Or.inr (readMembers_skipGap _ _ _ _ ▸ hread)

/-- What is read of a value, from its first character on. -/
inductive ValueStep (fuel : Nat) (outline : Outline) : Json → List Char → List Char → Prop
  | scalar {value : Json} {text rest : List Char} (hscalar : SpellsScalar value text) :
      ValueStep fuel outline value (text ++ rest) rest
  | emptyArray {gap rest : List Char} (hgap : IsGap gap) :
      ValueStep fuel outline (.array []) ('[' :: gap ++ ']' :: rest) rest
  | array {value : Json} {text rest : List Char}
      (hitems : readItems fuel outline text [] = some (value, rest)) :
      ValueStep fuel outline value ('[' :: text) rest
  | emptyObject {gap rest : List Char} (hgap : IsGap gap) :
      ValueStep fuel outline (.object []) ('\x7b' :: gap ++ '\x7d' :: rest) rest
  | object {value : Json} {text rest : List Char}
      (hmembers : readMembers fuel outline text [] = some (value, rest)) :
      ValueStep fuel outline value ('\x7b' :: text) rest

theorem valueStep_of_readValue (hread : readValue fuel outline text = some (value, rest)) :
    ∃ less gap behind, fuel = less + 1 ∧ IsGap gap ∧ text = gap ++ behind ∧
      ValueStep less outline value behind rest := by
  obtain ⟨less, rfl⟩ : ∃ less, fuel = less + 1 := by
    cases fuel with
    | zero =>
      rw [readValue] at hread
      cases hread
    | succ fuel => exact ⟨fuel, rfl⟩
  rw [readValue] at hread
  obtain ⟨gap, hgap, htext⟩ := exists_gap text
  refine ⟨less, gap, skipGap text, rfl, hgap, htext, ?_⟩
  generalize skipGap text = behind at hread
  split at hread
  · cases hread
    exact .scalar .null
  · cases hread
    exact .scalar .true
  · cases hread
    exact .scalar .false
  · obtain ⟨⟨s, _⟩, hstring, heq⟩ := Option.map_eq_some_iff.mp hread
    cases heq
    obtain ⟨raw, hraw, rfl⟩ := readString_eq_some hstring
    have hstep : ValueStep less outline (.string s) ('"' :: raw ++ ['"'] ++ rest) rest :=
      .scalar (.string hraw)
    rwa [List.append_assoc, List.cons_append] at hstep
  · rename_i behind
    obtain ⟨inner, hinner, hbehind⟩ := exists_gap behind
    split at hread
    · rename_i hbracket
      cases hread
      rw [hbracket] at hbehind
      subst hbehind
      exact .emptyArray hinner
    · exact .array (readItems_skipGap _ _ _ _ ▸ hread)
  · rename_i behind
    obtain ⟨inner, hinner, hbehind⟩ := exists_gap behind
    split at hread
    · rename_i hbrace
      cases hread
      rw [hbrace] at hbehind
      subst hbehind
      exact .emptyObject hinner
    · exact .object (readMembers_skipGap _ _ _ _ ▸ hread)
  · obtain ⟨⟨literal, _⟩, hfound, heq⟩ := Option.map_eq_some_iff.mp hread
    cases heq
    obtain ⟨hnumber, rfl⟩ := readNumber_eq_some hfound
    exact .scalar (.number hnumber)

end Steps

section Sound

/-- With so much fuel, what is read is spelled: a value and the items of an array where nothing is
expected, and the members of an object where nothing is expected of any of those that are read. -/
structure ReadsSpelled (fuel : Nat) : Prop where
  value {value : Json} {text rest : List Char} (hread : readValue fuel .any text = some (value, rest)) :
    ∃ gap behind, IsGap gap ∧ Spells (.value value) behind ∧ text = gap ++ behind ++ rest
  items {seen : List Json} {result : Json} {text rest : List Char}
    (hread : readItems fuel .any text seen = some (result, rest)) :
    ∃ items behind, result = .array (seen.reverse ++ items) ∧ Spells (.items items) behind ∧
      text = behind ++ ']' :: rest
  members {outline : Outline} {seen : List (Option String × Json)} {result : Json} {text rest : List Char}
    (hread : readMembers fuel outline text seen = some (result, rest)) :
    ∃ members, result = .object (seen.reverse ++ members) ∧
      ((∀ member ∈ members, outline.member member.1 = .any) →
        ∃ behind, Spells (.members members) behind ∧ text = behind ++ '\x7d' :: rest)

namespace ReadsSpelled

variable (hspelled : ReadsSpelled fuel)

include hspelled

theorem padded (hgap : IsGap gap) (hread : readValue fuel .any text = some (value, gap ++ rest)) :
    ∃ behind, Spells (.padded value) behind ∧ text = behind ++ rest := by
  obtain ⟨before, behind, hbefore, hvalue, rfl⟩ := hspelled.value hread
  exact ⟨before ++ behind ++ gap, .padded hbefore hvalue hgap, by simp⟩

theorem value_succ (hread : readValue (fuel + 1) .any text = some (value, rest)) :
    ∃ gap behind, IsGap gap ∧ Spells (.value value) behind ∧ text = gap ++ behind ++ rest := by
  obtain ⟨_, gap, behind, hless, hgap, rfl, hstep⟩ := valueStep_of_readValue hread
  obtain rfl := Nat.succ.inj hless
  cases hstep with
  | scalar hscalar => exact ⟨gap, _, hgap, .scalar hscalar, by simp⟩
  | emptyArray hinner => exact ⟨gap, _, hgap, .emptyArray hinner, by simp⟩
  | array hfound =>
    obtain ⟨items, behind, rfl, hitems, rfl⟩ := hspelled.items hfound
    exact ⟨gap, _, hgap, .array hitems, by simp⟩
  | emptyObject hinner => exact ⟨gap, _, hgap, .emptyObject hinner, by simp⟩
  | object hfound =>
    obtain ⟨members, rfl, hall⟩ := hspelled.members hfound
    obtain ⟨behind, hmembers, rfl⟩ := hall fun _ _ => rfl
    exact ⟨gap, _, hgap, .object hmembers, by simp⟩

theorem items_succ {seen : List Json} (hread : readItems (fuel + 1) .any text seen = some (result, rest)) :
    ∃ items behind, result = .array (seen.reverse ++ items) ∧ Spells (.items items) behind ∧
      text = behind ++ ']' :: rest := by
  cases readItems_eq_some_iff.mp hread with
  | last hgap hfound hresult =>
    obtain ⟨behind, hitem, rfl⟩ := hspelled.padded hgap hfound
    exact ⟨_, behind, hresult, .item hitem, rfl⟩
  | more hgap hfound _ hmore =>
    obtain ⟨items, more, rfl, hitems, rfl⟩ := hspelled.items hmore
    obtain ⟨behind, hitem, rfl⟩ := hspelled.padded hgap hfound
    exact ⟨_, _, by simp, .items hitem hitems, by simp⟩
  | loose _ _ hfull => cases hfull

theorem members_succ {seen : List (Option String × Json)}
    (hread : readMembers (fuel + 1) outline text seen = some (result, rest)) :
    ∃ members, result = .object (seen.reverse ++ members) ∧
      ((∀ member ∈ members, outline.member member.1 = .any) →
        ∃ behind, Spells (.members members) behind ∧ text = behind ++ '\x7d' :: rest) := by
  cases readMembers_eq_some_iff.mp hread with
  | last hkey htext hgap hfound hresult =>
    refine ⟨_, hresult, fun hany => ?_⟩
    rw [hany _ List.mem_cons_self] at hfound
    obtain ⟨behind, hvalue, rfl⟩ := hspelled.padded hgap hfound
    exact ⟨_, .member hkey hvalue, by simp [htext]⟩
  | more hkey htext hgap hfound hmore =>
    obtain ⟨members, rfl, hall⟩ := hspelled.members hmore
    refine ⟨_ :: members, by rw [List.reverse_cons, List.append_assoc]; rfl, fun hany => ?_⟩
    obtain ⟨more, hmembers, rfl⟩ := hall fun member hmember =>
      hany member (List.mem_cons_of_mem _ hmember)
    rw [hany _ List.mem_cons_self] at hfound
    obtain ⟨behind, hvalue, rfl⟩ := hspelled.padded hgap hfound
    exact ⟨_, .members hkey hvalue hmembers, by simp [htext]⟩

end ReadsSpelled

/-- Whatever the fuel is, what is read with it is spelled. -/
theorem ReadsSpelled.all (fuel : Nat) : ReadsSpelled fuel := by
  induction fuel with
  | zero =>
    constructor
    · intro _ _ _ hread
      rw [readValue] at hread
      cases hread
    · intro _ _ _ _ hread
      rw [readItems] at hread
      cases hread
    · intro _ _ _ _ _ hread
      rw [readMembers] at hread
      cases hread
  | succ fuel hspelled => exact ⟨hspelled.value_succ, hspelled.items_succ, hspelled.members_succ⟩

end Sound

section Complete

/-- Values that are read as they are spelled where something is expected: an array where a byte string of
some width is expected has no item behind the last byte. -/
inductive Fits : Outline → Json → Prop
  | any (value : Json) : Fits .any value
  | flat {outline : Outline} {value : Json} (harray : ∀ items, value ≠ .array items)
      (hobject : ∀ members, value ≠ .object members) : Fits outline value
  | array {outline : Outline} {items : List Json}
      (hitems : ∀ i (h : i < items.length), Fits (outline.item i) items[i])
      (hfull : ∀ i, i + 1 < items.length → outline.isFull (i + 1) = false) :
      Fits outline (.array items)
  | object {outline : Outline} {members : List (Option String × Json)}
      (hmembers : ∀ member ∈ members, Fits (outline.member member.1) member.2) :
      Fits outline (.object members)

theorem Fits.item {items : List Json} (hfits : Fits outline (.array items)) {i : Nat}
    (hi : i < items.length) : Fits (outline.item i) items[i] := by
  cases hfits with
  | any => exact .any _
  | flat harray => exact absurd rfl (harray items)
  | array hitems => exact hitems i hi

theorem Fits.isFull_eq_false {items : List Json} (hfits : Fits outline (.array items)) {i : Nat}
    (hi : i + 1 < items.length) : outline.isFull (i + 1) = false := by
  cases hfits with
  | any => rfl
  | flat harray => exact absurd rfl (harray items)
  | array _ hfull => exact hfull i hi

theorem Fits.member {members : List (Option String × Json)} (hfits : Fits outline (.object members))
    {member : Option String × Json} (hmember : member ∈ members) :
    Fits (outline.member member.1) member.2 := by
  cases hfits with
  | any => exact .any _
  | flat _ hobject => exact absurd rfl (hobject members)
  | object hmembers => exact hmembers member hmember

/-- A text is read as the part that it spells, with twice as much fuel as it is long. -/
def IsRead : Part → List Char → Prop
  | .value value, text => ∀ {fuel outline rest}, Fits outline value → Ends rest →
      2 * text.length ≤ fuel + 1 → readValue fuel outline (text ++ rest) = some (value, rest)
  | .padded value, text => ∀ {fuel outline rest}, Fits outline value → Ends rest →
      2 * text.length ≤ fuel + 1 →
      ∃ gap, IsGap gap ∧ readValue fuel outline (text ++ rest) = some (value, gap ++ rest)
  | .items items, text => ∀ {fuel outline seen rest},
      (∀ i (h : i < items.length), Fits (outline.item (seen.length + i)) items[i]) →
      (∀ i, i + 1 < items.length → outline.isFull (seen.length + i + 1) = false) →
      2 * text.length ≤ fuel →
      readItems fuel outline (text ++ ']' :: rest) seen = some (.array (seen.reverse ++ items), rest)
  | .members members, text => ∀ {fuel outline seen rest},
      (∀ member ∈ members, Fits (outline.member member.1) member.2) → 2 * text.length ≤ fuel →
      readMembers fuel outline (text ++ '\x7d' :: rest) seen =
        some (.object (seen.reverse ++ members), rest)

/-- What is no gap stands in front of a value, and nothing that ends an array or an object. -/
theorem Spells.value_eq_cons (hspells : Spells (.value value) text) :
    ∃ c more, text = c :: more ∧ isGap c = false ∧ c ≠ ']' := by
  cases hspells with
  | scalar hscalar =>
    cases hscalar with
    | null | true | false => exact ⟨_, _, rfl, rfl, by decide⟩
    | number hnumber =>
      cases hnumber with
      | unsigned hunsigned =>
        obtain ⟨c, more, rfl, hc⟩ := hunsigned.eq_cons
        refine ⟨c, more, rfl, isGap_eq_false_of_isDigit hc, ?_⟩
        rintro rfl
        cases hc
      | negative => exact ⟨_, _, rfl, rfl, by decide⟩
    | string => exact ⟨_, _, rfl, rfl, by decide⟩
  | emptyArray | array | emptyObject | object => exact ⟨_, _, rfl, rfl, by decide⟩

theorem Spells.padded_eq_append (hspells : Spells (.padded value) text) :
    ∃ gap c more, IsGap gap ∧ text = gap ++ c :: more ∧ isGap c = false ∧ c ≠ ']' := by
  cases hspells with
  | padded hbefore hvalue =>
    obtain ⟨c, more, rfl, hc⟩ := hvalue.value_eq_cons
    exact ⟨_, c, _, hbefore, List.append_assoc .., hc⟩

theorem Spells.items_eq_append {items : List Json} (hspells : Spells (.items items) text) :
    ∃ gap c more, IsGap gap ∧ text = gap ++ c :: more ∧ isGap c = false ∧ c ≠ ']' := by
  cases hspells with
  | item hitem => exact hitem.padded_eq_append
  | items hitem =>
    obtain ⟨gap, c, more, hgap, rfl, hc⟩ := hitem.padded_eq_append
    exact ⟨gap, c, _, hgap, List.append_assoc .., hc⟩

theorem Spells.items_ne_nil {items : List Json} (hspells : Spells (.items items) text) : items ≠ [] := by
  cases hspells <;> exact List.cons_ne_nil _ _

theorem Spells.members_eq_append {members : List (Option String × Json)}
    (hspells : Spells (.members members) text) : ∃ gap more, IsGap gap ∧ text = gap ++ '"' :: more := by
  cases hspells with
  | member hkey =>
    obtain ⟨hbefore, _, _⟩ := hkey
    exact ⟨_, _, hbefore, by simp only [List.append_assoc, List.cons_append]; rfl⟩
  | members hkey =>
    obtain ⟨hbefore, _, _⟩ := hkey
    exact ⟨_, _, hbefore, by simp only [List.append_assoc, List.cons_append]; rfl⟩

theorem SpellsKey.length_pos {key : Option String} (hkey : SpellsKey key text) : 0 < text.length := by
  cases hkey
  simp only [List.length_append, List.length_cons]
  omega

theorem readValue_scalar (hscalar : SpellsScalar value text) (hends : Ends rest) (fuel : Nat)
    (outline : Outline) : readValue (fuel + 1) outline (text ++ rest) = some (value, rest) := by
  cases hscalar with
  | null | true | false => rfl
  | string hstring =>
    have hquote : isGap '"' = false := rfl
    simp [readValue, skipGap_cons hquote, readString_append hstring]
  | number hnumber =>
    have hread := readNumber_append hnumber hends
    have hstart : ∃ c more, text = c :: more ∧ (c = '-' ∨ Decimal.isDigit c = true) := by
      cases hnumber with
      | unsigned hunsigned =>
        obtain ⟨c, more, rfl, hc⟩ := hunsigned.eq_cons
        exact ⟨c, more, rfl, Or.inr hc⟩
      | negative => exact ⟨'-', _, rfl, Or.inl rfl⟩
    obtain ⟨c, more, rfl, hc⟩ := hstart
    have hgap : isGap c = false := by
      rcases hc with rfl | hc
      · rfl
      · exact isGap_eq_false_of_isDigit hc
    rw [List.cons_append] at hread ⊢
    rw [readValue, skipGap_cons hgap]
    split <;> first
      | rw [hread, Option.map_some]
      | rename_i hsame
        cases (List.cons.inj hsame).1
        rcases hc with hc | hc <;> cases hc

/-- What follows the start of an array is its items, unless the array ends there. -/
theorem readValue_array {c : Char} (hgap : IsGap gap) (hc : isGap c = false) (hbracket : c ≠ ']')
    (fuel : Nat) (outline : Outline) (text : List Char) :
    readValue (fuel + 1) outline ('[' :: (gap ++ c :: text)) =
      readItems fuel outline (gap ++ c :: text) [] := by
  have hopen : isGap '[' = false := rfl
  have hskip : skipGap (gap ++ c :: text) = c :: text := by rw [skipGap_append hgap, skipGap_cons hc]
  rw [← readItems_skipGap, hskip]
  simp [readValue, skipGap_cons hopen, hskip, hbracket]

/-- What follows the start of an object is its members, if a quote stands there. -/
theorem readValue_object (hgap : IsGap gap) (fuel : Nat) (outline : Outline) (text : List Char) :
    readValue (fuel + 1) outline ('\x7b' :: (gap ++ '"' :: text)) =
      readMembers fuel outline (gap ++ '"' :: text) [] := by
  have hopen : isGap '\x7b' = false := rfl
  have hquote : isGap '"' = false := rfl
  have hskip : skipGap (gap ++ '"' :: text) = '"' :: text := by
    rw [skipGap_append hgap, skipGap_cons hquote]
  rw [← readMembers_skipGap, hskip]
  simp [readValue, skipGap_cons hopen, hskip]

namespace IsRead

theorem scalar (hscalar : SpellsScalar value text) : IsRead (.value value) text := by
  intro fuel outline rest _ hends hfuel
  obtain ⟨c, more, rfl, _⟩ := (Spells.scalar hscalar).value_eq_cons
  obtain ⟨fuel, rfl⟩ := Nat.exists_eq_add_one_of_ne_zero (n := fuel) (by simp at hfuel; omega)
  exact readValue_scalar hscalar hends fuel outline

/-- Two brackets with a gap between them are read as a value if they are where they meet. -/
theorem brackets {opening closing : Char} (hclosing : isGap closing = false)
    (hread : ∀ fuel outline behind rest, skipGap behind = closing :: rest →
      readValue (fuel + 1) outline (opening :: behind) = some (value, rest))
    (hgap : IsGap gap) : IsRead (.value value) (opening :: gap ++ [closing]) := by
  intro fuel outline rest _ _ hfuel
  obtain ⟨fuel, rfl⟩ := Nat.exists_eq_add_one_of_ne_zero (n := fuel) (by simp at hfuel; omega)
  rw [List.cons_append, List.cons_append, List.append_assoc]
  apply hread
  rw [skipGap_append hgap]
  exact skipGap_cons hclosing rest

theorem array {items : List Json} (hspells : Spells (.items items) text)
    (hitems : IsRead (.items items) text) : IsRead (.value (.array items)) ('[' :: text ++ [']']) := by
  intro fuel outline rest hfits _ hfuel
  obtain ⟨fuel, rfl⟩ := Nat.exists_eq_add_one_of_ne_zero (n := fuel) (by simp at hfuel; omega)
  have hread : readItems fuel outline (text ++ ']' :: rest) [] = some (.array items, rest) :=
    hitems (fun i hi => by simpa using hfits.item hi) (fun i hi => by simpa using hfits.isFull_eq_false hi)
      (by simp at hfuel; omega)
  obtain ⟨gap, c, more, hgap, rfl, hc, hbracket⟩ := hspells.items_eq_append
  simp only [List.cons_append, List.append_assoc, List.nil_append] at hread ⊢
  rw [readValue_array hgap hc hbracket, hread]

theorem object {members : List (Option String × Json)} (hspells : Spells (.members members) text)
    (hmembers : IsRead (.members members) text) :
    IsRead (.value (.object members)) ('\x7b' :: text ++ ['\x7d']) := by
  intro fuel outline rest hfits _ hfuel
  obtain ⟨fuel, rfl⟩ := Nat.exists_eq_add_one_of_ne_zero (n := fuel) (by simp at hfuel; omega)
  have hread : readMembers fuel outline (text ++ '\x7d' :: rest) [] = some (.object members, rest) :=
    hmembers (fun _ hmember => hfits.member hmember) (by simp at hfuel; omega)
  obtain ⟨gap, more, hgap, rfl⟩ := hspells.members_eq_append
  simp only [List.cons_append, List.append_assoc, List.nil_append] at hread ⊢
  rw [readValue_object hgap, hread]

theorem padded {before after : List Char} (hbefore : IsGap before) (hvalue : IsRead (.value value) text)
    (hafter : IsGap after) : IsRead (.padded value) (before ++ text ++ after) := by
  intro fuel outline rest hfits hends hfuel
  refine ⟨after, hafter, ?_⟩
  rw [List.append_assoc, List.append_assoc, readValue_append_gap hbefore]
  exact hvalue hfits (hends.append hafter) (by simp at hfuel; omega)

variable {more : List Char}

theorem item {item : Json} (hspells : Spells (.padded item) text) (hitem : IsRead (.padded item) text) :
    IsRead (.items [item]) text := by
  intro fuel outline seen rest hfits _ hfuel
  obtain ⟨gap, c, more, _, htext, _⟩ := hspells.padded_eq_append
  obtain ⟨fuel, rfl⟩ := Nat.exists_eq_add_one_of_ne_zero (n := fuel) (by simp [htext] at hfuel; omega)
  obtain ⟨after, hafter, hread⟩ := hitem (hfits 0 (by simp)) (.bracket rest) hfuel
  exact readItems_eq_some_iff.mpr (.last hafter hread rfl)

theorem items {item : Json} {items : List Json} (hspells : Spells (.items items) more)
    (hitem : IsRead (.padded item) text) (hitems : IsRead (.items items) more) :
    IsRead (.items (item :: items)) (text ++ ',' :: more) := by
  intro fuel outline seen rest hfits hfull hfuel
  obtain ⟨fuel, rfl⟩ := Nat.exists_eq_add_one_of_ne_zero (n := fuel) (by simp at hfuel; omega)
  simp only [List.length_append, List.length_cons] at hfuel
  have hfuelItem : 2 * text.length ≤ fuel + 1 := by omega
  obtain ⟨after, hafter, hread⟩ := hitem (hfits 0 (by simp)) (.comma (more ++ ']' :: rest)) hfuelItem
  have hmore : readItems fuel outline (more ++ ']' :: rest) (item :: seen) =
      some (.array ((item :: seen).reverse ++ items), rest) := by
    -- The places of the others count from one item more.
    have hshift (i : Nat) : (item :: seen).length + i = seen.length + (i + 1) := by
      rw [List.length_cons]
      omega
    refine hitems (fun i hi => ?_) (fun i hi => ?_) (by omega)
    · rw [hshift]
      exact hfits (i + 1) (Nat.succ_lt_succ hi)
    · rw [hshift]
      exact hfull (i + 1) (Nat.succ_lt_succ hi)
  rw [List.reverse_cons, List.append_assoc] at hmore
  rw [List.append_assoc]
  have hlast : 0 + 1 < (item :: items).length :=
    Nat.succ_lt_succ (List.length_pos_iff.mpr hspells.items_ne_nil)
  exact readItems_eq_some_iff.mpr (.more hafter hread (hfull 0 hlast) hmore)

variable {key : Option String} {keyText : List Char}

theorem member (hkey : SpellsKey key keyText) (hvalue : IsRead (.padded value) text) :
    IsRead (.members [(key, value)]) (keyText ++ text) := by
  intro fuel outline seen rest hfits hfuel
  rw [List.length_append] at hfuel
  have hpos := hkey.length_pos
  obtain ⟨fuel, rfl⟩ := Nat.exists_eq_add_one_of_ne_zero (n := fuel) (by omega)
  have hfuelValue : 2 * text.length ≤ fuel + 1 := by omega
  obtain ⟨after, hafter, hread⟩ := hvalue (hfits _ List.mem_cons_self) (.brace rest) hfuelValue
  exact readMembers_eq_some_iff.mpr (.last hkey (List.append_assoc ..) hafter hread rfl)

theorem members {members : List (Option String × Json)} (hkey : SpellsKey key keyText)
    (hvalue : IsRead (.padded value) text) (hmembers : IsRead (.members members) more) :
    IsRead (.members ((key, value) :: members)) (keyText ++ text ++ ',' :: more) := by
  intro fuel outline seen rest hfits hfuel
  obtain ⟨fuel, rfl⟩ := Nat.exists_eq_add_one_of_ne_zero (n := fuel) (by simp at hfuel; omega)
  simp only [List.length_append, List.length_cons] at hfuel
  have hfuelValue : 2 * text.length ≤ fuel + 1 := by omega
  obtain ⟨after, hafter, hread⟩ :=
    hvalue (hfits _ List.mem_cons_self) (.comma (more ++ '\x7d' :: rest)) hfuelValue
  have hmore : readMembers fuel outline (more ++ '\x7d' :: rest) ((key, value) :: seen) =
      some (.object (((key, value) :: seen).reverse ++ members), rest) :=
    hmembers (fun _ hmember => hfits _ (List.mem_cons_of_mem _ hmember)) (by omega)
  rw [List.reverse_cons, List.append_assoc] at hmore
  rw [List.append_assoc, List.append_assoc]
  exact readMembers_eq_some_iff.mpr (.more hkey rfl hafter hread hmore)

end IsRead

/-- What is spelled is read. -/
theorem Spells.isRead {part : Part} (hspells : Spells part text) : IsRead part text := by
  induction hspells with
  | scalar hscalar => exact IsRead.scalar hscalar
  | emptyArray hgap =>
    refine IsRead.brackets rfl ?_ hgap
    intro fuel outline behind rest hskip
    have hopen : isGap '[' = false := rfl
    simp [readValue, skipGap_cons hopen, hskip]
  | array hitems ih => exact IsRead.array hitems ih
  | emptyObject hgap =>
    refine IsRead.brackets rfl ?_ hgap
    intro fuel outline behind rest hskip
    have hopen : isGap '\x7b' = false := rfl
    simp [readValue, skipGap_cons hopen, hskip]
  | object hmembers ih => exact IsRead.object hmembers ih
  | padded hbefore _ hafter ih => exact IsRead.padded hbefore ih hafter
  | item hitem ih => exact IsRead.item hitem ih
  | items _ hitems ihItem ih => exact IsRead.items hitems ihItem ih
  | member hkey _ ih => exact IsRead.member hkey ih
  | members hkey _ _ ihValue ih => exact IsRead.members hkey ihValue ih

/-- A text that spells a value is read as that value, if it fits what is expected. -/
theorem readAs?_of_spells (hspells : Spells (.padded value) text) (hfits : Fits outline value) :
    readAs? outline text = some value := by
  have hfuel : 2 * text.length ≤ 2 * text.length + 2 + 1 := by omega
  obtain ⟨gap, hgap, hread⟩ := hspells.isRead hfits .nil hfuel
  rw [List.append_nil, List.append_nil] at hread
  rw [readAs?, hread]
  simp [skipGap_eq_nil_iff.mpr hgap]

/-- Where nothing is expected, what is read of a text is what it spells. -/
theorem read?_eq_some_iff : read? text = some value ↔ Spells (.padded value) text := by
  constructor
  · intro hread
    rw [read?, readAs?] at hread
    split at hread
    case h_2 => cases hread
    rename_i behind hvalue
    split at hread
    case isFalse => cases hread
    rename_i hgap
    cases hread
    rw [List.isEmpty_iff, skipGap_eq_nil_iff] at hgap
    obtain ⟨before, inner, hbefore, hinner, rfl⟩ := (ReadsSpelled.all _).value hvalue
    exact .padded hbefore hinner hgap
  · intro hspells
    exact readAs?_of_spells hspells (.any value)

/-- A text spells one value at most. -/
theorem Spells.unique {other : Json} (hspells : Spells (.padded value) text)
    (hother : Spells (.padded other) text) : value = other :=
  Option.some.inj ((read?_eq_some_iff.mpr hspells).symm.trans (read?_eq_some_iff.mpr hother))

end Complete

end RollupBridge.Json
