import RollupBridge.Json.Writer
import RollupBridge.Proofs.Json.Reader

namespace RollupBridge.Json

/-- Values whose text is read back where something is expected: numbers are plain integers, and an array
where a byte string of some width is expected has no item behind the last byte. -/
inductive Plain : Outline → Json → Prop
  | null (outline : Outline) : Plain outline .null
  | bool (outline : Outline) (value : Bool) : Plain outline (.bool value)
  | number (outline : Outline) (value : Nat) : Plain outline (ofNat value)
  | string (outline : Outline) (s : Option String) : Plain outline (.string s)
  | array {outline : Outline} {items : List Json}
      (hitems : ∀ i (h : i < items.length), Plain (outline.item i) items[i])
      (hfull : ∀ i, i + 1 < items.length → outline.isFull (i + 1) = false) :
      Plain outline (.array items)
  | object {outline : Outline} {members : List (Option String × Json)}
      (hmembers : ∀ member ∈ members, Plain (outline.member member.1) member.2) :
      Plain outline (.object members)

variable {outline : Outline} {value : Json}

theorem Plain.fits (hplain : Plain outline value) : Fits outline value := by
  induction hplain with
  | null | bool | number | string => exact .flat (by rintro _ ⟨⟩) (by rintro _ ⟨⟩)
  | array _ hfull ih => exact .array ih hfull
  | object _ ih => exact .object ih

/-- The text of items starts with that of the first, and the others stand behind a comma. -/
theorem compactItems_cons (item : Json) (items : List Json) :
    compactItems (item :: items) =
      compactChars item ++ if items = [] then [] else ',' :: compactItems items := by
  cases items with
  | nil => exact (List.append_nil _).symm
  | cons next items => rfl

/-- The text of members starts with that of the first, and the others stand behind a comma. -/
theorem compactMembers_cons (key : Option String) (value : Json)
    (members : List (Option String × Json)) :
    compactMembers ((key, value) :: members) =
      writeString key ++ ':' :: (compactChars value ++
        if members = [] then [] else ',' :: compactMembers members) := by
  cases members with
  | nil => simp [compactMembers]
  | cons next members => simp [compactMembers]

theorem spells_compactItems {items : List Json} (hsome : items ≠ [])
    (hitems : ∀ item ∈ items, Spells (.value item) (compactChars item)) :
    Spells (.items items) (compactItems items) := by
  induction items with
  | nil => exact absurd rfl hsome
  | cons item items ih =>
    have hitem := (hitems item List.mem_cons_self).bare
    rw [compactItems_cons]
    split
    · subst items
      rw [List.append_nil]
      exact .item hitem
    · rename_i hmore
      exact .items hitem (ih hmore fun other hother => hitems other (List.mem_cons_of_mem _ hother))

theorem spells_compactMembers {members : List (Option String × Json)} (hsome : members ≠ [])
    (hmembers : ∀ member ∈ members, Spells (.value member.2) (compactChars member.2)) :
    Spells (.members members) (compactMembers members) := by
  induction members with
  | nil => exact absurd rfl hsome
  | cons member members ih =>
    obtain ⟨key, value⟩ := member
    have hvalue := (hmembers _ List.mem_cons_self).bare
    obtain ⟨text, hwrite, hstring⟩ := exists_writeString key
    have hkey : SpellsKey key ('"' :: text ++ ['"', ':']) := by
      simpa using SpellsKey.intro .nil hstring .nil
    rw [compactMembers_cons, hwrite]
    split
    · subst members
      simpa using Spells.member hkey hvalue
    · rename_i hmore
      have hrest := ih hmore fun other hother => hmembers other (List.mem_cons_of_mem _ hother)
      simpa using Spells.members hkey hvalue hrest

/-- A value is spelled by its compact text. -/
theorem Plain.spells (hplain : Plain outline value) : Spells (.value value) (compactChars value) := by
  induction hplain with
  | null => exact .scalar .null
  | bool _ value =>
    cases value with
    | true => exact .scalar .true
    | false => exact .scalar .false
  | number _ value => exact .scalar (.number (isNumber_digits value))
  | string _ s =>
    obtain ⟨text, hwrite, hstring⟩ := exists_writeString s
    rw [compactChars, hwrite]
    exact .scalar (.string hstring)
  | @array _ items _ _ ih =>
    by_cases hsome : items = []
    · subst hsome
      exact .emptyArray .nil
    · refine .array (spells_compactItems hsome fun item hitem => ?_)
      obtain ⟨i, hi, rfl⟩ := List.getElem_of_mem hitem
      exact ih i hi
  | @object _ members _ ih =>
    by_cases hsome : members = []
    · subst hsome
      exact .emptyObject .nil
    · exact .object (spells_compactMembers hsome ih)

/-- A value is read back from its compact text. -/
theorem readAs?_compactChars (hplain : Plain outline value) :
    readAs? outline (compactChars value) = some value :=
  readAs?_of_spells hplain.spells.bare hplain.fits

end RollupBridge.Json
