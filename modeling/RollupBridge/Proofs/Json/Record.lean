import Mathlib.Data.List.Forall2
import RollupBridge.Json.Value
import RollupBridge.Proofs.Json.Compact

namespace RollupBridge.Json

/-- Every field has a name, and no two of them share one. -/
def WellNamed (fields : List Field) : Prop :=
  (∀ field ∈ fields, field.1 ≠ []) ∧
    fields.Pairwise fun field other => ∀ name ∈ field.1, name ∉ other.1

instance (fields : List Field) : Decidable (WellNamed fields) := inferInstanceAs (Decidable (_ ∧ _))

/-- The members of a record of values, each under the first name of its field. -/
def namedMembers (fields : List Field) (values : List Json) : List (String × Json) :=
  (fields.zip values).map fun (field, value) => (field.1.headD "", value)

/-- A record of values, each under the first name of its field. -/
def recordOf (fields : List Field) (values : List Json) : Json := record (namedMembers fields values)

variable {fields : List Field} {values : List Json} {field : Field} {names : List String}

theorem WellNamed.headD_mem (hnamed : WellNamed fields) (hfield : field ∈ fields) :
    field.1.headD "" ∈ field.1 := by
  cases hnames : field.1 with
  | nil => exact absurd hnames (hnamed.1 field hfield)
  | cons name names => exact List.mem_cons_self

theorem WellNamed.tail (hnamed : WellNamed (field :: fields)) : WellNamed fields :=
  ⟨fun other hother => hnamed.1 other (List.mem_cons_of_mem _ hother), (List.pairwise_cons.mp hnamed.2).2⟩

/-- A name of the first field is no name of the others. -/
theorem WellNamed.not_mem (hnamed : WellNamed (field :: fields)) {other : Field} (hother : other ∈ fields)
    {name : String} (hname : name ∈ field.1) : name ∉ other.1 :=
  (List.pairwise_cons.mp hnamed.2).1 other hother name hname

theorem exists_of_mem_namedMembers (hnamed : WellNamed fields) {member : String × Json}
    (hmember : member ∈ namedMembers fields values) :
    ∃ field, (field, member.2) ∈ fields.zip values ∧ field ∈ fields ∧ member.1 ∈ field.1 := by
  obtain ⟨⟨field, value⟩, hpair, rfl⟩ := List.mem_map.mp hmember
  have hfield := (List.of_mem_zip hpair).1
  exact ⟨field, hpair, hfield, hnamed.headD_mem hfield⟩

/-- Every item is read, and what they are read as stands in their order. -/
theorem mapM_eq_some_iff {α β : Type} {read? : α → Option β} {items : List α} {values : List β} :
    items.mapM read? = some values ↔
      List.Forall₂ (fun item value => read? item = some value) items values := by
  induction items generalizing values with
  | nil =>
    rw [List.mapM_nil, List.forall₂_nil_left_iff]
    exact Option.some_inj.trans eq_comm
  | cons item items ih =>
    rw [List.mapM_cons, List.forall₂_cons_left_iff]
    constructor
    · intro hread
      obtain ⟨value, hvalue, hread⟩ := Option.bind_eq_some_iff.mp hread
      obtain ⟨more, hmore, hread⟩ := Option.bind_eq_some_iff.mp hread
      cases hread
      exact ⟨value, more, hvalue, ih.mp hmore, rfl⟩
    · rintro ⟨value, more, hvalue, hmore, rfl⟩
      rw [hvalue, ih.mpr hmore]
      rfl

theorem exists_of_mapM {α β : Type} {read? : α → Option β} {items : List α} {values : List β}
    (hread : items.mapM read? = some values) {item : α} (hitem : item ∈ items) :
    ∃ value, read? item = some value := by
  obtain ⟨i, hi, rfl⟩ := List.getElem_of_mem hitem
  have hforall := mapM_eq_some_iff.mp hread
  exact ⟨_, hforall.get hi (hforall.length_eq ▸ hi)⟩

theorem members?_eq_some_iff {members : List (Option String × Json)} {named : List (String × Json)} :
    members? members = some named ↔ members = named.map fun (key, value) => (some key, value) := by
  rw [members?, mapM_eq_some_iff]
  constructor
  · intro hread
    induction hread with
    | nil => rfl
    | @cons member name _ _ hname _ ih =>
      obtain ⟨key, value⟩ := member
      obtain ⟨text, rfl, rfl⟩ := Option.map_eq_some_iff.mp hname
      rw [ih, List.map_cons]
  · rintro rfl
    rw [List.forall₂_map_left_iff]
    exact List.forall₂_same.mpr fun _ _ => rfl

/-- Each field has a member under one of its names. -/
def NamedAs (fields : List Field) (chosen : List (String × Json)) : Prop :=
  List.Forall₂ (fun field member => member.1 ∈ field.1) fields chosen

theorem NamedAs.exists_of_mem {chosen : List (String × Json)} (hchosen : NamedAs fields chosen)
    {member : String × Json} (hmember : member ∈ chosen) :
    ∃ field ∈ fields, (field, member) ∈ fields.zip chosen ∧ member.1 ∈ field.1 := by
  obtain ⟨i, hi, rfl⟩ := List.getElem_of_mem hmember
  have hlength := List.Forall₂.length_eq hchosen
  have hfield : i < fields.length := hlength ▸ hi
  refine ⟨fields[i], List.getElem_mem hfield, ?_, List.Forall₂.get hchosen hfield hi⟩
  rw [← List.getElem_zip (h := by rw [List.length_zip]; omega)]
  exact List.getElem_mem _

/-- Among members that are chosen for the fields, the names of a field find its own. -/
theorem NamedAs.filter_eq {chosen : List (String × Json)} (hnamed : WellNamed fields)
    (hchosen : NamedAs fields chosen) :
    ∀ pair ∈ fields.zip chosen, chosen.filter (fun (key, _) => pair.1.1.contains key) = [pair.2] := by
  induction hchosen with
  | nil => simp
  | @cons field member fields chosen hkey hchosen ih =>
    intro pair hpair
    rcases List.mem_cons.mp hpair with rfl | hpair
    · have hothers : chosen.filter (fun (key, _) => field.1.contains key) = [] := by
        refine List.filter_eq_nil_iff.mpr fun other hother hshared => ?_
        obtain ⟨otherField, hfield, _, hname⟩ := NamedAs.exists_of_mem hchosen hother
        exact hnamed.not_mem hfield (by simpa using hshared) hname
      rw [List.filter_cons_of_pos (by simpa using hkey), hothers]
    · have hfirst : member.1 ∉ pair.1.1 := hnamed.not_mem (List.of_mem_zip hpair).1 hkey
      rw [List.filter_cons_of_neg (by simpa using hfirst)]
      exact ih hnamed.tail pair hpair

/-- Members under the names of the fields are found in any order and among any others. -/
theorem fields?_of_perm {named chosen others : List (String × Json)} (hnamed : WellNamed fields)
    (hchosen : NamedAs fields chosen) (hothers : ∀ member ∈ others, ∀ field ∈ fields, member.1 ∉ field.1)
    (hperm : named.Perm (chosen ++ others)) :
    (record named).fields? fields = some (chosen.map Prod.snd) := by
  have hmember (field : Field) (member : String × Json) (hpair : (field, member) ∈ fields.zip chosen) :
      member? field.1 named = some member.2 := by
    have hnone : others.filter (fun (key, _) => field.1.contains key) = [] :=
      List.filter_eq_nil_iff.mpr fun other hother hshared =>
        hothers other hother field (List.of_mem_zip hpair).1 (by simpa using hshared)
    have hfilter := hperm.filter fun (key, _) => field.1.contains key
    rw [List.filter_append, hchosen.filter_eq hnamed _ hpair, hnone, List.append_nil,
      List.perm_singleton] at hfilter
    rw [member?, hfilter]
  rw [record, fields?, members?_eq_some_iff.mpr rfl]
  refine mapM_eq_some_iff.mpr (List.forall₂_map_right_iff.mpr (List.forall₂_iff_zip.mpr
    ⟨List.Forall₂.length_eq hchosen, fun {field member} hpair => hmember field member hpair⟩))

theorem namedAs_namedMembers (hnamed : WellNamed fields) (hlength : fields.length = values.length) :
    NamedAs fields (namedMembers fields values) := by
  induction fields generalizing values with
  | nil => exact .nil
  | cons field fields ih =>
    cases values with
    | nil => cases hlength
    | cons value values =>
      exact .cons (hnamed.headD_mem List.mem_cons_self) (ih hnamed.tail (Nat.succ.inj hlength))

/-- A record that is written under the first names of its fields is read by them. -/
theorem fields?_recordOf (hnamed : WellNamed fields) (hlength : fields.length = values.length) :
    (recordOf fields values).fields? fields = some values := by
  have hvalues : (namedMembers fields values).map Prod.snd = values := by
    rw [namedMembers, List.map_map]
    exact List.map_snd_zip (Nat.le_of_eq hlength.symm)
  have hothers : ∀ member ∈ ([] : List (String × Json)), ∀ field ∈ fields, member.1 ∉ field.1 := by simp
  have hperm : (namedMembers fields values).Perm (namedMembers fields values ++ []) := by simp
  have hread := fields?_of_perm hnamed (namedAs_namedMembers hnamed hlength) hothers hperm
  rwa [hvalues] at hread

/-- What is expected under a key is told by the first field that has the key among its names. -/
theorem member_record_eq {key : Option String} : (Outline.record fields).member key =
    ((fields.find? fun field => field.1.any fun name => key == some name).map Prod.snd).getD .any := rfl

/-- What is expected under a name is what is expected of the field with that name. -/
theorem member_record (hnamed : WellNamed fields) (hfield : field ∈ fields) {name : String}
    (hname : name ∈ field.1) : (Outline.record fields).member (some name) = field.2 := by
  have hfind : fields.find? (fun field => field.1.any fun other => some name == some other) = some field := by
    induction fields with
    | nil => cases hfield
    | cons first fields ih =>
      rcases List.mem_cons.mp hfield with rfl | hlater
      · exact List.find?_cons_of_pos (by simpa using hname)
      · rw [List.find?_cons_of_neg]
        · exact ih hnamed.tail hlater
        · simp only [List.any_eq_true, beq_iff_eq, Option.some.injEq, not_exists, not_and]
          rintro other hother rfl
          exact hnamed.not_mem hlater hother hname
  rw [member_record_eq, hfind]
  rfl

/-- Nothing is expected under a key that names no field of which something is expected. -/
theorem member_record_eq_any {key : Option String}
    (hkey : ∀ field ∈ fields, ∀ name ∈ field.1, key = some name → field.2 = .any) :
    (Outline.record fields).member key = .any := by
  rw [member_record_eq]
  cases hfind : fields.find? fun field => field.1.any fun name => key == some name with
  | none => rfl
  | some field =>
    have hany := List.find?_some hfind
    obtain ⟨name, hname, hsame⟩ := List.any_eq_true.mp hany
    exact hkey field (List.mem_of_find?_eq_some hfind) name hname (beq_iff_eq.mp hsame)

/-- An object of members in any order fits a record if each field's fits what is expected of it. -/
theorem Fits.of_perm {named chosen others : List (String × Json)} (hnamed : WellNamed fields)
    (hchosen : NamedAs fields chosen) (hothers : ∀ member ∈ others, ∀ field ∈ fields, member.1 ∉ field.1)
    (hfits : List.Forall₂ (fun field member => Fits field.2 member.2) fields chosen)
    (hperm : named.Perm (chosen ++ others)) : Fits (.record fields) (record named) := by
  refine .object fun member hmember => ?_
  obtain ⟨⟨key, value⟩, hmem, rfl⟩ := List.mem_map.mp hmember
  rcases List.mem_append.mp (hperm.mem_iff.mp hmem) with hmem | hmem
  · obtain ⟨field, hfield, hpair, hname⟩ := hchosen.exists_of_mem hmem
    rw [member_record hnamed hfield hname]
    exact (List.forall₂_iff_zip.mp hfits).2 hpair
  · rw [member_record_eq_any]
    · exact .any value
    · rintro field hfield name hname ⟨⟩
      exact absurd hname (hothers _ hmem field hfield)

/-- A record is read back if each of its values is where its field expects it. -/
theorem Plain.recordOf (hnamed : WellNamed fields)
    (hvalues : List.Forall₂ (fun field value => Plain field.2 value) fields values) :
    Plain (.record fields) (recordOf fields values) := by
  refine .object fun member hmember => ?_
  obtain ⟨⟨key, value⟩, hnamedMember, rfl⟩ := List.mem_map.mp hmember
  obtain ⟨field, hpair, hfield, hname⟩ := exists_of_mem_namedMembers hnamed hnamedMember
  rw [member_record hnamed hfield hname]
  exact (List.forall₂_iff_zip.mp hvalues).2 hpair

end RollupBridge.Json
