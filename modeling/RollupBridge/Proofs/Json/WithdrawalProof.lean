import RollupBridge.Json.Shape
import RollupBridge.Proofs.Json.Words

namespace RollupBridge

open Json JsonForm

namespace WithdrawalProof

/-- Values from which a proof is read, the name under which its path is given, and members that are no
fields of a proof. -/
structure Presentation (proof : WithdrawalProof) where
  batchNumber : Json
  messageIndex : Json
  txNumber : Json
  message : Json
  pathName : String
  path : Json
  others : List (String × Json)
  batchNumber_eq : batchNumber.uint? 64 = some proof.l1BatchNumber
  messageIndex_eq : messageIndex.uint? 64 = some proof.l2MessageIndex
  txNumber_eq : txNumber.uint? 16 = some proof.l2TxNumberInBlock
  message_eq : message.bytes? = some proof.message
  pathName_mem : pathName ∈ ["merkleProof", "proof"]
  path_eq : path.list? Json.fixed? = some proof.merkleProof
  others_unknown : ∀ member ∈ others, ∀ field ∈ jsonFields, member.1 ∉ field.1

namespace Presentation

variable {proof : WithdrawalProof} (p : proof.Presentation)

/-- The members of an object for the fields, in the order of the fields. -/
def chosen : List (String × Json) :=
  [("l1BatchNumber", p.batchNumber), ("l2MessageIndex", p.messageIndex), ("l2TxNumberInBlock", p.txNumber),
    ("message", p.message), (p.pathName, p.path)]

theorem namedAs_chosen : NamedAs jsonFields p.chosen :=
  .cons (by simp) (.cons (by simp) (.cons (by simp) (.cons (by simp) (.cons p.pathName_mem .nil))))

end Presentation

theorem wellNamed_jsonFields : WellNamed jsonFields := by decide

theorem unmistakable_jsonFields : ∀ field ∈ jsonFields, Unmistakable field.1 := by decide +kernel

/-- A word that is read has as many bytes as are expected of it. -/
theorem fits_of_fixed? {value : Json} {word : Word} (hword : value.fixed? = some word) :
    Fits (.bytes 32) value := by
  cases value with
  | string => exact .flat (by rintro _ ⟨⟩) (by rintro _ ⟨⟩)
  | array items =>
    obtain ⟨bytes, hbytes, hword⟩ := Option.bind_eq_some_iff.mp hword
    have hlength : items.length = 32 := by
      rw [(mapM_eq_some_iff.mp hbytes).length_eq]
      by_contra hwidth
      rw [FixedBytes.ofBytes?, dif_neg hwidth] at hword
      cases hword
    refine .array (fun i hi => .any _) fun i hi => ?_
    simp only [Outline.isFull, beq_eq_false_iff_ne]
    omega
  | _ => cases hword

theorem fits_of_list? {value : Json} {words : List Word} (hwords : value.list? Json.fixed? = some words) :
    Fits (.list (.bytes 32)) value := by
  cases value with
  | array items =>
    refine .array (fun i hi => ?_) fun i _ => rfl
    obtain ⟨word, hword⟩ := exists_of_mapM hwords (List.getElem_mem hi)
    exact fits_of_fixed? hword
  | _ => cases hwords

/-- The fields of a proof are read from their values. -/
theorem ofJson?_eq_some_iff {json : Json} {proof : WithdrawalProof} :
    ofJson? json = some proof ↔ ∃ batchNumber messageIndex txNumber message path,
      json.fields? jsonFields = some [batchNumber, messageIndex, txNumber, message, path] ∧
        batchNumber.uint? 64 = some proof.l1BatchNumber ∧
        messageIndex.uint? 64 = some proof.l2MessageIndex ∧
        txNumber.uint? 16 = some proof.l2TxNumberInBlock ∧ message.bytes? = some proof.message ∧
        path.list? Json.fixed? = some proof.merkleProof := by
  constructor
  · intro hread
    obtain ⟨values, hfields, hread⟩ := Option.bind_eq_some_iff.mp hread
    split at hread
    · obtain ⟨_, hbatchNumber, hread⟩ := Option.bind_eq_some_iff.mp hread
      obtain ⟨_, hmessageIndex, hread⟩ := Option.bind_eq_some_iff.mp hread
      obtain ⟨_, htxNumber, hread⟩ := Option.bind_eq_some_iff.mp hread
      obtain ⟨_, hmessage, hread⟩ := Option.bind_eq_some_iff.mp hread
      obtain ⟨_, hpath, hread⟩ := Option.bind_eq_some_iff.mp hread
      cases hread
      exact ⟨_, _, _, _, _, hfields, hbatchNumber, hmessageIndex, htxNumber, hmessage, hpath⟩
    · cases hread
  · rintro ⟨_, _, _, _, _, hfields, hbatchNumber, hmessageIndex, htxNumber, hmessage, hpath⟩
    refine Option.bind_eq_some_iff.mpr ⟨_, hfields, ?_⟩
    refine Option.bind_eq_some_iff.mpr ⟨_, hbatchNumber, ?_⟩
    refine Option.bind_eq_some_iff.mpr ⟨_, hmessageIndex, ?_⟩
    refine Option.bind_eq_some_iff.mpr ⟨_, htxNumber, ?_⟩
    refine Option.bind_eq_some_iff.mpr ⟨_, hmessage, ?_⟩
    exact Option.bind_eq_some_iff.mpr ⟨_, hpath, rfl⟩

/-- Members in any order and among others give a proof. -/
theorem parse?_of_presentation {proof : WithdrawalProof} (p : proof.Presentation)
    {members : List (String × Json)} (hperm : members.Perm (p.chosen ++ p.others)) {text : String}
    (hspells : Spells (.padded (record members)) text.toList) : parse? text = some proof := by
  have hfits : Fits (.record jsonFields) (record members) := by
    refine .of_perm wellNamed_jsonFields p.namedAs_chosen p.others_unknown ?_ hperm
    exact .cons (.any _) (.cons (.any _) (.cons (.any _) (.cons (.any _)
      (.cons (fits_of_list? p.path_eq) .nil))))
  have hfields := fields?_of_perm wellNamed_jsonFields p.namedAs_chosen p.others_unknown hperm
  have hread : readAs? (outline WithdrawalProof) text.toList = some (record members) :=
    readAs?_of_spells hspells hfits
  rw [parse?, hread]
  exact ofJson?_eq_some_iff.mpr ⟨_, _, _, _, _, hfields, p.batchNumber_eq, p.messageIndex_eq,
    p.txNumber_eq, p.message_eq, p.path_eq⟩

/-- Nothing is expected of the fields of a proof but of its path. -/
theorem member_outline_eq_any {name : String} (hname : name ∉ ["merkleProof", "proof"]) :
    (outline WithdrawalProof).member (some name) = .any := by
  refine member_record_eq_any fun field hfield other hother hsame => ?_
  simp only [jsonFields, List.mem_cons, List.not_mem_nil, or_false] at hfield
  rcases hfield with rfl | rfl | rfl | rfl | rfl
  · rfl
  · rfl
  · rfl
  · rfl
  · cases hsame
    exact absurd hother hname

/-- In the text of an object from which a proof is read, every field occurs once. -/
theorem occurrences_of_parse? {proof : WithdrawalProof} {members : List (Option String × Json)}
    {text : String} (hspells : Spells (.padded (.object members)) text.toList)
    (hread : parse? text = some proof) {field : Field} (hfield : field ∈ jsonFields) :
    occurrences field.1 members = 1 := by
  obtain ⟨json, hjson, hproof⟩ := Option.bind_eq_some_iff.mp hread
  obtain ⟨_, _, _, _, path, hfields, _, _, _, _, hwords⟩ := ofJson?_eq_some_iff.mp hproof
  obtain rfl | ⟨fuel, _, _, hmembers, _⟩ := Scan.readMembers_of_readAs? hspells hjson
  · cases hfields
  obtain ⟨read, rfl, _⟩ := (ReadsSpelled.all fuel).members hmembers
  obtain ⟨named, hnamed, hvalues⟩ := Option.bind_eq_some_iff.mp hfields
  obtain rfl := members?_eq_some_iff.mp hnamed
  have hpath : member? ["merkleProof", "proof"] named = some path := by
    have hforall := mapM_eq_some_iff.mp hvalues
    simp only [jsonFields, List.forall₂_cons] at hforall
    exact hforall.2.2.2.2.1
  have hpathField : ((["merkleProof", "proof"], .list (.bytes 32)) : Field) ∈ jsonFields := by
    simp [jsonFields]
  obtain ⟨value, hvalue⟩ := exists_of_mapM hvalues hfield
  rw [occurrences_of_readAs? (unmistakable_jsonFields field hfield) hspells hjson hpath hwords
    (fun name hname => member_record wellNamed_jsonFields hpathField hname)
    (fun name hname => member_outline_eq_any hname), occurrences_of_member? hvalue]

/-- However an object gives each field of a proof once, the proof is read: with its members in any order,
gaps between any two tokens, any other members with any values, and the path under either of its names. An
object that lacks a field, gives one twice or gives the path under both names is rejected, whatever its
values are. -/
theorem parse?_presentation :
    (∀ (proof : WithdrawalProof) (p : proof.Presentation) (members : List (String × Json)) (text : String),
      members.Perm (p.chosen ++ p.others) → Spells (.padded (record members)) text.toList →
        parse? text = some proof) ∧
    ∀ (members : List (Option String × Json)) (text : String),
      Spells (.padded (.object members)) text.toList →
        ∀ field ∈ jsonFields, occurrences field.1 members ≠ 1 →
          (parse? text : Option WithdrawalProof) = none := by
  refine ⟨fun proof p members text hperm => parse?_of_presentation p hperm, ?_⟩
  intro members text hspells field hfield hcount
  cases hread : (parse? text : Option WithdrawalProof) with
  | none => rfl
  | some proof => exact absurd (occurrences_of_parse? hspells hread hfield) hcount

/-- A proof of a message of two bytes, with an empty path. -/
def shortProof : WithdrawalProof := ⟨7, 3, 1, [0xde, 0xad], []⟩

/-- The path under its other name, and a member that holds a path of its own. -/
def shortPresentation : shortProof.Presentation where
  batchNumber := ofNat 7
  messageIndex := ofNat 3
  txNumber := ofNat 1
  message := ofBytes [0xde, 0xad]
  pathName := "proof"
  path := array []
  others := [("note", record [("proof", null)])]
  batchNumber_eq := by decide +kernel
  messageIndex_eq := by decide +kernel
  txNumber_eq := by decide +kernel
  message_eq := by decide
  pathName_mem := by decide
  path_eq := rfl
  others_unknown := by decide

/-- The members in reverse with gaps around them, and a path under both of its names. -/
theorem parse?_presentation_of_reversed :
    parse? (" \x7b\"note\":\x7b\"proof\":null\x7d,\"proof\":[],\"message\":\"0xdead\"," ++
        "\"l2TxNumberInBlock\":1,\"l2MessageIndex\":3,\"l1BatchNumber\":7\x7d\n") = some shortProof ∧
      (parse? "\x7b\"proof\":[],\"merkleProof\":[]\x7d" : Option WithdrawalProof) = none := by
  have hpath : Plain .any (array []) := .array nofun nofun
  constructor
  · have hnote : Plain .any (record [("proof", null)]) :=
      .object (List.forall_mem_singleton.mpr (.null _))
    have hplain : Plain .any (record (shortPresentation.chosen ++ shortPresentation.others).reverse) := by
      refine .object ?_
      simp only [Presentation.chosen, shortPresentation, List.cons_append, List.nil_append,
        List.reverse_cons, List.reverse_nil, List.map_cons, List.map_nil, List.forall_mem_cons]
      exact ⟨hnote, hpath, .string _ _, .number _ _, .number _ _, .number _ _, nofun⟩
    have hspace : IsGap [' '] := List.forall_mem_singleton.mpr rfl
    have hnewline : IsGap ['\n'] := List.forall_mem_singleton.mpr rfl
    exact parse?_presentation.1 shortProof shortPresentation _ _ (List.reverse_perm _)
      (Eq.subst (by decide +kernel) (Spells.padded hspace hplain.spells hnewline))
  · have hplain : Plain .any (record [("proof", array []), ("merkleProof", array [])]) :=
      .object (List.forall_mem_cons.mpr ⟨hpath, List.forall_mem_singleton.mpr hpath⟩)
    refine parse?_presentation.2 _ _ (Eq.subst (by decide +kernel) hplain.spells.bare)
      (["merkleProof", "proof"], .list (.bytes 32)) ?_ ?_
    · simp [jsonFields]
    · decide +kernel

end WithdrawalProof

end RollupBridge
