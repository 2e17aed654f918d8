import RollupBridge.Abi.Decode
import RollupBridge.Proofs.Bytes.Number

namespace RollupBridge.Abi

variable {frame : Bytes} {position : Nat} {slot : Word}

theorem toNat_numberWord {value : Nat} (hfits : value < Uint.size 256) :
    (numberWord value).toNat = value := by
  have hsize : Uint.size 256 = 256 ^ 32 := by decide
  exact FixedBytes.toNat_ofNat_of_lt (hsize ▸ hfits)

theorem toNat_lt_size (slot : Word) : slot.toNat < Uint.size 256 := by
  have hsize : Uint.size 256 = 256 ^ 32 := by decide
  have hlt := Bytes.toNat_lt slot.bytes
  rwa [slot.length_bytes, ← hsize] at hlt

theorem numberWord_toNat (slot : Word) : numberWord slot.toNat = slot :=
  FixedBytes.toNat_inj.mp (toNat_numberWord (toNat_lt_size slot))

theorem eq_numberWord_iff {value : Nat} (hfits : value < Uint.size 256) :
    slot = numberWord value ↔ slot.toNat = value := by
  rw [← FixedBytes.toNat_inj, toNat_numberWord hfits]

/-- A slot is the word that stands there, whatever follows. -/
theorem slotAt_eq_some_iff :
    slotAt frame position = some slot ↔ ∃ rest, frame.drop position = slot.bytes ++ rest := by
  rw [slotAt, FixedBytes.ofBytes?_eq_some_iff]
  constructor
  · intro hslot
    exact ⟨(frame.drop position).drop 32, by rw [← hslot, List.take_append_drop]⟩
  · rintro ⟨rest, hframe⟩
    rw [hframe, List.take_left' slot.length_eq]

theorem le_length_of_slotAt (hslot : slotAt frame position = some slot) :
    position + 32 ≤ frame.length := by
  obtain ⟨rest, hframe⟩ := slotAt_eq_some_iff.mp hslot
  have hlength := congrArg List.length hframe
  simp only [List.length_drop, List.length_append, FixedBytes.length_bytes] at hlength
  omega

/-- Nothing stands where there is less than a word left. -/
theorem slotAt_eq_none_iff : slotAt frame position = none ↔ frame.length < position + 32 := by
  simp only [slotAt, FixedBytes.ofBytes?, dite_eq_right_iff, reduceCtorEq, imp_false, List.length_take,
    List.length_drop]
  omega

theorem slotAt_append (front back : Bytes) (slot : Word) :
    slotAt (front ++ (slot.bytes ++ back)) front.length = some slot :=
  slotAt_eq_some_iff.mpr ⟨back, List.drop_left⟩

theorem slotAt_zero (slot : Word) (back : Bytes) : slotAt (slot.bytes ++ back) 0 = some slot :=
  slotAt_append [] back slot

@[simp]
theorem length_heads (offset : Nat) (parts : List Part) :
    (heads offset parts).length = 32 * parts.length := by
  induction parts generalizing offset with
  | nil => rfl
  | cons part parts ih =>
    cases part with
    | inline slot =>
      simp only [heads, List.length_append, FixedBytes.length_bytes, ih, List.length_cons]
      omega
    | tail content =>
      simp only [heads, List.length_append, FixedBytes.length_bytes, ih, List.length_cons]
      omega

theorem length_layout (parts : List Part) :
    (layout parts).length = 32 * parts.length + (tails parts).length := by
  rw [layout, List.length_append, length_heads]

/-- A part stands at a position of a frame: its slot does, or the slot holds the offset of its
content, behind which anything may follow. -/
inductive Stands (frame : Bytes) (position : Nat) : Part → Prop
  | inline {slot : Word} (hslot : slotAt frame position = some slot) :
      Stands frame position (.inline slot)
  | tail {content : Bytes} (offset : Nat) (rest : Bytes)
      (hslot : slotAt frame position = some (numberWord offset)) (hoffset : offset < Uint.size 256)
      (hlength : content.length < Uint.size 256) (hcontent : frame.drop offset = content ++ rest) :
      Stands frame position (.tail content)

/-- The parts that are still to come stand behind the slots of the earlier ones. Between all slots
and their contents lie the contents of the earlier parts. -/
theorem stands_heads (parts : List Part) (front between rest : Bytes) (offset : Nat)
    (hoffset : front.length + 32 * parts.length + between.length = offset)
    (hsize : offset + (tails parts).length < Uint.size 256) {i : Nat} {part : Part}
    (hpart : parts[i]? = some part) :
    Stands (front ++ (heads offset parts ++ (between ++ (tails parts ++ rest))))
      (front.length + 32 * i) part := by
  induction parts generalizing front between offset i with
  | nil => cases hpart
  | cons first parts ih =>
    rw [List.length_cons] at hoffset
    cases first with
    | inline slot =>
      simp only [heads, tails, List.append_assoc] at hsize ⊢
      cases i with
      | zero =>
        cases hpart
        exact .inline (slotAt_append front _ slot)
      | succ i =>
        have hlength : (front ++ slot.bytes).length = front.length + 32 := by simp
        have hrest := ih (front ++ slot.bytes) between offset (by omega) hsize hpart
        rw [hlength, List.append_assoc] at hrest
        rwa [Nat.mul_succ, Nat.add_comm (32 * i), ← Nat.add_assoc]
    | tail content =>
      simp only [heads, tails, List.append_assoc, List.length_append] at hsize ⊢
      cases i with
      | zero =>
        cases hpart
        refine .tail offset (tails parts ++ rest) (slotAt_append front _ _) (by omega) (by omega) ?_
        have hfront : (front ++ ((numberWord offset).bytes ++
            (heads (offset + content.length) parts ++ between))).length = offset := by
          simp only [List.length_append, FixedBytes.length_bytes, length_heads]
          omega
        have hdrop : ((front ++ ((numberWord offset).bytes ++
            (heads (offset + content.length) parts ++ between))) ++
              (content ++ (tails parts ++ rest))).drop offset = content ++ (tails parts ++ rest) :=
          List.drop_left' hfront
        simpa only [List.append_assoc] using hdrop
      | succ i =>
        have hlength : (front ++ (numberWord offset).bytes).length = front.length + 32 := by simp
        have hbetween : (between ++ content).length = between.length + content.length :=
          List.length_append
        have hrest := ih (front ++ (numberWord offset).bytes) (between ++ content)
          (offset + content.length) (by omega) (by omega) hpart
        simp only [hlength, List.append_assoc] at hrest
        rwa [Nat.mul_succ, Nat.add_comm (32 * i), ← Nat.add_assoc]

/-- Every part of a layout stands at its slot. Whatever other contents lie around it, the offset in
the slot of a dynamic one leads to its own. -/
theorem stands_layout {parts : List Part} (hsize : (layout parts).length < Uint.size 256)
    (rest : Bytes) {i : Nat} {part : Part} (hpart : parts[i]? = some part) :
    Stands (layout parts ++ rest) (32 * i) part := by
  rw [length_layout] at hsize
  have hstands := stands_heads parts [] [] rest (32 * parts.length) (by simp) hsize hpart
  simpa [layout] using hstands

end RollupBridge.Abi
