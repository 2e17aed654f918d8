import RollupBridge.Proofs.Abi.Standard

namespace RollupBridge.Abi

/-- The part of a value stands where the value is written in standard form. -/
theorem Stands.writtenAt {ty : Ty} {frame : Bytes} {position : Nat} {value : ty.Value}
    (hstands : Stands frame position (ty.part value)) : ty.WrittenAt frame position value := by
  induction ty generalizing frame position with
  | address =>
    cases hstands with
    | inline hslot => exact hslot
  | uint bits =>
    cases hstands with
    | inline hslot => exact hslot
  | bytes32 =>
    cases hstands with
    | inline hslot => exact hslot
  | bool =>
    cases hstands with
    | inline hslot => exact hslot
  | bytes =>
    cases hstands with
    | tail offset rest hslot hoffset hlength hcontent =>
      simp only [List.length_append] at hlength
      simp only [List.append_assoc] at hcontent
      exact ⟨rest, offset, hoffset, by omega, hslot, hcontent⟩
  | array element ih =>
    cases hstands with
    | tail offset rest hslot hoffset hlength hcontent =>
      rw [List.length_append] at hlength
      rw [List.append_assoc] at hcontent
      have hcount : value.length < Uint.size 256 := by
        rw [length_layout, List.length_map] at hlength
        omega
      have hlayout : (layout (value.map element.part)).length < Uint.size 256 := by omega
      refine ⟨_, ⟨offset, hoffset, hcount, hslot, hcontent⟩, ?_⟩
      intro i member hmember
      refine ih (stands_layout hlayout rest ?_)
      rw [List.getElem?_map, hmember]
      rfl

/-- Arguments whose parts stand one slot after the other are written there in standard form. -/
theorem writtenFrom_of_stands {types : List Ty} {frame : Bytes} {position : Nat} {args : Args types}
    (hstands : ∀ (i : Nat) part, (parts types args)[i]? = some part →
      Stands frame (position + 32 * i) part) :
    WrittenFrom types frame position args := by
  induction types generalizing position with
  | nil => trivial
  | cons ty types ih =>
    obtain ⟨value, args⟩ := args
    refine ⟨(hstands 0 (ty.part value) rfl).writtenAt, ih ?_⟩
    intro i part hpart
    have hlater := hstands (i + 1) part hpart
    rwa [Nat.mul_succ, Nat.add_comm (32 * i), ← Nat.add_assoc] at hlater

/-- An encoding is in standard form. -/
theorem writtenFrom_encode {types : List Ty} {args : Args types}
    (hsize : (encode types args).length < Uint.size 256) :
    WrittenFrom types (encode types args) 0 args := by
  refine writtenFrom_of_stands ?_
  intro i part hpart
  rw [Nat.zero_add, encode, ← List.append_nil (layout _)]
  exact stands_layout hsize [] hpart

/-- Decoding undoes encoding. -/
theorem decode_encode {types : List Ty} (htypes : types.all Ty.fitsSlot = true) {args : Args types}
    (hsize : (encode types args).length < Uint.size 256) :
    decode types (encode types args) = some args :=
  (decodeFrom_eq_some_iff htypes).mpr (writtenFrom_encode hsize)

/-- An encoding says exactly what it was made from. -/
theorem encode_inj {types : List Ty} (htypes : types.all Ty.fitsSlot = true) {args other : Args types}
    (hsize : (encode types args).length < Uint.size 256) :
    encode types args = encode types other ↔ args = other := by
  constructor
  · intro hsame
    have hargs := decode_encode htypes hsize
    rw [hsame] at hsize
    rw [hsame, decode_encode htypes hsize] at hargs
    exact (Option.some.inj hargs).symm
  · rintro rfl
    rfl

theorem Function.call_inj {f : Function} (hparams : f.params.all Ty.fitsSlot = true)
    {args other : Args f.params} (hsize : (encode f.params args).length < Uint.size 256) :
    f.call args = f.call other ↔ args = other := by
  rw [← encode_inj hparams hsize, call, call, List.append_cancel_left_eq]

/-- A call of a function is read back as its arguments. -/
theorem Function.decodeCall_call {f : Function} (hparams : f.params.all Ty.fitsSlot = true)
    {args : Args f.params} (hsize : (encode f.params args).length < Uint.size 256) :
    f.decodeCall (f.call args) = some args := by
  rw [decodeCall, call, List.take_left' f.selector.length_eq, if_pos rfl,
    List.drop_left' f.selector.length_eq]
  exact decode_encode hparams hsize

/-- A call of one function is none of another. -/
theorem Function.decodeCall_call_eq_none {f g : Function} (hother : g.selector ≠ f.selector)
    (args : Args g.params) : f.decodeCall (g.call args) = none := by
  rw [decodeCall, call, List.take_left' g.selector.length_eq, if_neg]
  intro hsame
  exact hother (FixedBytes.ext_bytes hsame)

end RollupBridge.Abi
