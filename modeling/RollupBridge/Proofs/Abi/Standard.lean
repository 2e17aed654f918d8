import RollupBridge.Proofs.Abi.Layout

namespace RollupBridge.Abi

variable {frame body : Bytes} {position count : Nat}

/-- True of types whose numbers are no wider than a slot. -/
def Ty.fitsSlot : Ty → Bool
  | .uint bits => bits ≤ 256
  | .array element => element.fitsSlot
  | _ => true

/-- The slot at a position holds the offset of a tail: a count, then a body. -/
def LeadsTo (frame : Bytes) (position count : Nat) (body : Bytes) : Prop :=
  ∃ offset, offset < Uint.size 256 ∧ count < Uint.size 256 ∧
    slotAt frame position = some (numberWord offset) ∧
    frame.drop offset = (numberWord count).bytes ++ body

/-- A value stands in standard form at a slot of a frame. A static one is the word in its slot. A
dynamic one stands where the offset in its slot points: its length, then its bytes and zero bytes up
to a whole word, or the slots of its elements, whose offsets count from the first of them. -/
def Ty.WrittenAt : (ty : Ty) → (frame : Bytes) → (position : Nat) → ty.Value → Prop
  | .address, frame, position, account => slotAt frame position = some (Word.ofAddress account)
  | .uint _, frame, position, value => slotAt frame position = some (Uint.toWord value)
  | .bytes32, frame, position, word => slotAt frame position = some word
  | .bool, frame, position, flag => slotAt frame position = some (numberWord flag.toNat)
  | .bytes, frame, position, content =>
    ∃ rest, LeadsTo frame position content.length (content ++ (fill content.length ++ rest))
  | .array element, frame, position, values =>
    ∃ body, LeadsTo frame position values.length body ∧
      ∀ (i : Nat) value, values[i]? = some value → element.WrittenAt body (32 * i) value

/-- Values stand in consecutive slots from a position on. -/
def WrittenFrom : (types : List Ty) → (frame : Bytes) → (position : Nat) → Args types → Prop
  | [], _, _, _ => True
  | ty :: rest, frame, position, (value, values) =>
    ty.WrittenAt frame position value ∧ WrittenFrom rest frame (position + 32) values

/-- An offset is followed by reading its slot, and the slot it points at. -/
theorem leadsTo_iff :
    LeadsTo frame position count body ↔
      ∃ slot counter, slotAt frame position = some slot ∧
        slotAt (frame.drop slot.toNat) 0 = some counter ∧ counter.toNat = count ∧
        (frame.drop slot.toNat).drop 32 = body := by
  constructor
  · rintro ⟨offset, hoffset, hcount, hslot, hframe⟩
    refine ⟨_, numberWord count, hslot, ?_, toNat_numberWord hcount, ?_⟩
    · rw [toNat_numberWord hoffset, hframe]
      exact slotAt_zero _ _
    · rw [toNat_numberWord hoffset, hframe, List.drop_left' (numberWord count).length_eq]
  · rintro ⟨slot, counter, hslot, hcounter, rfl, rfl⟩
    refine ⟨slot.toNat, toNat_lt_size slot, toNat_lt_size counter, ?_, ?_⟩
    · rw [numberWord_toNat, hslot]
    · obtain ⟨rest, hframe⟩ := slotAt_eq_some_iff.mp hcounter
      rw [List.drop_zero] at hframe
      rw [numberWord_toNat, hframe, List.drop_left' counter.length_eq]

/-- Reading positions one after the other gives the values that stand there. -/
theorem mapM_range' {α : Type} {f : Nat → Option α} {values : List α} {start : Nat}
    (hread : ∀ (i : Nat) value, values[i]? = some value → f (start + i) = some value) :
    (List.range' start values.length).mapM f = some values := by
  induction values generalizing start with
  | nil => rfl
  | cons value values ih =>
    have hfirst : f start = some value := hread 0 value rfl
    have hrest : (List.range' (start + 1) values.length).mapM f = some values := by
      refine ih ?_
      intro i later hlater
      rw [Nat.add_right_comm]
      exact hread (i + 1) later hlater
    rw [List.length_cons, List.range'_succ, List.mapM_cons, hfirst, hrest]
    rfl

/-- Positions that are read one after the other are those of the values. -/
theorem mapM_range'_eq_some_iff {α : Type} {f : Nat → Option α} {start : Nat} {values : List α} :
    (List.range' start count).mapM f = some values ↔
      values.length = count ∧ ∀ (i : Nat) value, values[i]? = some value → f (start + i) = some value := by
  constructor
  · intro hread
    induction count generalizing start values with
    | zero =>
      cases hread
      exact ⟨rfl, fun i value hvalue => nomatch hvalue⟩
    | succ count ih =>
      rw [List.range'_succ, List.mapM_cons] at hread
      obtain ⟨first, hfirst, hread⟩ := Option.bind_eq_some_iff.mp hread
      obtain ⟨rest, hrest, hvalues⟩ := Option.bind_eq_some_iff.mp hread
      cases hvalues
      obtain ⟨hlength, hlater⟩ := ih hrest
      refine ⟨congrArg Nat.succ hlength, ?_⟩
      intro i value hvalue
      cases i with
      | zero =>
        cases hvalue
        exact hfirst
      | succ i =>
        rw [Nat.add_comm i 1, ← Nat.add_assoc]
        exact hlater i value hvalue
  · rintro ⟨rfl, hread⟩
    exact mapM_range' hread

theorem decodeAt_bytes_eq_some_iff {content : Bytes} :
    Ty.bytes.decodeAt frame position = some content ↔ Ty.bytes.WrittenAt frame position content := by
  constructor
  · intro hdecode
    simp only [Ty.decodeAt, Option.bind_eq_bind, Option.bind_eq_some_iff] at hdecode
    obtain ⟨slot, hslot, counter, hcounter, hcontent⟩ := hdecode
    split at hcontent
    case isFalse => cases hcontent
    case isTrue hform =>
      obtain ⟨hlength, hfill⟩ := hform
      cases hcontent
      generalize hbody : (frame.drop slot.toNat).drop 32 = body at hlength hfill ⊢
      have hrest := List.take_append_drop (fill counter.toNat).length (body.drop counter.toNat)
      rw [hfill] at hrest
      refine ⟨(body.drop counter.toNat).drop (fill counter.toNat).length,
        leadsTo_iff.mpr ⟨slot, counter, hslot, hcounter, hlength.symm, hbody.trans ?_⟩⟩
      rw [hlength, hrest, List.take_append_drop]
  · rintro ⟨rest, hleads⟩
    obtain ⟨slot, counter, hslot, hcounter, hcount, hbody⟩ := leadsTo_iff.mp hleads
    simp only [Ty.decodeAt, hslot, hcounter, Option.bind_eq_bind, Option.bind_some, hcount, hbody,
      List.take_left, List.drop_left]
    simp

/-- A value takes at least its slot. -/
theorem Ty.WrittenAt.le_length {ty : Ty} {value : ty.Value} (hwritten : ty.WrittenAt frame position value) :
    position + 32 ≤ frame.length := by
  cases ty with
  | bytes =>
    obtain ⟨_, _, _, _, hslot, _⟩ := hwritten
    exact le_length_of_slotAt hslot
  | array element =>
    obtain ⟨_, ⟨_, _, _, hslot, _⟩, _⟩ := hwritten
    exact le_length_of_slotAt hslot
  | address => exact le_length_of_slotAt hwritten
  | uint bits => exact le_length_of_slotAt hwritten
  | bytes32 => exact le_length_of_slotAt hwritten
  | bool => exact le_length_of_slotAt hwritten

/-- Elements take at least a slot each. -/
theorem le_length_of_writtenAt {element : Ty} {values : List element.Value}
    (hwritten : ∀ (i : Nat) value, values[i]? = some value → element.WrittenAt body (32 * i) value) :
    32 * values.length ≤ body.length := by
  cases hlength : values.length with
  | zero => exact Nat.zero_le _
  | succ last =>
    have hlast : last < values.length := by omega
    have hslot := (hwritten last _ (List.getElem?_eq_getElem hlast)).le_length
    omega

/-- What is read at a slot is what stands there in standard form. -/
theorem decodeAt_eq_some_iff {ty : Ty} (hty : ty.fitsSlot = true) {value : ty.Value} :
    ty.decodeAt frame position = some value ↔ ty.WrittenAt frame position value := by
  induction ty generalizing frame position with
  | address =>
    simp only [Ty.decodeAt, Ty.WrittenAt, Option.bind_eq_bind, Option.bind_eq_some_iff]
    constructor
    · rintro ⟨word, hslot, hvalue⟩
      split at hvalue
      case isTrue hword =>
        cases hvalue
        rw [hslot, hword]
      case isFalse => cases hvalue
    · intro hslot
      exact ⟨_, hslot, by rw [Word.lowAddress_ofAddress, if_pos rfl]⟩
  | uint bits =>
    have hbits : bits ≤ 256 := by simpa [Ty.fitsSlot] using hty
    have hword (slot : Word) : value.toNat = slot.toNat ↔ slot = Uint.toWord value := by
      rw [← FixedBytes.toNat_inj, Uint.toNat_toWord value hbits, eq_comm]
    simp only [Ty.decodeAt, Ty.WrittenAt, Option.bind_eq_bind, Option.bind_eq_some_iff,
      Uint.ofNat?_eq_some_iff, hword, exists_eq_right]
  | bytes32 => rfl
  | bool =>
    have hflag (slot : Word) : slot = numberWord value.toNat ↔ slot.toNat = value.toNat :=
      eq_numberWord_iff (Nat.lt_of_lt_of_le (Bool.toNat_lt value) (by decide))
    simp only [Ty.decodeAt, Ty.WrittenAt, Option.bind_eq_bind, Option.bind_eq_some_iff]
    constructor
    · rintro ⟨slot, hslot, hvalue⟩
      rw [hslot, (hflag slot).mpr]
      split at hvalue
      case h_1 hzero =>
        cases hvalue
        exact hzero
      case h_2 hone =>
        cases hvalue
        exact hone
      case h_3 => cases hvalue
    · intro hslot
      refine ⟨_, hslot, ?_⟩
      rw [(hflag _).mp rfl]
      cases value <;> rfl
  | bytes => exact decodeAt_bytes_eq_some_iff
  | array element ih =>
    have helement : element.fitsSlot = true := hty
    simp only [Ty.decodeAt, Ty.WrittenAt, Option.bind_eq_bind, Option.bind_eq_some_iff]
    constructor
    · rintro ⟨slot, hslot, counter, hcounter, hvalues⟩
      split at hvalues
      case isTrue => cases hvalues
      case isFalse =>
        rw [List.range_eq_range', mapM_range'_eq_some_iff] at hvalues
        obtain ⟨hlength, hvalues⟩ := hvalues
        refine ⟨_, leadsTo_iff.mpr ⟨slot, counter, hslot, hcounter, hlength.symm, rfl⟩, ?_⟩
        intro i member hmember
        rw [← ih helement, ← Nat.zero_add i]
        exact hvalues i member hmember
    · rintro ⟨body, hleads, hwritten⟩
      obtain ⟨slot, counter, hslot, hcounter, hlength, rfl⟩ := leadsTo_iff.mp hleads
      refine ⟨slot, hslot, counter, hcounter, ?_⟩
      have hroom : ¬(frame.drop slot.toNat).length < 32 * (counter.toNat + 1) := by
        have hcount := le_length_of_slotAt hcounter
        have hslots := le_length_of_writtenAt hwritten
        rw [List.length_drop] at hslots
        omega
      rw [if_neg hroom, List.range_eq_range', mapM_range'_eq_some_iff]
      refine ⟨hlength.symm, ?_⟩
      intro i member hmember
      rw [Nat.zero_add, ih helement]
      exact hwritten i member hmember

/-- Arguments are read where they stand in standard form, and only there. -/
theorem decodeFrom_eq_some_iff {types : List Ty} (htypes : types.all Ty.fitsSlot = true)
    {args : Args types} :
    decodeFrom types frame position = some args ↔ WrittenFrom types frame position args := by
  induction types generalizing position with
  | nil => exact iff_of_true rfl trivial
  | cons ty types ih =>
    obtain ⟨value, args⟩ := args
    rw [List.all_cons, Bool.and_eq_true] at htypes
    rw [WrittenFrom, ← decodeAt_eq_some_iff htypes.1, ← ih htypes.2]
    simp only [decodeFrom, Option.bind_eq_bind, Option.bind_eq_some_iff]
    constructor
    · rintro ⟨_, hvalue, _, hargs, hsame⟩
      cases hsame
      exact ⟨hvalue, hargs⟩
    · rintro ⟨hvalue, hargs⟩
      exact ⟨value, hvalue, args, hargs, rfl⟩

/-- A call of a function is read exactly if it starts with the selector and its arguments stand behind it
in standard form. -/
theorem Function.decodeCall_eq_some_iff {f : Function} (hparams : f.params.all Ty.fitsSlot = true)
    {calldata : Bytes} {args : Args f.params} :
    f.decodeCall calldata = some args ↔
      ∃ frame, calldata = f.selector.bytes ++ frame ∧ WrittenFrom f.params frame 0 args := by
  rw [decodeCall]
  constructor
  · intro hdecode
    split at hdecode
    case isTrue hselector =>
      refine ⟨calldata.drop 4, ?_, (decodeFrom_eq_some_iff hparams).mp hdecode⟩
      rw [← hselector, List.take_append_drop]
    case isFalse => cases hdecode
  · rintro ⟨frame, rfl, hwritten⟩
    rw [List.take_left' f.selector.length_eq, if_pos rfl, List.drop_left' f.selector.length_eq]
    exact (decodeFrom_eq_some_iff hparams).mpr hwritten

end RollupBridge.Abi
