import RollupBridge.Proofs.Bytes.Number

namespace RollupBridge

namespace Bytes

variable {width : Nat}

/-- The bytes of a string from `start` up to `stop`, if it reaches so far. A reader that goes on
behind it has stayed within the string. -/
def range? (bytes : Bytes) (start stop : Nat) : Option Bytes :=
  if start ≤ stop ∧ stop ≤ bytes.length then some ((bytes.drop start).take (stop - start)) else none

/-- The `width` bytes of a string from `start` on, if it reaches so far. -/
def fixedRange? (bytes : Bytes) (start : Nat) : Option (FixedBytes width) :=
  (range? bytes start (start + width)).bind FixedBytes.ofBytes?

theorem range?_of_le {bytes : Bytes} {start stop : Nat} (hstart : start ≤ stop)
    (hstop : stop ≤ bytes.length) :
    range? bytes start stop = some ((bytes.drop start).take (stop - start)) :=
  if_pos ⟨hstart, hstop⟩

theorem range?_to_end {bytes : Bytes} {start : Nat} (hstart : start ≤ bytes.length) :
    range? bytes start bytes.length = some (bytes.drop start) := by
  rw [range?_of_le hstart (Nat.le_refl _), List.take_of_length_le (Nat.le_of_eq List.length_drop)]

/-- A slice that stays within the string needs no filling up. -/
theorem fixedRange?_of_le {bytes : Bytes} {start : Nat} (hstop : start + width ≤ bytes.length) :
    fixedRange? bytes start = some (FixedBytes.slice bytes start : FixedBytes width) := by
  have hlength : ((bytes.drop start).take width).length = width := by
    rw [List.length_take_of_le]
    rw [List.length_drop]
    omega
  rw [fixedRange?, range?_of_le (Nat.le_add_right start width) hstop, Option.bind_some,
    FixedBytes.ofBytes?_eq_some_iff, Nat.add_sub_cancel_left, FixedBytes.slice]
  simp only [hlength, Nat.sub_self]
  exact (List.append_nil _).symm

/-- A string that is long enough starts with a part of any width. -/
theorem exists_append_of_length_eq {bytes : Bytes} {count : Nat}
    (hlength : bytes.length = width + count) :
    ∃ (part : FixedBytes width) (back : Bytes), bytes = part.bytes ++ back ∧ back.length = count := by
  have hwidth : width ≤ bytes.length := by omega
  refine ⟨⟨bytes.take width, List.length_take_of_le hwidth⟩, bytes.drop width,
    (List.take_append_drop width bytes).symm, ?_⟩
  rw [List.length_drop]
  omega

end Bytes

/-- A part is cut out by the length of what is in front of it. -/
theorem FixedBytes.slice_append {width : Nat} {front back : Bytes} {part : FixedBytes width}
    {start : Nat} (hstart : front.length = start) :
    FixedBytes.slice (front ++ (part.bytes ++ back)) start = part := by
  refine FixedBytes.ext_bytes ?_
  subst hstart
  simp only [FixedBytes.slice, List.drop_left, List.take_left' part.length_eq, part.length_eq,
    Nat.sub_self]
  exact List.append_nil _

end RollupBridge
