import RollupBridge.Text.Split
import RollupBridge.Text.Utf8

namespace RollupBridge.Text

variable {separator : Char} {text before after front back : List Char} {count : Nat}

theorem splitOnce_eq_none_iff : splitOnce separator text = none ↔ separator ∉ text := by
  induction text with
  | nil => simp [splitOnce]
  | cons c rest ih =>
    rw [splitOnce, List.mem_cons]
    by_cases hc : c = separator
    · simp [hc]
    · rw [if_neg hc, Option.map_eq_none_iff, ih]
      simp [Ne.symm hc]

/-- A text is split at the first separator. -/
theorem splitOnce_eq_some_iff :
    splitOnce separator text = some (before, after) ↔
      text = before ++ separator :: after ∧ separator ∉ before := by
  induction text generalizing before with
  | nil => simp [splitOnce]
  | cons c rest ih =>
    rw [splitOnce]
    by_cases hc : c = separator
    · subst hc
      rw [if_pos rfl]
      constructor
      · intro hsplit
        cases hsplit
        exact ⟨rfl, List.not_mem_nil⟩
      · rintro ⟨htext, hbefore⟩
        cases before with
        | nil =>
          cases htext
          rfl
        | cons first before =>
          cases htext
          exact absurd List.mem_cons_self hbefore
    · rw [if_neg hc, Option.map_eq_some_iff]
      constructor
      · rintro ⟨⟨front, back⟩, hsplit, hparts⟩
        cases hparts
        obtain ⟨rfl, hfront⟩ := ih.mp hsplit
        refine ⟨rfl, ?_⟩
        rw [List.mem_cons]
        rintro (hfirst | hmem)
        · exact hc hfirst.symm
        · exact hfront hmem
      · rintro ⟨htext, hbefore⟩
        cases before with
        | nil =>
          cases htext
          exact absurd rfl hc
        | cons first before =>
          cases htext
          exact ⟨(before, after), ih.mpr ⟨rfl, fun hmem => hbefore (List.mem_cons_of_mem _ hmem)⟩, rfl⟩

theorem utf8Length_append (front back : List Char) :
    utf8Length (front ++ back) = utf8Length front + utf8Length back := by
  induction front with
  | nil => simp [utf8Length]
  | cons c front ih =>
    rw [List.cons_append, utf8Length, utf8Length, ih]
    omega

theorem utf8Length_reverse (text : List Char) : utf8Length text.reverse = utf8Length text := by
  induction text with
  | nil => rfl
  | cons c rest ih =>
    rw [List.reverse_cons, utf8Length_append, ih, utf8Length, utf8Length, utf8Length]
    omega

theorem utf8Length_eq_zero_iff : utf8Length text = 0 ↔ text = [] := by
  cases text with
  | nil => simp [utf8Length]
  | cons c rest =>
    have hc := c.utf8Size_pos
    simp only [utf8Length, reduceCtorEq, iff_false]
    omega

/-- A text of characters of one byte each has as many bytes as characters. -/
theorem utf8Length_of_ascii (htext : ∀ c ∈ text, c.utf8Size = 1) : utf8Length text = text.length := by
  induction text with
  | nil => rfl
  | cons c rest ih =>
    rw [List.forall_mem_cons] at htext
    rw [utf8Length, htext.1, ih htext.2, List.length_cons, Nat.add_comm]

/-- Bytes are dropped if they are those of a front part of the text. -/
theorem dropBytes?_eq_some_iff :
    dropBytes? count text = some back ↔ ∃ front, text = front ++ back ∧ utf8Length front = count := by
  induction text generalizing count with
  | nil =>
    cases count with
    | zero =>
      simp only [dropBytes?, Option.some.injEq, utf8Length_eq_zero_iff, exists_eq_right, List.nil_append]
    | succ count =>
      simp only [dropBytes?, reduceCtorEq, false_iff, not_exists, not_and]
      intro front hfront
      obtain ⟨rfl, _⟩ := List.append_eq_nil_iff.mp hfront.symm
      simp [utf8Length]
  | cons c rest ih =>
    have hc := c.utf8Size_pos
    cases count with
    | zero =>
      simp only [dropBytes?, Option.some.injEq, utf8Length_eq_zero_iff, exists_eq_right, List.nil_append]
    | succ count =>
      rw [dropBytes?]
      constructor
      · intro hdrop
        split at hdrop
        case isTrue hle =>
          obtain ⟨front, rfl, hfront⟩ := ih.mp hdrop
          refine ⟨c :: front, rfl, ?_⟩
          rw [utf8Length, hfront]
          omega
        case isFalse => cases hdrop
      · rintro ⟨front, htext, hfront⟩
        cases front with
        | nil => cases hfront
        | cons first front =>
          cases htext
          rw [utf8Length] at hfront
          rw [if_pos (by omega)]
          exact ih.mpr ⟨front, rfl, by omega⟩

end RollupBridge.Text
