import RollupBridge.Proofs.L1.View

namespace RollupBridge

/-- An answer that begins with a word. What follows the word does not count. -/
def Says (answer : Except RpcError Bytes) (word : Word) : Prop :=
  ∃ rest, answer = .ok (word.bytes ++ rest)

theorem Says.unique {answer : Except RpcError Bytes} {word other : Word} (hword : Says answer word)
    (hother : Says answer other) : word = other := by
  obtain ⟨rest, rfl⟩ := hword
  obtain ⟨rest', hanswer⟩ := hother
  exact FixedBytes.ext_bytes (List.append_inj (Except.ok.inj hanswer) (by simp)).1

namespace View

variable {view : View} {answer : Except RpcError Bytes}

/-- Why nothing is read from an answer: the request failed, or there is less than a word. -/
inductive Unread (view : View) : Except RpcError Bytes → BridgeError → Prop
  | failed (error : RpcError) : Unread view (.error error) (.rpc error)
  | short {output : Bytes} (hshort : output.length < 32) :
      Unread view (.ok output) (.contract ("failed to decode " ++ view.signature ++
        " output: ABI decoding failed: buffer overrun while deserializing"))

/-- What is read is the value of the first word. -/
theorem interpret_eq_ok_iff_says {value : view.returns.Value} :
    view.interpret answer = .ok value ↔
      ∃ word, Says answer word ∧ view.returns.ofWord word = some value := by
  rw [interpret_eq_ok_iff]
  constructor
  · rintro ⟨output, rfl, hdecode⟩
    obtain ⟨word, hslot, hvalue⟩ := Option.bind_eq_some_iff.mp hdecode
    obtain ⟨rest, rfl⟩ := Abi.slotAt_eq_some_iff.mp hslot
    exact ⟨word, ⟨rest, rfl⟩, hvalue⟩
  · rintro ⟨word, ⟨rest, rfl⟩, hvalue⟩
    exact ⟨_, rfl, Option.bind_eq_some_iff.mpr ⟨word, Abi.slotAt_zero word rest, hvalue⟩⟩

/-- A view that makes a value of every word fails only on what cannot be read. -/
theorem interpret_eq_error_iff (htotal : ∀ word, view.returns.ofWord word ≠ none)
    {error : BridgeError} :
    view.interpret answer = .error error ↔ view.Unread answer error := by
  constructor
  · intro hinterpret
    cases answer with
    | error reason =>
      cases hinterpret
      exact .failed reason
    | ok output =>
      cases hdecode : view.decodeOutput output with
      | some value => simp [interpret, hdecode] at hinterpret
      | none =>
        simp only [interpret, hdecode, Except.error.injEq] at hinterpret
        subst hinterpret
        exact .short ((decodeOutput_eq_none_iff htotal).mp hdecode)
  · rintro (⟨reason⟩ | ⟨hshort⟩)
    · rfl
    · rw [interpret, decodeOutput_eq_none hshort]

end View

end RollupBridge
