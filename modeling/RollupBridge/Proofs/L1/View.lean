import RollupBridge.Proofs.Abi.Layout
import RollupBridge.Proofs.L1.Action

namespace RollupBridge.View

/-- What an answer to a view is taken for. -/
def interpret (view : View) : Except RpcError Bytes → Except BridgeError view.returns.Value
  | .error error => .error (.rpc error)
  | .ok output =>
    match view.decodeOutput output with
    | some value => .ok value
    | none => .error (.contract ("failed to decode " ++ view.signature ++
        " output: ABI decoding failed: buffer overrun while deserializing"))

theorem run_read (view : View) (contract : Address) (args : Abi.Args view.params) :
    (view.read contract args).run =
      .ask (.call contract (view.call args)) fun answer => .done (view.interpret answer) := by
  refine congrArg (Program.ask (.call contract (view.call args))) (funext ?_)
  intro answer
  cases answer with
  | error error => rfl
  | ok output =>
    have hanswer : Except.mapError BridgeError.rpc (.ok output : Except RpcError Bytes) = .ok output :=
      rfl
    simp only [interpret, hanswer, Program.bind, ExceptT.bindCont]
    cases view.decodeOutput output <;> rfl

theorem runs_read_iff {view : View} {contract : Address} {args : Abi.Args view.params} {t : Trace}
    {result : Except BridgeError view.returns.Value} :
    (view.read contract args).Runs t result ↔
      ∃ answer, t = [⟨.main, .call contract (view.call args), answer⟩] ∧
        result = view.interpret answer := by
  rw [Action.Runs, run_read, Program.runs_ask_iff]
  constructor
  · rintro ⟨answer, rest, rfl, hdone⟩
    obtain ⟨rfl, rfl⟩ := Program.runs_done_iff.mp hdone
    exact ⟨answer, rfl, rfl⟩
  · rintro ⟨answer, rfl, rfl⟩
    exact ⟨answer, [], rfl, .done _⟩

theorem interpret_eq_ok_iff {view : View} {answer : Except RpcError Bytes}
    {value : view.returns.Value} :
    view.interpret answer = .ok value ↔
      ∃ output, answer = .ok output ∧ view.decodeOutput output = some value := by
  cases answer with
  | error error => simp [interpret]
  | ok output => cases hdecode : view.decodeOutput output <;> simp [interpret, hdecode]

/-- What is not taken for a value is the error of the request, or output that does not decode. -/
theorem interpret_eq_error {view : View} {answer : Except RpcError Bytes} {error : BridgeError}
    (hinterpret : view.interpret answer = .error error) :
    (∃ reason, answer = .error reason ∧ error = .rpc reason) ∨ ∃ text, error = .contract text := by
  cases answer with
  | error reason =>
    cases hinterpret
    exact Or.inl ⟨reason, rfl, rfl⟩
  | ok output =>
    cases hdecode : view.decodeOutput output with
    | none =>
      simp only [interpret, hdecode] at hinterpret
      cases hinterpret
      exact Or.inr ⟨_, rfl⟩
    | some value => simp [interpret, hdecode] at hinterpret

/-- Output of less than a word decodes to nothing. -/
theorem decodeOutput_eq_none {view : View} {output : Bytes} (hshort : output.length < 32) :
    view.decodeOutput output = none := by
  rw [decodeOutput, Abi.slotAt_eq_none_iff.mpr hshort]
  rfl

/-- Where any word is a value, only output of less than a word decodes to nothing. -/
theorem decodeOutput_eq_none_iff {view : View} {output : Bytes}
    (htotal : ∀ word, view.returns.ofWord word ≠ none) :
    view.decodeOutput output = none ↔ output.length < 32 := by
  refine ⟨?_, decodeOutput_eq_none⟩
  intro hnone
  refine Abi.slotAt_eq_none_iff.mp ?_
  cases hslot : Abi.slotAt output 0 with
  | none => rfl
  | some word =>
    rw [decodeOutput, hslot] at hnone
    exact absurd hnone (htotal word)

end RollupBridge.View
