import RollupBridge.Proofs.L1.Asks

namespace RollupBridge

variable {α : Type} {allowed : Request → Prop}

/-- Two runs answer alike for as long as they ask the same. -/
def Trace.Agree : Trace → Trace → Prop
  | x :: t, y :: t' => x.request = y.request → x = y ∧ Agree t t'
  | _, _ => True

@[simp]
theorem Trace.agree_cons_iff {x y : Exchange} {t t' : Trace} :
    Trace.Agree (x :: t) (y :: t') ↔ (x.request = y.request → x = y ∧ Trace.Agree t t') :=
  Iff.rfl

theorem Trace.agree_refl : (t : Trace) → Trace.Agree t t
  | [] => trivial
  | _ :: t => fun _ => ⟨rfl, agree_refl t⟩

/-- A procedure that is answered alike twice does the same twice, whatever follows it. -/
theorem Program.Asks.runs_unique {p : Program (Except BridgeError α)} (hasks : p.Asks allowed)
    {t t' rest rest' : Trace} {result result' : Except BridgeError α} (hrun : p.Runs t result)
    (hrun' : p.Runs t' result') (hagree : Trace.Agree (t ++ rest) (t' ++ rest')) :
    t = t' ∧ result = result' := by
  induction hasks generalizing t t' with
  | done =>
    obtain ⟨rfl, rfl⟩ := runs_done_iff.mp hrun
    obtain ⟨rfl, rfl⟩ := runs_done_iff.mp hrun'
    exact ⟨rfl, rfl⟩
  | ask _ _ _ _ ih =>
    obtain ⟨answer, t, rfl, hrest⟩ := runs_ask_iff.mp hrun
    obtain ⟨answer', t', rfl, hrest'⟩ := runs_ask_iff.mp hrun'
    obtain ⟨hsame, hthen⟩ := Trace.agree_cons_iff.mp hagree rfl
    cases hsame
    obtain ⟨rfl, rfl⟩ := ih answer hrest hrest' hthen
    exact ⟨rfl, rfl⟩

theorem Action.Asks.runs_unique {action : Action α} (hasks : action.Asks allowed)
    {t t' rest rest' : Trace} {result result' : Except BridgeError α} (hrun : action.Runs t result)
    (hrun' : action.Runs t' result') (hagree : Trace.Agree (t ++ rest) (t' ++ rest')) :
    t = t' ∧ result = result' :=
  Program.Asks.runs_unique hasks hrun hrun' hagree

/-- A submission that is answered alike twice ends alike. -/
theorem Submission.Runs.result_unique {s : Submission} {lane : Lane} {t t' : Trace}
    {result result' : Submission.Result} (hrun : s.Runs lane t result)
    (hrun' : s.Runs lane t' result') (hagree : Trace.Agree t t') : result = result' := by
  cases hrun with
  | refused error =>
    cases hrun' with
    | refused error' =>
      have hsame := (hagree rfl).1
      simpa using hsame
    | awaited hash result' =>
      have hsame := (hagree rfl).1
      simp at hsame
  | awaited hash result =>
    cases hrun' with
    | refused error' =>
      have hsame := (hagree rfl).1
      simp at hsame
    | awaited hash' result' =>
      obtain ⟨hsame, hagree⟩ := hagree rfl
      have hhash : hash = hash' := by simpa using hsame
      subst hhash
      have hsame := (hagree rfl).1
      simpa using hsame

end RollupBridge
