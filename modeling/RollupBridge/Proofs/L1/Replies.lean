import RollupBridge.Proofs.L1.View

namespace RollupBridge

/-- An answer to every request. -/
abbrev Replies : Type := (request : Request) → request.Answer

/-- Every exchange was answered by the function. -/
def Trace.AnsweredBy (t : Trace) (replies : Replies) : Prop := ∀ x ∈ t, x.answer = replies x.request

namespace Trace.AnsweredBy

variable {t t' : Trace} {replies : Replies}

@[simp]
theorem nil : Trace.AnsweredBy [] replies := by simp [AnsweredBy]

@[simp]
theorem cons_iff {x : Exchange} :
    Trace.AnsweredBy (x :: t) replies ↔ x.answer = replies x.request ∧ t.AnsweredBy replies :=
  List.forall_mem_cons

@[simp]
theorem append_iff :
    Trace.AnsweredBy (t ++ t') replies ↔ t.AnsweredBy replies ∧ t'.AnsweredBy replies :=
  List.forall_mem_append

/-- Answers to different requests are those of some function. -/
theorem exists_of_nodup (hnodup : (t.map (·.request)).Nodup) : ∃ replies, t.AnsweredBy replies := by
  induction t with
  | nil => exact ⟨fun _ => .error (.transport ""), nil⟩
  | cons x t ih =>
    rw [List.map_cons, List.nodup_cons] at hnodup
    obtain ⟨replies, hreplies⟩ := ih hnodup.2
    refine ⟨fun request => if h : x.request = request then h ▸ x.answer else replies request, ?_⟩
    refine cons_iff.mpr ⟨by simp, ?_⟩
    intro y hy
    have hother : x.request ≠ y.request := by
      intro hsame
      exact hnodup.1 (hsame ▸ List.mem_map_of_mem hy)
    simp only [dif_neg hother]
    exact hreplies y hy

end Trace.AnsweredBy

variable {α β ε : Type} {replies : Replies}

namespace Program

/-- What a procedure ends in when a function answers its requests. -/
def under (replies : Replies) (p : Program α) : α := Id.run (p.run (m := Id) replies)

theorem under_bind (p : Program α) (k : α → Program β) :
    (p.bind k).under replies = (k (p.under replies)).under replies := by
  induction p with
  | done value => rfl
  | ask request next ih => exact ih (replies request)
  | submitBoth first second next ih => exact ih _ _

end Program

/-- A submission that a function answers ends in what `submit` makes of the function. -/
theorem Submission.Runs.eq_submit {s : Submission} {lane : Lane} {t : Trace}
    {result : Submission.Result} (hrun : s.Runs lane t result) (hreplies : t.AnsweredBy replies) :
    result = Id.run (Program.submit (m := Id) replies s) := by
  cases hrun with
  | refused error =>
    have hsend : Except.error error = replies (.send s.tx) := by simpa using hreplies
    rw [Program.submit, ← hsend]
    rfl
  | awaited hash result =>
    obtain ⟨hsend, hwait⟩ : Except.ok hash = replies (.send s.tx) ∧
        result = replies (.wait hash s.confirmations) := by simpa using hreplies
    rw [Program.submit, ← hsend]
    exact hwait

theorem Submission.exists_runs (s : Submission) (lane : Lane) (replies : Replies) :
    ∃ t result, s.Runs lane t result ∧ t.AnsweredBy replies := by
  cases hsend : replies (.send s.tx) with
  | error error => exact ⟨_, _, .refused error, by simp [hsend]⟩
  | ok hash => exact ⟨_, _, .awaited hash (replies (.wait hash s.confirmations)), by simp [hsend]⟩

/-- Every run that a function answers ends alike. -/
theorem Program.Runs.eq_under {p : Program α} {t : Trace} {value : α} (hrun : p.Runs t value)
    (hreplies : t.AnsweredBy replies) : value = p.under replies := by
  induction hrun with
  | done value => rfl
  | @ask request next rest value answer _ ih =>
    obtain ⟨hanswer, hrest⟩ : answer = replies request ∧ rest.AnsweredBy replies :=
      Trace.AnsweredBy.cons_iff.mp hreplies
    subst hanswer
    exact ih hrest
  | @submitBoth first second next both rest a b value _ hfirst hsecond _ ih =>
    obtain ⟨hboth, hrest⟩ := Trace.AnsweredBy.append_iff.mp hreplies
    have ha := hfirst.eq_submit fun x hx => hboth x (Trace.mem_of_mem_on hx)
    have hb := hsecond.eq_submit fun x hx => hboth x (Trace.mem_of_mem_on hx)
    subst ha hb
    exact ih hrest

theorem Program.exists_runs (p : Program α) (replies : Replies) :
    ∃ t value, p.Runs t value ∧ t.AnsweredBy replies := by
  induction p with
  | done value => exact ⟨[], value, .done value, .nil⟩
  | ask request next ih =>
    obtain ⟨t, value, hrun, hreplies⟩ := ih (replies request)
    exact ⟨_, value, .ask _ hrun, Trace.AnsweredBy.cons_iff.mpr ⟨rfl, hreplies⟩⟩
  | submitBoth first second next ih =>
    obtain ⟨t, a, hfirst, ha⟩ := first.exists_runs .first replies
    obtain ⟨t', b, hsecond, hb⟩ := second.exists_runs .second replies
    obtain ⟨rest, value, hrun, hreplies⟩ := ih a b
    refine ⟨(t ++ t') ++ rest, value, .submitBoth ?_ ?_ ?_ hrun, by simp [ha, hb, hreplies]⟩
    · simp [Trace.on_append, Trace.on_eq_nil hfirst.lane_eq, Trace.on_eq_nil hsecond.lane_eq]
    · simpa [Trace.on_append, Trace.on_eq_self hfirst.lane_eq, Trace.on_eq_nil hsecond.lane_eq]
        using hfirst
    · simpa [Trace.on_append, Trace.on_eq_nil hfirst.lane_eq, Trace.on_eq_self hsecond.lane_eq]
        using hsecond

/-- What a procedure ends in under a function is what its runs with these answers end in. -/
theorem Program.exists_runs_iff_eq_under {p : Program α} {value : α} :
    (∃ t, p.Runs t value ∧ t.AnsweredBy replies) ↔ value = p.under replies := by
  constructor
  · rintro ⟨t, hrun, hreplies⟩
    exact hrun.eq_under hreplies
  · rintro rfl
    obtain ⟨t, value, hrun, hreplies⟩ := p.exists_runs replies
    rw [← hrun.eq_under hreplies]
    exact ⟨t, hrun, hreplies⟩

namespace Action

/-- What a procedure that can fail ends in when a function answers its requests. -/
def under (replies : Replies) (action : Action α) : Except BridgeError α := action.run.under replies

@[simp]
theorem under_ofResult (wrap : ε → BridgeError) (checked : Except ε α) :
    (ofResult wrap checked).under replies = checked.mapError wrap := rfl

@[simp]
theorem under_bind (action : Action α) (next : α → Action β) :
    (action >>= next).under replies =
      action.under replies >>= fun value => (next value).under replies := by
  refine (Program.under_bind action.run _).trans ?_
  change (ExceptT.bindCont next (action.under replies)).under replies = _
  cases action.under replies with
  | error error => rfl
  | ok value => rfl

@[simp]
theorem under_read (view : View) (contract : Address) (args : Abi.Args view.params) :
    (view.read contract args).under replies =
      view.interpret (replies (.call contract (view.call args))) := by
  rw [under, View.run_read]
  rfl

end Action

end RollupBridge
