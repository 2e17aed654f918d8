import RollupBridge.L1.Simulation
import RollupBridge.Proofs.L1.Run

namespace RollupBridge

variable {α σ : Type}

/-- A submission carried through, with its exchanges. -/
def Submission.record (answer : (r : Request) → StateM σ r.Answer) (lane : Lane) (s : Submission)
    (state : σ) : Trace × Submission.Result × σ :=
  match (answer (.send s.tx)).run state with
  | (.error error, state) => ([⟨lane, .send s.tx, .error error⟩], .error error, state)
  | (.ok hash, state) =>
    let waited := (answer (.wait hash s.confirmations)).run state
    ([⟨lane, .send s.tx, .ok hash⟩, ⟨lane, .wait hash s.confirmations, waited.1⟩], waited)

/-- A procedure executed with its exchanges recorded. The first of two submissions is carried through
before the second. -/
def Program.record (answer : (r : Request) → StateM σ r.Answer) :
    Program α → σ → Trace × α × σ
  | .done value, state => ([], value, state)
  | .ask request next, state =>
    let asked := (answer request).run state
    let rest := record answer (next asked.1) asked.2
    (⟨.main, request, asked.1⟩ :: rest.1, rest.2)
  | .submitBoth first second next, state =>
    let a := first.record answer .first state
    let b := second.record answer .second a.2.2
    let rest := record answer (next a.2.1 b.2.1) b.2.2
    ((a.1 ++ b.1) ++ rest.1, rest.2)

theorem Submission.record_eq_submit (answer : (r : Request) → StateM σ r.Answer) (lane : Lane)
    (s : Submission) (state : σ) :
    (s.record answer lane state).2 = (Program.submit answer s).run state := by
  rw [record, Program.submit, StateT.run_bind]
  rcases (answer (.send s.tx)).run state with ⟨error | hash, after⟩ <;> rfl

/-- Recording changes neither the value nor what later answers depend on. -/
theorem Program.record_eq_run (answer : (r : Request) → StateM σ r.Answer) (p : Program α)
    (state : σ) : (p.record answer state).2 = (p.run answer).run state := by
  induction p generalizing state with
  | done value => rfl
  | ask request next ih => exact ih _ _
  | submitBoth first second next ih =>
    simp only [record, ih, Submission.record_eq_submit]
    rfl

theorem Submission.runs_record (answer : (r : Request) → StateM σ r.Answer) (lane : Lane)
    (s : Submission) (state : σ) :
    s.Runs lane (s.record answer lane state).1 (s.record answer lane state).2.1 := by
  rw [record]
  rcases (answer (.send s.tx)).run state with ⟨error | hash, after⟩
  · exact .refused error
  · exact .awaited hash _

/-- What is recorded is a run. -/
theorem Program.runs_record (answer : (r : Request) → StateM σ r.Answer) (p : Program α) (state : σ) :
    p.Runs (p.record answer state).1 (p.record answer state).2.1 := by
  induction p generalizing state with
  | done value => exact .done value
  | ask request next ih => exact .ask _ (ih _ _)
  | submitBoth first second next ih =>
    have hfirst := first.runs_record answer .first state
    have hsecond := second.runs_record answer .second (first.record answer .first state).2.2
    refine .submitBoth ?_ ?_ ?_ (ih _ _ _)
    · simp [Trace.on_append, Trace.on_eq_nil hfirst.lane_eq, Trace.on_eq_nil hsecond.lane_eq]
    · simpa [Trace.on_append, Trace.on_eq_self hfirst.lane_eq, Trace.on_eq_nil hsecond.lane_eq]
        using hfirst
    · simpa [Trace.on_append, Trace.on_eq_nil hfirst.lane_eq, Trace.on_eq_self hsecond.lane_eq]
        using hsecond

/-- Answers with those of a trace, one after the other. A request that is not the next of the trace
gets an error. -/
def Trace.replay (request : Request) : StateM Trace request.Answer := fun script =>
  match script with
  | x :: rest =>
    if h : x.request = request then (h ▸ x.answer, rest) else (.error (.transport "not expected"), script)
  | [] => (.error (.transport "not expected"), [])

@[simp]
theorem Trace.replay_cons (lane : Lane) (request : Request) (answer : request.Answer) (rest : Trace) :
    (Trace.replay request).run (⟨lane, request, answer⟩ :: rest) = (answer, rest) := by
  simp [replay, StateT.run]

theorem Submission.Runs.replay {s : Submission} {lane : Lane} {t : Trace} {result : Submission.Result}
    (hrun : s.Runs lane t result) (rest : Trace) :
    (Program.submit Trace.replay s).run (t ++ rest) = (result, rest) := by
  rw [← Submission.record_eq_submit Trace.replay lane, record]
  cases hrun with
  | refused error => simp only [List.cons_append, List.nil_append, Trace.replay_cons lane (.send s.tx)]
  | awaited hash =>
    simp only [List.cons_append, List.nil_append, Trace.replay_cons lane (.send s.tx),
      Trace.replay_cons lane (.wait hash s.confirmations)]

/-- A run is executed by whoever gives its answers, lane by lane. -/
theorem Program.Runs.exists_script {p : Program α} {t : Trace} {value : α} (hrun : p.Runs t value) :
    ∃ script : Trace, ∀ rest, (p.run Trace.replay).run (script ++ rest) = (value, rest) := by
  induction hrun with
  | done value => exact ⟨[], fun _ => rfl⟩
  | @ask request next _ value answer _ ih =>
    obtain ⟨script, hscript⟩ := ih
    refine ⟨⟨.main, request, answer⟩ :: script, ?_⟩
    intro rest
    have hask : (Program.run Trace.replay (.ask request next)).run
        (⟨.main, request, answer⟩ :: (script ++ rest)) =
        (Program.run Trace.replay (next answer)).run (script ++ rest) := by
      rw [Program.run, StateT.run_bind, Trace.replay_cons]
      rfl
    exact hask.trans (hscript rest)
  | @submitBoth first second next both _ a b value _ hfirst hsecond _ ih =>
    obtain ⟨script, hscript⟩ := ih
    refine ⟨Trace.on .first both ++ (Trace.on .second both ++ script), ?_⟩
    intro rest
    have hjoin : (Program.run Trace.replay (.submitBoth first second next)).run
        (Trace.on .first both ++ (Trace.on .second both ++ (script ++ rest))) =
        (Program.run Trace.replay (next a b)).run (script ++ rest) := by
      rw [Program.run, StateT.run_bind, hfirst.replay]
      change StateT.run (Program.submit Trace.replay second >>= _) _ = _
      rw [StateT.run_bind, hsecond.replay]
      rfl
    simpa using hjoin.trans (hscript rest)

/-- A procedure has a run to a value exactly if someone's answers make its execution end in it. -/
theorem Program.exists_runs_iff_exists_run {p : Program α} {value : α} :
    (∃ t, p.Runs t value) ↔
      ∃ (σ : Type) (answer : (r : Request) → StateM σ r.Answer) (state : σ),
        ((p.run answer).run state).1 = value := by
  constructor
  · rintro ⟨t, hrun⟩
    obtain ⟨script, hscript⟩ := hrun.exists_script
    exact ⟨Trace, Trace.replay, script ++ [], congrArg Prod.fst (hscript [])⟩
  · rintro ⟨σ, answer, state, rfl⟩
    rw [← Program.record_eq_run]
    exact ⟨_, p.runs_record answer state⟩

namespace Simulation

theorem requests_answer (request : Request) (s : Simulation) :
    ((answer request).run s).2.requests = request :: s.requests := by
  change (s.record request).requests = request :: s.requests
  unfold record
  split
  · dsimp only
    split <;> rfl
  · rfl

theorem requests_submission (lane : Lane) (submission : Submission) (s : Simulation) :
    (submission.record answer lane s).2.2.requests =
      ((submission.record answer lane s).1.map (·.request)).reverse ++ s.requests := by
  rw [Submission.record]
  rcases hsend : (answer (.send submission.tx)).run s with ⟨error | hash, after⟩
  · have hrequests := requests_answer (.send submission.tx) s
    simpa [hsend] using hrequests
  · have hrequests : after.requests = .send submission.tx :: s.requests := by
      simpa [hsend] using requests_answer (.send submission.tx) s
    simp [requests_answer (.wait hash submission.confirmations) after, hrequests]

theorem requests_record {α : Type} (p : Program α) (s : Simulation) :
    (p.record answer s).2.2.requests =
      ((p.record answer s).1.map (·.request)).reverse ++ s.requests := by
  induction p generalizing s with
  | done value => rfl
  | ask request next ih => simp [Program.record, ih, requests_answer]
  | submitBoth first second next ih => simp [Program.record, ih, requests_submission]

/-- The L1 in memory carries out one of the runs and reports the requests of that run. -/
theorem runs_perform {α : Type} (p : Program α) (s : Simulation) :
    ∃ t, p.Runs t (perform p s).1 ∧ t.map (·.request) = (perform p s).2.1 := by
  refine ⟨(p.record answer { s with requests := [] }).1, ?_, ?_⟩
  · have hrun := p.runs_record answer { s with requests := [] }
    rw [Program.record_eq_run] at hrun
    exact hrun
  · have hrequests := requests_record p { s with requests := [] }
    rw [Program.record_eq_run] at hrequests
    change _ = ((p.run answer).run { s with requests := [] }).2.requests.reverse
    rw [hrequests]
    simp

end Simulation

end RollupBridge
