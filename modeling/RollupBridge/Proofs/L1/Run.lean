import RollupBridge.L1.Program

namespace RollupBridge

/-- Who makes a request: the procedure itself, or one of two submissions made at once. -/
inductive Lane
  | main
  | first
  | second
deriving DecidableEq

/-- A request and what it was answered. -/
structure Exchange where
  lane : Lane
  request : Request
  answer : request.Answer

/-- The exchanges of a run, in the order of the requests. -/
abbrev Trace : Type := List Exchange

/-- The exchanges of one lane. -/
def Trace.on (lane : Lane) (t : Trace) : Trace := t.filter (·.lane = lane)

theorem Trace.on_eq_self {lane : Lane} {t : Trace} (hlane : ∀ x ∈ t, x.lane = lane) :
    Trace.on lane t = t := by
  rw [on, List.filter_eq_self]
  intro x hx
  exact decide_eq_true (hlane x hx)

theorem Trace.on_eq_nil {lane other : Lane} {t : Trace} (hlane : ∀ x ∈ t, x.lane = lane)
    (hother : lane ≠ other) : Trace.on other t = [] := by
  rw [on, List.filter_eq_nil_iff]
  intro x hx
  simp [hlane x hx, hother]

theorem Trace.mem_of_mem_on {lane : Lane} {t : Trace} {x : Exchange} (hx : x ∈ Trace.on lane t) :
    x ∈ t :=
  (List.mem_filter.mp hx).1

theorem Trace.on_append {lane : Lane} {t t' : Trace} :
    Trace.on lane (t ++ t') = Trace.on lane t ++ Trace.on lane t' :=
  List.filter_append _ _

theorem Trace.filter_eq_nil {kind : Request → Bool} {t : Trace}
    (hother : ∀ x ∈ t, kind x.request = false) : t.filter (fun x => kind x.request) = [] := by
  rw [List.filter_eq_nil_iff]
  intro x hx
  simp [hother x hx]

/-- The runs of a submission on a lane: the send is refused, or it is accepted and the hash that it
was answered is waited for. -/
inductive Submission.Runs (s : Submission) (lane : Lane) : Trace → Submission.Result → Prop
  | refused (error : RpcError) : Runs s lane [⟨lane, .send s.tx, .error error⟩] (.error error)
  | awaited (hash : Word) (result : Submission.Result) :
      Runs s lane [⟨lane, .send s.tx, .ok hash⟩, ⟨lane, .wait hash s.confirmations, result⟩] result

/-- A submission stays on its lane. -/
theorem Submission.Runs.lane_eq {s : Submission} {lane : Lane} {t : Trace}
    {result : Submission.Result} (hrun : s.Runs lane t result) : ∀ x ∈ t, x.lane = lane := by
  cases hrun <;> simp

namespace Program

variable {α β : Type}

/-- The runs of a procedure with their values. Answers are arbitrary. Of two submissions made at once
each follows its own order, and nothing is said about the order between them. -/
inductive Runs {α : Type} : Program α → Trace → α → Prop
  | done (value : α) : Runs (.done value) [] value
  | ask {request : Request} {next : request.Answer → Program α} {rest : Trace} {value : α}
      (answer : request.Answer) (hrest : Runs (next answer) rest value) :
      Runs (.ask request next) (⟨.main, request, answer⟩ :: rest) value
  | submitBoth {first second : Submission} {next : Submission.Result → Submission.Result → Program α}
      {both rest : Trace} {a b : Submission.Result} {value : α}
      (hmain : Trace.on .main both = []) (hfirst : first.Runs .first (Trace.on .first both) a)
      (hsecond : second.Runs .second (Trace.on .second both) b)
      (hrest : Runs (next a b) rest value) :
      Runs (.submitBoth first second next) (both ++ rest) value

@[simp]
theorem runs_done_iff {value result : α} {t : Trace} :
    (Program.done value).Runs t result ↔ t = [] ∧ result = value := by
  constructor
  · intro hrun
    cases hrun
    exact ⟨rfl, rfl⟩
  · rintro ⟨rfl, rfl⟩
    exact .done _

theorem runs_ask_iff {request : Request} {next : request.Answer → Program α} {t : Trace} {value : α} :
    (Program.ask request next).Runs t value ↔
      ∃ answer rest, t = ⟨.main, request, answer⟩ :: rest ∧ (next answer).Runs rest value := by
  constructor
  · intro hrun
    cases hrun with
    | ask answer hrest => exact ⟨answer, _, rfl, hrest⟩
  · rintro ⟨answer, rest, rfl, hrest⟩
    exact .ask answer hrest

theorem runs_submitBoth_iff {first second : Submission}
    {next : Submission.Result → Submission.Result → Program α} {t : Trace} {value : α} :
    (Program.submitBoth first second next).Runs t value ↔
      ∃ both rest a b, t = both ++ rest ∧ Trace.on .main both = [] ∧
        first.Runs .first (Trace.on .first both) a ∧
        second.Runs .second (Trace.on .second both) b ∧ (next a b).Runs rest value := by
  constructor
  · intro hrun
    cases hrun with
    | submitBoth hmain hfirst hsecond hrest => exact ⟨_, _, _, _, rfl, hmain, hfirst, hsecond, hrest⟩
  · rintro ⟨both, rest, a, b, rfl, hmain, hfirst, hsecond, hrest⟩
    exact .submitBoth hmain hfirst hsecond hrest

/-- A run of one procedure after another is a run of the first and then one of the second. -/
theorem runs_bind_iff {p : Program α} {k : α → Program β} {t : Trace} {value : β} :
    (p.bind k).Runs t value ↔
      ∃ before after a, t = before ++ after ∧ p.Runs before a ∧ (k a).Runs after value := by
  induction p generalizing t with
  | done a =>
    simp only [bind, runs_done_iff]
    constructor
    · intro hrun
      exact ⟨[], t, a, rfl, ⟨rfl, rfl⟩, hrun⟩
    · rintro ⟨_, after, _, rfl, ⟨rfl, rfl⟩, hrun⟩
      exact hrun
  | ask request next ih =>
    simp only [bind, runs_ask_iff, ih]
    constructor
    · rintro ⟨answer, _, rfl, before, after, a, rfl, hfirst, hthen⟩
      exact ⟨_ :: before, after, a, rfl, ⟨answer, before, rfl, hfirst⟩, hthen⟩
    · rintro ⟨_, after, a, rfl, ⟨answer, before, rfl, hfirst⟩, hthen⟩
      exact ⟨answer, before ++ after, rfl, before, after, a, rfl, hfirst, hthen⟩
  | submitBoth first second next ih =>
    simp only [bind, runs_submitBoth_iff, ih]
    constructor
    · rintro ⟨both, _, x, y, rfl, hmain, hx, hy, before, after, a, rfl, hfirst, hthen⟩
      exact ⟨both ++ before, after, a, by simp, ⟨both, before, x, y, rfl, hmain, hx, hy, hfirst⟩, hthen⟩
    · rintro ⟨_, after, a, rfl, ⟨both, before, x, y, rfl, hmain, hx, hy, hfirst⟩, hthen⟩
      exact ⟨both, before ++ after, x, y, by simp, hmain, hx, hy, before, after, a, rfl, hfirst, hthen⟩

end Program

end RollupBridge
