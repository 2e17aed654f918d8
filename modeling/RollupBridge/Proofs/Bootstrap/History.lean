import RollupBridge.Proofs.Bootstrap.Milestones

namespace RollupBridge

/-- A call, with its exchanges and what it returned. Callers may be many, but a call holds the state
from its first step to its last, so calls take turns. Any of them may fail and be repeated. -/
inductive Turn
  | deploy (codes : BridgeBytecodes) (t : Trace) (result : Except BridgeError BootstrapOutcome)
  | markGoverned (t : Trace) (result : Except BridgeError Unit)

namespace Turn

/-- The runs of a call from one state to another. -/
def Runs (b : Bootstrap) (s : InitState) : Turn → InitState → Prop
  | .deploy codes t result, s' => (b.deploy codes).Runs s t result s'
  | .markGoverned t result, s' => Bootstrap.markGoverned.Runs s t result s'

/-- A bootstrap whose publication was awaited with success. -/
def Publishes : Turn → Prop
  | .deploy _ t _ => Trace.Succeeds .first t
  | .markGoverned _ _ => False

/-- A bootstrap that published and whose deployment was confirmed. -/
def Initializes (b : Bootstrap) : Turn → Prop
  | .deploy codes t _ => Trace.Succeeds .first t ∧ b.Confirms codes t
  | .markGoverned _ _ => False

/-- A mark of governance that succeeded. -/
def Governs : Turn → Prop
  | .deploy _ _ _ => False
  | .markGoverned _ result => result = .ok ()

/-- True of a bootstrap that returned an outcome. -/
def completes : Turn → Bool
  | .deploy _ _ result => result.isOk
  | .markGoverned _ _ => false

variable {b : Bootstrap} {s s' : InitState} {turn : Turn}

theorem runs_markGoverned_iff {t : Trace} {result : Except BridgeError Unit} :
    (Turn.markGoverned t result).Runs b s s' ↔ t = [] ∧
      ((s = .initialized ∧ result = .ok () ∧ s' = .governanceConfigured) ∨
        (s ≠ .initialized ∧ result = .error (.initState ⟨s, .governanceConfigured⟩) ∧ s' = s)) := by
  have hnext : s.next? = some .governanceConfigured ↔ s = .initialized := by
    cases s <;> decide
  rw [Runs, Bootstrap.markGoverned, StateAction.runs_advance_iff, ne_eq, hnext]

/-- A bootstrap of a bridge that is not unpublished changes nothing and asks nothing. -/
theorem Runs.refused {codes : BridgeBytecodes} {t : Trace}
    {result : Except BridgeError BootstrapOutcome}
    (hrun : (Turn.deploy codes t result).Runs b s s') (hstate : s ≠ .unpublished) :
    t = [] ∧ result = .error (.initState ⟨s, .bytecodesPublished⟩) ∧ s' = s := by
  cases Bootstrap.course_of_runs hrun with
  | refused => exact ⟨rfl, rfl, rfl⟩
  | unsigned => exact absurd rfl hstate
  | submitted => exact absurd rfl hstate

theorem Runs.le (hrun : turn.Runs b s s') : s ≤ s' := by
  cases turn with
  | deploy codes t result =>
    by_cases hstate : s = .unpublished
    · rw [hstate]
      exact InitState.unpublished_le s'
    · rw [(hrun.refused hstate).2.2]
      exact InitState.le_refl s
  | markGoverned t result =>
    rcases (runs_markGoverned_iff.mp hrun).2 with ⟨rfl, _, rfl⟩ | ⟨_, _, rfl⟩
    · decide
    · exact InitState.le_refl s'

theorem Runs.published_iff (hrun : turn.Runs b s s') :
    .bytecodesPublished ≤ s' ↔ .bytecodesPublished ≤ s ∨ turn.Publishes := by
  cases turn with
  | deploy codes t result =>
    by_cases hstate : s = .unpublished
    · subst hstate
      rw [(Bootstrap.course_of_runs hrun).published_iff]
      simp [InitState.bytecodesPublished_le_iff, Publishes]
    · obtain ⟨rfl, _, rfl⟩ := hrun.refused hstate
      simp [Publishes, Trace.Succeeds]
  | markGoverned t result =>
    rcases (runs_markGoverned_iff.mp hrun).2 with ⟨rfl, _, rfl⟩ | ⟨_, _, rfl⟩
    · simp [Publishes, InitState.bytecodesPublished_le_iff]
    · simp [Publishes]

theorem Runs.initialized_iff (hrun : turn.Runs b s s') :
    .initialized ≤ s' ↔ .initialized ≤ s ∨ turn.Initializes b := by
  cases turn with
  | deploy codes t result =>
    by_cases hstate : s = .unpublished
    · subst hstate
      have hbelow : ¬InitState.initialized ≤ .unpublished := by decide
      rw [(Bootstrap.course_of_runs hrun).initialized_iff]
      simp [hbelow, Initializes]
    · obtain ⟨rfl, _, rfl⟩ := hrun.refused hstate
      simp [Initializes, Trace.Succeeds]
  | markGoverned t result =>
    rcases (runs_markGoverned_iff.mp hrun).2 with ⟨rfl, _, rfl⟩ | ⟨_, _, rfl⟩
    · have habove : InitState.initialized ≤ .governanceConfigured := by decide
      simp [habove]
    · simp [Initializes]

theorem Runs.governed_iff (hrun : turn.Runs b s s') :
    s' = .governanceConfigured ↔ s = .governanceConfigured ∨ (.initialized ≤ s ∧ turn.Governs) := by
  cases turn with
  | deploy codes t result =>
    by_cases hstate : s = .unpublished
    · subst hstate
      have hle := (Bootstrap.course_of_runs hrun).le_initialized
      constructor
      · rintro rfl
        exact absurd hle (by decide)
      · simp [Governs]
    · obtain ⟨_, _, rfl⟩ := hrun.refused hstate
      simp [Governs]
  | markGoverned t result =>
    rcases (runs_markGoverned_iff.mp hrun).2 with ⟨rfl, rfl, rfl⟩ | ⟨_, rfl, rfl⟩
    · simp [Governs]
    · simp [Governs]

/-- A bootstrap that returns an outcome was of an unpublished bridge, and leaves another. -/
theorem Runs.completes (hrun : turn.Runs b s s') (hcompletes : turn.completes = true) :
    s = .unpublished ∧ s' ≠ .unpublished := by
  cases turn with
  | deploy codes t result =>
    cases result with
    | error error => cases hcompletes
    | ok outcome =>
      obtain ⟨hbefore, rfl⟩ := (Bootstrap.course_of_runs hrun).eq_initialized_of_ok
      exact ⟨hbefore, by decide⟩
  | markGoverned t result => cases hcompletes

end Turn

/-- The histories of a bridge from some state on: calls in the order in which they had their turn. -/
inductive History (b : Bootstrap) (s : InitState) : List Turn → InitState → Prop
  | start : History b s [] s
  | turn {turns : List Turn} {turn : Turn} {s₁ s' : InitState} (hturns : History b s turns s₁)
      (hturn : turn.Runs b s₁ s') : History b s (turns ++ [turn]) s'

namespace History

variable {b : Bootstrap} {s s₁ s' : InitState} {turns earlier later : List Turn}

theorem append (hearlier : History b s earlier s₁) (hlater : History b s₁ later s') :
    History b s (earlier ++ later) s' := by
  induction hlater with
  | start => rwa [List.append_nil]
  | turn _ hturn ih =>
    rw [← List.append_assoc]
    exact .turn ih hturn

theorem le (hturns : History b s turns s') : s ≤ s' := by
  induction hturns with
  | start => exact InitState.le_refl s
  | turn _ hturn ih => exact InitState.le_trans ih hturn.le

theorem published_iff (hturns : History b .unpublished turns s') :
    .bytecodesPublished ≤ s' ↔ ∃ turn ∈ turns, turn.Publishes := by
  induction hturns with
  | start => simp [InitState.bytecodesPublished_le_iff]
  | turn _ hturn ih =>
    rw [hturn.published_iff, ih]
    simp [or_and_right, exists_or]

theorem initialized_iff (hturns : History b .unpublished turns s') :
    .initialized ≤ s' ↔ ∃ turn ∈ turns, turn.Initializes b := by
  induction hturns with
  | start =>
    have hbelow : ¬InitState.initialized ≤ .unpublished := by decide
    simp [hbelow]
  | turn _ hturn ih =>
    rw [hturn.initialized_iff, ih]
    simp [or_and_right, exists_or]

theorem governed_iff (hturns : History b .unpublished turns s') :
    s' = .governanceConfigured ↔ ∃ before turn after, turns = before ++ turn :: after ∧
      turn.Governs ∧ ∃ initializing ∈ before, initializing.Initializes b := by
  induction hturns with
  | start => simp
  | @turn turns turn _ _ hturns hturn ih =>
    rw [hturn.governed_iff, ih, hturns.initialized_iff]
    constructor
    · rintro (⟨before, governing, after, rfl, hgoverns, hbefore⟩ | ⟨hbefore, hgoverns⟩)
      · exact ⟨before, governing, after ++ [turn], by simp, hgoverns, hbefore⟩
      · exact ⟨turns, turn, [], rfl, hgoverns, hbefore⟩
    · rintro ⟨before, governing, after, heq, hgoverns, hbefore⟩
      -- the mark is either the last turn or one of those before
      rcases List.eq_nil_or_concat after with rfl | ⟨after, last, rfl⟩
      · obtain ⟨rfl, hlast⟩ := List.append_inj' heq rfl
        cases hlast
        exact Or.inr ⟨hbefore, hgoverns⟩
      · rw [List.concat_eq_append, ← List.cons_append, ← List.append_assoc] at heq
        obtain ⟨rfl, _⟩ := List.append_inj' heq rfl
        exact Or.inl ⟨before, governing, after, rfl, hgoverns, hbefore⟩

/-- Once a bridge is not unpublished, every bootstrap of it is refused before it asks anything. -/
theorem refused (hturns : History b s turns s') (hstate : s ≠ .unpublished)
    {codes : BridgeBytecodes} {t : Trace} {result : Except BridgeError BootstrapOutcome}
    (hmem : .deploy codes t result ∈ turns) :
    t = [] ∧ ∃ source, s ≤ source ∧ result = .error (.initState ⟨source, .bytecodesPublished⟩) := by
  induction hturns with
  | start => cases hmem
  | turn hturns hturn ih =>
    rcases List.mem_append.mp hmem with hmem | hmem
    · exact ih hmem
    · rw [List.mem_singleton] at hmem
      subst hmem
      have hpublished := InitState.le_trans (InitState.bytecodesPublished_le_iff.mpr hstate) hturns.le
      obtain ⟨ht, hresult, _⟩ := hturn.refused (InitState.bytecodesPublished_le_iff.mp hpublished)
      exact ⟨ht, _, hturns.le, hresult⟩

/-- No bootstrap returned an outcome as long as the bridge is unpublished, and at most one later. -/
theorem countP_completes_le (hturns : History b .unpublished turns s') :
    turns.countP Turn.completes ≤ if s' = .unpublished then 0 else 1 := by
  induction hturns with
  | start => simp
  | @turn turns turn s₁ s' _ hturn ih =>
    rw [List.countP_append, List.countP_singleton]
    by_cases hcompletes : turn.completes = true
    · obtain ⟨rfl, hafter⟩ := hturn.completes hcompletes
      simp only [if_true] at ih
      simp only [hcompletes, hafter, if_true, if_false]
      omega
    · rw [if_neg hcompletes, Nat.add_zero]
      refine Nat.le_trans ih ?_
      by_cases hafter : s' = .unpublished
      · subst hafter
        have hbefore := InitState.eq_unpublished_of_le hturn.le
        subst hbefore
        exact Nat.le_refl _
      · rw [if_neg hafter]
        split <;> decide

/-- A bootstrap complains about the state of the bridge only before it asks anything. -/
theorem initState_error (hturns : History b s turns s') {codes : BridgeBytecodes} {t : Trace}
    {error : InvalidTransition} (hmem : .deploy codes t (.error (.initState error)) ∈ turns) :
    t = [] ∧ error.source ≠ .unpublished ∧ error.target = .bytecodesPublished := by
  induction hturns with
  | start => cases hmem
  | turn _ hturn ih =>
    rcases List.mem_append.mp hmem with hmem | hmem
    · exact ih hmem
    · rw [List.mem_singleton] at hmem
      subst hmem
      obtain ⟨hstate, rfl, ht⟩ := (Bootstrap.course_of_runs hturn).initState_error
      exact ⟨ht, hstate, rfl⟩

/-- What the answers of a history say about the state of a bridge that was unpublished at first, then
in state `s` after the calls in `earlier`, and is in `s'` after those in `later`. -/
structure Ledger (b : Bootstrap) (earlier later : List Turn) (s s' : InitState) : Prop where
  never_decreases : s ≤ s'
  published_iff : .bytecodesPublished ≤ s' ↔ ∃ turn ∈ earlier ++ later, turn.Publishes
  initialized_iff : .initialized ≤ s' ↔ ∃ turn ∈ earlier ++ later, turn.Initializes b
  governed_iff : s' = .governanceConfigured ↔ ∃ before turn after,
    earlier ++ later = before ++ turn :: after ∧ turn.Governs ∧
      ∃ initializing ∈ before, initializing.Initializes b
  /-- Once the bridge is not unpublished, no bootstrap asks for anything. -/
  refuses : s ≠ .unpublished → ∀ codes t result, .deploy codes t result ∈ later →
    t = [] ∧ ∃ source, s ≤ source ∧ result = .error (.initState ⟨source, .bytecodesPublished⟩)
  completes_once : (earlier ++ later).countP Turn.completes ≤ 1
  /-- The state is complained about by the check at the start, never by a step to a next state. -/
  steps_succeed : ∀ codes t error, .deploy codes t (.error (.initState error)) ∈ earlier ++ later →
    t = [] ∧ error.source ≠ .unpublished ∧ error.target = .bytecodesPublished

/-- The state of a bridge follows the answers that its calls got, whatever they were, and in whatever
order the calls had their turns. -/
theorem state_follows_answers (hearlier : History b .unpublished earlier s)
    (hlater : History b s later s') : Ledger b earlier later s s' := by
  have hall := hearlier.append hlater
  exact {
    never_decreases := hlater.le
    published_iff := hall.published_iff
    initialized_iff := hall.initialized_iff
    governed_iff := hall.governed_iff
    refuses := fun hstate _ _ _ hmem => hlater.refused hstate hmem
    completes_once := by
      refine Nat.le_trans hall.countP_completes_le ?_
      split <;> decide
    steps_succeed := fun _ _ _ hmem => hall.initState_error hmem }

/-- The turn of a bootstrap that the L1 in memory carries out. -/
def performed (b : Bootstrap) (codes : BridgeBytecodes) (s : InitState) (l1 : Simulation) : Turn :=
  .deploy codes ((b.deploy codes).recorded s l1).1 ((b.deploy codes).recorded s l1).2.1

/-- A bootstrap fails and is repeated; a third is refused, and governance takes over. -/
theorem state_follows_answers_of_repeated :
    let failed := performed .plain .plain .unpublished (.plain [(.chainId, .timeout "")])
    let repeated := performed .plain .plain .unpublished (.plain [])
    let refused := performed .plain .plain .initialized (.plain [])
    let marked := Turn.markGoverned [] (.ok ())
    History .plain .unpublished [failed, repeated] .initialized ∧
      History .plain .initialized [refused, marked] .governanceConfigured ∧
      Ledger .plain [failed, repeated] [refused, marked] .initialized .governanceConfigured := by
  intro failed repeated refused marked
  have hfailed : failed.Runs .plain .unpublished .unpublished := StateAction.runs_recorded ..
  have hrepeated : repeated.Runs .plain .unpublished .initialized := StateAction.runs_recorded ..
  have hrefused : refused.Runs .plain .initialized .initialized := StateAction.runs_recorded ..
  have hmarked : marked.Runs .plain .initialized .governanceConfigured :=
    Turn.runs_markGoverned_iff.mpr ⟨rfl, Or.inl ⟨rfl, rfl, rfl⟩⟩
  have hearlier : History .plain .unpublished [failed, repeated] .initialized :=
    .turn (.turn .start hfailed) hrepeated
  have hlater : History .plain .initialized [refused, marked] .governanceConfigured :=
    .turn (.turn .start hrefused) hmarked
  exact ⟨hearlier, hlater, state_follows_answers hearlier hlater⟩

end History

end RollupBridge
