import ReplyActions.Dispatch.Dispatcher
import ReplyActions.Proofs.Gate

/-!
# What a step can do

A step either leaves the session as it is, or hands it to the hook of an admitted directive. The
ledger changes with a success only. Steps follow each other without anything in between, so a batch
can be cut anywhere.
-/

namespace ReplyActions
open Number

namespace Dispatcher

variable {α : Type} [Agent α] (d : Dispatcher α) (now : Tick)

/-! ### One step -/

/-- An invocation goes no further than its examination, or is carried out. -/
theorem step_cases (s : Session α) (i : Invocation) :
    ((d.step now s i).session = s ∧ (d.step now s i).result.isSuccess = false) ∨
      ∃ handler admission, d.catalog.lookup i.id = some handler ∧
        (d.gate s.ledger now).examine handler s.agent i.params = .finished (.ok admission) ∧
        d.step now s i = d.perform now s i handler admission := by
  simp only [step]
  cases d.catalog.lookup i.id with
  | none => exact Or.inl ⟨rfl, rfl⟩
  | some handler =>
    simp only
    split
    · exact Or.inl ⟨rfl, rfl⟩
    · exact Or.inl ⟨rfl, rfl⟩
    · next admission ha => exact Or.inr ⟨handler, admission, rfl, ha, rfl⟩

/-- A hook succeeds, and a grant is recorded, or it does not, and the ledger stays. -/
theorem perform_cases (s : Session α) (i : Invocation) (handler : Handler α)
    (admission : Admission) :
    let done := handler.execute s.agent i.params ⟨now, admission.magnitude, d.config.effects⟩
    let step := d.perform now s i handler admission
    (∃ effect, done.2 = .finished (.ok effect) ∧
        step.session = ⟨done.1, recorded s.ledger admission i.id done.1 now⟩ ∧
        step.result = .succeeded i effect) ∨
      ((∀ effect, done.2 ≠ .finished (.ok effect)) ∧ step.session = ⟨done.1, s.ledger⟩ ∧
        step.result.isSuccess = false) := by
  intro done step
  simp only [step, perform]
  split
  · next agent message h =>
    refine Or.inr ⟨fun effect he => ?_, ?_, rfl⟩
    · simp only [done, h] at he
      contradiction
    · simp only [done, h, crashedStep]
  · next agent failure h =>
    refine Or.inr ⟨fun effect he => ?_, ?_, rfl⟩
    · simp only [done, h, Attempt.finished.injEq, reduceCtorEq] at he
    · simp only [done, h]
  · next agent effect h =>
    refine Or.inl ⟨effect, ?_, ?_, rfl⟩
    · simp only [done, h]
    · simp only [done, h]

theorem step_ledger_of_not_success {s : Session α} {i : Invocation}
    (h : (d.step now s i).result.isSuccess = false) :
    (d.step now s i).session.ledger = s.ledger := by
  rcases d.step_cases now s i with ⟨hs, -⟩ | ⟨handler, admission, -, -, hp⟩
  · rw [hs]
  · rw [hp] at h ⊢
    rcases d.perform_cases now s i handler admission with ⟨effect, -, -, hr⟩ | ⟨-, hs, -⟩
    · rw [hr] at h
      contradiction
    · rw [hs]

theorem step_success {s : Session α} {i : Invocation}
    (h : (d.step now s i).result.isSuccess = true) :
    ∃ handler admission agent effect, d.catalog.lookup i.id = some handler ∧
      (d.gate s.ledger now).examine handler s.agent i.params = .finished (.ok admission) ∧
      handler.execute s.agent i.params ⟨now, admission.magnitude, d.config.effects⟩ =
        (agent, .finished (.ok effect)) ∧
      (d.step now s i).session = ⟨agent, recorded s.ledger admission i.id agent now⟩ ∧
      (d.step now s i).result = .succeeded i effect := by
  rcases d.step_cases now s i with ⟨-, hf⟩ | ⟨handler, admission, hl, ha, hp⟩
  · rw [hf] at h
    contradiction
  · rw [hp] at h ⊢
    rcases d.perform_cases now s i handler admission with ⟨effect, he, hs, hr⟩ | ⟨-, -, hf⟩
    · exact ⟨handler, admission, _, effect, hl, ha, Prod.ext rfl he, hs, hr⟩
    · rw [hf] at h
      contradiction

/-- The ledger stays as it is, or a success is recorded under the quota in force. -/
theorem step_ledger_cases (s : Session α) (i : Invocation) :
    (d.step now s i).session.ledger = s.ledger ∨
      ∃ handler admission policy, d.catalog.lookup i.id = some handler ∧
        (d.gate s.ledger now).examine handler s.agent i.params = .finished (.ok admission) ∧
        admission.policy = some policy ∧ (d.step now s i).result.isSuccess = true ∧
        (d.step now s i).session.ledger =
          s.ledger.record policy ⟨i.id, Agent.agentId (d.step now s i).session.agent⟩ now
            admission.magnitude := by
  cases hr : (d.step now s i).result.isSuccess with
  | false => exact Or.inl (d.step_ledger_of_not_success now hr)
  | true =>
    obtain ⟨handler, admission, agent, effect, hl, ha, -, hs, -⟩ := d.step_success now hr
    rw [hs]
    cases hp : admission.policy with
    | none => exact Or.inl (by simp only [recorded, hp])
    | some policy =>
      exact Or.inr ⟨handler, admission, policy, hl, ha, hp, rfl, by simp only [recorded, hp]⟩

theorem step_place (s : Session α) (i : Invocation) :
    (d.step now s i).result.directiveId = i.id ∧ (d.step now s i).result.offset = i.offset := by
  simp only [step]
  cases d.catalog.lookup i.id with
  | none => exact ⟨rfl, rfl⟩
  | some handler =>
    simp only
    split
    · exact ⟨rfl, rfl⟩
    · exact ⟨rfl, rfl⟩
    · simp only [perform]
      split <;> exact ⟨rfl, rfl⟩

theorem step_directiveId (s : Session α) (i : Invocation) :
    (d.step now s i).result.directiveId = i.id := (d.step_place now s i).1

/-! ### Steps one after the other -/

omit [Agent α] in
@[simp] theorem sessionAfter_nil (s : Session α) : sessionAfter s [] = s := rfl

omit [Agent α] in
theorem sessionAfter_cons (s : Session α) (first : Step α) (rest : List (Step α)) :
    sessionAfter s (first :: rest) = sessionAfter first.session rest := by
  cases rest with
  | nil => rfl
  | cons second more =>
    simp only [sessionAfter, List.getLast?_cons_cons]
    cases h : (second :: more).getLast? with
    | none => simp at h
    | some last => rfl

theorem steps_append (s : Session α) (front back : List Invocation) :
    d.steps now s (front ++ back) =
      d.steps now s front ++ d.steps now (sessionAfter s (d.steps now s front)) back := by
  induction front generalizing s with
  | nil => rfl
  | cons i front ih =>
    simp only [List.cons_append, steps, ih, sessionAfter_cons]

theorem directiveId_of_mem_steps {s : Session α} {invocations : List Invocation} {step : Step α}
    (h : step ∈ d.steps now s invocations) :
    ∃ i ∈ invocations, step.result.directiveId = i.id := by
  induction invocations generalizing s with
  | nil => exact absurd h List.not_mem_nil
  | cons i rest ih =>
    simp only [steps] at h
    rcases List.mem_cons.mp h with rfl | h
    · exact ⟨i, List.mem_cons_self, d.step_directiveId now s i⟩
    · obtain ⟨other, hm, hid⟩ := ih h
      exact ⟨other, List.mem_cons_of_mem _ hm, hid⟩

/-- The session with which a batch begins. -/
def opened (s : Session α) : Session α := ⟨s.agent, (d.opening s.ledger now).1⟩

def batch (text : String) (s : Session α) : List (Step α) :=
  d.steps now (d.opened now s) (Reply.ofText text).invocations

theorem dispatchAt_report (text : String) (s : Session α) :
    (d.dispatchAt text s now).report =
      ⟨(Reply.ofText text).cleaned, (d.batch now text s).map (·.result),
        (Reply.ofText text).untouched⟩ := by
  simp only [dispatchAt, batch]
  cases (Reply.ofText text).invocations with
  | nil => rfl
  | cons i rest => rfl

theorem dispatchAt_results (text : String) (s : Session α) :
    (d.dispatchAt text s now).report.results = (d.batch now text s).map (·.result) := by
  rw [dispatchAt_report]

theorem dispatchAt_results_of_nil {text : String} {s : Session α}
    (h : (Reply.ofText text).invocations = []) : (d.dispatchAt text s now).report.results = [] := by
  rw [dispatchAt_results, batch, h, steps, List.map_nil]

theorem dispatchAt_session {text : String} {s : Session α}
    (h : (Reply.ofText text).invocations ≠ []) :
    (d.dispatchAt text s now).session = sessionAfter (d.opened now s) (d.batch now text s) := by
  simp only [dispatchAt, batch]
  cases hi : (Reply.ofText text).invocations with
  | nil => exact absurd hi h
  | cons i rest => rfl

theorem dispatchAt_session_of_nil {text : String} {s : Session α}
    (h : (Reply.ofText text).invocations = []) : (d.dispatchAt text s now).session = s := by
  simp only [dispatchAt, h, List.isEmpty_nil, if_true]

/-! ### What holds throughout a batch -/

variable {d now} {P : Session α → Prop}

theorem sessionAfter_invariant (hstep : ∀ s i, P s → P (d.step now s i).session)
    {s : Session α} (h : P s) (invocations : List Invocation) :
    P (sessionAfter s (d.steps now s invocations)) := by
  induction invocations generalizing s with
  | nil => exact h
  | cons i rest ih =>
    rw [steps, sessionAfter_cons]
    exact ih (hstep s i h)

/-- What the opening and every step preserve, a batch preserves. -/
theorem dispatchAt_invariant (hopened : ∀ s, P s → P (d.opened now s))
    (hstep : ∀ s i, P s → P (d.step now s i).session) {s : Session α} (h : P s) (text : String) :
    P (d.dispatchAt text s now).session := by
  by_cases hnil : (Reply.ofText text).invocations = []
  · rw [dispatchAt_session_of_nil d now hnil]
    exact h
  · rw [dispatchAt_session d now hnil]
    exact sessionAfter_invariant hstep (hopened s h) _

end Dispatcher

/-! ### What admitted directives keep -/

/-- Carried out with values that fit and under its own condition, the directive keeps a property
of agents. -/
def Handler.Keeps {α : Type} (handler : Handler α) (P : α → Prop) : Prop :=
  ∀ agent params context, handler.definition.validate params = .ok () →
    handler.canExecute agent params = .finished true → P agent →
    P (handler.execute agent params context).1

def Action.Keeps {α : Type} (action : Action α) (P : α → Prop) : Prop :=
  ∀ agent params context, action.definition.validate params = .ok () →
    action.canExecute agent params = true → P agent → P (action.execute agent params context).1

theorem Action.Keeps.handler {α : Type} {action : Action α} {P : α → Prop} (h : action.Keeps P) :
    action.handler.Keeps P := by
  intro agent params context hfits hcondition hagent
  injection hcondition with hcondition
  exact h agent params context hfits hcondition hagent

namespace Dispatcher

variable {α : Type} [Agent α] {d : Dispatcher α} {P : α → Prop}

theorem keeps_step (hkeeps : ∀ id handler, d.catalog.lookup id = some handler → handler.Keeps P)
    (now : Tick) {s : Session α} (i : Invocation) (h : P s.agent) :
    P (d.step now s i).session.agent := by
  rcases d.step_cases now s i with ⟨hs, -⟩ | ⟨handler, admission, hl, ha, hp⟩
  · rw [hs]
    exact h
  · have hadmits : (d.gate s.ledger now).Admits handler s.agent i.params admission :=
      Gate.examine_eq_iff.mp ha
    have hdone := hkeeps i.id handler hl s.agent i.params
      ⟨now, admission.magnitude, d.config.effects⟩ hadmits.fits hadmits.condition h
    rw [hp]
    rcases d.perform_cases now s i handler admission with ⟨effect, -, hs, -⟩ | ⟨-, hs, -⟩
    · rw [hs]
      exact hdone
    · rw [hs]
      exact hdone

/-- What every directive of the catalog keeps, a reply keeps. -/
theorem keeps_dispatchAt
    (hkeeps : ∀ id handler, d.catalog.lookup id = some handler → handler.Keeps P)
    (text : String) (now : Tick) {s : Session α} (h : P s.agent) :
    P (d.dispatchAt text s now).session.agent :=
  dispatchAt_invariant (P := fun s => P s.agent) (fun _ h => h)
    (fun _ i h => keeps_step hkeeps now i h) h text

end Dispatcher

end ReplyActions
