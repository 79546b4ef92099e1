import ReplyActions.Proofs.Dispatch.Limits
import ReplyActions.Proofs.Dispatch.Log

/-!
# What is kept from players

A directive that fails leaves detail: the causes of an internal failure, what is wrong with a value
or with the agent, the message of a breakdown. Catalogs that differ in nothing else lead to the same
reports, agents and ledgers. Only the log tells them apart, and only by the texts of its errors.
-/

namespace ReplyActions
open Number

/-! ### The same apart from detail -/

/-- The failures are of one kind. Of a refusal, the message counts too. -/
inductive Failure.Resembles : Failure → Failure → Prop
  | rejected (message : String) : Resembles (.rejected message) (.rejected message)
  | invalidParameter (name name' detail detail' : String) :
      Resembles (.invalidParameter name detail) (.invalidParameter name' detail')
  | agentState (detail detail' : String) : Resembles (.agentState detail) (.agentState detail')
  | internal (causes causes' : List String) : Resembles (.internal causes) (.internal causes')

/-- The hooks come to values that are the same, or both break down. -/
inductive Attempt.Resembles {β : Type} (same : β → β → Prop) : Attempt β → Attempt β → Prop
  | finished {a b : β} (values : same a b) : Resembles same (.finished a) (.finished b)
  | crashed (message message' : Option String) :
      Resembles same (.crashed message) (.crashed message')

inductive SameOutcome : Except Failure Effect → Except Failure Effect → Prop
  | success (effect : Effect) : SameOutcome (.ok effect) (.ok effect)
  | failure {a b : Failure} (failures : a.Resembles b) : SameOutcome (.error a) (.error b)

/-- The directives do the same, and fail in the same cases. -/
structure Handler.Resembles {α : Type} (a b : Handler α) : Prop where
  definition : a.definition = b.definition
  canExecute : ∀ agent params, (a.canExecute agent params).Resembles Eq (b.canExecute agent params)
  magnitude : ∀ params, (a.magnitude params).Resembles Eq (b.magnitude params)
  quota : a.quota.Resembles Eq b.quota
  agent : ∀ agent params context,
    (a.execute agent params context).1 = (b.execute agent params context).1
  outcome : ∀ agent params context,
    (a.execute agent params context).2.Resembles SameOutcome (b.execute agent params context).2

def Catalog.Resembles {α : Type} (a b : Catalog α) : Prop :=
  ∀ id, Option.Rel Handler.Resembles (a.lookup id) (b.lookup id)

theorem Failure.Resembles.code {a b : Failure} (h : a.Resembles b) : a.code = b.code := by
  cases h <;> rfl

theorem Failure.Resembles.narrative {a b : Failure} (h : a.Resembles b) (id : String) :
    a.narrative id = b.narrative id := by
  cases h <;> rfl

theorem Catalog.Resembles.register {α : Type} {a b : Catalog α} {first second : Handler α}
    (h : a.Resembles b) (hf : first.Resembles second) :
    (a.register first).2.Resembles (b.register second).2 := by
  intro id
  rw [lookup_register, lookup_register, hf.definition]
  split
  · exact .some hf
  · exact h id

/-- Resembling handlers, registered in the same order, make resembling catalogs. -/
theorem Catalog.resembles_ofList {α : Type} {as bs : List (Handler α)}
    (h : List.Forall₂ Handler.Resembles as bs) : (ofList as).Resembles (ofList bs) := by
  have hstart : ∀ start start' : Catalog α, start.Resembles start' →
      (as.foldl (fun catalog handler => (catalog.register handler).2) start).Resembles
        (bs.foldl (fun catalog handler => (catalog.register handler).2) start') := by
    induction h with
    | nil => exact fun start start' hs => hs
    | cons hf _ ih => exact fun start start' hs => ih _ _ (hs.register hf)
  exact hstart empty empty fun _ => .none

/-- The event without the text of an error. -/
def Event.withoutError : Event → Event
  | failed directive agent code _ => failed directive agent code ""
  | crashed directive agent stage _ => crashed directive agent stage ""
  | event => event

/-! ### One invocation -/

theorem Gate.examine_resembles {α : Type} [Agent α] {a b : Handler α} (h : a.Resembles b)
    (gate : Gate) (agent : α) (params : Params) :
    (gate.examine a agent params).Resembles Eq (gate.examine b agent params) := by
  have hcondition := h.canExecute agent params
  have hmagnitude := h.magnitude params
  have hquota := h.quota
  simp only [examine, h.definition]
  generalize a.canExecute agent params = condition, b.canExecute agent params = condition'
    at hcondition ⊢
  generalize a.magnitude params = value, b.magnitude params = value' at hmagnitude ⊢
  generalize a.quota = own, b.quota = own' at hquota ⊢
  split
  · exact .finished rfl
  split
  · exact .finished rfl
  cases hcondition with
  | crashed message message' => exact .crashed message message'
  | @finished holds holds' hsame =>
    subst hsame
    cases holds with
    | false => exact .finished rfl
    | true =>
      cases hmagnitude with
      | crashed message message' => exact .crashed message message'
      | finished hsame =>
        subst hsame
        cases hquota with
        | crashed message message' => exact .crashed message message'
        | finished hsame =>
          subst hsame
          simp only
          split
          · exact .finished rfl
          · exact .finished rfl

namespace Dispatcher

variable {α : Type} [Agent α]

/-- The directive is carried out and refuses, with a message for players. -/
def Rejects (d : Dispatcher α) (now : Tick) (s : Session α) (i : Invocation) (message : String) :
    Prop :=
  ∃ handler admission, d.catalog.lookup i.id = some handler ∧
    (d.gate s.ledger now).Admits handler s.agent i.params admission ∧
    (handler.execute s.agent i.params ⟨now, admission.magnitude, d.config.effects⟩).2 =
      .finished (.error (.rejected message))

/-- A failure is told as it is only if it is a refusal. -/
theorem narrative_step {d : Dispatcher α} {now : Tick} {s : Session α} {i : Invocation}
    (h : (d.step now s i).result.outcome = .executionError) :
    (d.step now s i).result.narrative = Failure.silentNarrative i.id ∨
      d.Rejects now s i (d.step now s i).result.narrative := by
  obtain ⟨handler, hl, ⟨message, hb⟩ | ⟨admission, ha, hfails⟩⟩ := outcome_step_iff.mp h
  · exact Or.inl (by simp only [step, hl, hb.examine, crashedStep, Result.crashed])
  · have hstep : d.step now s i = d.perform now s i handler admission := by
      simp only [step, hl, ha.examine]
    rw [hstep]
    rcases hd : handler.execute s.agent i.params ⟨now, admission.magnitude, d.config.effects⟩ with
      ⟨agent, (failure | effect) | message⟩
    · cases failure with
      | rejected text =>
        have hresult : (d.perform now s i handler admission).result.narrative = text := by
          simp only [perform, hd, Result.failed, Failure.narrative]
        rw [hresult]
        exact Or.inr ⟨handler, admission, hl, ha, by rw [hd]⟩
      | invalidParameter name detail =>
        exact Or.inl (by simp only [perform, hd, Result.failed, Failure.narrative])
      | agentState detail =>
        exact Or.inl (by simp only [perform, hd, Result.failed, Failure.narrative])
      | internal causes =>
        exact Or.inl (by simp only [perform, hd, Result.failed, Failure.narrative])
    · rw [hd] at hfails
      simp at hfails
    · exact Or.inl (by simp only [perform, hd, crashedStep, Result.crashed])

/-- The steps are the same apart from the text of an error in the log. -/
structure StepResembles (a b : Step α) : Prop where
  session : a.session = b.session
  result : a.result = b.result
  event : a.event.withoutError = b.event.withoutError

section

variable {d d' : Dispatcher α} (hconfig : d.config = d'.config)
include hconfig

theorem perform_resembles {a b : Handler α} (h : a.Resembles b) (now : Tick) (s : Session α)
    (i : Invocation) (admission : Admission) :
    StepResembles (d.perform now s i a admission) (d'.perform now s i b admission) := by
  have hagent := h.agent s.agent i.params ⟨now, admission.magnitude, d.config.effects⟩
  have houtcome := h.outcome s.agent i.params ⟨now, admission.magnitude, d.config.effects⟩
  simp only [perform, ← hconfig]
  generalize a.execute s.agent i.params ⟨now, admission.magnitude, d.config.effects⟩ = done,
    b.execute s.agent i.params ⟨now, admission.magnitude, d.config.effects⟩ = done'
    at hagent houtcome ⊢
  obtain ⟨agent, outcome⟩ := done
  obtain ⟨agent', outcome'⟩ := done'
  simp only at hagent houtcome
  subst hagent
  cases houtcome with
  | crashed message message' => exact ⟨rfl, rfl, rfl⟩
  | finished hsame =>
    cases hsame with
    | success effect => exact ⟨rfl, rfl, rfl⟩
    | failure hfailure =>
      refine ⟨rfl, ?_, ?_⟩
      · simp only [Result.failed, hfailure.code, hfailure.narrative]
      · simp only [Event.withoutError, hfailure.code]

variable (hcatalog : d.catalog.Resembles d'.catalog)
include hcatalog

theorem step_resembles (now : Tick) (s : Session α) (i : Invocation) :
    StepResembles (d.step now s i) (d'.step now s i) := by
  have hfound := hcatalog i.id
  simp only [step]
  generalize d.catalog.lookup i.id = found, d'.catalog.lookup i.id = found' at hfound ⊢
  cases hfound with
  | none => exact ⟨rfl, rfl, rfl⟩
  | @some a b hhandler =>
    have hdecision := Gate.examine_resembles hhandler (d.gate s.ledger now) s.agent i.params
    have hgate : d'.gate s.ledger now = d.gate s.ledger now := by rw [gate, gate, hconfig]
    simp only [hgate]
    generalize (d.gate s.ledger now).examine a s.agent i.params = decision,
      (d.gate s.ledger now).examine b s.agent i.params = decision' at hdecision ⊢
    cases hdecision with
    | crashed message message' => exact ⟨rfl, rfl, rfl⟩
    | @finished ruling ruling' hsame =>
      subst hsame
      cases ruling with
      | error refusal => exact ⟨rfl, rfl, rfl⟩
      | ok admission => exact perform_resembles hconfig hhandler now s i admission

theorem steps_resemble (now : Tick) (s : Session α) (invocations : List Invocation) :
    sessionAfter s (d.steps now s invocations) = sessionAfter s (d'.steps now s invocations) ∧
      (d.steps now s invocations).map (·.result) = (d'.steps now s invocations).map (·.result) ∧
      (d.steps now s invocations).map (·.event.withoutError) =
        (d'.steps now s invocations).map (·.event.withoutError) := by
  induction invocations generalizing s with
  | nil => exact ⟨rfl, rfl, rfl⟩
  | cons i rest ih =>
    have hstep := step_resembles hconfig hcatalog now s i
    obtain ⟨hsession, hresults, hevents⟩ := ih (d.step now s i).session
    -- what failed in one run has failed in the other, so the next invocations meet one session
    rw [steps, steps, sessionAfter_cons, sessionAfter_cons, ← hstep.session]
    simp only [List.map_cons, hsession, hresults, hevents, hstep.result, hstep.event, and_self]

omit hcatalog [Agent α] in
theorem opening_congr (ledger : Quota.Ledger) (now : Tick) :
    d.opening ledger now = d'.opening ledger now := by
  rw [opening, opening, isSweepDue, isSweepDue, hconfig]

theorem dispatchAt_resembles (text : String) (s : Session α) (now : Tick) :
    (d.dispatchAt text s now).report = (d'.dispatchAt text s now).report ∧
      (d.dispatchAt text s now).session = (d'.dispatchAt text s now).session ∧
      (d.dispatchAt text s now).events.map (·.withoutError) =
        (d'.dispatchAt text s now).events.map (·.withoutError) := by
  have hopened : d.opened now s = d'.opened now s := by
    rw [opened, opened, opening_congr hconfig]
  obtain ⟨hsession, hresults, hevents⟩ :=
    steps_resemble hconfig hcatalog now (d'.opened now s) (Reply.ofText text).invocations
  refine ⟨?_, ?_, ?_⟩
  · rw [dispatchAt_report, dispatchAt_report, batch, batch, hopened, hresults]
  · by_cases hnil : (Reply.ofText text).invocations = []
    · rw [dispatchAt_session_of_nil d now hnil, dispatchAt_session_of_nil d' now hnil]
    · rw [dispatchAt_session d now hnil, dispatchAt_session d' now hnil, batch, batch, hopened,
        hsession]
  · by_cases hnil : (Reply.ofText text).invocations = []
    · rw [dispatchAt_events_of_nil d now hnil, dispatchAt_events_of_nil d' now hnil]
    · rw [dispatchAt_events d now hnil, dispatchAt_events d' now hnil, batch, batch, hopened,
        opening_congr hconfig]
      simp only [List.map_cons, List.map_append, List.map_map]
      exact congrArg _ (congrArg _ hevents)

end

/-- Catalogs that differ in nothing but the detail of failures lead to the same report, agent and
ledger, and to logs that differ in nothing but the texts of errors. What players are told of an
invocation that fails is the message with which its directive refuses, or nothing in particular. -/
theorem failure_detail_stays_in_log {catalog catalog' : Catalog α}
    (hcatalog : catalog.Resembles catalog') (rules : List (Rule α)) (config : Config)
    (text : String) (s : Session α) (now : Tick) :
    let d : Dispatcher α := ⟨catalog, rules, config⟩
    let done := d.dispatchAt text s now
    let done' := (⟨catalog', rules, config⟩ : Dispatcher α).dispatchAt text s now
    done.report = done'.report ∧ done.session = done'.session ∧
      done.events.map (·.withoutError) = done'.events.map (·.withoutError) ∧
      ∀ front i back, Invocation.extract text.toList = front ++ i :: back →
        ∃ result, done.report.results[front.length]? = some result ∧
          (result.outcome = .executionError →
            result.narrative = Failure.silentNarrative i.id ∨
              d.Rejects now (d.reached now s front) i result.narrative) := by
  intro d done done'
  have hconfig : d.config = (⟨catalog', rules, config⟩ : Dispatcher α).config := rfl
  obtain ⟨hreport, hsession, hevents⟩ := dispatchAt_resembles hconfig hcatalog text s now
  refine ⟨hreport, hsession, hevents, fun front i back h => ?_⟩
  exact ⟨_, results_getElem? h, narrative_step⟩

end Dispatcher

/-- A directive that always fails for a reason of its own. -/
def failingSave (causes : List String) : Handler Guest where
  definition := ⟨"SAVE", .special, "", .moderate, [], []⟩
  canExecute _ _ := .finished true
  magnitude _ := .finished none
  quota := .finished none
  execute guest _ _ := (guest, .finished (.error (.internal causes)))

theorem failingSave_resembles (causes causes' : List String) :
    (failingSave causes).Resembles (failingSave causes') where
  definition := rfl
  canExecute _ _ := .finished rfl
  magnitude _ := .finished rfl
  quota := .finished rfl
  agent _ _ _ := rfl
  outcome _ _ _ := .finished (.failure (.internal causes causes'))

/-- Whatever keeps the directive from saving, players are told that it could not be carried out. -/
theorem detail_of_save_stays_in_log :
    let catalog := fun cause => Catalog.ofList [failingSave [cause]]
    let done := fun cause => (⟨catalog cause, [], Config.standard⟩ : Dispatcher Guest).dispatchAt
      "Done. [ACTION:SAVE]" ⟨⟨"ada"⟩, .empty 24⟩ 0
    (catalog "disk on fire").Resembles (catalog "wrong key") ∧
      (done "disk on fire").report = (done "wrong key").report ∧
      (done "disk on fire").report.narration = "SAVE could not be carried out" ∧
      (done "disk on fire").events ≠ (done "wrong key").events := by
  intro catalog done
  have hcatalog : (catalog "disk on fire").Resembles (catalog "wrong key") :=
    Catalog.resembles_ofList (.cons (failingSave_resembles _ _) .nil)
  refine ⟨hcatalog, ?_, by decide +kernel, by decide +kernel⟩
  exact (Dispatcher.failure_detail_stays_in_log hcatalog [] Config.standard _ _ 0).1

end ReplyActions
