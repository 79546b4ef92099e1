import ReplyActions.Proofs.Dispatch.Steps
import ReplyActions.Proofs.Quota.Tracking
import ReplyActions.Proofs.Token.Written

/-!
# One result for each invocation

Whatever the hooks of the directives do, every invocation of a reply gets one result. Its outcome
depends on the session that the invocation meets, which is what the ones before it have left. No
more than one entry of the ledger changes, and only with a success under a quota.
-/

namespace ReplyActions
open Number

/-- The ledgers differ at most in what they have on record for a pair. -/
structure Quota.Ledger.AgreesBut (a b : Quota.Ledger) (key : Quota.Key) : Prop where
  dayLength : a.dayLength = b.dayLength
  lastSweep : a.lastSweep = b.lastSweep
  usage? : ∀ other, other ≠ key → a.usage? other = b.usage? other

theorem Quota.Ledger.agreesBut_record (ledger : Quota.Ledger) (policy : Quota.Policy)
    (key : Quota.Key) (now : Tick) (magnitude : Option Points) :
    (ledger.record policy key now magnitude).AgreesBut ledger key where
  dayLength := rfl
  lastSweep := rfl
  usage? other h := by rw [usage?_record, if_neg (Ne.symm h)]

theorem Config.isLimited_of_quotaFor {config : Config} {id : String}
    {own : Option Quota.Policy} {policy : Quota.Policy}
    (h : config.quotaFor id own = some policy) : policy.isLimited = true := by
  simp only [quotaFor, Option.filter_eq_some_iff] at h
  exact h.2

namespace Dispatcher

variable {α : Type} [Agent α]

/-! ### Outcomes -/

/-- The outcome that an invocation has to get in the session that it meets. -/
def Deserves (d : Dispatcher α) (now : Tick) (s : Session α) (i : Invocation) : Outcome → Prop
  | .unknownDirective => d.catalog.lookup i.id = none
  | .executionError => ∃ handler, d.catalog.lookup i.id = some handler ∧
      ((∃ message, (d.gate s.ledger now).Breaks handler s.agent i.params message) ∨
        ∃ admission, (d.gate s.ledger now).Admits handler s.agent i.params admission ∧
          let done := handler.execute s.agent i.params ⟨now, admission.magnitude, d.config.effects⟩
          (∃ message, done.2 = .crashed message) ∨ ∃ failure, done.2 = .finished (.error failure))
  | .preconditionFailed => ∃ handler refusal, d.catalog.lookup i.id = some handler ∧
      (d.gate s.ledger now).Refuses handler s.agent i.params refusal
  | .success => ∃ handler admission effect, d.catalog.lookup i.id = some handler ∧
      (d.gate s.ledger now).Admits handler s.agent i.params admission ∧
      (handler.execute s.agent i.params ⟨now, admission.magnitude, d.config.effects⟩).2 =
        .finished (.ok effect)

variable {d : Dispatcher α} {now : Tick} {s : Session α} {i : Invocation}

theorem outcome_perform (handler : Handler α) (admission : Admission) :
    (d.perform now s i handler admission).result.outcome =
      match (handler.execute s.agent i.params ⟨now, admission.magnitude, d.config.effects⟩).2 with
      | .finished (.ok _) => .success
      | _ => .executionError := by
  simp only [perform]
  split
  · next h => simp only [h, crashedStep, Result.crashed]
  · next h => simp only [h, Result.failed]
  · next h => simp only [h, Result.succeeded]

theorem Deserves.outcome_step {outcome : Outcome} (h : d.Deserves now s i outcome) :
    (d.step now s i).result.outcome = outcome := by
  cases outcome with
  | unknownDirective =>
    have hl : d.catalog.lookup i.id = none := h
    simp only [step, hl, Result.unknown]
  | preconditionFailed =>
    obtain ⟨handler, refusal, hl, hr⟩ := h
    simp only [step, hl, hr.examine, Result.denied]
  | success =>
    obtain ⟨handler, admission, effect, hl, ha, he⟩ := h
    simp only [step, hl, ha.examine, outcome_perform, he]
  | executionError =>
    obtain ⟨handler, hl, ⟨message, hb⟩ | ⟨admission, ha, hfails⟩⟩ := h
    · simp only [step, hl, hb.examine, crashedStep, Result.crashed]
    · rcases hfails with ⟨message, he⟩ | ⟨failure, he⟩
      · simp only [step, hl, ha.examine, outcome_perform, he]
      · simp only [step, hl, ha.examine, outcome_perform, he]

theorem exists_deserves (d : Dispatcher α) (now : Tick) (s : Session α) (i : Invocation) :
    ∃ outcome, d.Deserves now s i outcome := by
  cases hl : d.catalog.lookup i.id with
  | none => exact ⟨.unknownDirective, hl⟩
  | some handler =>
    obtain ⟨decision, hd⟩ := (d.gate s.ledger now).exists_decides handler s.agent i.params
    rcases decision with (refusal | admission) | message
    · exact ⟨.preconditionFailed, handler, refusal, hl, hd⟩
    · cases he : (handler.execute s.agent i.params
        ⟨now, admission.magnitude, d.config.effects⟩).2 with
      | crashed message =>
        exact ⟨.executionError, handler, hl, Or.inr ⟨admission, hd, Or.inl ⟨message, he⟩⟩⟩
      | finished outcome =>
        cases outcome with
        | error failure =>
          exact ⟨.executionError, handler, hl, Or.inr ⟨admission, hd, Or.inr ⟨failure, he⟩⟩⟩
        | ok effect => exact ⟨.success, handler, admission, effect, hl, hd, he⟩
    · exact ⟨.executionError, handler, hl, Or.inl ⟨message, hd⟩⟩

theorem outcome_step_iff {outcome : Outcome} :
    (d.step now s i).result.outcome = outcome ↔ d.Deserves now s i outcome := by
  refine ⟨fun h => ?_, Deserves.outcome_step⟩
  obtain ⟨deserved, hd⟩ := d.exists_deserves now s i
  rw [← h, hd.outcome_step]
  exact hd

/-! ### The ledger -/

theorem step_ledger_agreesBut (d : Dispatcher α) (now : Tick) (s : Session α) (i : Invocation) :
    (d.step now s i).session.ledger.AgreesBut s.ledger
      ⟨i.id, Agent.agentId (d.step now s i).session.agent⟩ := by
  rcases d.step_ledger_cases now s i with hs | ⟨-, admission, policy, -, -, -, -, hs⟩
  · rw [hs]
    exact ⟨rfl, rfl, fun _ _ => rfl⟩
  · rw [hs]
    exact s.ledger.agreesBut_record policy _ now admission.magnitude

theorem step_ledger_ne (h : (d.step now s i).session.ledger ≠ s.ledger) :
    (d.step now s i).result.outcome = .success ∧
      ∃ handler own policy, d.catalog.lookup i.id = some handler ∧
        handler.quota = .finished own ∧
        d.config.quotaFor handler.definition.id own = some policy ∧ policy.isLimited = true := by
  rcases d.step_ledger_cases now s i with hs | ⟨handler, admission, policy, hl, ha, hp, hr, -⟩
  · exact absurd hs h
  · obtain ⟨own, hown, hpolicy, -⟩ := Gate.examine_ok ha
    have hquota : d.config.quotaFor handler.definition.id own = some policy := hpolicy ▸ hp
    exact ⟨of_decide_eq_true hr, handler, own, policy, hl, hown, hquota,
      Config.isLimited_of_quotaFor hquota⟩

/-! ### A batch -/

theorem length_steps (d : Dispatcher α) (now : Tick) (s : Session α)
    (invocations : List Invocation) : (d.steps now s invocations).length = invocations.length := by
  induction invocations generalizing s with
  | nil => rfl
  | cons i rest ih => simp only [steps, List.length_cons, ih]

theorem places_steps (d : Dispatcher α) (now : Tick) (s : Session α)
    (invocations : List Invocation) :
    (d.steps now s invocations).map (fun step => (step.result.directiveId, step.result.offset)) =
      invocations.map fun i => (i.id, i.offset) := by
  induction invocations generalizing s with
  | nil => rfl
  | cons i rest ih =>
    obtain ⟨hid, hoffset⟩ := d.step_place now s i
    simp only [steps, List.map_cons, ih, hid, hoffset]

/-- The session that a batch has reached after its opening and some invocations. -/
def reached (d : Dispatcher α) (now : Tick) (s : Session α) (front : List Invocation) :
    Session α :=
  sessionAfter (d.opened now s) (d.steps now (d.opened now s) front)

theorem reached_concat (front : List Invocation) :
    d.reached now s (front ++ [i]) = (d.step now (d.reached now s front) i).session := by
  rw [reached, steps_append, sessionAfter, steps, steps, List.getLast?_concat, ← reached]

theorem batch_getElem? {text : String} {front back : List Invocation}
    (h : (Reply.ofText text).invocations = front ++ i :: back) :
    (d.batch now text s)[front.length]? = some (d.step now (d.reached now s front) i) := by
  have hlength := d.length_steps now (d.opened now s) front
  rw [batch, h, steps_append, List.getElem?_append_right (Nat.le_of_eq hlength), hlength,
    Nat.sub_self, steps, List.getElem?_cons_zero, ← reached]

theorem results_getElem? {text : String} {front back : List Invocation}
    (h : Invocation.extract text.toList = front ++ i :: back) :
    (d.dispatchAt text s now).report.results[front.length]? =
      some (d.step now (d.reached now s front) i).result := by
  rw [dispatchAt_results, List.getElem?_map,
    batch_getElem? ((Invocation.ofText_invocations text).trans h), Option.map_some]

/-- Whatever the hooks do, a batch gets to its end, with one result for each invocation. The result
has the outcome that the invocation deserves in the session reached by then. The ledger that a
batch opens with changes only with a success under a quota, and only for that directive and the
agent. -/
theorem dispatchAt_outcomes (d : Dispatcher α) (text : String) (s : Session α) (now : Tick) :
    let done := d.dispatchAt text s now
    let invocations := Invocation.extract text.toList
    done.report.results.map (fun result => (result.directiveId, result.offset)) =
        invocations.map (fun i => (i.id, i.offset)) ∧
      done.session = (if invocations = [] then s else d.reached now s invocations) ∧
      ∀ front i back, invocations = front ++ i :: back →
        let before := d.reached now s front
        let after := d.reached now s (front ++ [i])
        ∃ result, done.report.results[front.length]? = some result ∧
          (∀ outcome, result.outcome = outcome ↔ d.Deserves now before i outcome) ∧
          (after.ledger ≠ before.ledger → result.outcome = .success ∧
            ∃ handler own policy, d.catalog.lookup i.id = some handler ∧
              handler.quota = .finished own ∧
              d.config.quotaFor handler.definition.id own = some policy ∧
              policy.isLimited = true) ∧
          after.ledger.AgreesBut before.ledger ⟨i.id, Agent.agentId after.agent⟩ := by
  intro done invocations
  have hinvocations : (Reply.ofText text).invocations = invocations :=
    Invocation.ofText_invocations text
  refine ⟨?_, ?_, fun front i back h => ?_⟩
  · simp only [done]
    rw [dispatchAt_results, List.map_map, batch, hinvocations]
    exact d.places_steps now _ invocations
  · simp only [done]
    split
    · next hnil => exact dispatchAt_session_of_nil d now (hinvocations.trans hnil)
    · next hne =>
      rw [dispatchAt_session d now (hinvocations.symm ▸ hne), batch, hinvocations, reached]
  · intro before after
    have hafter : after = (d.step now before i).session := reached_concat front
    rw [hafter]
    refine ⟨(d.step now before i).result, ?_, fun outcome => outcome_step_iff, step_ledger_ne,
      d.step_ledger_agreesBut now before i⟩
    simp only [done]
    rw [dispatchAt_results, List.getElem?_map, batch_getElem? (hinvocations.trans h)]
    rfl

end Dispatcher

end ReplyActions
