import ReplyActions.Proofs.Dispatch.Steps
import ReplyActions.Proofs.Standard.Failures
import ReplyActions.Proofs.Token.Written

/-!
# A batch without its failures

Where failing directives leave the agent as it was, an invocation that does not succeed changes
nothing. So the invocations that succeed do the same by themselves, in a reply of their own.
-/

namespace ReplyActions
open Number

/-- Unless the directive succeeds, the agent stays as it was. -/
def Handler.IsSparing {α : Type} (handler : Handler α) : Prop :=
  ∀ agent params context,
    (∀ effect, (handler.execute agent params context).2 ≠ .finished (.ok effect)) →
      (handler.execute agent params context).1 = agent

theorem Action.IsSparing.handler {α : Type} {action : Action α} (h : action.IsSparing) :
    action.handler.IsSparing := by
  intro agent params context hfail
  cases hd : (action.execute agent params context).2 with
  | error failure => exact h agent params context failure hd
  | ok effect => exact absurd (congrArg Attempt.finished hd) (hfail effect)

/-- A result, wherever its token stood. -/
def Result.unplaced (r : Result) : Result := { r with offset := 0 }

namespace Dispatcher

variable {α : Type} [Agent α] (d : Dispatcher α) (now : Tick)

def IsSparing : Prop := ∀ id handler, d.catalog.lookup id = some handler → handler.IsSparing

/-- The invocations that succeed when all are carried out in order. -/
def succeeding (s : Session α) (invocations : List Invocation) : List Invocation :=
  ((invocations.zip (d.steps now s invocations)).filter (·.2.result.isSuccess)).map (·.1)

theorem succeeding_cons (s : Session α) (i : Invocation) (rest : List Invocation) :
    d.succeeding now s (i :: rest) =
      if (d.step now s i).result.isSuccess then
        i :: d.succeeding now (d.step now s i).session rest
      else d.succeeding now (d.step now s i).session rest := by
  simp only [succeeding, steps, List.zip_cons_cons, List.filter_cons]
  split <;> rfl

theorem mem_of_mem_succeeding {s : Session α} {invocations : List Invocation} {i : Invocation}
    (h : i ∈ d.succeeding now s invocations) : i ∈ invocations := by
  obtain ⟨⟨j, step⟩, hm, rfl⟩ := List.mem_map.mp h
  exact (List.of_mem_zip (List.mem_filter.mp hm).1).1

/-! ### One step -/

theorem step_congr (s : Session α) {i j : Invocation} (h : i.request = j.request) :
    (d.step now s i).session = (d.step now s j).session ∧
      (d.step now s i).result.unplaced = (d.step now s j).result.unplaced := by
  obtain ⟨id, params, offset, ordinal⟩ := i
  obtain ⟨id', params', offset', ordinal'⟩ := j
  obtain ⟨rfl, rfl⟩ := Prod.mk.inj h
  simp only [step]
  cases d.catalog.lookup id with
  | none => exact ⟨rfl, rfl⟩
  | some handler =>
    simp only
    rcases (d.gate s.ledger now).examine handler s.agent params with (refusal | admission) | message
    · exact ⟨rfl, rfl⟩
    · simp only [perform]
      rcases handler.execute s.agent params ⟨now, admission.magnitude, d.config.effects⟩ with
        ⟨agent, (failure | effect) | message⟩
      · exact ⟨rfl, rfl⟩
      · exact ⟨rfl, rfl⟩
      · exact ⟨rfl, rfl⟩
    · exact ⟨rfl, rfl⟩

variable {d now}
variable (hspares : d.IsSparing)
include hspares

theorem step_session_of_not_success
    {s : Session α} {i : Invocation} (h : (d.step now s i).result.isSuccess = false) :
    (d.step now s i).session = s := by
  rcases d.step_cases now s i with ⟨hs, -⟩ | ⟨handler, admission, hl, -, hp⟩
  · exact hs
  · rw [hp] at h ⊢
    rcases d.perform_cases now s i handler admission with ⟨effect, -, -, hr⟩ | ⟨hf, hs, -⟩
    · rw [hr] at h
      contradiction
    · rw [hs, hspares i.id handler hl _ _ _ hf]

/-! ### A batch -/

theorem session_of_mem_steps
    {s : Session α} {invocations : List Invocation} {front back : List (Step α)} {step : Step α}
    (h : d.steps now s invocations = front ++ step :: back)
    (hf : step.result.isSuccess = false) : step.session = sessionAfter s front := by
  induction invocations generalizing s front with
  | nil => exact absurd h.symm (List.append_ne_nil_of_right_ne_nil _ (List.cons_ne_nil _ _))
  | cons i rest ih =>
    simp only [steps] at h
    cases front with
    | nil =>
      obtain ⟨rfl, -⟩ := List.cons.inj h
      exact step_session_of_not_success hspares hf
    | cons first front =>
      obtain ⟨rfl, hrest⟩ := List.cons.inj h
      rw [sessionAfter_cons]
      exact ih hrest

theorem steps_of_succeeding
    {s : Session α} {invocations others : List Invocation}
    (h : others.map (·.request) = (d.succeeding now s invocations).map (·.request)) :
    sessionAfter s (d.steps now s others) = sessionAfter s (d.steps now s invocations) ∧
      (d.steps now s others).map (·.result.unplaced) =
        ((d.steps now s invocations).filter (·.result.isSuccess)).map (·.result.unplaced) := by
  induction invocations generalizing s others with
  | nil =>
    rw [List.map_eq_nil_iff.mp (h : others.map (·.request) = [])]
    exact ⟨rfl, rfl⟩
  | cons i rest ih =>
    rw [succeeding_cons] at h
    simp only [steps, sessionAfter_cons, List.filter_cons]
    cases hi : (d.step now s i).result.isSuccess with
    | false =>
      have hs := step_session_of_not_success hspares hi
      simp only [hi, Bool.false_eq_true, if_false, hs] at h ⊢
      exact ih h
    | true =>
      simp only [hi, if_true, List.map_cons] at h ⊢
      obtain ⟨first, more, rfl, hfirst, hmore⟩ := List.map_eq_cons_iff.mp h
      obtain ⟨hsession, hresult⟩ := d.step_congr now s hfirst
      simp only [steps, sessionAfter_cons, List.map_cons, hsession, hresult]
      obtain ⟨hafter, hresults⟩ := ih hmore
      exact ⟨hafter, congrArg _ hresults⟩

end Dispatcher

namespace Standard
open Dispatcher

theorem dispatcher_isSparing (config : Config) : (dispatcher config).IsSparing := by
  intro id handler hl
  obtain ⟨action, hm, rfl⟩ := lookup_catalog hl
  exact (isSparing_of_mem_actions action hm).handler

/-- An invocation of a standard directive that does not succeed leaves the colonist and the ledger
as they were. So a reply with a success has the same effects as a reply that asks for no more than
its successes, and there is such a reply. -/
theorem failures_change_nothing (config : Config) (s : Session Colonist) (now : Tick)
    (text : String) :
    let d := dispatcher config
    let before := d.opened now s
    let invocations := (Reply.ofText text).invocations
    let kept := d.succeeding now before invocations
    (d.dispatchAt text s now).report.results =
        (d.steps now before invocations).map (·.result) ∧
      (∀ front step back, d.steps now before invocations = front ++ step :: back →
        step.result.isSuccess = false → step.session = sessionAfter before front) ∧
      ((d.dispatchAt text s now).report.successes ≠ [] → ∀ other,
        (Reply.ofText other).invocations.map (·.request) = kept.map (·.request) →
          (d.dispatchAt other s now).session = (d.dispatchAt text s now).session ∧
            (d.dispatchAt other s now).report.results.map (·.unplaced) =
              (d.dispatchAt text s now).report.successes.map (·.unplaced)) ∧
      (Reply.ofText (Invocation.written kept)).invocations.map (·.request) =
        kept.map (·.request) := by
  intro d before invocations kept
  have hspares := dispatcher_isSparing config
  refine ⟨d.dispatchAt_results now text s, fun front step back h hf =>
    session_of_mem_steps hspares h hf, fun hsome other hother => ?_, ?_⟩
  · obtain ⟨hsession, hresults⟩ := steps_of_succeeding hspares hother
    have hsuccesses : (d.dispatchAt text s now).report.successes.map (·.unplaced) =
        ((d.steps now before invocations).filter (·.result.isSuccess)).map
          (·.result.unplaced) := by
      rw [Report.successes, dispatchAt_results, List.filter_map, List.map_map]
      rfl
    have hresults' : (d.dispatchAt other s now).report.results.map (·.unplaced) =
        (d.dispatchAt text s now).report.successes.map (·.unplaced) := by
      rw [hsuccesses, dispatchAt_results, List.map_map, ← hresults]
      rfl
    have hne : invocations ≠ [] := fun hnil => hsome (by
      rw [Report.successes, dispatchAt_results_of_nil d now hnil, List.filter_nil])
    have hne' : (Reply.ofText other).invocations ≠ [] := fun hnil => hsome (by
      rw [dispatchAt_results_of_nil d now hnil] at hresults'
      exact List.map_eq_nil_iff.mp hresults'.symm)
    refine ⟨?_, hresults'⟩
    rw [dispatchAt_session d now hne, dispatchAt_session d now hne']
    exact hsession
  · refine Invocation.requests_written fun i hi => ?_
    have hm : i ∈ (Reply.ofText text).invocations := d.mem_of_mem_succeeding now hi
    rw [Invocation.ofText_invocations] at hm
    exact Invocation.writable_of_mem_extract hm

end Standard

end ReplyActions
