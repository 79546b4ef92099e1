import Mathlib.Data.List.Basic
import Mathlib.Data.List.Forall2
import ReplyActions.Proofs.Dispatch.Outcomes
import ReplyActions.Proofs.SortedMap

/-!
# What the log says of a reply

A reply that asks for nothing is not logged. Of any other the log tells how many invocations there
are, then of the opening sweep if there is one, and then of each invocation what has come of it, in
one record that stands for its result.
-/

namespace ReplyActions
open Number

/-! ### Records -/

namespace Log.Record

/-- What a record says under a name. -/
def detail? (r : Record) (name : String) : Option Datum := r.metadata.get? name

structure TellsOfBatch (r : Record) (invocations : Nat) : Prop where
  message : r.message = "directives.batch.parsed"
  invocations : r.detail? "invocations" = some (.int invocations)

structure TellsOfSweep (r : Record) (removed remaining : Nat) : Prop where
  message : r.message = "directives.quota.swept"
  removed : r.detail? "removed" = some (.int removed)
  remaining : r.detail? "remaining" = some (.int remaining)

end Log.Record

/-- The message under which an outcome is logged. -/
def Outcome.logMessage : Outcome → String
  | success => "directives.invocation.succeeded"
  | preconditionFailed => "directives.invocation.denied"
  | unknownDirective => "directives.invocation.unknown"
  | executionError => "directives.invocation.failed"

structure Log.Record.TellsOf (r : Log.Record) (result : Result) : Prop where
  message : r.message = result.outcome.logMessage
  directive : r.detail? "directive" = some (.text result.directiveId)

def Dispatched.records {α : Type} (done : Dispatched α) (module : String) : List Log.Record :=
  done.events.map (·.record module)

theorem Event.tellsOfBatch (module agent : String) (now : Tick) (invocations : Nat) :
    ((Event.parsed agent now invocations).record module).TellsOfBatch invocations where
  message := rfl
  invocations := by
    simp [Log.Record.detail?, record, details, SortedMap.ofList, SortedMap.get?_insert]

theorem Event.tellsOfSweep (module : String) (now : Tick) (removed remaining : Nat) :
    ((Event.swept now removed remaining).record module).TellsOfSweep removed remaining where
  message := rfl
  removed := by
    simp [Log.Record.detail?, record, details, SortedMap.ofList, SortedMap.get?_insert]
  remaining := by
    simp [Log.Record.detail?, record, details, SortedMap.ofList, SortedMap.get?_insert]

/-- The directive that an event is about. -/
def Event.directive? : Event → Option String
  | replaced directive => some directive
  | unknown directive _ => some directive
  | denied directive _ _ => some directive
  | succeeded directive _ _ _ => some directive
  | failed directive _ _ _ => some directive
  | crashed directive _ _ _ => some directive
  | parsed _ _ _ => none
  | swept _ _ _ => none
  | advertised _ _ _ _ => none

theorem Event.detail?_directive (event : Event) (module : String) :
    (event.record module).detail? "directive" = event.directive?.map .text := by
  cases event <;>
    simp [Log.Record.detail?, record, details, directive?, SortedMap.ofList, SortedMap.get?_insert]

/-! ### The opening sweep -/

namespace Quota.Ledger

/-- The entries that are no longer there after a sweep. -/
def dropped (ledger : Ledger) (now : Tick) : List (Key × Usage) :=
  ledger.entries.entries.filter fun entry => (ledger.swept now).usage? entry.1 = none

theorem sweptCount_eq (ledger : Ledger) (now : Tick) :
    ledger.sweptCount now = (ledger.dropped now).length := by
  have hdropped : ledger.dropped now =
      ledger.entries.entries.filter fun entry => !ledger.survives now entry.2 := by
    refine List.filter_congr fun entry he => ?_
    have hfound : ledger.entries.get? entry.1 = some entry.2 :=
      (ledger.entries.get?_eq_some_iff entry.1 entry.2).mpr he
    rw [usage?_swept, usage?, hfound]
    cases hs : ledger.survives now entry.2 <;> simp [hs]
  have hlength := ledger.entries.entries.length_eq_length_filter_add
    fun entry => ledger.survives now entry.2
  rw [hdropped, sweptCount]
  simp only [size, SortedMap.size, swept, SortedMap.filter]
  omega

end Quota.Ledger

/-! ### A reply -/

namespace Dispatcher

variable {α : Type} [Agent α] (d : Dispatcher α) (now : Tick)

/-- What comes of an invocation is logged in one record. -/
theorem step_tellsOf (module : String) (s : Session α) (i : Invocation) :
    ((d.step now s i).event.record module).TellsOf (d.step now s i).result := by
  have hevent : (d.step now s i).event.message = (d.step now s i).result.outcome.logMessage ∧
      (d.step now s i).event.directive? = some (d.step now s i).result.directiveId := by
    simp only [step]
    cases d.catalog.lookup i.id with
    | none => exact ⟨rfl, rfl⟩
    | some handler =>
      simp only
      split
      · exact ⟨rfl, rfl⟩
      · exact ⟨rfl, rfl⟩
      · simp only [perform]
        split <;> exact ⟨rfl, rfl⟩
  refine ⟨hevent.1, ?_⟩
  rw [Event.detail?_directive, hevent.2, Option.map_some]

theorem steps_tellOf (module : String) (s : Session α) (invocations : List Invocation) :
    List.Forall₂ Log.Record.TellsOf
      ((d.steps now s invocations).map fun step => step.event.record module)
      ((d.steps now s invocations).map (·.result)) := by
  induction invocations generalizing s with
  | nil => exact .nil
  | cons i rest ih => exact .cons (d.step_tellsOf now module s i) (ih _)

theorem dispatchAt_events {text : String} {s : Session α}
    (h : (Reply.ofText text).invocations ≠ []) :
    (d.dispatchAt text s now).events =
      .parsed (Agent.agentId s.agent) now (Reply.ofText text).invocations.length ::
        ((d.opening s.ledger now).2 ++ (d.batch now text s).map (·.event)) := by
  simp only [dispatchAt, batch]
  cases hi : (Reply.ofText text).invocations with
  | nil => exact absurd hi h
  | cons i rest => rfl

theorem dispatchAt_events_of_nil {text : String} {s : Session α}
    (h : (Reply.ofText text).invocations = []) : (d.dispatchAt text s now).events = [] := by
  simp only [dispatchAt, h, List.isEmpty_nil, if_true]

omit [Agent α] in
theorem opening_events (ledger : Quota.Ledger) :
    (d.opening ledger now).2 =
      if d.config.sweepInterval.val ≤ now.val - ledger.lastSweep.val then
        [.swept now (ledger.dropped now).length (ledger.swept now).size]
      else [] := by
  have hdue : d.isSweepDue ledger now = true ↔
      d.config.sweepInterval.val ≤ now.val - ledger.lastSweep.val := by
    rw [isSweepDue, decide_eq_true_eq, Unsigned.val_minus]
  simp only [opening, hdue, Quota.Ledger.sweptCount_eq]
  split
  · rfl
  · rfl

/-- A reply without invocations is not logged. The log of any other begins with their number, goes
on with the sweep if one is due, which tells how many entries went and how many stayed, and then
tells of every result in order, one for each invocation. -/
theorem dispatchAt_logs (d : Dispatcher α) (text : String) (s : Session α) (now : Tick)
    (module : String) :
    let done := d.dispatchAt text s now
    let invocations := Invocation.extract text.toList
    (invocations = [] → done.records module = []) ∧
      (invocations ≠ [] → ∃ batch sweeping others,
        done.records module = batch :: (sweeping ++ others) ∧
          batch.TellsOfBatch invocations.length ∧
          (if d.config.sweepInterval.val ≤ now.val - s.ledger.lastSweep.val then
            ∃ sweep, sweeping = [sweep] ∧
              sweep.TellsOfSweep (s.ledger.dropped now).length (s.ledger.swept now).size
          else sweeping = []) ∧
          List.Forall₂ Log.Record.TellsOf others done.report.results ∧
          done.report.results.map (·.directiveId) = invocations.map (·.id)) := by
  intro done invocations
  have hinvocations : (Reply.ofText text).invocations = invocations :=
    Invocation.ofText_invocations text
  refine ⟨fun hnil => ?_, fun hne => ?_⟩
  · rw [Dispatched.records, d.dispatchAt_events_of_nil now (hinvocations.trans hnil), List.map_nil]
  · refine ⟨(Event.parsed (Agent.agentId s.agent) now invocations.length).record module,
      (d.opening s.ledger now).2.map (·.record module),
      (d.batch now text s).map fun step => step.event.record module, ?_,
      Event.tellsOfBatch .., ?_, ?_, ?_⟩
    · rw [Dispatched.records, d.dispatchAt_events now (hinvocations.symm ▸ hne), hinvocations,
        List.map_cons, List.map_append, List.map_map]
      rfl
    · rw [opening_events]
      split
      · exact ⟨_, rfl, Event.tellsOfSweep ..⟩
      · rfl
    · simp only [done]
      rw [dispatchAt_results]
      exact d.steps_tellOf now module _ _
    · have hplaces := congrArg (List.map Prod.fst)
        (d.places_steps now (d.opened now s) (Reply.ofText text).invocations)
      rw [List.map_map, List.map_map, hinvocations] at hplaces
      simp only [done]
      rw [dispatchAt_results, batch, hinvocations, List.map_map]
      exact hplaces

end Dispatcher

end ReplyActions
