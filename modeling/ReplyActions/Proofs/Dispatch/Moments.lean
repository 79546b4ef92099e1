import ReplyActions.Proofs.Dispatch.Sequence

/-!
# Runs, moment by moment

A run of replies is a chain of single invocations. Each of them meets a session, and what it leaves
of the agent is met by the next; sweeps in between concern the ledger only. So what is shown of
single invocations holds at every moment of a run, and of the run as a whole.
-/

namespace ReplyActions
open Number

/-- An invocation in the course of a run, and what it meets. -/
structure Moment (α : Type) where
  now : Tick
  before : Session α
  invocation : Invocation

namespace Dispatcher

variable {α : Type} [Agent α] (d : Dispatcher α)

def stepAt (m : Moment α) : Step α := d.step m.now m.before m.invocation

def momentsOf (now : Tick) (s : Session α) : List Invocation → List (Moment α)
  | [] => []
  | i :: rest => ⟨now, s, i⟩ :: momentsOf now (d.step now s i).session rest

/-- The moments of replies that are dispatched one after the other. -/
def moments (s : Session α) : List (String × Tick) → List (Moment α)
  | [] => []
  | (text, now) :: rest =>
    d.momentsOf now (d.opened now s) (Reply.ofText text).invocations ++
      moments (d.dispatchAt text s now).session rest

/-- From one state of the agent to another by way of some moments. -/
inductive Leads (d : Dispatcher α) : α → List (Moment α) → α → Prop
  | nil (agent : α) : Leads d agent [] agent
  | cons (m : Moment α) {rest : List (Moment α)} {last : α}
      (rest_leads : Leads d (d.stepAt m).session.agent rest last) :
      Leads d m.before.agent (m :: rest) last

variable {d}

theorem Leads.append {front back : List (Moment α)} {first middle last : α}
    (hfront : d.Leads first front middle) (hback : d.Leads middle back last) :
    d.Leads first (front ++ back) last := by
  induction hfront with
  | nil agent => exact hback
  | cons m _ ih => exact .cons m (ih hback)

/-- What every moment preserves holds at each of them, and in the end. -/
theorem Leads.invariant {P : α → Prop} {moments : List (Moment α)} {first last : α}
    (h : d.Leads first moments last)
    (hstep : ∀ m ∈ moments, P m.before.agent → P (d.stepAt m).session.agent) (hfirst : P first) :
    (∀ m ∈ moments, P m.before.agent) ∧ P last := by
  induction h with
  | nil agent => exact ⟨fun m hm => absurd hm List.not_mem_nil, hfirst⟩
  | cons m _ ih =>
    obtain ⟨hrest, hlast⟩ := ih (fun other ho => hstep other (List.mem_cons_of_mem _ ho))
      (hstep m List.mem_cons_self hfirst)
    exact ⟨List.forall_mem_cons.mpr ⟨hfirst, hrest⟩, hlast⟩

variable (d) (now : Tick)

theorem leads_momentsOf (s : Session α) (invocations : List Invocation) :
    d.Leads s.agent (d.momentsOf now s invocations)
      (sessionAfter s (d.steps now s invocations)).agent := by
  induction invocations generalizing s with
  | nil => exact .nil s.agent
  | cons i rest ih =>
    rw [steps, sessionAfter_cons]
    exact .cons ⟨now, s, i⟩ (ih _)

theorem map_stepAt_momentsOf (s : Session α) (invocations : List Invocation) :
    (d.momentsOf now s invocations).map d.stepAt = d.steps now s invocations := by
  induction invocations generalizing s with
  | nil => rfl
  | cons i rest ih =>
    rw [momentsOf, List.map_cons, ih]
    rfl

theorem invocation_of_mem_momentsOf {s : Session α} {invocations : List Invocation} {m : Moment α}
    (h : m ∈ d.momentsOf now s invocations) : m.invocation ∈ invocations := by
  induction invocations generalizing s with
  | nil => exact absurd h List.not_mem_nil
  | cons i rest ih =>
    rcases List.mem_cons.mp h with rfl | h
    · exact List.mem_cons_self
    · exact List.mem_cons_of_mem _ (ih h)

theorem leads_dispatchAt (text : String) (s : Session α) :
    d.Leads s.agent (d.momentsOf now (d.opened now s) (Reply.ofText text).invocations)
      (d.dispatchAt text s now).session.agent := by
  have hleads := d.leads_momentsOf now (d.opened now s) (Reply.ofText text).invocations
  by_cases hnil : (Reply.ofText text).invocations = []
  · rw [dispatchAt_session_of_nil d now hnil]
    rw [hnil] at hleads ⊢
    exact hleads
  · rw [dispatchAt_session d now hnil]
    exact hleads

/-- The moments of a run lead from the agent at its beginning to the agent at its end. -/
theorem leads_moments (s : Session α) (replies : List (String × Tick)) :
    d.Leads s.agent (d.moments s replies) (d.dispatchAll s replies).1.agent := by
  induction replies generalizing s with
  | nil => exact .nil s.agent
  | cons reply rest ih =>
    obtain ⟨text, now⟩ := reply
    exact (d.leads_dispatchAt now text s).append (ih _)

/-- The moments of a run have the results that its reports hold. -/
theorem results_moments (s : Session α) (replies : List (String × Tick)) :
    (d.moments s replies).map (fun m => (d.stepAt m).result) =
      (d.dispatchAll s replies).2.flatMap (·.results) := by
  induction replies generalizing s with
  | nil => rfl
  | cons reply rest ih =>
    obtain ⟨text, now⟩ := reply
    have hfirst : (d.momentsOf now (d.opened now s) (Reply.ofText text).invocations).map
        (fun m => (d.stepAt m).result) = (d.dispatchAt text s now).report.results := by
      rw [dispatchAt_results, batch, ← map_stepAt_momentsOf, List.map_map]
      rfl
    simp only [moments, dispatchAll, List.map_append, List.flatMap_cons, hfirst, ih]

theorem canonicalId_of_mem_moments {s : Session α} {replies : List (String × Tick)} {m : Moment α}
    (h : m ∈ d.moments s replies) : canonicalId m.invocation.id = m.invocation.id := by
  induction replies generalizing s with
  | nil => exact absurd h List.not_mem_nil
  | cons reply rest ih =>
    rcases List.mem_append.mp h with h | h
    · have hm := d.invocation_of_mem_momentsOf _ h
      rw [Invocation.ofText_invocations] at hm
      exact (Invocation.writable_of_mem_extract hm).canonical
    · exact ih h

end Dispatcher

end ReplyActions
