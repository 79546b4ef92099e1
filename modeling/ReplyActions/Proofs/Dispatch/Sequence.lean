import ReplyActions.Proofs.Dispatch.Replay
import ReplyActions.Proofs.Quota.Sweeping

/-!
# One reply or many

A reply is carried out like its tokens, dispatched one after the other in replies of their own at
the same time. Each of those replies may begin with a sweep; none but the first finds anything to
drop.
-/

namespace ReplyActions.Dispatcher
open Number

/-! ### Opening sweeps -/

section Opening

variable {α : Type} (d : Dispatcher α) (now : Tick)

/-- A batch that begins with the ledger leaves it as it is. -/
def IsSettled (ledger : Quota.Ledger) : Prop := (d.opening ledger now).1 = ledger

theorem opening_ledger (ledger : Quota.Ledger) :
    (d.opening ledger now).1 =
      if d.isSweepDue ledger now then ledger.swept now else ledger := by
  simp only [opening]
  split <;> rfl

theorem isSettled_iff (ledger : Quota.Ledger) :
    d.IsSettled now ledger ↔ (d.isSweepDue ledger now = true → ledger.swept now = ledger) := by
  rw [IsSettled, opening_ledger]
  cases d.isSweepDue ledger now with
  | true => simp only [if_true, true_implies]
  | false => simp only [Bool.false_eq_true, if_false, false_implies]

theorem isSettled_opening (ledger : Quota.Ledger) :
    d.IsSettled now (d.opening ledger now).1 := by
  rw [opening_ledger, isSettled_iff]
  split
  · exact fun _ => ledger.swept_swept now
  · next hdue => exact fun h => absurd h hdue

variable {d now}

theorem IsSettled.record {ledger : Quota.Ledger} (h : d.IsSettled now ledger)
    (policy : Quota.Policy) (key : Quota.Key) (magnitude : Option Points) :
    d.IsSettled now (ledger.record policy key now magnitude) := by
  rw [isSettled_iff] at h ⊢
  -- a grant leaves the time of the last sweep alone
  have hsame : d.isSweepDue (ledger.record policy key now magnitude) now =
      d.isSweepDue ledger now := rfl
  rw [hsame]
  exact fun hdue => Quota.Ledger.swept_record policy key magnitude (h hdue)

theorem IsSettled.opened {s : Session α} (h : d.IsSettled now s.ledger) : d.opened now s = s := by
  have hledger : (d.opening s.ledger now).1 = s.ledger := h
  rw [Dispatcher.opened, hledger]

end Opening

/-! ### A token by itself -/

variable {α : Type} [Agent α]

/-- Replies one after the other with their times: the session afterwards, and all reports. -/
def dispatchAll (d : Dispatcher α) (s : Session α) :
    List (String × Tick) → Session α × List Report
  | [] => (s, [])
  | (text, now) :: rest =>
    let first := d.dispatchAt text s now
    let others := d.dispatchAll first.session rest
    (others.1, first.report :: others.2)

variable {d : Dispatcher α} {now : Tick}

theorem IsSettled.step {s : Session α} (h : d.IsSettled now s.ledger) (i : Invocation) :
    d.IsSettled now (d.step now s i).session.ledger := by
  rcases d.step_ledger_cases now s i with hs | ⟨-, admission, policy, -, -, -, -, hs⟩
  · rw [hs]
    exact h
  · rw [hs]
    exact h.record policy _ admission.magnitude

/-- The reply that consists of the token of an invocation carries out just that invocation. -/
theorem dispatchAt_token (d : Dispatcher α) (now : Tick) {i : Invocation} (hw : i.Writable)
    (s : Session α) :
    let done := d.dispatchAt (String.ofList i.token) s now
    let step := d.step now (d.opened now s) i
    done.session = step.session ∧
      done.report.results.map (·.unplaced) = [step.result.unplaced] := by
  intro done step
  have hwritten : String.ofList i.token = Invocation.written [i] := by
    rw [Invocation.written, List.flatMap_cons, List.flatMap_nil, List.append_nil]
  have hrequests : (Reply.ofText (String.ofList i.token)).invocations.map (·.request) =
      [i.request] := by
    rw [hwritten]
    exact Invocation.requests_written fun other ho => List.mem_singleton.mp ho ▸ hw
  obtain ⟨j, rest, hj, hrequest, hrest⟩ := List.map_eq_cons_iff.mp hrequests
  rw [List.map_eq_nil_iff.mp hrest] at hj
  have hne : (Reply.ofText (String.ofList i.token)).invocations ≠ [] := by
    rw [hj]
    exact List.cons_ne_nil _ _
  have hbatch : d.batch now (String.ofList i.token) s = [d.step now (d.opened now s) j] := by
    rw [batch, hj]
    rfl
  obtain ⟨hsession, hresult⟩ := d.step_congr now (d.opened now s) hrequest
  refine ⟨?_, ?_⟩
  · simp only [done]
    rw [dispatchAt_session d now hne, hbatch, sessionAfter_cons, sessionAfter_nil]
    exact hsession
  · simp only [done]
    rw [dispatchAt_results, hbatch, List.map_cons, List.map_cons, List.map_nil, List.map_nil,
      hresult]

theorem outcomes_token (d : Dispatcher α) (now : Tick) {i : Invocation} (hw : i.Writable)
    (s : Session α) :
    (d.dispatchAt (String.ofList i.token) s now).report.results.map (·.outcome) =
      [(d.step now (d.opened now s) i).result.outcome] := by
  have hresults := congrArg (List.map Result.outcome) (d.dispatchAt_token now hw s).2
  rw [List.map_map] at hresults
  exact hresults

def tokenReplies (now : Tick) (invocations : List Invocation) : List (String × Tick) :=
  invocations.map fun i => (String.ofList i.token, now)

theorem dispatchAll_tokenReplies {s : Session α} {invocations : List Invocation}
    (h : d.IsSettled now s.ledger) (hw : ∀ i ∈ invocations, i.Writable) :
    (d.dispatchAll s (tokenReplies now invocations)).1 =
        sessionAfter s (d.steps now s invocations) ∧
      (d.dispatchAll s (tokenReplies now invocations)).2.map (·.results.map (·.unplaced)) =
        (d.steps now s invocations).map fun step => [step.result.unplaced] := by
  induction invocations generalizing s with
  | nil => exact ⟨rfl, rfl⟩
  | cons i rest ih =>
    obtain ⟨hsession, hresults⟩ := dispatchAt_token d now (hw i List.mem_cons_self) s
    rw [h.opened] at hsession hresults
    have hrest := ih (h.step i) fun other ho => hw other (List.mem_cons_of_mem _ ho)
    simp only [tokenReplies, List.map_cons, dispatchAll, steps, sessionAfter_cons] at hrest ⊢
    rw [hsession, hresults, hrest.1, hrest.2]
    exact ⟨rfl, rfl⟩

/-- A reply has the same effects on the agent and on the ledger, and the same results apart from
their offsets, as its tokens in replies of their own, each of which gets one result. -/
theorem dispatchAt_eq_tokenReplies (d : Dispatcher α) (text : String) (s : Session α)
    (now : Tick) :
    let whole := d.dispatchAt text s now
    let single := d.dispatchAll s (tokenReplies now (Invocation.extract text.toList))
    single.1 = whole.session ∧
      single.2.map (·.results.map (·.unplaced)) =
        whole.report.results.map fun result => [result.unplaced] := by
  intro whole single
  have hw : ∀ i ∈ Invocation.extract text.toList, i.Writable := fun i hi =>
    Invocation.writable_of_mem_extract hi
  have hinvocations := Invocation.ofText_invocations text
  simp only [whole, single]
  cases hi : Invocation.extract text.toList with
  | nil =>
    rw [hi] at hinvocations
    rw [dispatchAt_session_of_nil d now hinvocations, dispatchAt_results_of_nil d now hinvocations]
    exact ⟨rfl, rfl⟩
  | cons i rest =>
    rw [hi] at hinvocations hw
    have hne : (Reply.ofText text).invocations ≠ [] := hinvocations ▸ List.cons_ne_nil _ _
    obtain ⟨hsession, hresult⟩ := dispatchAt_token d now (hw i List.mem_cons_self) s
    -- the first token has the only sweep that matters
    obtain ⟨hafter, hresults⟩ := dispatchAll_tokenReplies
      ((d.isSettled_opening now s.ledger).step (s := d.opened now s) i)
      fun other ho => hw other (List.mem_cons_of_mem _ ho)
    rw [dispatchAt_session d now hne, dispatchAt_results, batch, hinvocations]
    simp only [tokenReplies, List.map_cons, dispatchAll, steps, sessionAfter_cons]
      at hafter hresults ⊢
    rw [hsession, hresult, hafter, hresults, List.map_map]
    exact ⟨rfl, rfl⟩

end ReplyActions.Dispatcher
