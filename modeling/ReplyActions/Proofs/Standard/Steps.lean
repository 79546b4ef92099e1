import Mathlib.Data.List.Nodup
import ReplyActions.Proofs.Dispatch.Sequence
import ReplyActions.Proofs.Standard.Availability
import ReplyActions.Proofs.Standard.Frame

/-!
# Steps of the standard directives

What there is behind a success, and what becomes of a directive that is not limited by a quota: it
is carried out or refused as its own condition says.
-/

namespace ReplyActions

theorem Action.execute_handler {α : Type} (action : Action α) (agent : α) (params : Params)
    (context : Context) :
    action.handler.execute agent params context =
      ((action.execute agent params context).1,
        .finished (action.execute agent params context).2) := rfl

theorem Result.isSuccess_iff {r : Result} : r.isSuccess = true ↔ r.outcome = .success :=
  decide_eq_true_iff

namespace Standard
open Number

/-! ### Identifiers -/

theorem writable_of_mem_actions {action : Action Colonist} (hm : action ∈ actions) {params : Params}
    (hparams : ∀ param ∈ params, Token.IsSegment param.toList) :
    (Invocation.mk action.definition.id params 0 0).Writable := by
  have hids : ∀ action ∈ actions, action.definition.id ≠ "" ∧
      canonicalId action.definition.id = action.definition.id ∧
      Token.IsSegment action.definition.id.toList := by decide
  obtain ⟨hnamed, hcanonical, hsegment⟩ := hids action hm
  exact ⟨hnamed, hcanonical, hsegment, hparams⟩

theorem canonicalId_of_mem_actions {action : Action Colonist} (hm : action ∈ actions) :
    canonicalId action.definition.id = action.definition.id :=
  (writable_of_mem_actions hm (List.forall_mem_nil _)).canonical

/-- Standard directives with the same identifier are the same. -/
theorem eq_of_id {one other : Action Colonist} (hone : one ∈ actions) (hother : other ∈ actions)
    (h : one.definition.id = other.definition.id) : one = other := by
  have hnodup : (actions.map (·.definition.id)).Nodup := by decide
  exact List.inj_on_of_nodup_map hnodup hone hother h

variable {config : Config} {now : Tick} {s : Session Colonist} {i : Invocation}
  {action : Action Colonist}

/-! ### Successes -/

/-- A directive that has been carried out with success: it is the one that was asked for, it was
admitted, and what it made of the colonist is what the step leaves and records. -/
structure Succeeds (config : Config) (now : Tick) (s : Session Colonist) (i : Invocation)
    (action : Action Colonist) (admission : Admission) (after : Colonist) (effect : Effect) :
    Prop where
  listed : action ∈ actions
  named : action.definition.id = canonicalId i.id
  admitted : ((dispatcher config).gate s.ledger now).Admits action.handler s.agent i.params
    admission
  executed : action.execute s.agent i.params ⟨now, admission.magnitude, config.effects⟩ =
    (after, .ok effect)
  session : ((dispatcher config).step now s i).session =
    ⟨after, Dispatcher.recorded s.ledger admission i.id after now⟩
  result : ((dispatcher config).step now s i).result = .succeeded i effect

theorem exists_succeeds (h : ((dispatcher config).step now s i).result.isSuccess = true) :
    ∃ action admission after effect, Succeeds config now s i action admission after effect := by
  obtain ⟨handler, admission, after, effect, hfound, hadmitted, hdone, hsession, hresult⟩ :=
    (dispatcher config).step_success now h
  obtain ⟨action, hm, rfl⟩ := lookup_catalog hfound
  rw [Action.execute_handler] at hdone
  obtain ⟨hafter, heffect⟩ := Prod.mk.inj hdone
  have hnamed : action.definition.id = canonicalId i.id := by
    rw [← canonicalId_of_mem_actions hm]
    exact (Catalog.lookup_ofList hfound).2
  exact ⟨action, admission, after, effect, hm, hnamed, Gate.examine_eq_iff.mp hadmitted,
    Prod.ext hafter (Attempt.finished.inj heffect), hsession, hresult⟩

variable {admission : Admission} {after : Colonist} {effect : Effect}

theorem Succeeds.condition (h : Succeeds config now s i action admission after effect) :
    action.canExecute s.agent i.params = true := Attempt.finished.inj h.admitted.condition

theorem Succeeds.fits (h : Succeeds config now s i action admission after effect) :
    action.definition.validate i.params = .ok () := h.admitted.fits

theorem Succeeds.agreesBut (h : Succeeds config now s i action admission after effect)
    {aspects : List Aspect} (hchanges : action.ChangesOnly aspects) :
    after.AgreesBut s.agent aspects := by
  have hagrees := hchanges s.agent i.params ⟨now, admission.magnitude, config.effects⟩
  rw [h.executed] at hagrees
  exact hagrees

theorem Succeeds.person (h : Succeeds config now s i action admission after effect) :
    after.person = s.agent.person := by
  obtain ⟨aspects, hchanges⟩ := exists_changesOnly h.listed
  exact (h.agreesBut hchanges).person

theorem Succeeds.eq (h : Succeeds config now s i action admission after effect)
    {asked : Action Colonist} (hm : asked ∈ actions) (hid : i.id = asked.definition.id) :
    action = asked := by
  refine eq_of_id h.listed hm (h.named.trans ?_)
  rw [hid, canonicalId_of_mem_actions hm]

/-! ### Directives without a quota -/

/-- The directive is switched on, not limited, and without a magnitude. -/
structure IsFree (config : Config) (action : Action Colonist) : Prop where
  listed : action ∈ actions
  enabled : config.isDisabled action.definition.id = false
  unlimited : config.quotaFor action.definition.id action.quota = none
  plain : ∀ params, action.magnitude params = none

theorem magnitude_of_quota_eq_none (hm : action ∈ actions) (hquota : action.quota = none)
    (params : Params) : action.magnitude params = none := by
  -- the three directives with a magnitude are limited
  have hplain : ∀ action ∈ actions, action.quota = none → action.magnitude params = none := by
    simp only [actions, List.forall_mem_cons, List.not_mem_nil, false_implies, implies_true,
      and_true]
    and_intros <;> intro h <;> first | rfl | exact absurd h (Option.some_ne_none _)
  exact hplain action hm hquota

/-- A directive without a quota of its own, if the settings neither switch it off nor limit it. -/
theorem isFree_of_quota_eq_none (hm : action ∈ actions) (hquota : action.quota = none)
    (hon : config.isDisabled action.definition.id = false)
    (hfree : config.quotaFor action.definition.id none = none) : IsFree config action where
  listed := hm
  enabled := hon
  unlimited := by
    rw [hquota]
    exact hfree
  plain := magnitude_of_quota_eq_none hm hquota

theorem IsFree.examine (h : IsFree config action) (ledger : Quota.Ledger) (now : Tick)
    (c : Colonist) {params : Params} (hfits : action.definition.validate params = .ok ()) :
    ((dispatcher config).gate ledger now).examine action.handler c params =
      .finished (if action.canExecute c params then .ok ⟨none, none⟩
        else .error .precondition) := by
  have hreaches : ((dispatcher config).gate ledger now).Reaches action.handler params :=
    ⟨h.enabled, hfits⟩
  cases hcan : action.canExecute c params with
  | false => exact Gate.Refuses.examine (.condition hreaches (congrArg Attempt.finished hcan))
  | true =>
    refine Gate.Admits.examine ⟨⟨⟨hreaches, congrArg Attempt.finished hcan⟩, ?_, ?_⟩, ?_⟩
    · exact ⟨none, congrArg Attempt.finished (h.plain params), rfl⟩
    · exact ⟨action.quota, rfl, h.unlimited.symm⟩
    · exact fun policy hpolicy => absurd hpolicy (by simp only [reduceCtorEq, not_false_eq_true])

theorem IsFree.lookup (h : IsFree config action) (hid : i.id = action.definition.id) :
    (dispatcher config).catalog.lookup i.id = some action.handler := by
  rw [hid]
  exact lookup_action action h.listed

theorem IsFree.step_refused (h : IsFree config action) (now : Tick) (s : Session Colonist)
    (i : Invocation) (hid : i.id = action.definition.id)
    (hfits : action.definition.validate i.params = .ok ())
    (hcan : action.canExecute s.agent i.params = false) :
    ((dispatcher config).step now s i).result.outcome = .preconditionFailed ∧
      ((dispatcher config).step now s i).session = s := by
  have hexamined := h.examine s.ledger now s.agent hfits
  rw [hcan] at hexamined
  rw [Dispatcher.step, h.lookup hid]
  simp only [hexamined]
  exact ⟨rfl, rfl⟩

theorem IsFree.step_performed (h : IsFree config action) (now : Tick) (s : Session Colonist)
    (i : Invocation) (hid : i.id = action.definition.id)
    (hfits : action.definition.validate i.params = .ok ())
    (hcan : action.canExecute s.agent i.params = true)
    (hdone : action.execute s.agent i.params ⟨now, none, config.effects⟩ = (after, .ok effect)) :
    ((dispatcher config).step now s i).result.outcome = .success ∧
      ((dispatcher config).step now s i).session = ⟨after, s.ledger⟩ := by
  have hexamined := h.examine s.ledger now s.agent hfits
  rw [hcan] at hexamined
  have hexecuted : action.handler.execute s.agent i.params
      ⟨now, none, (dispatcher config).config.effects⟩ = (after, .finished (.ok effect)) := by
    rw [Action.execute_handler]
    exact congrArg (fun done => (done.1, Attempt.finished done.2)) hdone
  rw [Dispatcher.step, h.lookup hid]
  simp only [hexamined, if_true, Dispatcher.perform, hexecuted]
  exact ⟨rfl, rfl⟩

/-! ### A reply that asks for one thing -/

/-- The token that asks for a directive with some values. -/
def asking (id : String) (params : List String) : String :=
  "[ACTION:" ++ params.foldl (fun text param => text ++ ":" ++ param) id ++ "]"

theorem asking_eq (id : String) (params : List String) :
    asking id params = String.ofList (Invocation.mk id params 0 0).token := by
  have hjoined : (params.foldl (fun text param => text ++ ":" ++ param) id).toList =
      Token.joined (id.toList :: params.map String.toList) := by
    induction params generalizing id with
    | nil => rfl
    | cons param rest ih =>
      rw [List.foldl_cons, ih]
      cases rest <;> simp [Token.joined]
  have htext : (asking id params).toList = (Invocation.mk id params 0 0).token := by
    rw [asking, String.toList_append, String.toList_append, hjoined]
    rfl
  rw [← htext, String.ofList_toList]

section

variable {params : Params} {id : String}

theorem dispatchAt_asking (config : Config) (now : Tick) (s : Session Colonist)
    (hm : action ∈ actions) (hid : id = action.definition.id)
    (hparams : ∀ param ∈ params, Token.IsSegment param.toList) :
    let done := (dispatcher config).dispatchAt (asking id params) s now
    let step := (dispatcher config).step now ((dispatcher config).opened now s) ⟨id, params, 0, 0⟩
    done.session = step.session ∧
      done.report.results.map (·.outcome) = [step.result.outcome] := by
  subst hid
  have hwritable := writable_of_mem_actions hm hparams
  have hsession := ((dispatcher config).dispatchAt_token now hwritable s).1
  have houtcome := (dispatcher config).outcomes_token now hwritable s
  rw [← asking_eq] at hsession houtcome
  exact ⟨hsession, houtcome⟩

variable {done : Dispatched Colonist}

theorem isSettled_asking (hm : action ∈ actions)
    (hdone : (dispatcher config).dispatchAt (asking id params) s now = done)
    (hid : id = action.definition.id) (hparams : ∀ param ∈ params, Token.IsSegment param.toList) :
    (dispatcher config).IsSettled now done.session.ledger := by
  have hopened : (dispatcher config).IsSettled now ((dispatcher config).opened now s).ledger :=
    (dispatcher config).isSettled_opening now s.ledger
  rw [← hdone, (dispatchAt_asking config now s hm hid hparams).1]
  exact hopened.step _

theorem executed_of_success (hm : action ∈ actions)
    (hdone : (dispatcher config).dispatchAt (asking id params) s now = done)
    (hid : id = action.definition.id) (hparams : ∀ param ∈ params, Token.IsSegment param.toList)
    (h : done.report.results.map (·.outcome) = [.success]) :
    action.definition.validate params = .ok () ∧ action.canExecute s.agent params = true ∧
      ∃ magnitude effect, action.execute s.agent params ⟨now, magnitude, config.effects⟩ =
        (done.session.agent, .ok effect) := by
  obtain ⟨hsession, houtcome⟩ := dispatchAt_asking config now s hm hid hparams
  rw [hdone] at hsession houtcome
  rw [houtcome, List.singleton_inj, ← Result.isSuccess_iff] at h
  obtain ⟨other, admission, after, effect, hsucceeds⟩ := exists_succeeds h
  obtain rfl := hsucceeds.eq hm hid
  rw [hsession, hsucceeds.session]
  exact ⟨hsucceeds.fits, hsucceeds.condition, admission.magnitude, effect, hsucceeds.executed⟩

theorem IsFree.dispatchAt_refused (h : IsFree config action)
    (hdone : (dispatcher config).dispatchAt (asking id params) s now = done)
    (hid : id = action.definition.id) (hparams : ∀ param ∈ params, Token.IsSegment param.toList)
    (hfits : action.definition.validate params = .ok ())
    (hcan : action.canExecute s.agent params = false) :
    done.report.results.map (·.outcome) = [.preconditionFailed] ∧
      done.session = (dispatcher config).opened now s := by
  obtain ⟨hsession, houtcome⟩ := dispatchAt_asking config now s h.listed hid hparams
  obtain ⟨hrefused, hsame⟩ := h.step_refused now ((dispatcher config).opened now s)
    ⟨id, params, 0, 0⟩ hid hfits hcan
  rw [hdone, hsame] at hsession
  rw [hdone, hrefused] at houtcome
  exact ⟨houtcome, hsession⟩

theorem IsFree.dispatchAt_performed (h : IsFree config action)
    (hdone : (dispatcher config).dispatchAt (asking id params) s now = done)
    (hid : id = action.definition.id) (hparams : ∀ param ∈ params, Token.IsSegment param.toList)
    (hfits : action.definition.validate params = .ok ())
    (hcan : action.canExecute s.agent params = true)
    (heffect : action.execute s.agent params ⟨now, none, config.effects⟩ = (after, .ok effect)) :
    done.report.results.map (·.outcome) = [.success] ∧
      done.session = ⟨after, ((dispatcher config).opened now s).ledger⟩ := by
  obtain ⟨hsession, houtcome⟩ := dispatchAt_asking config now s h.listed hid hparams
  obtain ⟨hperformed, hafter⟩ := h.step_performed now ((dispatcher config).opened now s)
    ⟨id, params, 0, 0⟩ hid hfits hcan heffect
  rw [hdone, hafter] at hsession
  rw [hdone, hperformed] at houtcome
  exact ⟨houtcome, hsession⟩

end

end Standard

end ReplyActions
