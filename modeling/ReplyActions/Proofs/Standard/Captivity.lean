import ReplyActions.Proofs.Dispatch.Moments
import ReplyActions.Proofs.Dispatch.Replay
import ReplyActions.Proofs.Standard.Steps

/-!
# Captivity and death

Directives do not take prisoners. A prisoner gets free by being recruited, once there is no
resistance left, or by being released, and until then neither is given work nor goes anywhere. The
dead are beyond the reach of directives.
-/

namespace ReplyActions
open Number

/-- The ways in which a prisoner gets free: what is asked for, and of whom. -/
inductive Frees (prisoner : Colonist) : String → Prop
  | recruited {captivity : Captivity} (held : prisoner.captivity = some captivity)
    (recruitable : captivity.recruitable = true) (worn : captivity.resistance.val = 0) :
    Frees prisoner "RECRUIT"
  | released : Frees prisoner "RELEASE_PRISONER"

/-- What a directive that is carried out may do about captivity. -/
structure KeepsCaptive (id : String) (before after : Colonist) : Prop where
  notTaken : before.isCaptive = false → after.isCaptive = false
  freed : before.isCaptive = true → after.isCaptive = false → Frees before id
  work : before.isCaptive = true → after.workPriorities = before.workPriorities
  place : before.isCaptive = true → after.location ≠ before.location →
    after.isCaptive = false ∧ id = "RELEASE_PRISONER"

/-- What an invocation may make of a colonist, whatever its result. -/
structure Respects (before after : Colonist) (result : Result) : Prop where
  person : after.person = before.person
  notTaken : before.isCaptive = false → after.isCaptive = false
  freed : before.isCaptive = true → after.isCaptive = false →
    result.isSuccess = true ∧ Frees before result.directiveId
  work : before.isCaptive = true → after.workPriorities = before.workPriorities
  place : before.isCaptive = true → after.location ≠ before.location →
    after.isCaptive = false ∧ result.isSuccess = true ∧ result.directiveId = "RELEASE_PRISONER"
  dead : before.alive = false → after = before ∧ result.isSuccess = false

namespace Standard

/-! ### Conditions -/

theorem alive_of_canExecute {action : Action Colonist} (hm : action ∈ actions) {c : Colonist}
    {params : Params} (h : action.canExecute c params = true) : c.alive = true := by
  cases halive : c.alive with
  | true => rfl
  | false =>
    have hrefused : ∀ action ∈ actions, action.canExecute c params = false := by
      simp [actions, heal, regrowLimb, addThought, removeThought, changeOpinion, gainXp,
        reduceResistance, recruit, releasePrisoner, setWorkPriority, satisfyNeed, addTrait,
        removeTrait, giveItem, dropItem, goTo, inspire, Colonist.isActive, halive]
    rw [hrefused action hm] at h
    exact h

theorem isWonOver_iff {c : Colonist} :
    isWonOver c = true ↔ ∃ captivity, c.captivity = some captivity ∧
      captivity.recruitable = true ∧ captivity.resistance.val = 0 := by
  simp only [isWonOver]
  cases c.captivity with
  | none => simp
  | some captivity => simp

/-! ### Directives -/

def RespectsCaptivity (action : Action Colonist) : Prop :=
  ∀ c params context, action.canExecute c params = true →
    KeepsCaptive action.definition.id c (action.execute c params context).1

variable {id : String} {before after : Colonist}

theorem keepsCaptive_of_free (hfree : before.isCaptive = false) (hkept : after.isCaptive = false) :
    KeepsCaptive id before after where
  notTaken _ := hkept
  freed hcaptive _ := absurd hcaptive (Bool.eq_false_iff.mp hfree)
  work hcaptive := absurd hcaptive (Bool.eq_false_iff.mp hfree)
  place hcaptive := absurd hcaptive (Bool.eq_false_iff.mp hfree)

theorem keepsCaptive_of_held (hkept : after.isCaptive = before.isCaptive)
    (hwork : after.workPriorities = before.workPriorities)
    (hplace : after.location = before.location) : KeepsCaptive id before after where
  notTaken hfree := hkept.trans hfree
  freed hcaptive hfree := by
    rw [hkept, hcaptive] at hfree
    contradiction
  work _ := hwork
  place _ hmoved := absurd hplace hmoved

/-- Most directives work on something else. -/
theorem respectsCaptivity_of_changesOnly {action : Action Colonist} {aspects : List Aspect}
    (h : action.ChangesOnly aspects)
    (hother : ∀ p ∈ [Aspect.captivity, .workPriorities, .location], p ∉ aspects) :
    RespectsCaptivity action := by
  intro c params context _
  have hagrees := h c params context
  have hcaptivity : (action.execute c params context).1.captivity = c.captivity :=
    hagrees.aspect (hother .captivity (by decide))
  have hwork : (action.execute c params context).1.workPriorities = c.workPriorities :=
    hagrees.aspect (hother .workPriorities (by decide))
  have hplace : (action.execute c params context).1.location = c.location :=
    hagrees.aspect (hother .location (by decide))
  exact keepsCaptive_of_held (congrArg Option.isSome hcaptivity) hwork hplace

theorem reduceResistance_respects : RespectsCaptivity reduceResistance := by
  intro c params context _
  have hagrees := reduceResistance_changesOnly c params context
  have hheld : (reduceResistance.execute c params context).1.isCaptive = c.isCaptive := by
    simp only [reduceResistance]
    split
    · rfl
    · next captivity hcaptivity => simp only [Colonist.isCaptive, hcaptivity, Option.isSome_some]
  exact keepsCaptive_of_held hheld (hagrees.aspect (p := .workPriorities) (by decide))
    (hagrees.aspect (p := .location) (by decide))

theorem recruit_respects : RespectsCaptivity recruit := by
  intro c params context hcan
  have hagrees := recruit_changesOnly c params context
  have hwork : (recruit.execute c params context).1.workPriorities = c.workPriorities :=
    hagrees.aspect (p := .workPriorities) (by decide)
  have hplace : (recruit.execute c params context).1.location = c.location :=
    hagrees.aspect (p := .location) (by decide)
  simp only [recruit, Bool.and_eq_true] at hcan
  obtain ⟨captivity, hheld, hrecruitable, hworn⟩ := isWonOver_iff.mp hcan.2
  have hcaptive : c.isCaptive = true := by rw [Colonist.isCaptive, hheld, Option.isSome_some]
  exact {
    notTaken := fun hfree => absurd hcaptive (Bool.eq_false_iff.mp hfree)
    freed := fun _ _ => .recruited hheld hrecruitable hworn
    work := fun _ => hwork
    place := fun _ hmoved => absurd hplace hmoved }

theorem releasePrisoner_respects : RespectsCaptivity releasePrisoner := by
  intro c params context hcan
  have hwork : (releasePrisoner.execute c params context).1.workPriorities = c.workPriorities :=
    (releasePrisoner_changesOnly c params context).aspect (p := .workPriorities) (by decide)
  simp only [releasePrisoner, Bool.and_eq_true] at hcan
  obtain ⟨captivity, hheld⟩ := Option.isSome_iff_exists.mp hcan.2
  have hfreed : (releasePrisoner.execute c params context).1.isCaptive = false := by
    simp only [releasePrisoner, hheld]
    rfl
  exact {
    notTaken := fun _ => hfreed
    freed := fun _ _ => .released
    work := fun _ => hwork
    place := fun _ _ => ⟨hfreed, rfl⟩ }

theorem setWorkPriority_respects : RespectsCaptivity setWorkPriority := by
  intro c params context hcan
  have hkept : (setWorkPriority.execute c params context).1.captivity = c.captivity :=
    (setWorkPriority_changesOnly c params context).aspect (p := .captivity) (by decide)
  simp only [setWorkPriority, Bool.and_eq_true, Bool.not_eq_true'] at hcan
  exact keepsCaptive_of_free hcan.2 ((congrArg Option.isSome hkept).trans hcan.2)

theorem goTo_respects : RespectsCaptivity goTo := by
  intro c params context hcan
  have hkept : (goTo.execute c params context).1.captivity = c.captivity :=
    (goTo_changesOnly c params context).aspect (p := .captivity) (by decide)
  simp only [goTo, Bool.and_eq_true, Bool.not_eq_true'] at hcan
  exact keepsCaptive_of_free hcan.2 ((congrArg Option.isSome hkept).trans hcan.2)

theorem respectsCaptivity_of_mem_actions : ∀ action ∈ actions, RespectsCaptivity action := by
  simp only [actions, List.forall_mem_cons, List.not_mem_nil, false_implies, implies_true, and_true]
  exact ⟨respectsCaptivity_of_changesOnly heal_changesOnly (by decide),
    respectsCaptivity_of_changesOnly regrowLimb_changesOnly (by decide),
    respectsCaptivity_of_changesOnly addThought_changesOnly (by decide),
    respectsCaptivity_of_changesOnly removeThought_changesOnly (by decide),
    respectsCaptivity_of_changesOnly changeOpinion_changesOnly (by decide),
    respectsCaptivity_of_changesOnly gainXp_changesOnly (by decide),
    reduceResistance_respects, recruit_respects, releasePrisoner_respects,
    setWorkPriority_respects,
    respectsCaptivity_of_changesOnly satisfyNeed_changesOnly (by decide),
    respectsCaptivity_of_changesOnly addTrait_changesOnly (by decide),
    respectsCaptivity_of_changesOnly removeTrait_changesOnly (by decide),
    respectsCaptivity_of_changesOnly giveItem_changesOnly (by decide),
    respectsCaptivity_of_changesOnly dropItem_changesOnly (by decide),
    goTo_respects,
    respectsCaptivity_of_changesOnly inspire_changesOnly (by decide)⟩

/-! ### Steps and runs -/

theorem respects_self (c : Colonist) {result : Result} (h : result.isSuccess = false) :
    Respects c c result where
  person := rfl
  notTaken hfree := hfree
  freed hcaptive hfree := absurd hcaptive (Bool.eq_false_iff.mp hfree)
  work _ := rfl
  place _ hmoved := absurd rfl hmoved
  dead _ := ⟨rfl, h⟩

theorem Succeeds.respects {config : Config} {now : Tick} {s : Session Colonist} {i : Invocation}
    {action : Action Colonist} {admission : Admission} {after : Colonist} {effect : Effect}
    (h : Succeeds config now s i action admission after effect) (hid : canonicalId i.id = i.id) :
    Respects s.agent after (.succeeded i effect) := by
  have halive : s.agent.alive = true := alive_of_canExecute h.listed h.condition
  have hkeeps := respectsCaptivity_of_mem_actions action h.listed s.agent i.params
    ⟨now, admission.magnitude, config.effects⟩ h.condition
  rw [h.executed, h.named, hid] at hkeeps
  exact {
    person := h.person
    notTaken := hkeeps.notTaken
    freed := fun hcaptive hfree => ⟨rfl, hkeeps.freed hcaptive hfree⟩
    work := hkeeps.work
    place := fun hcaptive hmoved =>
      ⟨(hkeeps.place hcaptive hmoved).1, rfl, (hkeeps.place hcaptive hmoved).2⟩
    dead := fun hdead => absurd halive (Bool.eq_false_iff.mp hdead) }

theorem step_respects (config : Config) (now : Tick) (s : Session Colonist) {i : Invocation}
    (hid : canonicalId i.id = i.id) :
    Respects s.agent ((dispatcher config).step now s i).session.agent
      ((dispatcher config).step now s i).result := by
  cases hsuccess : ((dispatcher config).step now s i).result.isSuccess with
  | false =>
    rw [Dispatcher.step_session_of_not_success (dispatcher_isSparing config) hsuccess]
    exact respects_self s.agent hsuccess
  | true =>
    obtain ⟨action, admission, after, effect, hdone⟩ := exists_succeeds hsuccess
    rw [hdone.session, hdone.result]
    exact hdone.respects hid

/-- What is respected at every moment is respected by the run as a whole. -/
theorem respects_run {d : Dispatcher Colonist} {s : Session Colonist}
    {replies : List (String × Tick)}
    (h : ∀ m ∈ d.moments s replies,
      Respects m.before.agent (d.stepAt m).session.agent (d.stepAt m).result) :
    let run := d.dispatchAll s replies
    run.1.agent.person = s.agent.person ∧
      (s.agent.isCaptive = false → run.1.agent.isCaptive = false) ∧
      (s.agent.alive = false →
        run.1.agent = s.agent ∧ ∀ report ∈ run.2, report.successes = []) := by
  intro run
  have hleads := d.leads_moments s replies
  refine ⟨?_, ?_, fun hdead => ?_⟩
  · exact (hleads.invariant (P := fun c => c.person = s.agent.person)
      (fun m hm hsame => (h m hm).person.trans hsame) rfl).2
  · exact fun hfree => (hleads.invariant (P := fun c => c.isCaptive = false)
      (fun m hm => (h m hm).notTaken) hfree).2
  · obtain ⟨hbefore, hlast⟩ := hleads.invariant (P := fun c => c = s.agent)
      (fun m hm hsame => ((h m hm).dead (hsame ▸ hdead)).1.trans hsame) rfl
    refine ⟨hlast, fun report hreport => ?_⟩
    rw [Report.successes, List.filter_eq_nil_iff]
    intro result hresult
    have hmem : result ∈ run.2.flatMap (·.results) :=
      List.mem_flatMap.mpr ⟨report, hreport, hresult⟩
    rw [← d.results_moments s replies] at hmem
    obtain ⟨m, hm, rfl⟩ := List.mem_map.mp hmem
    rw [((h m hm).dead (hbefore m hm ▸ hdead)).2]
    exact Bool.false_ne_true

/-- At every moment of every run, whatever is asked for: nobody is taken captive; a prisoner gets
free by being recruited without resistance or by being released, and until then has the same work
and stays in the same place; nothing happens to the dead; and who a colonist is does not change. So
it is for the run as a whole. -/
theorem captivity_and_death_are_respected (config : Config) (s : Session Colonist)
    (replies : List (String × Tick)) :
    let d := dispatcher config
    let run := d.dispatchAll s replies
    (∀ m ∈ d.moments s replies,
        Respects m.before.agent (d.stepAt m).session.agent (d.stepAt m).result) ∧
      d.Leads s.agent (d.moments s replies) run.1.agent ∧
      (d.moments s replies).map (fun m => (d.stepAt m).result) = run.2.flatMap (·.results) ∧
      run.1.agent.person = s.agent.person ∧
      (s.agent.isCaptive = false → run.1.agent.isCaptive = false) ∧
      (s.agent.alive = false →
        run.1.agent = s.agent ∧ ∀ report ∈ run.2, report.successes = []) := by
  have hrespects : ∀ m ∈ (dispatcher config).moments s replies,
      Respects m.before.agent ((dispatcher config).stepAt m).session.agent
        ((dispatcher config).stepAt m).result := by
    intro m hm
    rw [Dispatcher.stepAt]
    exact step_respects config m.now m.before ((dispatcher config).canonicalId_of_mem_moments hm)
  exact ⟨hrespects, (dispatcher config).leads_moments s replies,
    (dispatcher config).results_moments s replies, respects_run hrespects⟩

end Standard

end ReplyActions
