import ReplyActions.Proofs.Advertisement
import ReplyActions.Standard.Catalog

/-!
# Standard directives are not hidden

The conditions of the standard directives ask something of the colonist and, some of them, something
of the first parameter. Without parameters only the former is left, so whatever can be carried out
in some way is advertised.
-/

namespace ReplyActions

/-- The condition asks nothing of a colonist that it does not ask with parameters too. -/
def Action.IsOpen {α : Type} (action : Action α) : Prop :=
  ∀ agent params, action.canExecute agent params = true → action.canExecute agent [] = true

theorem Action.isOpen_of_ready {α : Type} {action : Action α} (ready : α → Bool)
    (h : ∀ agent params, action.canExecute agent params = ready agent) : action.IsOpen := by
  intro agent params hcan
  rw [h] at hcan ⊢
  exact hcan

theorem Action.isOpen_of_holdsAt {α : Type} {action : Action α} (ready : α → Bool)
    (condition : α → String → Bool)
    (h : ∀ agent params, action.canExecute agent params =
      (ready agent && Standard.holdsAt params 0 (condition agent))) : action.IsOpen := by
  intro agent params hcan
  rw [h, Bool.and_eq_true] at hcan
  rw [h, hcan.1, Bool.true_and]
  rfl

namespace Standard
open Number Colonist

/-! ### The conditions -/

theorem heal_isOpen : heal.IsOpen :=
  Action.isOpen_of_holdsAt (fun c => c.alive && c.isInjured) hasInjuryOn fun _ _ => rfl

theorem regrowLimb_isOpen : regrowLimb.IsOpen :=
  Action.isOpen_of_holdsAt alive (fun c part => c.isMissing (lookupLabel part)) fun _ _ => rfl

theorem addThought_isOpen : addThought.IsOpen := Action.isOpen_of_ready alive fun _ _ => rfl

theorem removeThought_isOpen : removeThought.IsOpen :=
  Action.isOpen_of_holdsAt (fun c => c.alive && !c.thoughts.isEmpty)
    (fun c label => (c.thoughtIndex? (lookupLabel label)).isSome) fun _ _ => rfl

theorem changeOpinion_isOpen : changeOpinion.IsOpen :=
  Action.isOpen_of_holdsAt alive (fun c target => !Text.sameIgnoringCase target c.id) fun _ _ => rfl

theorem gainXp_isOpen : gainXp.IsOpen :=
  Action.isOpen_of_holdsAt (fun c => c.alive && !c.skills.isEmpty)
    (fun c skill => c.skills.contains (mapKey skill)) fun _ _ => rfl

theorem reduceResistance_isOpen : reduceResistance.IsOpen :=
  Action.isOpen_of_ready (fun c => c.alive && c.isCaptive) fun _ _ => rfl

theorem recruit_isOpen : recruit.IsOpen :=
  Action.isOpen_of_ready (fun c => c.alive && isWonOver c) fun _ _ => rfl

theorem releasePrisoner_isOpen : releasePrisoner.IsOpen :=
  Action.isOpen_of_ready (fun c => c.alive && c.isCaptive) fun _ _ => rfl

theorem setWorkPriority_isOpen : setWorkPriority.IsOpen :=
  Action.isOpen_of_ready (fun c => c.isActive && !c.isCaptive) fun _ _ => rfl

theorem satisfyNeed_isOpen : satisfyNeed.IsOpen :=
  Action.isOpen_of_holdsAt (fun c => c.alive && !c.needs.isEmpty)
    (fun c need => (c.need? need).isSome) fun _ _ => rfl

theorem addTrait_isOpen : addTrait.IsOpen :=
  Action.isOpen_of_holdsAt (fun c => c.alive && c.traits.length < maxTraits)
    (fun c name => !c.hasTrait name) fun _ _ => rfl

theorem removeTrait_isOpen : removeTrait.IsOpen :=
  Action.isOpen_of_holdsAt (fun c => c.alive && !c.traits.isEmpty) hasTrait fun _ _ => rfl

theorem giveItem_isOpen : giveItem.IsOpen := Action.isOpen_of_ready alive fun _ _ => rfl

theorem dropItem_isOpen : dropItem.IsOpen :=
  Action.isOpen_of_holdsAt (fun c => c.alive && !c.inventory.isEmpty)
    (fun c item => 0 < (c.carried item).val) fun _ _ => rfl

theorem goTo_isOpen : goTo.IsOpen :=
  Action.isOpen_of_ready (fun c => c.isActive && !c.isCaptive) fun _ _ => rfl

theorem inspire_isOpen : inspire.IsOpen :=
  Action.isOpen_of_holdsAt (fun c => c.isActive && c.inspiration.isNone)
    (fun _ kind => inspirations.contains (mapKey kind)) fun _ _ => rfl

theorem isOpen_of_mem_actions : ∀ action ∈ actions, action.IsOpen := by
  simp only [actions, List.forall_mem_cons, List.not_mem_nil, false_implies, implies_true, and_true]
  exact ⟨heal_isOpen, regrowLimb_isOpen, addThought_isOpen, removeThought_isOpen,
    changeOpinion_isOpen, gainXp_isOpen, reduceResistance_isOpen, recruit_isOpen,
    releasePrisoner_isOpen, setWorkPriority_isOpen, satisfyNeed_isOpen, addTrait_isOpen,
    removeTrait_isOpen, giveItem_isOpen, dropItem_isOpen, goTo_isOpen, inspire_isOpen⟩

/-! ### The catalog -/

theorem toList_catalog : catalog.toList = actions.map Action.handler :=
  Catalog.toList_ofList (by decide)

theorem handler_mem_catalog {action : Action Colonist} (hm : action ∈ actions) :
    action.handler ∈ catalog.toList := by
  rw [toList_catalog]
  exact List.mem_map_of_mem hm

theorem lookup_action (action : Action Colonist) (hm : action ∈ actions) :
    catalog.lookup action.definition.id = some action.handler :=
  Catalog.lookup_ofList_eq_some_iff.mpr
    ⟨Catalog.mem_toList_ofList.mp (handler_mem_catalog hm), rfl⟩

theorem answers_of_mem_catalog {gate : Gate} {c : Colonist} :
    ∀ handler ∈ catalog.toList, Advertisement.Answers gate c handler := by
  rw [toList_catalog]
  intro handler hm
  obtain ⟨action, -, rfl⟩ := List.mem_map.mp hm
  exact gate.isAvailable_action action c

variable {gate : Gate} {c : Colonist} {action : Action Colonist}

theorem isAvailable_of_admitted (hm : action ∈ actions) {params : Params} {admission : Admission}
    (h : gate.examine action.handler c params = .finished (.ok admission)) :
    gate.isAvailable action.handler c = .finished true := by
  refine Gate.isAvailable_of_examine (fun hcan => ?_) h
  simp only [Action.handler, Attempt.finished.injEq] at hcan ⊢
  exact isOpen_of_mem_actions action hm c params hcan

theorem refused_of_unavailable (hm : action ∈ actions)
    (h : gate.isAvailable action.handler c ≠ .finished true) (params : Params) :
    ∃ refusal, gate.examine action.handler c params = .finished (.error refusal) := by
  obtain ⟨ruling, hruling⟩ := gate.examine_action action c params
  cases ruling with
  | error refusal => exact ⟨refusal, hruling⟩
  | ok admission => exact absurd (isAvailable_of_admitted hm hruling) h

theorem mem_offersIn (hm : action ∈ actions)
    (h : gate.isAvailable action.handler c = .finished true) :
    Advertisement.offerOf rules c action.definition ∈
      Advertisement.offersIn catalog rules gate c action.definition.category := by
  have hcategory : action.handler ∈ catalog.inCategory action.definition.category :=
    List.mem_filter.mpr ⟨handler_mem_catalog hm, decide_eq_true rfl⟩
  have hoffered : gate.offers c action.handler = true := decide_eq_true h
  exact List.mem_map.mpr ⟨action.handler, List.mem_filter.mpr ⟨hcategory, hoffered⟩, rfl⟩

/-- A directive that is admitted with some parameters is available, so its category is advertised
and it is either listed there or among those that are left out and counted. One that is not
available is refused, whatever the parameters. -/
theorem admitted_is_advertised (config : Config) (s : Session Colonist) (now : Tick)
    (action : Action Colonist) (hm : action ∈ actions) :
    let gate := (dispatcher config).gate s.ledger now
    let offer := Advertisement.offerOf rules s.agent action.definition
    ∃ a event, (dispatcher config).advertiseAt s now = .finished (a, event) ∧
      (∀ params admission,
        gate.examine action.handler s.agent params = .finished (.ok admission) →
          gate.isAvailable action.handler s.agent = .finished true ∧
          ∃ group ∈ a.groups, group.category = action.definition.category ∧
            ∃ left, Advertisement.Covers group left
                (Advertisement.offersIn catalog rules gate s.agent group.category) ∧
              (offer ∈ group.offers ∨ offer ∈ left)) ∧
      (gate.isAvailable action.handler s.agent ≠ .finished true →
        ∀ params, ∃ refusal,
          gate.examine action.handler s.agent params = .finished (.error refusal)) := by
  intro gate offer
  obtain ⟨a, ha⟩ : ∃ a, Advertisement.rank catalog rules gate s.agent = .finished a :=
    ⟨_, Advertisement.rank_eq answers_of_mem_catalog⟩
  refine ⟨a, .advertised s.agent.id now a.size a.groups.length, ?_, ?_, ?_⟩
  · have hrank : Advertisement.rank (dispatcher config).catalog (dispatcher config).rules gate
        s.agent = .finished a := ha
    simp only [Dispatcher.advertiseAt, gate, hrank]
    rfl
  · intro params admission hadmitted
    have havailable := isAvailable_of_admitted hm hadmitted
    have hoffer := mem_offersIn hm havailable
    obtain ⟨group, hgroup, hcategory, left, hcovers⟩ :=
      Advertisement.exists_group_of_rank answers_of_mem_catalog ha (List.ne_nil_of_mem hoffer)
    refine ⟨havailable, group, hgroup, hcategory, left, ?_, ?_⟩
    · rw [hcategory]
      exact hcovers
    · exact List.mem_append.mp (hcovers.perm.mem_iff.mpr hoffer)
  · exact refused_of_unavailable hm

/-- An arm can be healed, and nobody can be recruited who is free. -/
theorem admitted_is_advertised_arm :
    let ada : Colonist := { Colonist.fresh "ada" "Ada" with injuries := [⟨"arm", "cut", 3⟩] }
    let s : Session Colonist := ⟨ada, .empty 24⟩
    let gate := (dispatcher .standard).gate s.ledger 0
    let offer := Advertisement.offerOf rules ada heal.definition
    (∃ a event, (dispatcher .standard).advertiseAt s 0 = .finished (a, event) ∧
      gate.examine heal.handler ada ["Arm"] = .finished (.ok ⟨none, none⟩) ∧
      gate.isAvailable heal.handler ada = .finished true ∧
      ∃ group ∈ a.groups, group.category = .health ∧
        ∃ left, Advertisement.Covers group left
            (Advertisement.offersIn catalog rules gate ada group.category) ∧
          (offer ∈ group.offers ∨ offer ∈ left)) ∧
    gate.isAvailable recruit.handler ada ≠ .finished true ∧
      ∀ params, ∃ refusal,
        gate.examine recruit.handler ada params = .finished (.error refusal) := by
  intro ada s gate offer
  have hheal : heal ∈ actions := List.mem_cons_self
  have hrecruit : recruit ∈ actions := by simp only [actions, List.mem_cons, true_or, or_true]
  have hadmitted : gate.examine heal.handler ada ["Arm"] = .finished (.ok ⟨none, none⟩) := rfl
  have hfree : gate.isAvailable recruit.handler ada ≠ .finished true := by decide
  obtain ⟨a, event, ha, hlisted, -⟩ := admitted_is_advertised .standard s 0 heal hheal
  obtain ⟨-, -, -, -, hrefused⟩ := admitted_is_advertised .standard s 0 recruit hrecruit
  exact ⟨⟨a, event, ha, hadmitted, hlisted ["Arm"] _ hadmitted⟩, hfree, hrefused hfree⟩

end Standard

end ReplyActions
