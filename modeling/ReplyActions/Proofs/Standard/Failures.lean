import ReplyActions.Proofs.Catalog
import ReplyActions.Proofs.SortedMap
import ReplyActions.Standard.Catalog

/-!
# Failing directives leave no trace

A standard directive that fails leaves the colonist as it was. Most of them fail before they touch
anything; a treatment without a matching injury puts all injuries back, and a work priority that
fails has been there before.
-/

namespace ReplyActions

/-- A failure comes with the agent as it was. -/
def Spares {α : Type} (agent : α) (done : α × Except Failure Effect) : Prop :=
  ∀ failure, done.2 = .error failure → done.1 = agent

theorem spares_error {α : Type} {agent : α} {failure : Failure} :
    Spares agent (agent, .error failure) :=
  fun _ _ => rfl

theorem spares_ok {α : Type} {agent after : α} {effect : Effect} :
    Spares agent (after, .ok effect) :=
  fun _ h => absurd h (by simp only [reduceCtorEq, not_false_eq_true])

def Action.IsSparing {α : Type} (action : Action α) : Prop :=
  ∀ agent params context, Spares agent (action.execute agent params context)

namespace Standard
open Number

/-! ### Body -/

/-- A treatment fails if no injury goes, and then all are kept. -/
theorem spares_healed {c : Colonist} {kept gone : List Injury} (h : gone = [] → kept = c.injuries) :
    Spares c (healed c kept gone) := by
  cases gone with
  | nil =>
    intro _ _
    simp only [healed, h rfl]
  | cons first rest => exact spares_ok

theorem heal_isSparing : heal.IsSparing := by
  intro c params context
  simp only [heal]
  split
  · next part _ =>
    refine spares_healed fun hnone => ?_
    rw [List.filter_eq_self]
    intro injury hm
    have hkept := List.filter_eq_nil_iff.mp hnone injury hm
    rw [Bool.not_eq_true] at hkept
    rw [hkept, Bool.not_false]
  · split
    · exact spares_healed fun h => absurd h (List.cons_ne_nil _ _)
    · exact spares_error

theorem restorePart_none {c after : Colonist} {part : String}
    (h : c.restorePart part = (none, after)) : after = c := by
  simp only [Colonist.restorePart] at h
  split at h
  · next index hi =>
    obtain ⟨hlt, -⟩ := List.findIdx?_eq_some_iff_getElem.mp hi
    have hnone := (Prod.mk.inj h).1
    rw [List.getElem?_eq_getElem hlt] at hnone
    contradiction
  · exact (Prod.mk.inj h).2.symm

theorem regrowLimb_isSparing : regrowLimb.IsSparing := by
  intro c params context
  simp only [regrowLimb]
  split
  · exact spares_error
  · split
    · exact spares_ok
    · next hr =>
      rw [restorePart_none hr]
      exact spares_error

/-! ### Mind -/

theorem addThought_isSparing : addThought.IsSparing := by
  intro c params context
  simp only [addThought]
  split
  · exact spares_error
  · split
    · exact spares_error
    · split
      · exact spares_error
      · exact spares_ok

theorem removeThought_isSparing : removeThought.IsSparing := by
  intro c params context
  simp only [removeThought]
  split
  · exact spares_error
  · exact spares_ok

theorem addTrait_isSparing : addTrait.IsSparing := by
  intro c params context
  simp only [addTrait]
  split
  · exact spares_error
  · split
    · exact spares_error
    · exact spares_ok

theorem removeTrait_isSparing : removeTrait.IsSparing := by
  intro c params context
  simp only [removeTrait]
  split
  · exact spares_error
  · exact spares_ok

theorem inspire_isSparing : inspire.IsSparing := fun _ _ _ => spares_ok

/-! ### Relations -/

theorem changeOpinion_isSparing : changeOpinion.IsSparing := fun _ _ _ => spares_ok

theorem reduceResistance_isSparing : reduceResistance.IsSparing := by
  intro c params context
  simp only [reduceResistance]
  split
  · exact spares_error
  · exact spares_ok

theorem recruit_isSparing : recruit.IsSparing := by
  intro c params context
  simp only [recruit]
  split
  · exact spares_error
  · exact spares_ok

theorem releasePrisoner_isSparing : releasePrisoner.IsSparing := by
  intro c params context
  simp only [releasePrisoner]
  split
  · exact spares_error
  · exact spares_ok

/-! ### Labour -/

theorem gainXp_isSparing : gainXp.IsSparing := by
  intro c params context
  simp only [gainXp]
  split
  · exact spares_error
  · split
    · exact spares_error
    · split
      · exact spares_error
      · exact spares_ok

theorem setWorkPriority_isSparing : setWorkPriority.IsSparing := by
  intro c params context
  simp only [setWorkPriority]
  split
  · exact spares_error
  · split
    · next hsame =>
      -- the priority has been put in by then, but it was there before
      rw [SortedMap.insert_of_get? hsame]
      exact spares_error
    · exact spares_ok

theorem goTo_isSparing : goTo.IsSparing := by
  intro c params context
  simp only [goTo]
  split
  · exact spares_error
  · split
    · exact spares_error
    · exact spares_ok

/-! ### Supplies -/

theorem satisfyNeed_isSparing : satisfyNeed.IsSparing := by
  intro c params context
  simp only [satisfyNeed]
  split
  · exact spares_error
  · split
    · exact spares_error
    · split
      · exact spares_error
      · exact spares_ok

theorem giveItem_isSparing : giveItem.IsSparing := by
  intro c params context
  simp only [giveItem]
  split
  · exact spares_error
  · split
    · exact spares_error
    · exact spares_ok

theorem dropItem_isSparing : dropItem.IsSparing := by
  intro c params context
  simp only [dropItem]
  split
  · exact spares_error
  · split
    · exact spares_error
    · exact spares_ok

/-! ### The catalog -/

theorem isSparing_of_mem_actions : ∀ action ∈ actions, action.IsSparing := by
  simp only [actions, List.forall_mem_cons, List.not_mem_nil, false_implies, implies_true, and_true]
  exact ⟨heal_isSparing, regrowLimb_isSparing, addThought_isSparing, removeThought_isSparing,
    changeOpinion_isSparing, gainXp_isSparing, reduceResistance_isSparing, recruit_isSparing,
    releasePrisoner_isSparing, setWorkPriority_isSparing, satisfyNeed_isSparing,
    addTrait_isSparing, removeTrait_isSparing, giveItem_isSparing, dropItem_isSparing,
    goTo_isSparing, inspire_isSparing⟩

theorem lookup_catalog {id : String} {handler : Handler Colonist}
    (h : catalog.lookup id = some handler) : ∃ action ∈ actions, action.handler = handler :=
  List.mem_map.mp (Catalog.lookup_ofList h).1

end Standard

end ReplyActions
