import ReplyActions.Proofs.Standard.Failures

/-!
# What a directive can change

A standard directive works on one aspect of a colonist, seldom on two, and leaves the others as they
are, whether it succeeds or fails. None of them changes who a colonist is: the identifier, the name,
being alive and on one's feet, and the mood before thoughts.
-/

namespace ReplyActions
open Number

/-- What directives leave alone. -/
structure Person where
  id : String
  name : String
  alive : Bool
  downed : Bool
  baseMood : Points
deriving DecidableEq

/-- What directives work on. -/
inductive Aspect where
  | injuries
  | missingParts
  | thoughts
  | opinions
  | skills
  | captivity
  | workPriorities
  | needs
  | traits
  | inventory
  | location
  | inspiration
deriving DecidableEq

def Aspect.Value : Aspect → Type
  | injuries => List Injury
  | missingParts => List String
  | thoughts => List Thought
  | opinions => SortedMap String Points
  | skills => SortedMap String Skill
  | captivity => Option Captivity
  | workPriorities => SortedMap String Grade
  | needs => SortedMap String Points
  | traits => List String
  | inventory => SortedMap String Amount
  | location => Option String
  | inspiration => Option Inspiration

namespace Colonist

def person (c : Colonist) : Person := ⟨c.id, c.name, c.alive, c.downed, c.baseMood⟩

def aspect (c : Colonist) : (p : Aspect) → p.Value
  | .injuries => c.injuries
  | .missingParts => c.missingParts
  | .thoughts => c.thoughts
  | .opinions => c.opinions
  | .skills => c.skills
  | .captivity => c.captivity
  | .workPriorities => c.workPriorities
  | .needs => c.needs
  | .traits => c.traits
  | .inventory => c.inventory
  | .location => c.location
  | .inspiration => c.inspiration

/-- The colonist with one aspect as it is in the beginning. -/
def reset (c : Colonist) : Aspect → Colonist
  | .injuries => { c with injuries := [] }
  | .missingParts => { c with missingParts := [] }
  | .thoughts => { c with thoughts := [] }
  | .opinions => { c with opinions := .empty }
  | .skills => { c with skills := .empty }
  | .captivity => { c with captivity := none }
  | .workPriorities => { c with workPriorities := .empty }
  | .needs => { c with needs := .empty }
  | .traits => { c with traits := [] }
  | .inventory => { c with inventory := .empty }
  | .location => { c with location := none }
  | .inspiration => { c with inspiration := none }

/-- The colonists are the same apart from some aspects. -/
def AgreesBut (a b : Colonist) (aspects : List Aspect) : Prop :=
  aspects.foldl reset a = aspects.foldl reset b

theorem person_reset (c : Colonist) (p : Aspect) : (c.reset p).person = c.person := by
  cases p <;> rfl

theorem aspect_reset (c : Colonist) {p q : Aspect} (h : p ≠ q) :
    (c.reset q).aspect p = c.aspect p := by
  cases p <;> cases q <;> first | rfl | exact absurd rfl h

theorem person_foldl_reset (c : Colonist) (aspects : List Aspect) :
    (aspects.foldl reset c).person = c.person := by
  induction aspects generalizing c with
  | nil => rfl
  | cons q rest ih => exact (ih _).trans (person_reset c q)

theorem aspect_foldl_reset (c : Colonist) {p : Aspect} {aspects : List Aspect} (h : p ∉ aspects) :
    (aspects.foldl reset c).aspect p = c.aspect p := by
  induction aspects generalizing c with
  | nil => rfl
  | cons q rest ih =>
    obtain ⟨hq, hrest⟩ := not_or.mp (mt List.mem_cons.mpr h)
    exact (ih _ hrest).trans (aspect_reset c hq)

variable {a b : Colonist} {aspects : List Aspect}

theorem AgreesBut.person (h : a.AgreesBut b aspects) : a.person = b.person := by
  rw [← person_foldl_reset a aspects, ← person_foldl_reset b aspects, h]

theorem AgreesBut.aspect (h : a.AgreesBut b aspects) {p : Aspect} (hp : p ∉ aspects) :
    a.aspect p = b.aspect p := by
  rw [← aspect_foldl_reset a hp, ← aspect_foldl_reset b hp, h]

end Colonist

/-- The directive works on some aspects of a colonist and on nothing else. -/
def Action.ChangesOnly (action : Action Colonist) (aspects : List Aspect) : Prop :=
  ∀ c params context, (action.execute c params context).1.AgreesBut c aspects

namespace Standard

/-! ### Body -/

theorem healed_agrees (c : Colonist) (kept gone : List Injury) :
    (healed c kept gone).1.AgreesBut c [.injuries] := by
  cases gone <;> rfl

theorem heal_changesOnly : heal.ChangesOnly [.injuries] := by
  intro c params context
  simp only [heal]
  split
  · exact healed_agrees ..
  · split
    · exact healed_agrees ..
    · rfl

theorem restorePart_agrees (c : Colonist) (part : String) :
    (c.restorePart part).2.AgreesBut c [.missingParts] := by
  simp only [Colonist.restorePart]
  split <;> rfl

theorem regrowLimb_changesOnly : regrowLimb.ChangesOnly [.missingParts] := by
  intro c params context
  simp only [regrowLimb]
  split
  · rfl
  · next part _ =>
    have hagrees := restorePart_agrees c part
    split
    · next hr =>
      rw [hr] at hagrees
      exact hagrees
    · next hr =>
      rw [hr] at hagrees
      exact hagrees

/-! ### Mind -/

/-- What has faded by then goes as well, an inspiration too. -/
theorem withThought_agrees (c : Colonist) (now : Tick) (thought : Thought) :
    (withThought (c.atTime now) thought).AgreesBut c [.thoughts, .inspiration] := by
  simp only [withThought]
  split <;> rfl

theorem addThought_changesOnly : addThought.ChangesOnly [.thoughts, .inspiration] := by
  intro c params context
  simp only [addThought]
  split
  · rfl
  · split
    · rfl
    · split
      · rfl
      · exact withThought_agrees ..

theorem removeThought_changesOnly : removeThought.ChangesOnly [.thoughts] := by
  intro c params context
  simp only [removeThought]
  split <;> rfl

theorem addTrait_changesOnly : addTrait.ChangesOnly [.traits] := by
  intro c params context
  simp only [addTrait]
  split
  · rfl
  · split <;> rfl

theorem removeTrait_changesOnly : removeTrait.ChangesOnly [.traits] := by
  intro c params context
  simp only [removeTrait]
  split <;> rfl

theorem inspire_changesOnly : inspire.ChangesOnly [.inspiration] := fun _ _ _ => rfl

/-! ### Relations -/

theorem changeOpinion_changesOnly : changeOpinion.ChangesOnly [.opinions] := fun _ _ _ => rfl

theorem reduceResistance_changesOnly : reduceResistance.ChangesOnly [.captivity] := by
  intro c params context
  simp only [reduceResistance]
  split <;> rfl

theorem recruit_changesOnly : recruit.ChangesOnly [.captivity] := by
  intro c params context
  simp only [recruit]
  split <;> rfl

theorem releasePrisoner_changesOnly : releasePrisoner.ChangesOnly [.captivity, .location] := by
  intro c params context
  simp only [releasePrisoner]
  split <;> rfl

/-! ### Labour -/

theorem gainXp_changesOnly : gainXp.ChangesOnly [.skills] := by
  intro c params context
  simp only [gainXp]
  split
  · rfl
  · split
    · rfl
    · split <;> rfl

theorem setWorkPriority_changesOnly : setWorkPriority.ChangesOnly [.workPriorities] := by
  intro c params context
  simp only [setWorkPriority]
  split
  · rfl
  · split <;> rfl

theorem goTo_changesOnly : goTo.ChangesOnly [.location] := by
  intro c params context
  simp only [goTo]
  split
  · rfl
  · split <;> rfl

/-! ### Supplies -/

theorem satisfyNeed_changesOnly : satisfyNeed.ChangesOnly [.needs] := by
  intro c params context
  simp only [satisfyNeed]
  split
  · rfl
  · split
    · rfl
    · split <;> rfl

theorem giveItem_changesOnly : giveItem.ChangesOnly [.inventory] := by
  intro c params context
  simp only [giveItem]
  split
  · rfl
  · split <;> rfl

theorem dropItem_changesOnly : dropItem.ChangesOnly [.inventory] := by
  intro c params context
  simp only [dropItem]
  split
  · rfl
  · split <;> rfl

/-! ### The catalog -/

/-- The standard directives and what they work on. -/
def worksOn : List (Action Colonist × List Aspect) :=
  [(heal, [.injuries]), (regrowLimb, [.missingParts]), (addThought, [.thoughts, .inspiration]),
    (removeThought, [.thoughts]), (changeOpinion, [.opinions]), (gainXp, [.skills]),
    (reduceResistance, [.captivity]), (recruit, [.captivity]),
    (releasePrisoner, [.captivity, .location]), (setWorkPriority, [.workPriorities]),
    (satisfyNeed, [.needs]), (addTrait, [.traits]), (removeTrait, [.traits]),
    (giveItem, [.inventory]), (dropItem, [.inventory]), (goTo, [.location]),
    (inspire, [.inspiration])]

theorem map_worksOn : worksOn.map (·.1) = actions := rfl

theorem changesOnly_of_mem_worksOn : ∀ entry ∈ worksOn, entry.1.ChangesOnly entry.2 := by
  simp only [worksOn, List.forall_mem_cons, List.not_mem_nil, false_implies, implies_true, and_true]
  exact ⟨heal_changesOnly, regrowLimb_changesOnly, addThought_changesOnly,
    removeThought_changesOnly, changeOpinion_changesOnly, gainXp_changesOnly,
    reduceResistance_changesOnly, recruit_changesOnly, releasePrisoner_changesOnly,
    setWorkPriority_changesOnly, satisfyNeed_changesOnly, addTrait_changesOnly,
    removeTrait_changesOnly, giveItem_changesOnly, dropItem_changesOnly, goTo_changesOnly,
    inspire_changesOnly⟩

theorem exists_changesOnly {action : Action Colonist} (hm : action ∈ actions) :
    ∃ aspects, action.ChangesOnly aspects := by
  rw [← map_worksOn] at hm
  obtain ⟨entry, hentry, rfl⟩ := List.mem_map.mp hm
  exact ⟨entry.2, changesOnly_of_mem_worksOn entry hentry⟩

theorem person_execute {action : Action Colonist} (hm : action ∈ actions) (c : Colonist)
    (params : Params) (context : Context) :
    (action.execute c params context).1.person = c.person := by
  obtain ⟨aspects, hchanges⟩ := exists_changesOnly hm
  exact (hchanges c params context).person

end Standard

end ReplyActions
