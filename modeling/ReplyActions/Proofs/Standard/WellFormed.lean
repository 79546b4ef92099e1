import Mathlib.Data.List.Nodup
import ReplyActions.Proofs.Directive.Validation
import ReplyActions.Proofs.Dispatch.Steps
import ReplyActions.Proofs.Standard.Failures
import ReplyActions.Proofs.Standard.Values

/-!
# Well-formed colonists

Opinions, needs, skills, work priorities and the resistance of prisoners have their ranges; traits
and thoughts are told apart without regard to case; nothing is carried zero times. Some of these
bounds are kept by the condition of a directive, others by what it does. Between them, a colonist
that is well formed stays so, whatever is asked for and however time passes.
-/

namespace ReplyActions
open Number

def Number.Signed.IsWithin {max : Nat} (low high : Int) (a : Signed max) : Prop :=
  low ≤ a.val ∧ a.val ≤ high

instance {max : Nat} (low high : Int) (a : Signed max) : Decidable (a.IsWithin low high) :=
  inferInstanceAs (Decidable (low ≤ a.val ∧ a.val ≤ high))

theorem Number.Signed.isWithin_within {low high : Int} (a : Points) (hlow : -2147483648 ≤ low)
    (hle : low ≤ high) (hhigh : high ≤ 2147483647) : (a.within low high).IsWithin low high := by
  simp only [IsWithin, within, val_saturate]
  omega

/-- The level is not above the highest, and below it no experience for another level is left. -/
def Skill.IsSettled (skill : Skill) : Prop :=
  skill.level.val ≤ Colonist.maxSkillLevel ∧
    (skill.level.val < Colonist.maxSkillLevel → skill.xp.val < Colonist.xpPerLevel)

instance (skill : Skill) : Decidable skill.IsSettled := by
  unfold Skill.IsSettled
  infer_instance

namespace Colonist

structure WellFormed (c : Colonist) : Prop where
  opinions : c.opinions.All (·.IsWithin (-100) 100)
  /-- Nobody has an opinion of themselves. -/
  noOwnOpinion : c.opinions.get? (Text.lower c.id) = none
  skills : c.skills.All Skill.IsSettled
  needs : c.needs.All (·.IsWithin 0 100)
  resistance : ∀ captivity ∈ c.captivity, captivity.resistance.IsWithin 0 100
  priorities : c.workPriorities.All (·.val ≤ maxWorkPriority)
  fewTraits : c.traits.length ≤ maxTraits
  /-- The traits are different, also if case is ignored. -/
  traits : (c.traits.map Text.lower).Nodup
  /-- The labels of the thoughts are different, also if case is ignored. -/
  thoughts : (c.thoughts.map fun thought => Text.lower thought.label).Nodup
  inventory : c.inventory.All (1 ≤ ·.val)

/-! ### What a colonist can go through -/

variable {c : Colonist}

theorem WellFormed.atTime (h : c.WellFormed) (now : Tick) : (c.atTime now).WellFormed :=
  { h with thoughts := h.thoughts.sublist (List.filter_sublist.map _) }

theorem WellFormed.withThought (h : c.WellFormed) (thought : Thought) :
    (Standard.withThought c thought).WellFormed := by
  simp only [Standard.withThought]
  split
  · next index hindex =>
    obtain ⟨hlt, hsame, -⟩ := List.findIdx?_eq_some_iff_getElem.mp hindex
    have hlabel : Text.lower thought.label = Text.lower c.thoughts[index].label :=
      ((Text.sameIgnoringCase_iff _ _).mp hsame).symm
    -- the label is written anew but read as before
    have hlabels : ((c.thoughts.set index thought).map fun t => Text.lower t.label) =
        c.thoughts.map fun t => Text.lower t.label := by
      rw [List.map_set, hlabel,
        ← List.getElem_map (fun t : Thought => Text.lower t.label) (h := by simpa using hlt),
        List.set_getElem_self]
    exact { h with thoughts := hlabels ▸ h.thoughts }
  · next hnone =>
    have hnew : Text.lower thought.label ∉ c.thoughts.map fun t => Text.lower t.label := by
      intro hm
      obtain ⟨other, ho, hlower⟩ := List.mem_map.mp hm
      have hsame := (Text.sameIgnoringCase_iff _ _).mpr hlower
      rw [List.findIdx?_eq_none_iff.mp hnone other ho] at hsame
      contradiction
    refine { h with thoughts := ?_ }
    rw [List.map_append, List.map_singleton, ← List.concat_eq_append]
    exact List.Nodup.concat hnew h.thoughts

theorem WellFormed.free (h : c.WellFormed) (location : Option String) :
    WellFormed { c with captivity := none, location := location } :=
  { h with resistance := fun _ hnone => absurd hnone (Option.not_mem_none _) }

theorem lower_notMem_traits {name : String} (h : c.hasTrait name = false) :
    Text.lower name ∉ c.traits.map Text.lower := by
  intro hm
  obtain ⟨known, hk, hlower⟩ := List.mem_map.mp hm
  exact List.any_eq_false.mp h known hk ((Text.sameIgnoringCase_iff _ _).mpr hlower)

end Colonist

namespace Standard
open Colonist

/-! ### Values -/

theorem priorityAt?_le {params : Params} {index : Nat} {priority : Grade}
    (h : priorityAt? params index = some priority) : priority.val ≤ maxWorkPriority := by
  have hle := (Option.filter_eq_some_iff.mp h).2
  exact of_decide_eq_true hle

theorem isSettled_climbed {room : Nat} {skill : Skill}
    (h : skill.level.val + room = maxSkillLevel) : (climbed room skill).IsSettled := by
  induction room generalizing skill with
  | zero =>
    simp only [climbed, Skill.IsSettled]
    omega
  | succ room ih =>
    simp only [climbed]
    split
    · refine ih ?_
      have hmax : maxSkillLevel = 20 := rfl
      have hone : ((1 : Grade)).val = 1 := rfl
      simp only [Unsigned.val_plus, hone]
      omega
    · next hxp => exact ⟨by omega, fun _ => Nat.lt_of_not_le hxp⟩

theorem isSettled_taught {skill : Skill} (xp : Amount) (h : skill.level.val ≤ maxSkillLevel) :
    (taught skill xp).IsSettled :=
  isSettled_climbed (by simp only; omega)

/-! ### Body -/

theorem wellFormed_healed {c : Colonist} (h : c.WellFormed) (kept gone : List Injury) :
    (healed c kept gone).1.WellFormed := by
  cases gone <;> exact { h with }

theorem heal_keeps : heal.Keeps WellFormed := by
  intro c params context _ _ h
  simp only [heal]
  split
  · exact wellFormed_healed h ..
  · split
    · exact wellFormed_healed h ..
    · exact h

theorem wellFormed_restorePart {c : Colonist} (h : c.WellFormed) (part : String) :
    (c.restorePart part).2.WellFormed := by
  simp only [restorePart]
  split
  · exact { h with }
  · exact h

theorem regrowLimb_keeps : regrowLimb.Keeps WellFormed := by
  intro c params context _ _ h
  simp only [regrowLimb]
  split
  · exact h
  · next part _ =>
    have hafter := wellFormed_restorePart h part
    split
    · next hr =>
      rw [hr] at hafter
      exact hafter
    · next hr =>
      rw [hr] at hafter
      exact hafter

/-! ### Mind -/

theorem addThought_keeps : addThought.Keeps WellFormed := by
  intro c params context _ _ h
  simp only [addThought]
  split
  · exact h
  · split
    · exact h
    · split
      · exact h
      · exact (h.atTime context.now).withThought _

theorem removeThought_keeps : removeThought.Keeps WellFormed := by
  intro c params context _ _ h
  simp only [removeThought]
  split
  · exact h
  · exact { h with thoughts := h.thoughts.sublist (List.eraseP_sublist.map _) }

theorem addTrait_keeps : addTrait.Keeps WellFormed := by
  intro c params context _ hcondition h
  -- only the condition knows whether there is room for one more
  simp only [addTrait, Bool.and_eq_true, decide_eq_true_eq] at hcondition ⊢
  obtain ⟨⟨-, hroom⟩, -⟩ := hcondition
  split
  · exact h
  · next name _ =>
    split
    · exact h
    · next hnew =>
      rw [Bool.not_eq_true] at hnew
      refine { h with fewTraits := ?_, traits := ?_ }
      · rw [List.length_append, List.length_singleton]
        omega
      · rw [List.map_append, List.map_singleton, ← List.concat_eq_append]
        exact List.Nodup.concat (lower_notMem_traits hnew) h.traits

theorem removeTrait_keeps : removeTrait.Keeps WellFormed := by
  intro c params context _ _ h
  simp only [removeTrait]
  split
  · exact h
  · next name _ _ =>
    have hless : (c.traits.eraseP fun known =>
        Text.sameIgnoringCase known ((params.text? 0).getD "")).Sublist c.traits :=
      List.eraseP_sublist
    exact { h with
      fewTraits := Nat.le_trans hless.length_le h.fewTraits
      traits := h.traits.sublist (hless.map _) }

theorem inspire_keeps : inspire.Keeps WellFormed := fun _ _ _ _ _ h => { h with }

/-! ### Relations -/

theorem changeOpinion_keeps : changeOpinion.Keeps WellFormed := by
  intro c params context hfits hcondition h
  obtain ⟨target, htarget⟩ := Definition.exists_text?_of_validate hfits rfl rfl
  have hkey : keyAt params 0 = Text.lower target := by
    simp only [keyAt, htarget, Option.getD_some, mapKey, Params.trimmed_of_text? htarget]
  -- the target is not the colonist, so its key is not the colonist's either
  have hne : keyAt params 0 ≠ Text.lower c.id := by
    simp only [changeOpinion, holdsAt, htarget, Bool.and_eq_true, Bool.not_eq_true'] at hcondition
    intro heq
    have hsame := (Text.sameIgnoringCase_iff target c.id).mpr (hkey ▸ heq)
    rw [hcondition.2] at hsame
    contradiction
  simp only [changeOpinion]
  refine { h with opinions := ?_, noOwnOpinion := ?_ }
  · exact h.opinions.insert (Signed.isWithin_within _ (by omega) (by omega) (by omega))
  · rw [SortedMap.get?_insert, if_neg hne]
    exact h.noOwnOpinion

theorem reduceResistance_keeps : reduceResistance.Keeps WellFormed := by
  intro c params context _ _ h
  simp only [reduceResistance]
  split
  · exact h
  · refine { h with resistance := ?_ }
    rintro captivity hcaptivity
    obtain rfl := Option.mem_some.mp hcaptivity
    exact Signed.isWithin_within _ (by omega) (by omega) (by omega)

theorem recruit_keeps : recruit.Keeps WellFormed := by
  intro c params context _ _ h
  simp only [recruit]
  split
  · exact h
  · exact h.free c.location

theorem releasePrisoner_keeps : releasePrisoner.Keeps WellFormed := by
  intro c params context _ _ h
  simp only [releasePrisoner]
  split
  · exact h
  · exact h.free _

/-! ### Labour -/

theorem gainXp_keeps : gainXp.Keeps WellFormed := by
  intro c params context _ _ h
  simp only [gainXp]
  split
  · exact h
  · next xp _ =>
    split
    · exact h
    · next skill hskill =>
      split
      · exact h
      · have hsettled := isSettled_taught xp (h.skills.get? hskill).1
        exact { h with skills := h.skills.insert hsettled }

theorem setWorkPriority_keeps : setWorkPriority.Keeps WellFormed := by
  intro c params context _ _ h
  simp only [setWorkPriority]
  split
  · exact h
  · next priority hpriority =>
    have hle := priorityAt?_le hpriority
    split
    · exact { h with priorities := h.priorities.insert hle }
    · exact { h with priorities := h.priorities.insert hle }

theorem goTo_keeps : goTo.Keeps WellFormed := by
  intro c params context _ _ h
  simp only [goTo]
  split
  · exact h
  · split
    · exact h
    · exact { h with }

/-! ### Supplies -/

theorem satisfyNeed_keeps : satisfyNeed.Keeps WellFormed := by
  intro c params context _ _ h
  simp only [satisfyNeed]
  split
  · exact h
  · next amount _ =>
    split
    · exact h
    · next level hlevel =>
      split
      · exact h
      · have hbefore := h.needs.get? hlevel
        refine { h with needs := h.needs.insert ?_ }
        simp only [Signed.IsWithin, Signed.val_saturate] at hbefore ⊢
        omega

theorem giveItem_keeps : giveItem.Keeps WellFormed := by
  intro c params context _ _ h
  simp only [giveItem]
  split
  · exact h
  · split
    · exact h
    · next amount hamount =>
      have hone := one_le_countAt hamount (Nat.le_refl 1)
      refine { h with inventory := h.inventory.insert ?_ }
      simp only [Unsigned.val_plus]
      omega

theorem dropItem_keeps : dropItem.Keeps WellFormed := by
  intro c params context _ _ h
  simp only [dropItem]
  split
  · exact h
  · next count _ =>
    split
    · exact h
    · next hsome =>
      refine { h with inventory := ?_ }
      split
      · exact h.inventory.erase
      · next hleft =>
        -- not all of them go, and no more than there are
        refine h.inventory.insert ?_
        have hheld := (c.carried (keyAt params 0)).val_le
        simp only [Unsigned.val_saturate]
        omega

/-! ### The catalog -/

theorem keeps_wellFormed_of_mem_actions : ∀ action ∈ actions, action.Keeps WellFormed := by
  simp only [actions, List.forall_mem_cons, List.not_mem_nil, false_implies, implies_true, and_true]
  exact ⟨heal_keeps, regrowLimb_keeps, addThought_keeps, removeThought_keeps, changeOpinion_keeps,
    gainXp_keeps, reduceResistance_keeps, recruit_keeps, releasePrisoner_keeps,
    setWorkPriority_keeps, satisfyNeed_keeps, addTrait_keeps, removeTrait_keeps, giveItem_keeps,
    dropItem_keeps, goTo_keeps, inspire_keeps⟩

theorem wellFormed_dispatchAt (config : Config) (text : String) (now : Tick)
    {s : Session Colonist} (h : s.agent.WellFormed) :
    ((dispatcher config).dispatchAt text s now).session.agent.WellFormed := by
  refine Dispatcher.keeps_dispatchAt (fun id handler hl => ?_) text now h
  obtain ⟨action, hm, rfl⟩ := lookup_catalog hl
  exact (keeps_wellFormed_of_mem_actions action hm).handler

/-! ### Runs -/

/-- What happens to a colonist: a reply is carried out, or what has faded is dropped. -/
inductive Happening where
  | reply (text : String) (now : Tick)
  | fading (now : Tick)

def happen (config : Config) (s : Session Colonist) : Happening → Session Colonist
  | .reply text now => ((dispatcher config).dispatchAt text s now).session
  | .fading now => { s with agent := s.agent.atTime now }

theorem wellFormed_happen (config : Config) {s : Session Colonist} (happening : Happening)
    (h : s.agent.WellFormed) : (happen config s happening).agent.WellFormed := by
  cases happening with
  | reply text now => exact wellFormed_dispatchAt config text now h
  | fading now => exact h.atTime now

/-- Whatever happens to a well-formed colonist, at whatever times, it stays well formed. -/
theorem wellFormed_of_happenings (config : Config) (s : Session Colonist)
    (happenings : List Happening) (h : s.agent.WellFormed) :
    (happenings.foldl (happen config) s).agent.WellFormed := by
  induction happenings generalizing s with
  | nil => exact h
  | cons first rest ih => exact ih (happen config s first) (wellFormed_happen config first h)

/-- A colonist with every bound within reach: the last level, the worst opinion, one more trait. -/
theorem wellFormed_of_happenings_ada :
    let ada : Colonist := { Colonist.fresh "Ada" "Ada" with
      skills := .insert .empty "mining" ⟨19, 900⟩
      opinions := .insert .empty "bob" (Signed.saturate (-100))
      traits := ["Kind", "quick"]
      inventory := .insert .empty "bread" 2 }
    let happenings : List Happening := [.reply "[ACTION:GAIN_XP:mining:2000]" 1,
      .reply "[ACTION:CHANGE_OPINION:ADA:5] [ACTION:CHANGE_OPINION:Bob:-5]" 2, .fading 3,
      .reply "[ACTION:ADD_TRAIT:KIND] [ACTION:DROP_ITEM:bread:7]" 30]
    ada.WellFormed ∧ (happenings.foldl (happen .standard) ⟨ada, .empty 24⟩).agent.WellFormed := by
  intro ada happenings
  have h : ada.WellFormed :=
    { opinions := by decide
      noOwnOpinion := by decide
      skills := by decide
      needs := by decide
      resistance := fun _ hnone => absurd hnone (Option.not_mem_none _)
      priorities := by decide
      fewTraits := by decide
      traits := by decide
      thoughts := List.nodup_nil
      inventory := by decide }
  exact ⟨h, wellFormed_of_happenings .standard ⟨ada, .empty 24⟩ happenings h⟩

end Standard

end ReplyActions
