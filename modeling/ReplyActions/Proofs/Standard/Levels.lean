import ReplyActions.Proofs.Standard.Belongings
import ReplyActions.Proofs.Standard.WellFormed

/-!
# Experience and levels

Teaching turns experience into levels, one at a time, as long as there is enough experience for a
level and room for one. With exact numbers no pass goes out of range, there are at most as many
passes as there is room for, and a level is worth what it costs: nothing is lost on the way.
-/

namespace ReplyActions.Standard
open Number Colonist

/-- A pass as it is computed, with bounded numbers. -/
def levelUp (skill : Skill) : Skill :=
  ⟨skill.level.plus 1, skill.xp.minus (Unsigned.saturate xpPerLevel)⟩

/-- A pass in exact numbers: the level has to have a successor, and the experience cannot fall below
zero. -/
structure GainsLevel (before after : Skill) : Prop where
  enough : xpPerLevel ≤ before.xp.val
  room : before.level.val < maxSkillLevel
  level : after.level.val = before.level.val + 1
  xp : after.xp.val + xpPerLevel = before.xp.val

inductive GainsLevels : Nat → Skill → Skill → Prop
  | none {skill : Skill} : GainsLevels 0 skill skill
  | first {passes : Nat} {before next after : Skill} (pass : GainsLevel before next)
    (rest : GainsLevels passes next after) : GainsLevels (passes + 1) before after

/-- Either there is too little experience, or there is no room. -/
def IsFinished (skill : Skill) : Prop :=
  skill.xp.val < xpPerLevel ∨ maxSkillLevel ≤ skill.level.val

variable {before next after skill : Skill} {passes room : Nat}

/-! ### One pass -/

theorem xpPerLevel_eq : xpPerLevel = 1000 := rfl

theorem maxSkillLevel_eq : maxSkillLevel = 20 := rfl

theorem GainsLevel.conserves (h : GainsLevel before after) :
    1000 * after.level.val + after.xp.val = 1000 * before.level.val + before.xp.val := by
  have hlevel := h.level
  have hxp := h.xp
  rw [xpPerLevel_eq] at hxp
  omega

theorem GainsLevel.unique (h : GainsLevel before next) (h' : GainsLevel before after) :
    next = after := by
  have hlevel : next.level = after.level := Unsigned.ext_val (h.level.trans h'.level.symm)
  have hxp : next.xp = after.xp :=
    Unsigned.ext_val (Nat.add_right_cancel (h.xp.trans h'.xp.symm))
  cases next
  cases after
  dsimp only at hlevel hxp
  rw [hlevel, hxp]

/-- While the loop goes on, neither of the bounded operations stops at an end of its range. -/
theorem gainsLevel_levelUp (h : ¬ IsFinished before) : GainsLevel before (levelUp before) := by
  unfold IsFinished at h
  rw [not_or, Nat.not_lt, Nat.not_le] at h
  obtain ⟨henough, hroom⟩ := h
  have hone : (1 : Grade).val = 1 := rfl
  have hcost : (Unsigned.saturate xpPerLevel : Amount).val = xpPerLevel := by decide
  have hmax := maxSkillLevel_eq
  unfold levelUp
  refine ⟨henough, hroom, ?_, ?_⟩
  · rw [Unsigned.val_plus, hone]
    omega
  · rw [Unsigned.val_minus, hcost]
    omega

theorem IsFinished.not_gainsLevel (h : IsFinished before) (next : Skill) :
    ¬ GainsLevel before next := by
  intro hpass
  have henough := hpass.enough
  have hroom := hpass.room
  unfold IsFinished at h
  omega

/-! ### The whole loop -/

theorem GainsLevels.level (h : GainsLevels passes before after) :
    after.level.val = before.level.val + passes := by
  induction h with
  | none => rfl
  | first pass rest ih =>
    have hlevel := pass.level
    omega

theorem GainsLevels.conserves (h : GainsLevels passes before after) :
    1000 * after.level.val + after.xp.val = 1000 * before.level.val + before.xp.val := by
  induction h with
  | none => rfl
  | first pass rest ih => exact ih.trans pass.conserves

/-- Whatever stage the loop has reached, it goes on to the same end. -/
theorem GainsLevels.leads_on (h : GainsLevels passes before after) (hend : IsFinished after)
    {taken : Nat} (htaken : GainsLevels taken before next) :
    ∃ left, passes = taken + left ∧ GainsLevels left next after := by
  induction htaken generalizing passes with
  | none => exact ⟨passes, (Nat.zero_add passes).symm, h⟩
  | first pass rest ih =>
    cases h with
    | none => exact absurd pass (hend.not_gainsLevel _)
    | first pass' rest' =>
      rw [pass'.unique pass] at rest'
      obtain ⟨left, hpasses, hleft⟩ := ih rest'
      exact ⟨left, by omega, hleft⟩

theorem climbed_gainsLevels (h : skill.level.val + room = maxSkillLevel) :
    ∃ passes, passes ≤ room ∧ GainsLevels passes skill (climbed room skill) := by
  induction room generalizing skill with
  | zero => exact ⟨0, Nat.le_refl 0, .none⟩
  | succ room ih =>
    unfold climbed
    split
    · next henough =>
      have hgoes : ¬ IsFinished skill := by
        unfold IsFinished
        omega
      have hpass := gainsLevel_levelUp hgoes
      have hlevel := hpass.level
      have hroom : (levelUp skill).level.val + room = maxSkillLevel := by omega
      obtain ⟨passes, hle, hrest⟩ := ih hroom
      exact ⟨passes + 1, Nat.succ_le_succ hle, .first hpass hrest⟩
    · exact ⟨0, Nat.zero_le _, .none⟩

theorem isFinished_of_isSettled (h : skill.IsSettled) : IsFinished skill := by
  rcases Nat.lt_or_ge skill.level.val maxSkillLevel with hroom | hfull
  · exact Or.inl (h.2 hroom)
  · exact Or.inr hfull

/-! ### Teaching -/

theorem gainXp_taught {c : Colonist} {params : Params} (context : Context) {xp : Amount}
    (hxp : countAt params 1 "xp" 250 2000 = .ok xp)
    (hskill : c.skills.get? (keyAt params 0) = some skill)
    (hlevel : skill.level.val < maxSkillLevel) :
    ∃ narrative, gainXp.execute c params context =
      ({ c with skills := c.skills.insert (keyAt params 0) (taught skill xp) },
        .ok ⟨"xp:" ++ keyAt params 0 ++ ":" ++ natText xp.val, narrative⟩) := by
  simp only [gainXp, hxp, hskill, if_neg (Nat.not_le.mpr hlevel)]
  exact ⟨_, rfl⟩

/-- Experience that is granted is there afterwards, as levels and as experience. The loop reaches
its end in at most as many passes as there are levels left; wherever it has got to, it goes on to
the same end, and both numbers stay in their ranges. -/
theorem experience_is_conserved (skill : Skill) (xp : Amount)
    (hlevel : skill.level.val < 20) (hfits : skill.xp.val + xp.val ≤ 4294967295) :
    let start : Skill := ⟨skill.level, skill.xp.plus xp⟩
    let after := taught skill xp
    start.xp.val = skill.xp.val + xp.val ∧
      (∃ passes, passes ≤ 20 - skill.level.val ∧ GainsLevels passes start after ∧
        IsFinished after ∧
        ∀ taken reached, GainsLevels taken start reached →
          (∃ left, passes = taken + left ∧ GainsLevels left reached after) ∧
          (¬ IsFinished reached → GainsLevel reached (levelUp reached))) ∧
      1000 * after.level.val + after.xp.val = 1000 * skill.level.val + skill.xp.val + xp.val ∧
      skill.level.val ≤ after.level.val ∧ after.level.val ≤ 20 ∧
      (after.xp.val < 1000 ∨ after.level.val = 20) ∧
      ∀ (c : Colonist) (params : Params) (context : Context),
        c.skills.get? (keyAt params 0) = some skill →
        countAt params 1 "xp" 250 2000 = .ok xp →
        1 ≤ xp.val ∧ xp.val ≤ 2000 ∧
          ∃ narrative, gainXp.execute c params context =
            ({ c with skills := c.skills.insert (keyAt params 0) after },
              .ok ⟨"xp:" ++ keyAt params 0 ++ ":" ++ natText xp.val, narrative⟩) := by
  intro start after
  have hstart : start.level.val = skill.level.val := rfl
  have hsum : start.xp.val = skill.xp.val + xp.val :=
    (Unsigned.val_plus skill.xp xp).trans (Nat.min_eq_left hfits)
  have hroom : start.level.val + (maxSkillLevel - start.level.val) = maxSkillLevel := by
    rw [maxSkillLevel_eq]
    omega
  obtain ⟨passes, hpasses, hgains⟩ : ∃ passes, passes ≤ maxSkillLevel - start.level.val ∧
      GainsLevels passes start after := climbed_gainsLevels hroom
  have hsettled : after.IsSettled := isSettled_taught xp (Nat.le_of_lt hlevel)
  have hend := isFinished_of_isSettled hsettled
  have hconserves := hgains.conserves
  have hgained := hgains.level
  have htop : after.level.val ≤ 20 := hsettled.1
  have hover : after.xp.val < 1000 ∨ 20 ≤ after.level.val := hend
  refine ⟨hsum, ⟨passes, hpasses, hgains, hend, fun taken reached htaken =>
    ⟨hgains.leads_on hend htaken, gainsLevel_levelUp⟩⟩, ?_, ?_, htop, ?_, ?_⟩
  · omega
  · omega
  · omega
  · intro c params context hskill hxp
    exact ⟨one_le_countAt hxp (by decide), countAt_le hxp (by decide +kernel),
      gainXp_taught context hxp hskill hlevel⟩

/-- From far above a level the loop stops at the top, and what is too much remains. -/
theorem experience_is_conserved_up_to_the_top :
    let skill : Skill := ⟨18, 5000⟩
    let c := { Colonist.fresh "c1" "Ada" with skills := SortedMap.empty.insert "cooking" skill }
    skill.level.val < 20 ∧ skill.xp.val + (2000 : Amount).val ≤ 4294967295 ∧
      taught skill 2000 = ⟨20, 5000⟩ ∧
      ∀ context, ∃ narrative, gainXp.execute c ["Cooking", "2000"] context =
        ({ c with skills := c.skills.insert "cooking" ⟨20, 5000⟩ },
          .ok ⟨"xp:cooking:2000", narrative⟩) := by
  intro skill c
  have hlevel : skill.level.val < 20 := by decide
  have hfits : skill.xp.val + (2000 : Amount).val ≤ 4294967295 := by decide
  have htaught : taught skill 2000 = ⟨20, 5000⟩ := by decide +kernel
  obtain ⟨-, -, -, -, -, -, hexecutes⟩ := experience_is_conserved skill 2000 hlevel hfits
  refine ⟨hlevel, hfits, htaught, fun context => ?_⟩
  have hname : keyAt ["Cooking", "2000"] 0 = "cooking" := by decide +kernel
  have hxp : countAt ["Cooking", "2000"] 1 "xp" 250 2000 = .ok 2000 := by decide +kernel
  have hskill : c.skills.get? (keyAt ["Cooking", "2000"] 0) = some skill := by decide +kernel
  obtain ⟨-, -, narrative, hdone⟩ := hexecutes c ["Cooking", "2000"] context hskill hxp
  rw [htaught, hname] at hdone
  exact ⟨narrative, hdone⟩

end ReplyActions.Standard
