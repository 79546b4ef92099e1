import ReplyActions.Colonist.Basic
import ReplyActions.Standard.Values

/-!
# Directives for work

Skills are taught, work is given priority, and colonists are sent to places.
-/

namespace ReplyActions.Standard
open Number

/-- Turns experience into levels, as many as there is room for and experience suffices. -/
def climbed : Nat → Skill → Skill
  | 0, skill => skill
  | room + 1, skill =>
    if Colonist.xpPerLevel ≤ skill.xp.val then
      climbed room ⟨skill.level.plus 1, skill.xp.minus (Unsigned.saturate Colonist.xpPerLevel)⟩
    else skill

def taught (skill : Skill) (xp : Amount) : Skill :=
  climbed (Colonist.maxSkillLevel - skill.level.val) ⟨skill.level, skill.xp.plus xp⟩

def gainXp : Action Colonist where
  definition := ⟨"GAIN_XP", .skills, "Teach something useful (skill name, optional xp up to 2000)",
    .moderate, [required "skill" .word, optional "xp" .integer], []⟩
  canExecute c params := c.alive && !c.skills.isEmpty &&
    holdsAt params 0 fun skill => c.skills.contains (mapKey skill)
  quota := some ⟨none, some 5, none⟩
  execute c params _ :=
    let name := keyAt params 0
    match countAt params 1 "xp" 250 2000 with
    | .error failure => (c, .error failure)
    | .ok xp =>
      match c.skills.get? name with
      | none => (c, .error (.agentState ("unknown skill " ++ name)))
      | some skill =>
        if Colonist.maxSkillLevel ≤ skill.level.val then
          (c, .error (.rejected (c.name ++ " has nothing left to learn about " ++ name ++ ".")))
        else
          let after := taught skill xp
          let narrative :=
            if skill.level.val < after.level.val then
              c.name ++ " is now level " ++ natText after.level.val ++ " in " ++ name ++ "."
            else c.name ++ " learned a little about " ++ name ++ "."
          ({ c with skills := c.skills.insert name after },
            .ok ⟨"xp:" ++ name ++ ":" ++ natText xp.val, narrative⟩)

/-- A parameter as a work priority. -/
def priorityAt? (params : Params) (index : Nat) : Option Grade :=
  ((params.whole? index).bind fun value => Unsigned.ofInt? value.val).filter
    fun priority => priority.val ≤ Colonist.maxWorkPriority

/-- Changes the priority of a kind of work; zero stops it. -/
def setWorkPriority : Action Colonist where
  definition := ⟨"SET_WORK_PRIORITY", .work,
    "Change how eagerly a job is done (work type, 0 = never .. 1 = first .. 4 = last)", .moderate,
    [required "work" .word, required "priority" .integer], []⟩
  canExecute c _ := c.isActive && !c.isCaptive
  execute c params _ :=
    let work := keyAt params 0
    match priorityAt? params 1 with
    | none =>
      (c, .error (.invalidParameter "priority"
        ("expected 0..=" ++ natText Colonist.maxWorkPriority)))
    | some priority =>
      let after := { c with workPriorities := c.workPriorities.insert work priority }
      if c.workPriorities.get? work = some priority then
        (after, .error (.rejected (c.name ++ " already treats " ++ work ++ " that way.")))
      else
        let narrative :=
          if priority.val = 0 then c.name ++ " will no longer do " ++ work ++ "."
          else c.name ++ " will do " ++ work ++ " at priority " ++ natText priority.val ++ "."
        (after, .ok ⟨"priority:" ++ work ++ ":" ++ natText priority.val, narrative⟩)

def goTo : Action Colonist where
  definition := ⟨"GO_TO", .movement, "Walk to a named place", .moderate,
    [required "place" .text], []⟩
  canExecute c _ := c.isActive && !c.isCaptive
  execute c params context :=
    match cleanedText params 0 "place" context with
    | .error failure => (c, .error failure)
    | .ok place =>
      if c.location.any fun current => Text.sameIgnoringCase current place then
        (c, .error (.rejected (c.name ++ " is already at the " ++ place ++ ".")))
      else
        ({ c with location := some place },
          .ok ⟨"moved:" ++ place, c.name ++ " heads to the " ++ place ++ "."⟩)

end ReplyActions.Standard
