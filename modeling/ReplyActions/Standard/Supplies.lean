import ReplyActions.Colonist.Basic
import ReplyActions.Standard.Values

/-!
# Directives for needs and belongings

Needs are satisfied, and items are handed over and dropped.
-/

namespace ReplyActions.Standard
open Number

/-- Raises the level of a need, up to 100. -/
def satisfyNeed : Action Colonist where
  definition := ⟨"SATISFY_NEED", .needs,
    "Take care of a need such as food, rest or joy (optional amount up to 100)", .moderate,
    [required "need" .word, optional "amount" .integer], ["need:any"]⟩
  canExecute c params := c.alive && !c.needs.isEmpty &&
    holdsAt params 0 fun need => (c.need? need).isSome
  quota := some ⟨some 2, none, none⟩
  execute c params _ :=
    let need := keyAt params 0
    match countAt params 1 "amount" 30 100 with
    | .error failure => (c, .error failure)
    | .ok amount =>
      match c.needs.get? need with
      | none => (c, .error (.agentState ("untracked need " ++ need)))
      | some level =>
        if 100 ≤ level.val then
          (c, .error (.rejected (c.name ++ " has had enough " ++ need ++ " for now.")))
        else
          let after : Points := Signed.saturate (min (level.val + amount.val) 100)
          ({ c with needs := c.needs.insert need after },
            .ok ⟨"need:" ++ need ++ ":" ++ intText after.val,
              c.name ++ " feels better about " ++ need ++ "."⟩)

def giveItem : Action Colonist where
  definition := ⟨"GIVE_ITEM", .inventory, "Hand over an item (optional count up to 75)", .moderate,
    [required "item" .text, optional "count" .integer], []⟩
  canExecute c _ := c.alive
  execute c params context :=
    match cleanedText params 0 "item" context with
    | .error failure => (c, .error failure)
    | .ok text =>
      let item := mapKey text
      match countAt params 1 "count" 1 75 with
      | .error failure => (c, .error failure)
      | .ok amount =>
        let held := (c.inventory.get? item).getD 0
        ({ c with inventory := c.inventory.insert item (held.plus amount) },
          .ok ⟨"given:" ++ item ++ ":" ++ natText amount.val,
            c.name ++ " received " ++ natText amount.val ++ " x " ++ item ++ "."⟩)

/-- Drops carried items: the given number of them, but no more than there are. -/
def dropItem : Action Colonist where
  definition := ⟨"DROP_ITEM", .inventory, "Drop a carried item (optional count)", .moderate,
    [required "item" .text, optional "count" .integer], []⟩
  canExecute c params := c.alive && !c.inventory.isEmpty &&
    holdsAt params 0 fun item => 0 < (c.carried item).val
  execute c params _ :=
    let item := keyAt params 0
    let held := c.carried item
    match countAt params 1 "count" held 4294967295 with
    | .error failure => (c, .error failure)
    | .ok count =>
      let amount := min count.val held.val
      if amount = 0 then (c, .error (.agentState ("not carrying " ++ item)))
      else
        let inventory :=
          if amount = held.val then c.inventory.erase item
          else c.inventory.insert item (Unsigned.saturate (held.val - amount))
        ({ c with inventory := inventory },
          .ok ⟨"dropped:" ++ item ++ ":" ++ natText amount,
            c.name ++ " dropped " ++ natText amount ++ " x " ++ item ++ "."⟩)

end ReplyActions.Standard
