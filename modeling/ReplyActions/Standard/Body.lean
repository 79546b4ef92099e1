import ReplyActions.Colonist.Basic
import ReplyActions.Standard.Values

/-!
# Directives for the body

Injuries are treated, and lost parts grow back.
-/

namespace ReplyActions.Standard
open Number

/-- The worst of some injuries and its position; of equally bad ones, the last. -/
def worstInjury? : List Injury → Option (Nat × Injury)
  | [] => none
  | first :: rest =>
    match worstInjury? rest with
    | some (index, worst) =>
      if first.severity.val ≤ worst.severity.val then some (index + 1, worst) else some (0, first)
    | none => some (0, first)

/-- The colonist with injuries taken away, and what is said about it. -/
def healed (c : Colonist) (kept gone : List Injury) : Colonist × Except Failure Effect :=
  let after := { c with injuries := kept }
  match gone with
  | [] => (after, .error (.agentState "no matching injury"))
  | first :: _ =>
    (after, .ok ⟨"healed:" ++ natText gone.length,
      c.name ++ "'s " ++ first.part ++ " has been treated."⟩)

/-- Treats every injury of a body part or, if none is named, the worst injury. -/
def heal : Action Colonist where
  definition := ⟨"HEAL", .health, "Treat an injury (optionally name the body part)", .moderate,
    [optional "part" .text], ["injury:any"]⟩
  canExecute c params := c.alive && c.isInjured && holdsAt params 0 c.hasInjuryOn
  execute c params _ :=
    match params.text? 0 with
    | some part =>
      healed c (c.injuries.filter fun injury => !Text.sameIgnoringCase injury.part part)
        (c.injuries.filter fun injury => Text.sameIgnoringCase injury.part part)
    | none =>
      match worstInjury? c.injuries with
      | some (index, worst) => healed c (c.injuries.eraseIdx index) [worst]
      | none => (c, .error (.agentState "no injuries"))

def regrowLimb : Action Colonist where
  definition := ⟨"REGROW_LIMB", .health, "Regrow a missing body part", .strict,
    [required "part" .text], []⟩
  canExecute c params := c.alive && holdsAt params 0 fun part => c.isMissing (lookupLabel part)
  execute c params context :=
    match cleanedText params 0 "part" context with
    | .error failure => (c, .error failure)
    | .ok part =>
      match c.restorePart part with
      | (some restored, after) =>
        (after, .ok ⟨"regrown:" ++ restored, c.name ++ "'s " ++ restored ++ " grew back."⟩)
      | (none, after) =>
        (after, .error (.rejected (c.name ++ " is not missing a " ++ part ++ ".")))

end ReplyActions.Standard
