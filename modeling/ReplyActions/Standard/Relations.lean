import ReplyActions.Colonist.Basic
import ReplyActions.Standard.Values

/-!
# Directives for relations with others

Opinions shift, and prisoners are persuaded, welcomed or set free.
-/

namespace ReplyActions.Standard
open Number

/-- What an opinion is called. -/
def feeling (opinion : Int) : String :=
  if opinion ≤ -40 then "despises"
  else if opinion ≤ -10 then "dislikes"
  else if opinion ≤ 9 then "is indifferent to"
  else if opinion ≤ 39 then "likes"
  else "adores"

/-- Shifts the opinion of someone else, which stays between -100 and 100. -/
def changeOpinion : Action Colonist where
  definition := ⟨"CHANGE_OPINION", .social, "Shift the opinion of another person (id, -20..20)",
    .moderate, [required "target" .word, required "delta" .integer], []⟩
  canExecute c params :=
    c.alive && holdsAt params 0 fun target => !Text.sameIgnoringCase target c.id
  magnitude params := params.whole? 1
  quota := some ⟨some 6, none, some 40⟩
  execute c params context :=
    let target := keyAt params 0
    let delta := context.magnitude.getD 0
    let opinion := (((c.opinions.get? target).getD 0).plus delta).within (-100) 100
    ({ c with opinions := c.opinions.insert target opinion },
      .ok ⟨"opinion:" ++ target ++ ":" ++ signedText delta.val,
        c.name ++ " now " ++ feeling opinion.val ++ " " ++ target ++ "."⟩)

def notPrisoner : Failure := .agentState "not a prisoner"

/-- Wears down a prisoner's resistance; a negative amount hardens it. -/
def reduceResistance : Action Colonist where
  definition := ⟨"REDUCE_RESISTANCE", .prisoner,
    "Persuade a prisoner to resist less (optional amount -20..20)", .moderate,
    [optional "amount" .integer], ["captivity"]⟩
  canExecute c _ := c.alive && c.isCaptive
  magnitude params := some ((params.whole? 0).getD 5)
  quota := some ⟨some 2, none, some 30⟩
  execute c _ context :=
    match c.captivity with
    | none => (c, .error notPrisoner)
    | some captivity =>
      let amount := context.magnitude.getD 0
      let resistance := (captivity.resistance.minus amount).within 0 100
      let narrative :=
        if resistance.val = 0 then c.name ++ " has stopped resisting."
        else if amount.val < 0 then c.name ++ " grows more defiant."
        else c.name ++ " seems a little less defiant."
      ({ c with captivity := some { captivity with resistance := resistance } },
        .ok ⟨"resistance:" ++ intText resistance.val, narrative⟩)

/-- A prisoner who can be won over and no longer resists. -/
def isWonOver (c : Colonist) : Bool :=
  match c.captivity with
  | some captivity => captivity.recruitable && captivity.resistance.val = 0
  | none => false

/-- Turns a prisoner who no longer resists into a free colonist. -/
def recruit : Action Colonist where
  definition := ⟨"RECRUIT", .prisoner, "Welcome a prisoner who no longer resists into the colony",
    .strict, [], ["captivity"]⟩
  canExecute c _ := c.alive && isWonOver c
  execute c _ _ :=
    match c.captivity with
    | none => (c, .error notPrisoner)
    | some _ =>
      ({ c with captivity := none },
        .ok ⟨"recruited", c.name ++ " has joined the colony."⟩)

def releasePrisoner : Action Colonist where
  definition := ⟨"RELEASE_PRISONER", .prisoner, "Let a prisoner go", .strict, [], ["captivity"]⟩
  canExecute c _ := c.alive && c.isCaptive
  execute c _ _ :=
    match c.captivity with
    | none => (c, .error notPrisoner)
    | some _ =>
      ({ c with captivity := none, location := some "outside the colony" },
        .ok ⟨"released", c.name ++ " walks free."⟩)

end ReplyActions.Standard
