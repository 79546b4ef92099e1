import ReplyActions.Dispatch.Dispatcher
import ReplyActions.Standard.Body
import ReplyActions.Standard.Labour
import ReplyActions.Standard.Mind
import ReplyActions.Standard.Relations
import ReplyActions.Standard.Supplies

/-!
# The standard directives

The directives for colonists in order of registration, the rules by which they are ranked, and the
dispatcher that carries them out. Injuries, captivity, low needs and low moods speak for the
directives that are meant for them.
-/

namespace ReplyActions

namespace Colonist
open Number

def bonusIf (condition : Bool) (bonus : Points) : Points := if condition then bonus else 0

/-- An injured colonist, and a directive for one of the injured parts or for any. -/
def injuryRule : Rule Colonist := fun c d =>
  bonusIf (((d.tagsUnder "injury").any fun part => part = "any" || c.hasInjuryOn part) &&
    c.isInjured) 20

/-- The usual mood directive is always worth offering. -/
def canonicalMoodRule : Rule Colonist := fun _ d => bonusIf (d.hasTag "mood:canonical") 25

def captivityRule : Rule Colonist := fun c d => bonusIf (c.isCaptive && d.hasTag "captivity") 20

def lowNeedRule : Rule Colonist := fun c d =>
  bonusIf ((d.tagsUnder "need").any fun need => c.needIsLow need) 15

def lowMoodRule : Rule Colonist := fun c d =>
  bonusIf (d.category = .mood && c.mood.val < lowMood) 10

def rules : List (Rule Colonist) :=
  [injuryRule, canonicalMoodRule, captivityRule, lowNeedRule, lowMoodRule]

end Colonist

namespace Standard

def actions : List (Action Colonist) :=
  [heal, regrowLimb, addThought, removeThought, changeOpinion, gainXp, reduceResistance, recruit,
    releasePrisoner, setWorkPriority, satisfyNeed, addTrait, removeTrait, giveItem, dropItem, goTo,
    inspire]

def catalog : Catalog Colonist := .ofList (actions.map Action.handler)

def dispatcher (config : Config) : Dispatcher Colonist := ⟨catalog, Colonist.rules, config⟩

end Standard

end ReplyActions
