import ReplyActions.Handler
import ReplyActions.Number.Bounded
import ReplyActions.SortedMap
import ReplyActions.Text.LetterCase

/-!
# Colonists

The inhabitants of a settlement, on whom directives are carried out: health, thoughts, relations,
skills, captivity, work, needs, traits, belongings and whereabouts.
-/

namespace ReplyActions
open Number

structure Injury where
  part : String
  kind : String
  severity : Grade
deriving DecidableEq

structure Thought where
  label : String
  moodOffset : Points
  expiresAt : Tick
deriving DecidableEq

structure Skill where
  level : Grade
  /-- The experience gained towards the next level. -/
  xp : Amount
deriving DecidableEq

structure Captivity where
  resistance : Points
  /-- The prisoner can be won over at all. -/
  recruitable : Bool
deriving DecidableEq

structure Inspiration where
  kind : String
  expiresAt : Tick
deriving DecidableEq

structure Colonist where
  id : String
  name : String
  alive : Bool
  downed : Bool
  injuries : List Injury
  missingParts : List String
  /-- The mood before thoughts. -/
  baseMood : Points
  thoughts : List Thought
  /-- The opinions of others, by identifier. -/
  opinions : SortedMap String Points
  skills : SortedMap String Skill
  captivity : Option Captivity
  workPriorities : SortedMap String Grade
  needs : SortedMap String Points
  traits : List String
  inventory : SortedMap String Amount
  location : Option String
  inspiration : Option Inspiration
deriving DecidableEq

instance : Agent Colonist := ⟨Colonist.id⟩

namespace Colonist

/-! ### Bounds of the domain -/

def lowMood : Int := 30

def lowNeed : Int := 30

def xpPerLevel : Nat := 1000

def maxSkillLevel : Nat := 20

def maxWorkPriority : Nat := 4

def maxTraits : Nat := 3

/-- A colonist in good health, free, and of middling mood. -/
def fresh (id name : String) : Colonist :=
  ⟨id, name, true, false, [], [], 50, [], .empty, .empty, none, .empty, .empty, [], .empty, none,
    none⟩

instance : Inhabited Colonist := ⟨fresh "" ""⟩

/-! ### Questions -/

def isActive (c : Colonist) : Bool := c.alive && !c.downed

def isCaptive (c : Colonist) : Bool := c.captivity.isSome

def isInjured (c : Colonist) : Bool := !c.injuries.isEmpty

def hasInjuryOn (c : Colonist) (part : String) : Bool :=
  c.injuries.any fun injury => Text.sameIgnoringCase injury.part part

def isMissing (c : Colonist) (part : String) : Bool :=
  c.missingParts.any fun missing => Text.sameIgnoringCase missing part

/-- The mood: the base and all thoughts, from 0 to 100. -/
def mood (c : Colonist) : Points :=
  Signed.within 0 100 (c.thoughts.foldl (fun sum thought => sum.plus thought.moodOffset) c.baseMood)

def thoughtIndex? (c : Colonist) (label : String) : Option Nat :=
  c.thoughts.findIdx? fun thought => Text.sameIgnoringCase thought.label label

def need? (c : Colonist) (name : String) : Option Points := c.needs.get? (Text.lower name)

/-- A need is low; `any` stands for some need. -/
def needIsLow (c : Colonist) (name : String) : Bool :=
  if name = "any" then c.needs.values.any fun level => level.val < lowNeed
  else (c.need? name).any fun level => level.val < lowNeed

def hasTrait (c : Colonist) (name : String) : Bool :=
  c.traits.any fun known => Text.sameIgnoringCase known name

def carried (c : Colonist) (item : String) : Amount :=
  (c.inventory.get? (Text.lower item)).getD 0

/-! ### Changes -/

/-- The colonist with a body part restored, and the part's name as it was noted. -/
def restorePart (c : Colonist) (part : String) : Option String × Colonist :=
  match c.missingParts.findIdx? fun missing => Text.sameIgnoringCase missing part with
  | some index =>
    (c.missingParts[index]?, { c with missingParts := c.missingParts.eraseIdx index })
  | none => (none, c)

/-- The colonist at a time, without what has faded. -/
def atTime (c : Colonist) (now : Tick) : Colonist :=
  { c with
    thoughts := c.thoughts.filter fun thought => now.val < thought.expiresAt.val
    inspiration := c.inspiration.filter fun inspiration => now.val < inspiration.expiresAt.val }

def fadedCount (c : Colonist) (now : Tick) : Nat :=
  c.thoughts.length - (c.atTime now).thoughts.length

end Colonist

end ReplyActions
