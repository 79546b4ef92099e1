import ReplyActions.Catalog
import ReplyActions.Gate

/-!
# Advertisements

The directives that an agent can be offered at a time: grouped by category, the most relevant first,
a limited number in each category. Directives of equal relevance stay in order of registration.
-/

namespace ReplyActions
open Number

/-- A rule gives a directive a bonus with respect to an agent. -/
abbrev Rule (α : Type) := α → Definition → Points

structure Offer where
  id : String
  description : String
  usage : String
  score : Points
deriving DecidableEq

structure OfferGroup where
  category : Category
  offers : List Offer
  /-- The number of available directives for which there is no room. -/
  omitted : Nat
deriving DecidableEq

/-- The advertised directives, by category. No group is without directives. -/
structure Advertisement where
  groups : List OfferGroup
deriving DecidableEq

namespace Advertisement

def size (a : Advertisement) : Nat := (a.groups.flatMap (·.offers)).length

def isEmpty (a : Advertisement) : Bool := a.groups.isEmpty

def group? (a : Advertisement) (category : Category) : Option OfferGroup :=
  a.groups.find? (·.category = category)

/-- The relevance of an advertised directive, in whatever case it is written. -/
def scoreOf? (a : Advertisement) (id : String) : Option Points :=
  ((a.groups.flatMap (·.offers)).find? fun offer => Text.sameIgnoringCase offer.id id).map (·.score)

def offerLine (offer : Offer) : String :=
  "- " ++ offer.id ++ ": " ++ offer.description ++ " " ++ offer.usage ++ "\n"

def groupLines (group : OfferGroup) : String :=
  group.category.label ++ ":\n" ++ String.join (group.offers.map offerLine) ++
    (if group.omitted = 0 then "" else "…and " ++ natText group.omitted ++ " more available.\n")

def rendered (a : Advertisement) : String :=
  "Available actions (append [ACTION:ID:param:...] to your reply to use one):\n" ++
    String.join (a.groups.map groupLines)

/-! ### Ranking -/

/-- The relevance of a directive: the sum of its bonuses. -/
def scoreBy {α : Type} (rules : List (Rule α)) (agent : α) (d : Definition) : Points :=
  rules.foldl (fun sum rule => sum.plus (rule agent d)) 0

def offerOf {α : Type} (rules : List (Rule α)) (agent : α) (d : Definition) : Offer :=
  ⟨d.id, d.description, d.usage, scoreBy rules agent d⟩

/-- Offers in order of falling relevance with one more, after all that are as relevant. -/
def insertOffer (offer : Offer) : List Offer → List Offer
  | [] => [offer]
  | first :: rest =>
    if first.score.val < offer.score.val then offer :: first :: rest
    else first :: insertOffer offer rest

/-- Offers in order of falling relevance; equal ones stay in order. -/
def ranked (offers : List Offer) : List Offer :=
  offers.foldl (fun done offer => insertOffer offer done) []

/-- The group of a category, unless it is empty. -/
def groupOf? (limit : Nat) (category : Category) (offers : List Offer) : Option OfferGroup :=
  if offers.isEmpty then none
  else some ⟨category, (ranked offers).take limit, offers.length - limit⟩

def available {α : Type} [Agent α] (gate : Gate) (agent : α) :
    List (Handler α) → Attempt (List (Handler α))
  | [] => .finished []
  | handler :: rest =>
    match gate.isAvailable handler agent with
    | .crashed message => .crashed message
    | .finished isAvailable =>
      match available gate agent rest with
      | .crashed message => .crashed message
      | .finished others => .finished (if isAvailable then handler :: others else others)

def groupsOf {α : Type} [Agent α] (catalog : Catalog α) (rules : List (Rule α)) (gate : Gate)
    (agent : α) (limit : Nat) : List Category → Attempt (List OfferGroup)
  | [] => .finished []
  | category :: rest =>
    match available gate agent (catalog.inCategory category) with
    | .crashed message => .crashed message
    | .finished handlers =>
      match groupsOf catalog rules gate agent limit rest with
      | .crashed message => .crashed message
      | .finished groups =>
        let offers := handlers.map fun handler => offerOf rules agent handler.definition
        .finished ((groupOf? limit category offers).toList ++ groups)

/-- The directives that an agent can be offered, at least one in a category. -/
def rank {α : Type} [Agent α] (catalog : Catalog α) (rules : List (Rule α)) (gate : Gate)
    (agent : α) : Attempt Advertisement :=
  let limit := max gate.config.perCategoryLimit.val 1
  match groupsOf catalog rules gate agent limit Category.all with
  | .crashed message => .crashed message
  | .finished groups => .finished ⟨groups⟩

end Advertisement

end ReplyActions
