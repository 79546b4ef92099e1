import ReplyActions.Colonist.Basic
import ReplyActions.Datum.Fields
import ReplyActions.Json.Printer
import ReplyActions.Json.Reader

/-!
# Saved colonists

A colonist as a JSON document. All fields are written, in the order of their declaration; only the
identifier and the name have to be there when a document is read.
-/

namespace ReplyActions
open Datum

namespace Injury

def toDatum (i : Injury) : Datum :=
  .record [("part", .text i.part), ("kind", .text i.kind), ("severity", ofUnsigned i.severity)]

def ofDatum? (d : Datum) : Option Injury := do
  let f ← d.fields? false ["part", "kind", "severity"]
  return ⟨← f.required "part" toText?, ← f.required "kind" toText?,
    ← f.required "severity" toUnsigned?⟩

end Injury

namespace Thought

def toDatum (t : Thought) : Datum :=
  .record [("label", .text t.label), ("mood_offset", ofSigned t.moodOffset),
    ("expires_at", ofUnsigned t.expiresAt)]

def ofDatum? (d : Datum) : Option Thought := do
  let f ← d.fields? false ["label", "mood_offset", "expires_at"]
  return ⟨← f.required "label" toText?, ← f.required "mood_offset" toSigned?,
    ← f.required "expires_at" toUnsigned?⟩

end Thought

namespace Skill

def toDatum (s : Skill) : Datum :=
  .record [("level", ofUnsigned s.level), ("xp", ofUnsigned s.xp)]

def ofDatum? (d : Datum) : Option Skill := do
  let f ← d.fields? false ["level", "xp"]
  return ⟨← f.required "level" toUnsigned?, ← f.required "xp" toUnsigned?⟩

end Skill

namespace Captivity

def toDatum (c : Captivity) : Datum :=
  .record [("resistance", ofSigned c.resistance), ("recruitable", .bool c.recruitable)]

def ofDatum? (d : Datum) : Option Captivity := do
  let f ← d.fields? false ["resistance", "recruitable"]
  return ⟨← f.required "resistance" toSigned?, ← f.required "recruitable" toBool?⟩

end Captivity

namespace Inspiration

def toDatum (i : Inspiration) : Datum :=
  .record [("kind", .text i.kind), ("expires_at", ofUnsigned i.expiresAt)]

def ofDatum? (d : Datum) : Option Inspiration := do
  let f ← d.fields? false ["kind", "expires_at"]
  return ⟨← f.required "kind" toText?, ← f.required "expires_at" toUnsigned?⟩

end Inspiration

namespace Colonist

def fieldNames : List String :=
  ["id", "name", "alive", "downed", "injuries", "missing_parts", "base_mood", "thoughts",
    "opinions", "skills", "captivity", "work_priorities", "needs", "traits", "inventory",
    "location", "inspiration"]

def toFields (c : Colonist) : List (String × Datum) :=
  [("id", .text c.id),
    ("name", .text c.name),
    ("alive", .bool c.alive),
    ("downed", .bool c.downed),
    ("injuries", .list (c.injuries.map Injury.toDatum)),
    ("missing_parts", .list (c.missingParts.map .text)),
    ("base_mood", ofSigned c.baseMood),
    ("thoughts", .list (c.thoughts.map Thought.toDatum)),
    ("opinions", ofMap ofSigned c.opinions),
    ("skills", ofMap Skill.toDatum c.skills),
    ("captivity", ofOption Captivity.toDatum c.captivity),
    ("work_priorities", ofMap ofUnsigned c.workPriorities),
    ("needs", ofMap ofSigned c.needs),
    ("traits", .list (c.traits.map .text)),
    ("inventory", ofMap ofUnsigned c.inventory),
    ("location", ofOption .text c.location),
    ("inspiration", ofOption Inspiration.toDatum c.inspiration)]

def toDatum (c : Colonist) : Datum := .record c.toFields

def ofDatum? (d : Datum) : Option Colonist := do
  let f ← d.fields? false fieldNames
  return {
    id := ← f.required "id" toText?
    name := ← f.required "name" toText?
    alive := ← f.withDefault "alive" true toBool?
    downed := ← f.withDefault "downed" false toBool?
    injuries := ← f.withDefault "injuries" [] (toList? Injury.ofDatum?)
    missingParts := ← f.withDefault "missing_parts" [] (toList? toText?)
    baseMood := ← f.withDefault "base_mood" 50 toSigned?
    thoughts := ← f.withDefault "thoughts" [] (toList? Thought.ofDatum?)
    opinions := ← f.withDefault "opinions" .empty (toMap? toSigned?)
    skills := ← f.withDefault "skills" .empty (toMap? Skill.ofDatum?)
    captivity := ← f.withDefault "captivity" none (Fields.nullable Captivity.ofDatum?)
    workPriorities := ← f.withDefault "work_priorities" .empty (toMap? toUnsigned?)
    needs := ← f.withDefault "needs" .empty (toMap? toSigned?)
    traits := ← f.withDefault "traits" [] (toList? toText?)
    inventory := ← f.withDefault "inventory" .empty (toMap? toUnsigned?)
    location := ← f.withDefault "location" none (Fields.nullable toText?)
    inspiration := ← f.withDefault "inspiration" none (Fields.nullable Inspiration.ofDatum?) }

def saved (c : Colonist) : String := Json.pretty c.toDatum

def ofSaved? (text : String) : Option Colonist := (Json.read text).bind ofDatum?

end Colonist

end ReplyActions
