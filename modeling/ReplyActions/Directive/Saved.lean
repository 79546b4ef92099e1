import ReplyActions.Datum.Fields
import ReplyActions.Directive.Definition

/-!
# Definitions as data

A definition as a value of a document. All six fields have to be there; the identifier is taken as
it stands, and a tag that comes twice counts once.
-/

namespace ReplyActions
open Datum

def Category.ofDatum? (d : Datum) : Option Category := d.toCase?.bind ofLabel?

def Strictness.ofDatum? (d : Datum) : Option Strictness := d.toCase?.bind ofLabel?

def ParamKind.ofDatum? (d : Datum) : Option ParamKind := d.toCase?.bind ofName?

namespace ParamSpec

def toDatum (spec : ParamSpec) : Datum :=
  .record [("name", .text spec.name), ("kind", .text spec.kind.name),
    ("required", .bool spec.required)]

def ofDatum? (d : Datum) : Option ParamSpec := do
  let f ← d.fields? false ["name", "kind", "required"]
  return ⟨← f.required "name" toText?, ← f.required "kind" ParamKind.ofDatum?,
    ← f.required "required" toBool?⟩

end ParamSpec

namespace Definition

def fieldNames : List String :=
  ["id", "category", "description", "validation", "params", "tags"]

def toFields (d : Definition) : List (String × Datum) :=
  [("id", .text d.id),
    ("category", .text d.category.label),
    ("description", .text d.description),
    ("validation", .text d.strictness.label),
    ("params", .list (d.params.map ParamSpec.toDatum)),
    ("tags", .list (d.tags.map .text))]

def toDatum (d : Definition) : Datum := .record d.toFields

def ofDatum? (datum : Datum) : Option Definition := do
  let f ← datum.fields? false fieldNames
  return {
    id := ← f.required "id" toText?
    category := ← f.required "category" Category.ofDatum?
    description := ← f.required "description" toText?
    strictness := ← f.required "validation" Strictness.ofDatum?
    params := ← f.required "params" (toList? ParamSpec.ofDatum?)
    tags := tagsOf (← f.required "tags" (toList? toText?)) }

end Definition

end ReplyActions
