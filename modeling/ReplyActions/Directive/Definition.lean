import ReplyActions.Directive.Category
import ReplyActions.Directive.Parameter
import ReplyActions.Token.Invocation

/-!
# Definitions of directives

What is known about a directive before it runs: its identifier, category and advertisement text,
the parameters it declares, and the tags that ranking rules look at.
-/

namespace ReplyActions
open Number

structure ParamSpec where
  name : String
  kind : ParamKind
  required : Bool
deriving DecidableEq

inductive SchemaError where
  | tooFew (expected got : Nat)
  | tooMany (max got : Nat)
  | badValue (index : Nat) (name : String) (expected : ParamKind)
deriving DecidableEq

def SchemaError.message : SchemaError → String
  | tooFew expected got =>
    "expected at least " ++ natText expected ++ " parameter(s), got " ++ natText got
  | tooMany max got =>
    "expected at most " ++ natText max ++ " parameter(s), got " ++ natText got
  | badValue index name expected =>
    "parameter " ++ natText index ++ " (`" ++ name ++ "`) is not a valid " ++ expected.label

structure Definition where
  /-- The identifier, usually in canonical form. -/
  id : String
  category : Category
  description : String
  strictness : Strictness
  params : List ParamSpec
  /-- Labels for ranking rules, each one once. -/
  tags : List String
deriving DecidableEq

namespace Definition

def addTag (tags : List String) (tag : String) : List String :=
  if tag ∈ tags then tags else tags ++ [tag]

/-- The tags of a list, each one once, at its first place. -/
def tagsOf (tags : List String) : List String := tags.foldl addTag []

/-- A definition with its identifier in canonical form. -/
def named (id : String) (category : Category) (description : String)
    (strictness : Strictness) (params : List ParamSpec) (tags : List String) : Definition :=
  ⟨canonicalId id, category, description, strictness, params, tagsOf tags⟩

def hasTag (d : Definition) (tag : String) : Bool := d.tags.contains tag

/-- What remains of a text after a first part. -/
def remainderAfter? : List Char → List Char → Option (List Char)
  | [], text => some text
  | c :: start, d :: text => if c = d then remainderAfter? start text else none
  | _ :: _, [] => none

/-- What follows `family:` in the tags that begin so. -/
def tagsUnder (d : Definition) (family : String) : List String :=
  d.tags.filterMap fun tag =>
    (remainderAfter? (family.toList ++ [':']) tag.toList).map String.ofList

def requiredCount (d : Definition) : Nat := (d.params.filter (·.required)).length

/-- The first value that is not of its declared kind, among values that start at a position. -/
def firstBadValue? (index : Nat) : List ParamSpec → List String → Option SchemaError
  | spec :: specs, value :: values =>
    if spec.kind.accepts value then firstBadValue? (index + 1) specs values
    else some (.badValue index spec.name spec.kind)
  | _, _ => none

def validate (d : Definition) (params : Params) : Except SchemaError Unit :=
  -- the number of values is judged before any of them
  if params.length < d.requiredCount then .error (.tooFew d.requiredCount params.length)
  else if d.params.length < params.length then .error (.tooMany d.params.length params.length)
  else match firstBadValue? 0 d.params params with
    | some fault => .error fault
    | none => .ok ()

/-- A parameter in a token template: its name, with a question mark if it can be left out. -/
def paramUsage (spec : ParamSpec) : String :=
  ":" ++ spec.name ++ (if spec.required then "" else "?")

/-- The token template that is shown to the writer of a reply. -/
def usage (d : Definition) : String :=
  "[ACTION:" ++ d.id ++ String.join (d.params.map paramUsage) ++ "]"

end Definition

end ReplyActions
