import ReplyActions.Datum.Basic
import ReplyActions.Number.Bounded
import ReplyActions.SortedMap

/-!
# Reading data

Readers turn a value of a document into a value of a domain type, or refuse it. A record can be
written with its fields by name or, in the order of their declaration, as a list. By name, no field
may come twice, and fields that are not declared are passed over.
-/

namespace ReplyActions.Datum
open Number

/-- What a record holds: its declared fields by name, whichever way it is written. -/
structure Fields where
  byPosition : Bool
  found : List (String × Datum)

/-- No declared field comes twice. -/
def eachOnce (declared : List String) (fields : List (String × Datum)) : Bool :=
  declared.all fun name => (fields.filter fun f => f.1 = name).length ≤ 1

/-- The fields of a record. A list may be longer than the declaration only where `surplus` says
so. -/
def fields? (surplus : Bool) (declared : List String) : Datum → Option Fields
  | record fields => if eachOnce declared fields then some ⟨false, fields⟩ else none
  | list items =>
    if items.length ≤ declared.length || surplus then some ⟨true, declared.zip items⟩ else none
  | _ => none

namespace Fields

variable {α : Type}

def get? (fields : Fields) (name : String) : Option Datum :=
  (fields.found.find? fun f => f.1 = name).map (·.2)

def required (fields : Fields) (name : String) (reader : Datum → Option α) : Option α :=
  (fields.get? name).bind reader

/-- A field that has a value of its own when it is missing. -/
def withDefault (fields : Fields) (name : String) (value : α) (reader : Datum → Option α) :
    Option α :=
  match fields.get? name with
  | some datum => reader datum
  | none => some value

def nullable (reader : Datum → Option α) : Datum → Option (Option α)
  | .null => some none
  | datum => (reader datum).map some

/-- A field that may be null or, in a record by name, missing. -/
def nullOrMissing (fields : Fields) (name : String) (reader : Datum → Option α) :
    Option (Option α) :=
  match fields.get? name with
  | some datum => nullable reader datum
  | none => if fields.byPosition then none else some none

end Fields

/-! ### Readers of simple values -/

def toBool? : Datum → Option Bool
  | bool b => some b
  | _ => none

def toText? : Datum → Option String
  | text s => some s
  | _ => none

def toInt? : Datum → Option Int
  | int i => some i
  | _ => none

def toUnsigned? {max : Nat} (datum : Datum) : Option (Unsigned max) :=
  datum.toInt?.bind Unsigned.ofInt?

def toSigned? {max : Nat} (datum : Datum) : Option (Signed max) :=
  datum.toInt?.bind Signed.ofInt?

def toList? {α : Type} (reader : Datum → Option α) : Datum → Option (List α)
  | list items => items.mapM reader
  | _ => none

/-- The name of a case, alone or as the only field of a record, where its value is null. -/
def toCase? : Datum → Option String
  | text name => some name
  | record [(name, null)] => some name
  | _ => none

/-- A record whose field names are keys, in the order in which it is written. -/
def toEntries? {α : Type} (reader : Datum → Option α) : Datum → Option (List (String × α))
  | record fields => fields.mapM fun f => (reader f.2).map fun value => (f.1, value)
  | _ => none

/-- A sorted map, written as a record; of two fields with one name, the later counts. -/
def toMap? {α : Type} (reader : Datum → Option α) (datum : Datum) : Option (SortedMap String α) :=
  (toEntries? reader datum).map SortedMap.ofList

/-! ### Writing -/

def ofOption {α : Type} (writer : α → Datum) : Option α → Datum
  | some value => writer value
  | none => null

def ofUnsigned {max : Nat} (n : Unsigned max) : Datum := int n.val

def ofSigned {max : Nat} (i : Signed max) : Datum := int i.val

def ofMap {α : Type} (writer : α → Datum) (m : SortedMap String α) : Datum :=
  record (m.entries.map fun entry => (entry.1, writer entry.2))

end ReplyActions.Datum
