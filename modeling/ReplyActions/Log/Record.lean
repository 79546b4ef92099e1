import ReplyActions.Datum.Basic
import ReplyActions.SortedMap

/-!
# Log records

What is logged: where it comes from, how serious it is, what has happened, and details by name.
-/

namespace ReplyActions.Log

inductive Level where
  | debug
  | info
  | warn
  | error
deriving DecidableEq

namespace Level

def all : List Level := [debug, info, warn, error]

def rank : Level → Nat
  | debug => 0
  | info => 1
  | warn => 2
  | error => 3

def label : Level → String
  | debug => "DEBUG"
  | info => "INFO"
  | warn => "WARN"
  | error => "ERROR"

def ofLabel? (label : String) : Option Level := all.find? fun level => level.label = label

end Level

abbrev Metadata := SortedMap String Datum

/-- The details that a value stands for: the fields of a record, nothing for null, and anything
else as the detail `value`. -/
def metadataOf : Datum → Metadata
  | .record fields => SortedMap.ofList fields
  | .null => .empty
  | other => SortedMap.ofList [("value", other)]

structure Record where
  module : String
  level : Level
  /-- What has happened, as a dotted name. -/
  message : String
  metadata : Metadata
deriving DecidableEq

/-- The fields of a record as they are written; details only if there are any. -/
def Record.fields (r : Record) : List (String × Datum) :=
  [("module", .text r.module), ("level", .text r.level.label), ("message", .text r.message)] ++
    (if r.metadata.isEmpty then [] else [("metadata", .record r.metadata.entries)])

/-- A record as a line of a log file, with the time at which it is written. -/
def Record.stamped (r : Record) (time : String) : Datum :=
  .record (("timestamp", .text time) :: r.fields)

end ReplyActions.Log
