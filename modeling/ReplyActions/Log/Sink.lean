import ReplyActions.Log.Record

/-!
# Log sinks

Records go to every sink of a list, whatever happens at the ones before. A sink in memory keeps the
newest records, a file keeps those that are serious enough, and a sink can fail.
-/

namespace ReplyActions.Log

/-- A place that records go to. Records are kept oldest first. -/
inductive Sink where
  /-- Keeps the newest records, at least one. -/
  | memory (capacity : Nat) (kept : List Record)
  | broken (message : String)
  /-- Keeps the records from a level on. -/
  | file (least : Level) (lines : List Record)
deriving DecidableEq

def roomFor (capacity : Nat) : Nat := max capacity 1

/-- Records in memory with one more; the oldest goes if there is no room. -/
def pushed (capacity : Nat) (kept : List Record) (r : Record) : List Record :=
  let all := kept ++ [r]
  if roomFor capacity < all.length then all.drop 1 else all

/-- The sink after a record, and the failure if there is one. -/
def Sink.accept (sink : Sink) (r : Record) : Option String × Sink :=
  match sink with
  | memory capacity kept => (none, memory capacity (pushed capacity kept r))
  | broken message => (some message, broken message)
  | file least lines =>
    (none, if r.level.rank < least.rank then file least lines else file least (lines ++ [r]))

/-- The sinks that the records of one module go to. -/
structure Telemetry where
  module : String
  sinks : List Sink
deriving DecidableEq

namespace Telemetry

/-- The telemetry after a record, and the first failure if there is one. -/
def log (t : Telemetry) (level : Level) (message : String) (metadata : Metadata) :
    Option String × Telemetry :=
  let outcomes := t.sinks.map (·.accept ⟨t.module, level, message, metadata⟩)
  (outcomes.findSome? (·.1), { t with sinks := outcomes.map (·.2) })

def remembered (t : Telemetry) : List Record :=
  (t.sinks.findSome? fun
    | .memory _ kept => some kept
    | _ => none).getD []

def filed (t : Telemetry) : List Record :=
  (t.sinks.findSome? fun
    | .file _ lines => some lines
    | _ => none).getD []

end Telemetry

end ReplyActions.Log
