import ReplyActions.Gate
import ReplyActions.Log.Record

/-!
# Events

What a dispatcher tells the diagnostic log, with all detail.
-/

namespace ReplyActions
open Number

inductive Stage where
  | admission
  | execute
deriving DecidableEq

def Stage.label : Stage → String
  | admission => "admission"
  | execute => "execute"

inductive Event where
  /-- A handler took the place of an earlier one while the dispatcher was set up. -/
  | replaced (directive : String)
  | parsed (agent : String) (tick : Tick) (invocations : Nat)
  | swept (tick : Tick) (removed remaining : Nat)
  | unknown (directive : String) (offset : Nat)
  | denied (directive agent reason : String)
  | succeeded (directive agent status : String) (magnitude : Option Points)
  | failed (directive agent code error : String)
  | crashed (directive agent : String) (stage : Stage) (error : String)
  | advertised (agent : String) (tick : Tick) (offers groups : Nat)
deriving DecidableEq

namespace Event

def level : Event → Log.Level
  | replaced _ => .warn
  | parsed _ _ _ => .debug
  | swept _ _ _ => .debug
  | unknown _ _ => .warn
  | denied _ _ _ => .info
  | succeeded _ _ _ _ => .info
  | failed _ _ _ _ => .error
  | crashed _ _ _ _ => .error
  | advertised _ _ _ _ => .debug

def message : Event → String
  | replaced _ => "directives.catalog.replaced"
  | parsed _ _ _ => "directives.batch.parsed"
  | swept _ _ _ => "directives.quota.swept"
  | unknown _ _ => "directives.invocation.unknown"
  | denied _ _ _ => "directives.invocation.denied"
  | succeeded _ _ _ _ => "directives.invocation.succeeded"
  | failed _ _ _ _ => "directives.invocation.failed"
  | crashed _ _ _ _ => "directives.invocation.failed"
  | advertised _ _ _ _ => "directives.advertisement.built"

def details : Event → List (String × Datum)
  | replaced directive => [("directive", .text directive)]
  | parsed agent tick invocations =>
    [("agent", .text agent), ("tick", .int tick.val), ("invocations", .int invocations)]
  | swept tick removed remaining =>
    [("tick", .int tick.val), ("removed", .int removed), ("remaining", .int remaining)]
  | unknown directive offset => [("directive", .text directive), ("offset", .int offset)]
  | denied directive agent reason =>
    [("directive", .text directive), ("agent", .text agent), ("reason", .text reason)]
  | succeeded directive agent status magnitude =>
    [("directive", .text directive), ("agent", .text agent), ("status", .text status),
      ("magnitude", match magnitude with
        | some m => .int m.val
        | none => .null)]
  | failed directive agent code error =>
    [("directive", .text directive), ("agent", .text agent), ("code", .text code),
      ("error", .text error)]
  | crashed directive agent stage error =>
    [("directive", .text directive), ("agent", .text agent), ("code", .text "panic"),
      ("stage", .text stage.label), ("error", .text error)]
  | advertised agent tick offers groups =>
    [("agent", .text agent), ("tick", .int tick.val), ("advertised", .int offers),
      ("categories", .int groups)]

def record (event : Event) (module : String) : Log.Record :=
  ⟨module, event.level, event.message, SortedMap.ofList event.details⟩

end Event

end ReplyActions
