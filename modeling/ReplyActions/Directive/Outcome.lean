import ReplyActions.Number.Decimal
import ReplyActions.Token.Invocation

/-!
# Outcomes

What carrying out a directive can lead to, and the result that is reported for an invocation. Only
the message of a refusal is shown to players; every other detail stays in the diagnostic log.
-/

namespace ReplyActions

/-- What a hook of a handler does: it comes to an end, or it breaks down. -/
inductive Attempt (α : Type) where
  | finished (value : α)
  /-- The hook broke down, with a message if it left one. -/
  | crashed (message : Option String)
deriving DecidableEq

/-- The message of a breakdown, for the log. -/
def crashText (message : Option String) : String := message.getD "non-string panic payload"

structure Effect where
  status : String
  narrative : String
deriving DecidableEq

inductive Failure where
  | rejected (message : String)
  /-- A value that fits the schema and is of no use. -/
  | invalidParameter (name detail : String)
  | agentState (detail : String)
  /-- Anything else: the chain of causes, outermost first. -/
  | internal (causes : List String)
deriving DecidableEq

namespace Failure

def code : Failure → String
  | rejected _ => "rejected"
  | invalidParameter _ _ => "invalid_parameter"
  | agentState _ => "agent_state"
  | internal _ => "internal"

/-- The failure with all detail, for the log. -/
def message : Failure → String
  | rejected text => text
  | invalidParameter name detail => "invalid parameter `" ++ name ++ "`: " ++ detail
  | agentState detail => "agent state: " ++ detail
  | internal causes => ": ".intercalate causes

/-- What players are told when a directive fails without a message for them. -/
def silentNarrative (id : String) : String := id ++ " could not be carried out"

def narrative (failure : Failure) (id : String) : String :=
  match failure with
  | rejected text => text
  | _ => silentNarrative id

end Failure

inductive Outcome where
  | success
  | preconditionFailed
  | unknownDirective
  | executionError
deriving DecidableEq

def Outcome.label : Outcome → String
  | success => "Success"
  | preconditionFailed => "PreconditionFailed"
  | unknownDirective => "UnknownDirective"
  | executionError => "ExecutionError"

structure Result where
  directiveId : String
  outcome : Outcome
  result : String
  narrative : String
  offset : Nat
deriving DecidableEq

namespace Result

def isSuccess (r : Result) : Bool := r.outcome = .success

def succeeded (i : Invocation) (effect : Effect) : Result :=
  ⟨i.id, .success, effect.status, effect.narrative, i.offset⟩

def unknown (i : Invocation) : Result :=
  ⟨i.id, .unknownDirective, "unknown", "Unknown directive: " ++ i.id, i.offset⟩

def denied (i : Invocation) (reason : String) : Result :=
  ⟨i.id, .preconditionFailed, reason, "Cannot execute " ++ i.id, i.offset⟩

def failed (i : Invocation) (failure : Failure) : Result :=
  ⟨i.id, .executionError, "error:" ++ failure.code, failure.narrative i.id, i.offset⟩

def crashed (i : Invocation) : Result :=
  ⟨i.id, .executionError, "error:panic", Failure.silentNarrative i.id, i.offset⟩

end Result

end ReplyActions
