import ReplyActions.Directive.Definition
import ReplyActions.Directive.Outcome
import ReplyActions.Quota.Ledger
import ReplyActions.Settings.Config
import ReplyActions.Text.Cleanup

/-!
# Handlers

A handler is a directive that can be carried out: its definition and four hooks, each of which may
break down. What a hook has done to the agent by then stays done.
-/

namespace ReplyActions
open Number

/-- Agents have an identifier, by which quotas are kept. -/
class Agent (α : Type) where
  agentId : α → String

/-- What a directive is told beside its parameters. -/
structure Context where
  now : Tick
  /-- The clamped magnitude, if the directive declares one. -/
  magnitude : Option Points
  settings : EffectSettings

namespace Context

def cleaned (context : Context) (text : String) : String :=
  Text.cleaned text context.settings.maxTextLength.val

/-- A value, moved into the range of magnitudes in force. -/
def clamped (context : Context) (value : Whole) : Points :=
  clampMagnitude value context.settings.magnitudeLimit

def durationOf (context : Context) (magnitude : Points) : Tick :=
  context.settings.durations.durationOf magnitude

end Context

/-- A directive that can be carried out on agents. -/
structure Handler (α : Type) where
  definition : Definition
  /-- The directive can be carried out. Without parameters: at all, on this agent. -/
  canExecute : α → Params → Attempt Bool
  magnitude : Params → Attempt (Option Whole)
  quota : Attempt (Option Quota.Policy)
  /-- Carries the directive out: the agent afterwards, and what came of it. -/
  execute : α → Params → Context → α × Attempt (Except Failure Effect)

/-- A directive whose hooks never break down. -/
structure Action (α : Type) where
  definition : Definition
  canExecute : α → Params → Bool
  magnitude : Params → Option Whole := fun _ => none
  quota : Option Quota.Policy := none
  execute : α → Params → Context → α × Except Failure Effect

def Action.handler {α : Type} (action : Action α) : Handler α where
  definition := action.definition
  canExecute agent params := .finished (action.canExecute agent params)
  magnitude params := .finished (action.magnitude params)
  quota := .finished action.quota
  execute agent params context :=
    let (agent, outcome) := action.execute agent params context
    (agent, .finished outcome)

end ReplyActions
