import ReplyActions.Handler

/-!
# The gate

What an invocation has to pass before its directive is carried out: the directive is switched on,
the values fit its parameters, its own condition holds, and its quota leaves room. The first
obstacle is the one that is named. A hook that breaks down ends the examination.
-/

namespace ReplyActions
open Number

inductive Refusal where
  | disabled
  | invalidParameters (fault : SchemaError)
  | precondition
  | quota (denial : Quota.Denial)
deriving DecidableEq

def Refusal.message : Refusal → String
  | disabled => "disabled"
  | invalidParameters fault => "invalid parameters: " ++ fault.message
  | precondition => "precondition"
  | quota denial => "quota: " ++ denial.message

/-- What has been settled about an invocation that is admitted. -/
structure Admission where
  /-- The clamped magnitude, if the directive declares one. -/
  magnitude : Option Points
  /-- The quota in force, which a success has to be recorded under. -/
  policy : Option Quota.Policy
deriving DecidableEq

structure Gate where
  config : Config
  ledger : Quota.Ledger
  now : Tick

namespace Gate

variable {α : Type} [Agent α]

/-- The quota of a handler leaves room for an agent. -/
def checkQuota (gate : Gate) (policy : Option Quota.Policy) (id : String) (agent : α)
    (magnitude : Option Points) : Except Quota.Denial Unit :=
  match policy with
  | none => .ok ()
  | some policy => gate.ledger.check policy ⟨id, Agent.agentId agent⟩ gate.now magnitude

def examine (gate : Gate) (handler : Handler α) (agent : α) (params : Params) :
    Attempt (Except Refusal Admission) :=
  if gate.config.isDisabled handler.definition.id then .finished (.error .disabled)
  else match handler.definition.validate params with
  | .error fault => .finished (.error (.invalidParameters fault))
  | .ok () =>
    match handler.canExecute agent params with
    | .crashed message => .crashed message
    | .finished false => .finished (.error .precondition)
    | .finished true =>
      match handler.magnitude params with
      | .crashed message => .crashed message
      | .finished value =>
        match handler.quota with
        | .crashed message => .crashed message
        | .finished own =>
          let magnitude := value.map (clampMagnitude · gate.config.effects.magnitudeLimit)
          let policy := gate.config.quotaFor handler.definition.id own
          match gate.checkQuota policy handler.definition.id agent magnitude with
          | .error denial => .finished (.error (.quota denial))
          -- nothing is recorded yet: only a success counts
          | .ok () => .finished (.ok ⟨magnitude, policy⟩)

/-- Whether a directive is worth advertising: it is switched on, its condition holds without
parameters, and its quota leaves room for a grant without magnitude. -/
def isAvailable (gate : Gate) (handler : Handler α) (agent : α) : Attempt Bool :=
  if gate.config.isDisabled handler.definition.id then .finished false
  else match handler.canExecute agent [] with
  | .crashed message => .crashed message
  | .finished false => .finished false
  | .finished true =>
    match handler.quota with
    | .crashed message => .crashed message
    | .finished own =>
      let policy := gate.config.quotaFor handler.definition.id own
      .finished (gate.checkQuota policy handler.definition.id agent none).isOk

end Gate

end ReplyActions
