import ReplyActions.Advertisement
import ReplyActions.Dispatch.Event
import ReplyActions.Token.Strip

/-!
# The dispatcher

A dispatcher carries out what a reply asks for, one invocation after the other. Every invocation is
examined in the state that the ones before it have left, and gets exactly one result; whatever a
directive does, the next one has its turn. What is reported about a reply is the text that is left
to show, and one result for each invocation.

The time is given, or read from a clock that is moved by hand and never goes back.
-/

namespace ReplyActions
open Number

structure Report where
  text : String
  results : List Result
  /-- The reply held no token and its text has been left as it was. -/
  untouched : Bool
deriving DecidableEq

namespace Report

/-- The sentences for players, one a line. -/
def narration (r : Report) : String :=
  "\n".intercalate ((r.results.map (·.narrative)).filter (· ≠ ""))

def successes (r : Report) : List Result := r.results.filter (·.isSuccess)

def isNoop (r : Report) : Bool := r.results.isEmpty

end Report

structure Clock where
  now : Tick
deriving DecidableEq

namespace Clock

/-- The clock set to a time, unless that lies in the past. -/
def set (clock : Clock) (tick : Tick) : Clock := ⟨clock.now.larger tick⟩

def advance (clock : Clock) (ticks : Tick) : Clock := ⟨clock.now.plus ticks⟩

end Clock

/-! ### Dispatchers -/

/-- What a dispatcher works with. -/
structure Dispatcher (α : Type) where
  catalog : Catalog α
  rules : List (Rule α)
  config : Config

/-- What a dispatcher changes: an agent, and the grants so far. -/
structure Session (α : Type) where
  agent : α
  ledger : Quota.Ledger

structure Step (α : Type) where
  session : Session α
  result : Result
  event : Event

structure Dispatched (α : Type) where
  session : Session α
  report : Report
  events : List Event

namespace Dispatcher

variable {α : Type} [Agent α]

/-- A dispatcher whose handlers beyond a first catalog are registered one by one, and the events
that tell of handlers replaced in doing so. -/
def build (catalog : Catalog α) (more : List (Handler α)) (rules : List (Rule α))
    (config : Config) : Dispatcher α × List Event :=
  let (catalog, events) := more.foldl
    (fun (catalog, events) handler =>
      let (replaced, catalog) := catalog.register handler
      (catalog, if replaced.isSome then events ++ [.replaced handler.definition.id] else events))
    (catalog, [])
  (⟨catalog, rules, config⟩, events)

def newLedger (d : Dispatcher α) : Quota.Ledger := .empty d.config.dayLength

def gate (d : Dispatcher α) (ledger : Quota.Ledger) (now : Tick) : Gate := ⟨d.config, ledger, now⟩

/-! ### One invocation -/

def crashedStep (s : Session α) (i : Invocation) (stage : Stage) (message : Option String) :
    Step α :=
  ⟨s, .crashed i, .crashed i.id (Agent.agentId s.agent) stage (crashText message)⟩

/-- The ledger after a success: a grant is recorded where a quota is in force. -/
def recorded (ledger : Quota.Ledger) (admission : Admission) (id : String) (agent : α)
    (now : Tick) : Quota.Ledger :=
  match admission.policy with
  | some policy => ledger.record policy ⟨id, Agent.agentId agent⟩ now admission.magnitude
  | none => ledger

def perform (d : Dispatcher α) (now : Tick) (s : Session α) (i : Invocation)
    (handler : Handler α) (admission : Admission) : Step α :=
  match handler.execute s.agent i.params ⟨now, admission.magnitude, d.config.effects⟩ with
  -- what the hook has changed by then stays
  | (agent, .crashed message) => crashedStep ⟨agent, s.ledger⟩ i .execute message
  | (agent, .finished (.error failure)) =>
    ⟨⟨agent, s.ledger⟩, .failed i failure,
      .failed i.id (Agent.agentId agent) failure.code failure.message⟩
  | (agent, .finished (.ok effect)) =>
    ⟨⟨agent, recorded s.ledger admission i.id agent now⟩, .succeeded i effect,
      .succeeded i.id (Agent.agentId agent) effect.status admission.magnitude⟩

def step (d : Dispatcher α) (now : Tick) (s : Session α) (i : Invocation) : Step α :=
  match d.catalog.lookup i.id with
  | none => ⟨s, .unknown i, .unknown i.id i.offset⟩
  | some handler =>
    match (d.gate s.ledger now).examine handler s.agent i.params with
    | .crashed message => crashedStep s i .admission message
    | .finished (.error refusal) =>
      ⟨s, .denied i refusal.message, .denied i.id (Agent.agentId s.agent) refusal.message⟩
    | .finished (.ok admission) => d.perform now s i handler admission

/-! ### A reply -/

/-- The steps of invocations, each one from the session that the one before has left. -/
def steps (d : Dispatcher α) (now : Tick) (s : Session α) : List Invocation → List (Step α)
  | [] => []
  | i :: rest =>
    let first := d.step now s i
    first :: steps d now first.session rest

def sessionAfter (s : Session α) (steps : List (Step α)) : Session α :=
  match steps.getLast? with
  | some last => last.session
  | none => s

def isSweepDue (d : Dispatcher α) (ledger : Quota.Ledger) (now : Tick) : Bool :=
  d.config.sweepInterval.val ≤ (now.minus ledger.lastSweep).val

/-- The ledger with which a batch begins, and the event if it has been swept. -/
def opening (d : Dispatcher α) (ledger : Quota.Ledger) (now : Tick) :
    Quota.Ledger × List Event :=
  if d.isSweepDue ledger now then
    (ledger.swept now, [.swept now (ledger.sweptCount now) (ledger.swept now).size])
  else (ledger, [])

def dispatchAt (d : Dispatcher α) (text : String) (s : Session α) (now : Tick) : Dispatched α :=
  let reply := Reply.ofText text
  -- a reply that asks for nothing leaves no trace: no sweep, no event
  if reply.invocations.isEmpty then ⟨s, ⟨reply.cleaned, [], reply.untouched⟩, []⟩
  else
    let (ledger, sweeping) := d.opening s.ledger now
    let steps := d.steps now ⟨s.agent, ledger⟩ reply.invocations
    ⟨sessionAfter ⟨s.agent, ledger⟩ steps,
      ⟨reply.cleaned, steps.map (·.result), reply.untouched⟩,
      .parsed (Agent.agentId s.agent) now reply.invocations.length :: sweeping ++
        steps.map (·.event)⟩

def advertiseAt (d : Dispatcher α) (s : Session α) (now : Tick) :
    Attempt (Advertisement × Event) :=
  match Advertisement.rank d.catalog d.rules (d.gate s.ledger now) s.agent with
  | .crashed message => .crashed message
  | .finished a =>
    .finished (a, .advertised (Agent.agentId s.agent) now a.size a.groups.length)

/-! ### At a clock -/

def dispatch (d : Dispatcher α) (text : String) (s : Session α) (clock : Clock) : Dispatched α :=
  d.dispatchAt text s clock.now

def advertise (d : Dispatcher α) (s : Session α) (clock : Clock) :
    Attempt (Advertisement × Event) :=
  d.advertiseAt s clock.now

end Dispatcher

end ReplyActions
