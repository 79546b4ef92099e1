import ReplyActions.Colonist.Saved
import ReplyActions.Command.Arguments
import ReplyActions.Command.FileTree
import ReplyActions.Quota.Saved
import ReplyActions.Settings.Document
import ReplyActions.Standard.Catalog

/-!
# Commands

What the three commands do on a host: a place with files by path, and a log that lines are added to,
which can be a real file system or a tree of files. A command prints as it goes and stops at the
first failure; what has been printed and written by then stays.
-/

namespace ReplyActions

/-! ### The documents that are printed -/

section
open Datum

def Result.toDatum (r : Result) : Datum :=
  .record [("directive_id", .text r.directiveId), ("outcome", .text r.outcome.label),
    ("result", .text r.result), ("narrative", .text r.narrative), ("offset", .int r.offset)]

def Report.toDatum (r : Report) : Datum :=
  .record [("text", .text r.text), ("results", .list (r.results.map Result.toDatum))]

def Offer.toDatum (o : Offer) : Datum :=
  .record [("id", .text o.id), ("description", .text o.description), ("usage", .text o.usage),
    ("score", ofSigned o.score)]

def OfferGroup.toDatum (g : OfferGroup) : Datum :=
  .record [("category", .text g.category.label), ("entries", .list (g.offers.map Offer.toDatum)),
    ("omitted", .int g.omitted)]

def Advertisement.toDatum (a : Advertisement) : Datum :=
  .record [("categories", .list (a.groups.map OfferGroup.toDatum))]

end

namespace Command
open Number

/-! ### Work on a host -/

/-- The files of a place where commands run. Operations that can fail give the reason. -/
structure Host (m : Type → Type) where
  read? : String → m (Option String)
  exists? : String → m Bool
  write : String → String → m (Except String Unit)
  makeParents : String → m (Except String Unit)
  openLog : String → m (Except String Unit)
  log : String → Log.Record → m Unit

structure Output where
  code : Nat
  stdout : String
  stderr : String
deriving DecidableEq

/-- The work of a command: it prints, and it can fail. -/
abbrev Work (m : Type → Type) := ExceptT String (StateT String m)

section

variable {m : Type → Type} [Monad m]

def print (text : String) : Work m Unit := modify (· ++ text)

def asking {α : Type} (action : m α) : Work m α := ExceptT.lift (StateT.lift action)

def trying {α : Type} (action : m (Except String α)) : Work m α := do
  match ← asking action with
  | .ok value => return value
  | .error reason => throw reason

/-- Something that the host tries to do, with words for a failure. -/
def tryingTo {α : Type} (failure : String) (action : m (Except String α)) : Work m α := do
  match ← asking action with
  | .ok value => return value
  | .error _ => throw failure

/-! ### Files -/

def fileText (host : Host m) (what path : String) : Work m String := do
  match ← asking (host.read? path) with
  | some text => return text
  | none => throw ("reading " ++ what ++ path)

def loadConfig (host : Host m) : Option String → Work m Config
  | none => return Config.standard
  | some path => do
    match Config.ofDocument (← fileText host "engine config " path) with
    | .ok config => return config
    | .error _ => throw ("parsing " ++ path)

def loadColonist (host : Host m) (path : String) : Work m Colonist := do
  match Colonist.ofSaved? (← fileText host "colonist " path) with
  | some colonist => return colonist
  | none => throw ("parsing " ++ path)

def loadLedger (host : Host m) (fresh : Quota.Ledger) : Option String → Work m Quota.Ledger
  | none => return fresh
  | some path => do
    if ← asking (host.exists? path) then
      match Quota.Ledger.ofSaved? (← fileText host "quota state " path) with
      | some ledger => return ledger
      | none => throw ("parsing " ++ path)
    else return fresh

/-- The text of a reply, given as it is or, behind an at sign, by its file. -/
def replyText (host : Host m) (given : String) : Work m String :=
  match given.toList with
  | '@' :: path => fileText host "reply text " (String.ofList path)
  | _ => return given

/-! ### Listing directives -/

def rowDatum (config : Config) (action : Action Colonist) : Datum :=
  let d := action.definition
  .record [("category", .text d.category.label), ("description", .text d.description),
    ("disabled", .bool (config.isDisabled d.id)), ("id", .text d.id),
    ("quota", Datum.ofOption Quota.Policy.toDatum (config.quotaFor d.id action.quota)),
    ("usage", .text d.usage)]

def rowLine (config : Config) (action : Action Colonist) : String :=
  let d := action.definition
  Text.leftAligned 18 d.id ++ " " ++ Text.leftAligned 10 d.category.label ++ " " ++ d.usage ++
    (if config.isDisabled d.id then " (disabled)" else "") ++ "\n"

def catalog (host : Host m) (configPath : Option String) (json : Bool) : Work m Unit := do
  let config ← loadConfig host configPath
  if json then print (Json.pretty (.list (Standard.actions.map (rowDatum config))) ++ "\n")
  else print (String.join (Standard.actions.map (rowLine config)))

/-! ### Advertising -/

def advertise (host : Host m) (session : SessionOptions) (json : Bool) : Work m Unit := do
  let config ← loadConfig host session.config
  let dispatcher := Standard.dispatcher config
  let colonist := (← loadColonist host session.agent).atTime session.now
  let ledger ← loadLedger host dispatcher.newLedger session.quotaState
  match dispatcher.advertiseAt ⟨colonist, ledger⟩ session.now with
  | .crashed message => throw (crashText message)
  | .finished (advertisement, _) =>
    if json then print (Json.pretty advertisement.toDatum ++ "\n")
    else print advertisement.rendered

/-! ### Dispatching -/

def logModule : String := "tfx"

def dispatch (host : Host m) (session : SessionOptions) (text : String) (log : Option String)
    (writeAgent : Bool) : Work m Unit := do
  let config ← loadConfig host session.config
  -- the log is opened first, so that it is there even where the colonist cannot be read
  if let some path := log then
    trying (host.makeParents path)
    trying (host.openLog path)
  let dispatcher := Standard.dispatcher config
  let colonist := (← loadColonist host session.agent).atTime session.now
  let ledger ← loadLedger host dispatcher.newLedger session.quotaState
  let reply ← replyText host text
  let done := dispatcher.dispatchAt reply ⟨colonist, ledger⟩ session.now
  if let some path := log then
    done.events.forM fun event => asking (host.log path (event.record logModule))
  print (Json.pretty done.report.toDatum ++ "\n")
  if let some path := session.quotaState then
    trying (host.makeParents path)
    tryingTo ("writing quota state " ++ path) (host.write path done.session.ledger.saved)
  if writeAgent then
    tryingTo ("writing colonist " ++ session.agent)
      (host.write session.agent done.session.agent.saved)

/-! ### Running -/

def Request.work (host : Host m) : Request → Work m Unit
  | .catalog config json => Command.catalog host config json
  | .advertise session json => Command.advertise host session json
  | .dispatch session text log writeAgent => Command.dispatch host session text log writeAgent

def outputOf : Except String Unit × String → Output
  | (.ok (), stdout) => ⟨0, stdout, ""⟩
  | (.error message, stdout) => ⟨1, stdout, "Error: " ++ message ++ "\n"⟩

def Stop.output : Stop → Output
  | .help topic => ⟨0, topic.text, ""⟩
  | .version => ⟨0, versionText, ""⟩
  | .misused => ⟨2, "", "error: unexpected arguments\n\nFor more information, try '--help'.\n"⟩

def run (host : Host m) (args : List String) : m Output :=
  match requestOf args with
  | .error stop => return stop.output
  | .ok request => do return outputOf (← (request.work host).run.run "")

end

/-! ### A tree of files as a host -/

/-- A change of a tree, with the reason in words if it fails. -/
def changing (change : FileTree → Except PathFault FileTree) :
    StateM FileTree (Except String Unit) := do
  match change (← get) with
  | .ok tree =>
    set tree
    return .ok ()
  | .error fault => return .error fault.message

/-- A tree of files, in which log records are written with a fixed time. -/
def treeHost (time : String) : Host (StateM FileTree) where
  read? path := return (← get).read? path
  exists? path := return (← get).exists? path
  write path text := changing (·.write path text)
  makeParents path := do
    let (outcome, tree) := (← get).makeParents path
    set tree
    return outcome.mapError PathFault.message
  openLog path := changing (·.append path "")
  log path record := do
    let _ ← changing (·.append path (Json.compact (record.stamped time) ++ "\n"))

/-- Runs a command line on a tree of files. -/
def runOn (time : String) (args : List String) (tree : FileTree) : Output × FileTree :=
  (run (treeHost time) args).run tree

end Command

end ReplyActions
