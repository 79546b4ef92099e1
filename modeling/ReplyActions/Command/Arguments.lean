import ReplyActions.Number.Bounded
import ReplyActions.Number.Decimal

/-!
# Command lines

The three commands and their options. Arguments are read from left to right; the first one that
makes no sense, or that asks for help, decides.
-/

namespace ReplyActions.Command
open Number

structure SessionOptions where
  agent : String
  now : Tick
  config : Option String
  quotaState : Option String
deriving DecidableEq

inductive Request where
  | catalog (config : Option String) (json : Bool)
  | advertise (session : SessionOptions) (json : Bool)
  | dispatch (session : SessionOptions) (text : String) (log : Option String) (writeAgent : Bool)
deriving DecidableEq

inductive Topic where
  | program
  | catalog
  | advertise
  | dispatch
  | help
deriving DecidableEq

/-- Why a command line asks for nothing to be done. -/
inductive Stop where
  | help (topic : Topic)
  | version
  | misused
deriving DecidableEq

/-! ### Options -/

inductive OptionKind where
  | flag
  | path
  | tick
  | text
deriving DecidableEq

structure OptionSpec where
  name : String
  kind : OptionKind
deriving DecidableEq

/-- A time: digits, with a plus sign or without. -/
def tickOf? (text : String) : Option Tick :=
  let digits := match text.toList with
    | '+' :: rest => rest
    | chars => chars
  (natOf? digits).bind fun n => Unsigned.ofInt? n

def OptionKind.accepts (kind : OptionKind) (value : String) : Bool :=
  match kind with
  | .flag => false
  | .path => value ≠ ""
  | .tick => (tickOf? value).isSome
  | .text => true

structure Found where
  /-- The options with their values, newest first. -/
  values : List (String × String)
  pending : Option OptionSpec
  /-- No more options may come. -/
  closed : Bool
deriving DecidableEq

def Found.start : Found := ⟨[], none, false⟩

/-- An argument taken apart: a name behind two dashes and a value behind an equals sign. -/
def longOption? (arg : String) : Option (String × Option String) :=
  match arg.toList with
  | '-' :: '-' :: rest =>
    let name := String.ofList (rest.takeWhile (· != '='))
    match rest.dropWhile (· != '=') with
    | _ :: value => some (name, some (String.ofList value))
    | [] => some (name, none)
  | _ => none

/-- The argument looks like an option and cannot be a value. -/
def looksLikeOption (arg : String) : Bool := arg.startsWith "-" && arg ≠ "-"

/-- The options with one more value, unless the option has one or the value makes no sense. -/
def Found.add (found : Found) (spec : OptionSpec) (value : String) : Except Stop Found :=
  if found.values.any (·.1 = spec.name) then .error .misused
  else if spec.kind = .flag || spec.kind.accepts value then
    .ok { found with values := (spec.name, value) :: found.values, pending := none }
  else .error .misused

def Found.next (topic : Topic) (specs : List OptionSpec) (found : Found) (arg : String) :
    Except Stop Found :=
  if found.closed then .error .misused
  else match found.pending with
  | some spec => if looksLikeOption arg then .error .misused else found.add spec arg
  | none =>
    -- two dashes close the options, and no command takes anything else
    if arg = "--" then .ok { found with closed := true }
    else match longOption? arg with
    | some (name, value) =>
      match specs.find? (·.name = name), value with
      | none, none => if name = "help" then .error (.help topic) else .error .misused
      | none, some _ => .error .misused
      | some spec, some value =>
        if spec.kind = .flag then .error .misused else found.add spec value
      | some spec, none =>
        -- a second one is refused here, before its value is looked at
        if spec.kind = .flag then found.add spec ""
        else if found.values.any (·.1 = name) then .error .misused
        else .ok { found with pending := some spec }
    | none => if arg.startsWith "-h" then .error (.help topic) else .error .misused

def optionsOf (topic : Topic) (specs : List OptionSpec) (args : List String) :
    Except Stop Found := do
  let found ← args.foldlM (Found.next topic specs) Found.start
  if found.pending.isSome then .error .misused else .ok found

def Found.get? (found : Found) (name : String) : Option String :=
  (found.values.find? (·.1 = name)).map (·.2)

def Found.has (found : Found) (name : String) : Bool := (found.get? name).isSome

def Found.require (found : Found) (name : String) : Except Stop String :=
  match found.get? name with
  | some value => .ok value
  | none => .error .misused

/-! ### Commands -/

def catalogOptions : List OptionSpec := [⟨"config", .path⟩, ⟨"json", .flag⟩]

def sessionOptions : List OptionSpec :=
  [⟨"agent", .path⟩, ⟨"at", .tick⟩, ⟨"config", .path⟩, ⟨"quota-state", .path⟩]

def advertiseOptions : List OptionSpec := sessionOptions ++ [⟨"json", .flag⟩]

def dispatchOptions : List OptionSpec :=
  sessionOptions ++ [⟨"text", .text⟩, ⟨"log", .path⟩, ⟨"write-agent", .flag⟩]

def sessionOf (found : Found) : Except Stop SessionOptions := do
  let agent ← found.require "agent"
  return ⟨agent, ((found.get? "at").bind tickOf?).getD 0, found.get? "config",
    found.get? "quota-state"⟩

def helpTopic : List String → Stop
  | [] => .help .program
  | ["catalog"] => .help .catalog
  | ["advertise"] => .help .advertise
  | ["dispatch"] => .help .dispatch
  | ["help"] => .help .help
  | _ => .misused

def requestOf : List String → Except Stop Request
  | [] => .error .misused
  | "catalog" :: args => do
    let found ← optionsOf .catalog catalogOptions args
    return .catalog (found.get? "config") (found.has "json")
  | "advertise" :: args => do
    let found ← optionsOf .advertise advertiseOptions args
    return .advertise (← sessionOf found) (found.has "json")
  | "dispatch" :: args => do
    let found ← optionsOf .dispatch dispatchOptions args
    return .dispatch (← sessionOf found) (← found.require "text") (found.get? "log")
      (found.has "write-agent")
  | "help" :: args => .error (helpTopic args)
  | "--help" :: _ => .error (.help .program)
  | "--version" :: _ => .error .version
  | arg :: _ =>
    if arg.startsWith "-h" then .error (.help .program)
    else if arg.startsWith "-V" then .error .version
    else .error .misused

/-! ### Help -/

def versionText : String := "tfx 0.1.0\n"

def ofLines (lines : List String) : String := String.join (lines.map (· ++ "\n"))

def Topic.lines : Topic → List String
  | program =>
    ["Runs embedded directives against a colonist",
      "",
      "Usage: tfx <COMMAND>",
      "",
      "Commands:",
      "  catalog    Lists registered directives with their effective quota",
      "  advertise  Prints the ranked advertisement for a colonist",
      "  dispatch   Applies every directive embedded in a reply",
      "  help       Print this message or the help of the given subcommand(s)",
      "",
      "Options:",
      "  -h, --help     Print help",
      "  -V, --version  Print version"]
  | catalog =>
    ["Lists registered directives with their effective quota",
      "",
      "Usage: tfx catalog [OPTIONS]",
      "",
      "Options:",
      "      --config <CONFIG>  ",
      "      --json             Print JSON instead of text",
      "  -h, --help             Print help"]
  | advertise =>
    ["Prints the ranked advertisement for a colonist",
      "",
      "Usage: tfx advertise [OPTIONS] --agent <AGENT>",
      "",
      "Options:",
      "      --agent <AGENT>              Colonist JSON file",
      "      --at <AT>                    Game tick (hours since start) [default: 0]",
      "      --config <CONFIG>            ",
      "      --quota-state <QUOTA_STATE>  Quota ledger JSON; created on first dispatch",
      "      --json                       ",
      "  -h, --help                       Print help"]
  | dispatch =>
    ["Applies every directive embedded in a reply",
      "",
      "Usage: tfx dispatch [OPTIONS] --agent <AGENT> --text <TEXT>",
      "",
      "Options:",
      "      --agent <AGENT>              Colonist JSON file",
      "      --at <AT>                    Game tick (hours since start) [default: 0]",
      "      --config <CONFIG>            ",
      "      --quota-state <QUOTA_STATE>  Quota ledger JSON; created on first dispatch",
      "      --text <TEXT>                Reply text, or `@path` to read it from a file",
      "      --log <LOG>                  JSON-lines telemetry log",
      "      --write-agent                Save the mutated colonist back to `--agent`",
      "  -h, --help                       Print help"]
  | help =>
    ["Print this message or the help of the given subcommand(s)",
      "",
      "Usage: tfx help [COMMAND]...",
      "",
      "Arguments:",
      "  [COMMAND]...  Print help for the subcommand(s)"]

def Topic.text (topic : Topic) : String := ofLines topic.lines

end ReplyActions.Command
