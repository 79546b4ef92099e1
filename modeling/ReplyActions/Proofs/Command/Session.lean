import Mathlib.Data.List.Forall2
import ReplyActions.Proofs.Colonist.Saved
import ReplyActions.Proofs.Command.Arguments
import ReplyActions.Proofs.Command.FileTree
import ReplyActions.Proofs.Command.Work
import ReplyActions.Proofs.Quota.Saved

/-!
# One command for each reply

Every command loads the colonist and the ledger anew and saves them again. As nothing is lost in
between, a row of commands does what a program would do that keeps both and carries out the
replies one after the other.
-/

namespace ReplyActions
open Number

/-! ### Without files -/

namespace Standard

/-- The session after some replies and the reports about them. Before each reply, the colonist is
brought to its time. -/
def live (config : Config) (s : Session Colonist) :
    List (String × Tick) → Session Colonist × List Report
  | [] => (s, [])
  | (text, now) :: rest =>
    let done := (dispatcher config).dispatchAt text ⟨s.agent.atTime now, s.ledger⟩ now
    let (last, reports) := live config done.session rest
    (last, done.report :: reports)

end Standard

namespace Command

/-! ### With files -/

def runAll (time : String) : List (List String) → FileTree → List Output × FileTree
  | [], tree => ([], tree)
  | args :: rest, tree =>
    let (output, after) := runOn time args tree
    let (outputs, last) := runAll time rest after
    (output :: outputs, last)

/-- What a command prints for a report. -/
def reported (report : Report) : Output := ⟨0, Json.pretty report.toDatum ++ "\n", ""⟩

/-- The files that a row of commands works with. -/
structure Files where
  agent : String
  config : Option String
  quota : String

/-- The command line asks for a reply to be carried out at a time, and for both to be saved. -/
structure Files.Asks (files : Files) (args : List String) (reply : String × Tick) : Prop where
  request : requestOf args =
    .ok (.dispatch ⟨files.agent, reply.2, files.config, some files.quota⟩ reply.1 none true)
  /-- The text is given as it is. -/
  plain : reply.1.toList.head? ≠ some '@'

/-- The command line that asks for a reply. -/
def Files.args (files : Files) (reply : String × Tick) : List String :=
  dispatchArgs ⟨files.agent, reply.2, files.config, some files.quota⟩ reply.1

/-- Any text can be put into a command line, unless it would be taken for the name of a file. -/
theorem Files.asks_args {files : Files} (hagent : files.agent ≠ "")
    (hconfig : files.config ≠ some "") (hquota : files.quota ≠ "") {reply : String × Tick}
    (h : reply.1.toList.head? ≠ some '@') : files.Asks (files.args reply) reply :=
  ⟨requestOf_dispatchArgs hagent hconfig (fun heq => hquota (Option.some.inj heq)) reply.1, h⟩

theorem runOn_of_yields {time printed : String} {args : List String} {request : Request}
    {tree last : FileTree} (hrequest : requestOf args = .ok request)
    (h : Yields (request.work (treeHost time)) "" tree () printed last) :
    runOn time args tree = (⟨0, printed, ""⟩, last) := by
  have hend : endOf (request.work (treeHost time)) "" tree = ((.ok (), printed), last) := h
  have hrun : runOn time args tree = (outputOf (endOf (request.work (treeHost time)) "" tree).1,
      (endOf (request.work (treeHost time)) "" tree).2) := by
    simp only [runOn, run, hrequest]
    rfl
  rw [hrun, hend]
  rfl

/-! ### What a command finds and leaves -/

open FileTree

section

variable {time : String} {files : Files} {config : Config} {agentPlace quotaPlace : List String}
  {tree made later : FileTree} {s : Session Colonist}

/-- The files hold the session: a colonist that can be written again, and a ledger that is there or
can be put in place. The settings are in another file. -/
structure Holds (time : String) (files : Files) (config : Config)
    (agentPlace quotaPlace : List String) (tree : FileTree) (s : Session Colonist) : Prop where
  settings : Finds (loadConfig (treeHost time) files.config) tree config
  settingsApart : ∀ path ∈ files.config, ∃ place text,
    Shows tree path place text ∧ place ≠ agentPlace ∧ place ≠ quotaPlace
  agent : Finds (loadColonist (treeHost time) files.agent) tree s.agent
  agentLeads : LeadsTo tree files.agent agentPlace
  agentFile : ∃ old, tree.entry? agentPlace = some (.file old)
  ledger : Finds (loadLedger (treeHost time) (Standard.dispatcher config).newLedger
    (some files.quota)) tree s.ledger
  quota : ∃ made, tree.makeParents files.quota = (.ok (), made) ∧
    LeadsTo made files.quota quotaPlace ∧ HasRoom made quotaPlace
  apart : agentPlace ≠ quotaPlace

/-- After a command that asks for a reply, the files hold what the reply has led to. -/
theorem Holds.runOn (h : Holds time files config agentPlace quotaPlace tree s)
    {args : List String} {reply : String × Tick} (hasks : files.Asks args reply) :
    let done := (Standard.dispatcher config).dispatchAt reply.1
      ⟨s.agent.atTime reply.2, s.ledger⟩ reply.2
    ∃ last, Command.runOn time args tree = (reported done.report, last) ∧
      Holds time files config agentPlace quotaPlace last done.session := by
  intro done
  obtain ⟨made, hparents, hquota, hroom⟩ := h.quota
  obtain ⟨old, hold⟩ := h.agentFile
  have hgrows := grows_of_makeParents hparents
  obtain ⟨saved, hledger⟩ := exists_writes hquota hroom done.session.ledger.saved
  -- the colonist's file is still there, as it was
  have hroomAgent : HasRoom saved agentPlace := by
    refine .inr ⟨old, ?_⟩
    rw [hledger.others agentPlace h.apart]
    exact hgrows.entry agentPlace _ hold
  obtain ⟨last, hagent⟩ := exists_writes
    ((hgrows.keeps.trans hledger.keeps).leadsTo h.agentLeads) hroomAgent
    done.session.agent.saved
  have hyields : Yields (dispatch (treeHost time)
      ⟨files.agent, reply.2, files.config, some files.quota⟩ reply.1 none true) "" tree ()
      ("" ++ (Json.pretty done.report.toDatum ++ "\n")) last :=
    yields_dispatch h.settings h.agent h.ledger hasks.plain hparents hledger.written hagent.written
  rw [String.empty_append] at hyields
  have hquotaEntry := (hagent.others quotaPlace h.apart.symm).trans hledger.entry
  have hquotaShows := hagent.shows_other h.apart.symm hledger.shows
  have hsettings : ∀ path ∈ files.config, ∃ place text, Shows tree path place text ∧
      Shows last path place text ∧ place ≠ agentPlace ∧ place ≠ quotaPlace := by
    intro path hpath
    obtain ⟨place, text, hshows, hne, hne'⟩ := h.settingsApart path hpath
    exact ⟨place, text, hshows,
      hagent.shows_other hne (hledger.shows_other hne' (hgrows.shows hshows)), hne, hne'⟩
  refine ⟨last, runOn_of_yields hasks.request hyields, ?_⟩
  exact {
    settings := h.settings.loadConfig fun path hpath => by
      obtain ⟨place, text, hbefore, hafter, -⟩ := hsettings path hpath
      rw [hbefore.read?, hafter.read?]
    settingsApart := fun path hpath => by
      obtain ⟨place, text, -, hafter, hne⟩ := hsettings path hpath
      exact ⟨place, text, hafter, hne⟩
    agent := finds_loadColonist_iff.mpr ⟨_, hagent.shows.read?, Colonist.ofSaved?_saved _⟩
    agentLeads := hagent.leadsTo
    agentFile := ⟨_, hagent.entry⟩
    ledger := finds_loadLedger_of_saved hquotaShows.exists? hquotaShows.read?
      (Quota.Ledger.ofSaved?_saved _)
    quota := ⟨last, makeParents_again hparents (hledger.keeps.trans hagent.keeps),
      hquotaShows.toLeadsTo, .inr ⟨_, hquotaEntry⟩⟩
    apart := h.apart }

theorem Holds.runAll (h : Holds time files config agentPlace quotaPlace tree s)
    {commands : List (List String)} {replies : List (String × Tick)}
    (hasks : List.Forall₂ files.Asks commands replies) :
    let lived := Standard.live config s replies
    let ran := Command.runAll time commands tree
    ran.1 = lived.2.map reported ∧
      Holds time files config agentPlace quotaPlace ran.2 lived.1 := by
  induction hasks generalizing tree s with
  | nil => exact ⟨rfl, h⟩
  | @cons args reply commands replies hfirst _ ih =>
    obtain ⟨next, hrun, hnext⟩ := h.runOn hfirst
    obtain ⟨houtputs, hlast⟩ := ih hnext
    simp only [Command.runAll, Standard.live, hrun, List.map_cons]
    exact ⟨congrArg _ houtputs, hlast⟩

end

/-- Commands that are given the same files, one command for each reply, print what a program would
report that keeps the colonist and the ledger in between, and leave its colonist and its ledger
behind. At first there is no ledger, but its file can be put in place; the settings have been
accepted and stand in another file than the colonist. -/
theorem runAll_eq_live (time : String) (files : Files) (config : Config) (colonist : Colonist)
    {tree made : FileTree} {quotaPlace : List String} {commands : List (List String)}
    {replies : List (String × Tick)}
    (hsettings : Finds (loadConfig (treeHost time) files.config) tree config)
    (hcolonist : Finds (loadColonist (treeHost time) files.agent) tree colonist)
    (hother : ∀ path ∈ files.config, tree.filePlace path ≠ tree.filePlace files.agent)
    (hparents : tree.makeParents files.quota = (.ok (), made))
    (hplace : made.filePlace files.quota = .ok quotaPlace)
    (hnew : made.entry? quotaPlace = none)
    (hasks : List.Forall₂ files.Asks commands replies) :
    let fresh := (Standard.dispatcher config).newLedger
    let lived := Standard.live config ⟨colonist, fresh⟩ replies
    let ran := runAll time commands tree
    ran.1 = lived.2.map reported ∧
      Finds (loadColonist (treeHost time) files.agent) ran.2 lived.1.agent ∧
      Finds (loadLedger (treeHost time) fresh (some files.quota)) ran.2 lived.1.ledger := by
  intro fresh
  obtain ⟨text, hread, hsaved⟩ := finds_loadColonist_iff.mp hcolonist
  obtain ⟨agentPlace, hagent⟩ := read?_eq_some_iff.mp hread
  have hgrows := grows_of_makeParents hparents
  obtain ⟨hquota, -⟩ := filePlace_eq_ok_iff.mp hplace
  have hfree : ∀ {place entry}, tree.entry? place = some entry → place ≠ quotaPlace := by
    rintro place entry he rfl
    rw [hgrows.entry _ _ he] at hnew
    contradiction
  -- a device shows an empty text, which is no colonist
  have hfile : tree.entry? agentPlace = some (.file text) := by
    rcases hagent.entry with hfile | ⟨-, rfl⟩
    · exact hfile
    · have hnone : Colonist.ofSaved? "" = none := by decide
      rw [hnone] at hsaved
      contradiction
  have hapart : ∀ path ∈ files.config, ∃ place text,
      Shows tree path place text ∧ place ≠ agentPlace ∧ place ≠ quotaPlace := by
    intro path hpath
    rw [show files.config = some path from hpath, finds_loadConfig_some_iff] at hsettings
    obtain ⟨document, hdocument, -⟩ := hsettings
    obtain ⟨place, hshows⟩ := read?_eq_some_iff.mp hdocument
    refine ⟨place, document, hshows, ?_, ?_⟩
    · rintro rfl
      refine hother path hpath ?_
      rw [filePlace_eq_ok_iff.mpr ⟨hshows.toLeadsTo, hshows.ne_directory⟩,
        filePlace_eq_ok_iff.mpr ⟨hagent.toLeadsTo, hagent.ne_directory⟩]
    · rcases hshows.entry with hentry | ⟨hentry, -⟩ <;> exact hfree hentry
  have hholds : Holds time files config agentPlace quotaPlace tree ⟨colonist, fresh⟩ :=
    { settings := hsettings
      settingsApart := hapart
      agent := hcolonist
      agentLeads := hagent.toLeadsTo
      agentFile := ⟨text, hfile⟩
      ledger := finds_loadLedger_of_missing (hgrows.exists?_eq_false hquota hnew)
      quota := ⟨made, hparents, hquota, .inl hnew⟩
      apart := hfree hfile }
  obtain ⟨houtputs, hlast⟩ := hholds.runAll hasks
  exact ⟨houtputs, hlast.agent, hlast.ledger⟩

/-- Two replies, with a ledger in a directory that is not there yet. -/
theorem runAll_eq_live_ada :
    let ada := Colonist.fresh "ada" "Ada"
    let tree := (FileTree.fresh.put ["tmp", "session", "ada.json"] (.file ada.saved)).put
      ["tmp", "session", "tfx.toml"] (.file "")
    let files : Files := ⟨"ada.json", some "tfx.toml", "state/ledger.json"⟩
    let replies : List (String × Tick) :=
      [("[ACTION:ADD_THOUGHT:5:was listened to] Good.", 3), ("[ACTION:ADD_THOUGHT:5]", 50)]
    let made := (tree.makeParents "state/ledger.json").2
    let fresh := (Standard.dispatcher .standard).newLedger
    Finds (loadConfig (treeHost "") files.config) tree .standard ∧
      Finds (loadColonist (treeHost "") files.agent) tree ada ∧
      (∀ path ∈ files.config, tree.filePlace path ≠ tree.filePlace files.agent) ∧
      tree.makeParents files.quota = (.ok (), made) ∧
      made.filePlace files.quota = .ok ["tmp", "session", "state", "ledger.json"] ∧
      made.entry? ["tmp", "session", "state", "ledger.json"] = none ∧
      List.Forall₂ files.Asks (replies.map files.args) replies ∧
      let lived := Standard.live .standard ⟨ada, fresh⟩ replies
      let ran := runAll "" (replies.map files.args) tree
      ran.1 = lived.2.map reported ∧
        Finds (loadColonist (treeHost "") files.agent) ran.2 lived.1.agent ∧
        Finds (loadLedger (treeHost "") fresh (some files.quota)) ran.2 lived.1.ledger := by
  intro ada tree files replies made fresh
  have hsettings : Finds (loadConfig (treeHost "") files.config) tree .standard :=
    finds_loadConfig_some_iff.mpr ⟨"", rfl, rfl⟩
  have hread : tree.read? "ada.json" = some ada.saved := rfl
  have hcolonist : Finds (loadColonist (treeHost "") files.agent) tree ada :=
    finds_loadColonist_iff.mpr ⟨ada.saved, hread, Colonist.ofSaved?_saved ada⟩
  have hother : ∀ path ∈ files.config, tree.filePlace path ≠ tree.filePlace files.agent := by
    intro path hpath
    obtain rfl : "tfx.toml" = path := Option.some.inj hpath
    have hconfig : tree.filePlace "tfx.toml" = .ok ["tmp", "session", "tfx.toml"] := rfl
    have hagent : tree.filePlace "ada.json" = .ok ["tmp", "session", "ada.json"] := rfl
    show tree.filePlace "tfx.toml" ≠ tree.filePlace "ada.json"
    rw [hconfig, hagent]
    simp
  have hparents : tree.makeParents "state/ledger.json" = (.ok (), made) := rfl
  have hplace : made.filePlace "state/ledger.json" =
      .ok ["tmp", "session", "state", "ledger.json"] := rfl
  have hnew : made.entry? ["tmp", "session", "state", "ledger.json"] = none := rfl
  have hasks : List.Forall₂ files.Asks (replies.map files.args) replies :=
    .cons (Files.asks_args (by decide) (by decide) (by decide) (by decide)) <|
      .cons (Files.asks_args (by decide) (by decide) (by decide) (by decide)) .nil
  exact ⟨hsettings, hcolonist, hother, hparents, hplace, hnew, hasks,
    runAll_eq_live "" files .standard ada hsettings hcolonist hother hparents hplace hnew hasks⟩

end Command

end ReplyActions
