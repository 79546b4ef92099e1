import ReplyActions.Command.Run

/-!
# Work that succeeds

A command succeeds if each of its steps does, each one with the files as the step before has left
them. What it loads depends on the texts of the files alone.
-/

namespace ReplyActions.Command
open Number

section Work

variable {σ α β : Type} {before after : String} {world last : σ} {value : α}

/-- What the work comes to, with what has been printed and what the world is like by then. -/
def endOf (work : Work (StateM σ) α) (before : String) (world : σ) :
    (Except String α × String) × σ :=
  (work.run.run before).run world

def Yields (work : Work (StateM σ) α) (before : String) (world : σ) (value : α) (after : String)
    (last : σ) : Prop :=
  endOf work before world = ((.ok value, after), last)

theorem yields_pure_iff {result : α} :
    Yields (pure result : Work (StateM σ) α) before world value after last ↔
      result = value ∧ before = after ∧ world = last := by
  have hend : endOf (pure result : Work (StateM σ) α) before world =
      ((.ok result, before), world) := rfl
  rw [Yields, hend, Prod.mk.injEq, Prod.mk.injEq, Except.ok.injEq, and_assoc]

theorem not_yields_throw {message : String} :
    ¬Yields (throw message : Work (StateM σ) α) before world value after last := by
  have hend : endOf (throw message : Work (StateM σ) α) before world =
      ((.error message, before), world) := rfl
  rw [Yields, hend]
  exact fun h => nomatch (Prod.mk.inj (Prod.mk.inj h).1).1

theorem yields_bind_iff {work : Work (StateM σ) α} {next : α → Work (StateM σ) β} {result : β} :
    Yields (work >>= next) before world result after last ↔
      ∃ value printed middle, Yields work before world value printed middle ∧
        Yields (next value) printed middle result after last := by
  have hend : endOf (work >>= next) before world = match endOf work before world with
      | ((.ok value, printed), middle) => endOf (next value) printed middle
      | ((.error message, printed), middle) => ((.error message, printed), middle) := by
    simp only [endOf, ExceptT.run_bind, StateT.run_bind]
    rcases (work.run.run before).run world with ⟨⟨outcome, printed⟩, middle⟩
    cases outcome <;> rfl
  simp only [Yields, hend]
  rcases endOf work before world with ⟨⟨outcome, printed⟩, middle⟩
  cases outcome with
  | error message => simp
  | ok value =>
    constructor
    · exact fun h => ⟨value, printed, middle, rfl, h⟩
    · rintro ⟨_, _, _, heq, h⟩
      obtain ⟨⟨rfl, rfl⟩, rfl⟩ : (value = _ ∧ printed = _) ∧ middle = _ := by simpa using heq
      exact h

theorem yields_asking_iff {action : StateM σ α} :
    Yields (asking action) before world value after last ↔
      action.run world = (value, last) ∧ before = after := by
  have hend : endOf (asking action : Work (StateM σ) α) before world =
      ((.ok (action.run world).1, before), (action.run world).2) := rfl
  rw [Yields, hend, Prod.mk.injEq, Prod.mk.injEq, Except.ok.injEq, Prod.ext_iff]
  exact and_right_comm

theorem yields_print_iff {text : String} {done : Unit} :
    Yields (print text : Work (StateM σ) Unit) before world done after last ↔
      before ++ text = after ∧ world = last := by
  have hend : endOf (print text : Work (StateM σ) Unit) before world =
      ((.ok (), before ++ text), world) := rfl
  rw [Yields, hend, Prod.mk.injEq, Prod.mk.injEq]
  simp only [true_and]

/-- Work goes on with what the host has brought about. -/
theorem yields_asked {action : StateM σ (Except String α)}
    {next : Except String α → Work (StateM σ) α} (hnext : next (.ok value) = pure value)
    (h : action.run world = (.ok value, last)) :
    Yields (asking action >>= next) before world value before last := by
  refine yields_bind_iff.mpr ⟨.ok value, before, last, yields_asking_iff.mpr ⟨h, rfl⟩, ?_⟩
  rw [hnext]
  exact yields_pure_iff.mpr ⟨rfl, rfl, rfl⟩

theorem yields_trying {action : StateM σ (Except String α)}
    (h : action.run world = (.ok value, last)) :
    Yields (trying action) before world value before last :=
  yields_asked rfl h

theorem yields_tryingTo {action : StateM σ (Except String α)} {failure : String}
    (h : action.run world = (.ok value, last)) :
    Yields (tryingTo failure action) before world value before last :=
  yields_asked rfl h

/-- The work finds out a value, without printing or changing anything. -/
def Finds (work : Work (StateM σ) α) (world : σ) (value : α) : Prop :=
  ∀ before, Yields work before world value before world

end Work

/-! ### What is loaded -/

section Loading

variable {time path text what before after : String} {tree last : FileTree}

theorem yields_read_iff {found : Option String} :
    Yields (asking ((treeHost time).read? path)) before tree found after last ↔
      tree.read? path = found ∧ before = after ∧ tree = last := by
  rw [yields_asking_iff]
  have hrun : ((treeHost time).read? path).run tree = (tree.read? path, tree) := rfl
  rw [hrun, Prod.mk.injEq, and_assoc, and_comm (a := tree = last)]

theorem yields_fileText_iff :
    Yields (fileText (treeHost time) what path) before tree text after last ↔
      tree.read? path = some text ∧ before = after ∧ tree = last := by
  rw [fileText, yields_bind_iff]
  constructor
  · rintro ⟨found, printed, middle, hread, hnext⟩
    obtain ⟨hfound, rfl, rfl⟩ := yields_read_iff.mp hread
    cases found with
    | none => exact absurd hnext not_yields_throw
    | some known =>
      obtain ⟨rfl, rfl, rfl⟩ := yields_pure_iff.mp hnext
      exact ⟨hfound, rfl, rfl⟩
  · rintro ⟨hread, rfl, rfl⟩
    exact ⟨some text, before, tree, yields_read_iff.mpr ⟨hread, rfl, rfl⟩,
      yields_pure_iff.mpr ⟨rfl, rfl, rfl⟩⟩

/-- What is made of a file depends on its text alone. -/
theorem finds_of_fileText_iff {α : Type} {next : String → Work (StateM FileTree) α} {value : α}
    (Gives : String → α → Prop) (hgives : ∀ text found, Gives text found → next text = pure found)
    (hother : ∀ text, (∃ found, Gives text found) ∨ ∃ message, next text = throw message) :
    Finds (fileText (treeHost time) what path >>= next) tree value ↔
      ∃ text, tree.read? path = some text ∧ Gives text value := by
  constructor
  · intro h
    obtain ⟨text, printed, middle, hfile, hnext⟩ := yields_bind_iff.mp (h "")
    obtain ⟨hread, -, -⟩ := yields_fileText_iff.mp hfile
    rcases hother text with ⟨found, hfound⟩ | ⟨message, hthrow⟩
    · rw [hgives text found hfound] at hnext
      obtain ⟨rfl, -, -⟩ := yields_pure_iff.mp hnext
      exact ⟨text, hread, hfound⟩
    · rw [hthrow] at hnext
      exact absurd hnext not_yields_throw
  · rintro ⟨text, hread, hvalue⟩ before
    refine yields_bind_iff.mpr ⟨text, before, tree, yields_fileText_iff.mpr ⟨hread, rfl, rfl⟩, ?_⟩
    rw [hgives text value hvalue]
    exact yields_pure_iff.mpr ⟨rfl, rfl, rfl⟩

theorem finds_loadColonist_iff {colonist : Colonist} :
    Finds (loadColonist (treeHost time) path) tree colonist ↔
      ∃ text, tree.read? path = some text ∧ Colonist.ofSaved? text = some colonist := by
  refine finds_of_fileText_iff (Colonist.ofSaved? · = some ·) (fun _ _ h => by simp only [h]) ?_
  intro text
  cases h : Colonist.ofSaved? text with
  | none => exact .inr ⟨_, rfl⟩
  | some found => exact .inl ⟨found, rfl⟩

theorem finds_loadConfig_some_iff {config : Config} :
    Finds (loadConfig (treeHost time) (some path)) tree config ↔
      ∃ text, tree.read? path = some text ∧ Config.ofDocument text = .ok config := by
  refine finds_of_fileText_iff (Config.ofDocument · = .ok ·) (fun _ _ h => by simp only [h]) ?_
  intro text
  cases h : Config.ofDocument text with
  | error fault => exact .inr ⟨_, rfl⟩
  | ok found => exact .inl ⟨found, rfl⟩

/-- Settings are the same wherever their file, if there is one, has the same text. -/
theorem Finds.loadConfig {config : Config} {configPath : Option String}
    (h : Finds (loadConfig (treeHost time) configPath) tree config)
    (hread : ∀ path ∈ configPath, last.read? path = tree.read? path) :
    Finds (Command.loadConfig (treeHost time) configPath) last config := by
  cases configPath with
  | none =>
    intro before
    obtain ⟨rfl, -, -⟩ := yields_pure_iff.mp (h before)
    exact yields_pure_iff.mpr ⟨rfl, rfl, rfl⟩
  | some path =>
    rw [finds_loadConfig_some_iff, ← hread path rfl] at h
    exact finds_loadConfig_some_iff.mpr h

variable {fresh ledger : Quota.Ledger}

theorem yields_exists {found : Bool} (h : tree.exists? path = found) :
    Yields (asking ((treeHost time).exists? path)) before tree found before tree :=
  yields_asking_iff.mpr ⟨congrArg (·, tree) h, rfl⟩

theorem finds_loadLedger_of_missing (h : tree.exists? path = false) :
    Finds (loadLedger (treeHost time) fresh (some path)) tree fresh := by
  intro before
  refine yields_bind_iff.mpr ⟨false, before, tree, yields_exists h, ?_⟩
  exact yields_pure_iff.mpr ⟨rfl, rfl, rfl⟩

theorem finds_loadLedger_of_saved (h : tree.exists? path = true)
    (hread : tree.read? path = some text) (hsaved : Quota.Ledger.ofSaved? text = some ledger) :
    Finds (loadLedger (treeHost time) fresh (some path)) tree ledger := by
  intro before
  refine yields_bind_iff.mpr ⟨true, before, tree, yields_exists h, ?_⟩
  refine yields_bind_iff.mpr ⟨text, before, tree, yields_fileText_iff.mpr ⟨hread, rfl, rfl⟩, ?_⟩
  simp only [hsaved]
  exact yields_pure_iff.mpr ⟨rfl, rfl, rfl⟩

end Loading

/-! ### Dispatching -/

section Dispatching

variable {time agentPath quotaPath text before : String} {configPath : Option String}
  {tree made saved last : FileTree} {now : Tick} {config : Config} {colonist : Colonist}
  {ledger : Quota.Ledger}

theorem replyText_of_head (host : Host (StateM FileTree)) (h : text.toList.head? ≠ some '@') :
    replyText host text = pure text := by
  unfold replyText
  split
  · next path hpath =>
    rw [hpath] at h
    exact absurd rfl h
  · rfl

theorem changing_run {change : FileTree → Except PathFault FileTree} (h : change tree = .ok last) :
    (changing change).run tree = (.ok (), last) := by
  simp only [changing, StateT.run_bind, StateT.run_get, pure_bind]
  rw [h]
  rfl

/-- A reply is carried out on the colonist and the ledger that are found, and both are saved. -/
theorem yields_dispatch (hconfig : Finds (loadConfig (treeHost time) configPath) tree config)
    (hcolonist : Finds (loadColonist (treeHost time) agentPath) tree colonist)
    (hledger : Finds (loadLedger (treeHost time) (Standard.dispatcher config).newLedger
      (some quotaPath)) tree ledger)
    (htext : text.toList.head? ≠ some '@')
    (hparents : tree.makeParents quotaPath = (.ok (), made)) :
    let done := (Standard.dispatcher config).dispatchAt text ⟨colonist.atTime now, ledger⟩ now
    made.write quotaPath done.session.ledger.saved = .ok saved →
    saved.write agentPath done.session.agent.saved = .ok last →
    Yields (dispatch (treeHost time) ⟨agentPath, now, configPath, some quotaPath⟩ text none true)
      before tree () (before ++ (Json.pretty done.report.toDatum ++ "\n")) last := by
  intro done hquota hagent
  have hmade : ((treeHost time).makeParents quotaPath).run tree = (.ok (), made) := by
    have hrun : ((treeHost time).makeParents quotaPath).run tree =
        ((tree.makeParents quotaPath).1.mapError PathFault.message,
          (tree.makeParents quotaPath).2) := rfl
    rw [hrun, hparents]
    rfl
  refine yields_bind_iff.mpr ⟨config, before, tree, hconfig before, ?_⟩
  refine yields_bind_iff.mpr ⟨colonist, before, tree, hcolonist before, ?_⟩
  refine yields_bind_iff.mpr ⟨ledger, before, tree, hledger before, ?_⟩
  rw [replyText_of_head _ htext]
  refine yields_bind_iff.mpr ⟨text, before, tree, yields_pure_iff.mpr ⟨rfl, rfl, rfl⟩, ?_⟩
  refine yields_bind_iff.mpr ⟨(), _, tree, yields_print_iff.mpr ⟨rfl, rfl⟩, ?_⟩
  refine yields_bind_iff.mpr ⟨(), _, made, yields_trying hmade, ?_⟩
  refine yields_bind_iff.mpr ⟨(), _, saved, yields_tryingTo (changing_run hquota), ?_⟩
  exact yields_tryingTo (changing_run hagent)

end Dispatching

end ReplyActions.Command
