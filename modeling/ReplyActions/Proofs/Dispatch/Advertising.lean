import ReplyActions.Proofs.Dispatch.Limits
import ReplyActions.Proofs.Ranking

/-!
# Breakdowns while advertising

An invocation whose hook breaks down costs no other one its turn. An advertisement asks every
handler whether it is available, and nothing catches the breakdown of one: it comes to what the
other handlers make of it exactly if no hook that is reached breaks down.
-/

namespace ReplyActions
open Number

/-! ### Faulty handlers -/

/-- The handler itself, or one that is never available if a hook that decides about it breaks
down. -/
def Handler.muted {α : Type} (agent : α) (handler : Handler α) : Handler α :=
  match handler.canExecute agent [], handler.quota with
  | .finished _, .finished _ => handler
  | _, _ => { handler with canExecute := fun _ _ => .finished false }

theorem Handler.definition_muted {α : Type} (agent : α) (handler : Handler α) :
    (handler.muted agent).definition = handler.definition := by
  rw [muted]
  split <;> rfl

namespace Gate

variable {α : Type} [Agent α] {gate : Gate} {handler : Handler α} {agent : α}

/-- A hook breaks down that is reached when the handler is asked whether it is available. -/
inductive BreaksAsked (gate : Gate) (handler : Handler α) (agent : α) : Option String → Prop
  | condition {message : Option String}
      (enabled : gate.config.isDisabled handler.definition.id = false)
      (crash : handler.canExecute agent [] = .crashed message) :
      BreaksAsked gate handler agent message
  | quota {message : Option String}
      (enabled : gate.config.isDisabled handler.definition.id = false)
      (holds : handler.canExecute agent [] = .finished true)
      (crash : handler.quota = .crashed message) : BreaksAsked gate handler agent message

theorem isAvailable_eq_crashed_iff {message : Option String} :
    gate.isAvailable handler agent = .crashed message ↔ gate.BreaksAsked handler agent message := by
  constructor
  · intro h
    cases henabled : gate.config.isDisabled handler.definition.id with
    | true =>
      simp only [isAvailable, henabled, if_true] at h
      contradiction
    | false =>
      simp only [isAvailable, henabled, Bool.false_eq_true, if_false] at h
      cases hcondition : handler.canExecute agent [] with
      | crashed other =>
        simp only [hcondition] at h
        exact .condition henabled (hcondition.trans h)
      | finished holds =>
        cases holds with
        | false =>
          simp only [hcondition] at h
          contradiction
        | true =>
          cases hown : handler.quota with
          | crashed other =>
            simp only [hcondition, hown] at h
            injection h with h
            exact .quota henabled hcondition (h ▸ hown)
          | finished own =>
            simp only [hcondition, hown] at h
            contradiction
  · intro h
    cases h with
    | condition enabled crash =>
      simp only [isAvailable, enabled, crash, Bool.false_eq_true, if_false]
    | quota enabled holds crash =>
      simp only [isAvailable, enabled, holds, crash, Bool.false_eq_true, if_false]

/-- A muted handler always answers, and as the handler itself if that one does. -/
theorem isAvailable_muted :
    gate.isAvailable (handler.muted agent) agent = .finished (gate.offers agent handler) := by
  cases henabled : gate.config.isDisabled handler.definition.id with
  | true =>
    simp [offers, isAvailable, handler.definition_muted agent, henabled]
  | false =>
    cases hcondition : handler.canExecute agent [] with
    | crashed message => simp [offers, isAvailable, Handler.muted, hcondition, henabled]
    | finished holds =>
      cases hown : handler.quota with
      | crashed message =>
        cases holds <;> simp [offers, isAvailable, Handler.muted, hcondition, hown, henabled]
      | finished own =>
        cases holds <;> simp [offers, isAvailable, Handler.muted, hcondition, hown, henabled]

theorem offers_muted : gate.offers agent (handler.muted agent) = gate.offers agent handler := by
  rw [offers, isAvailable_muted]
  simp

end Gate

/-! ### Advertisements -/

namespace Advertisement
open Catalog

variable {α : Type} [Agent α]

section Muted

variable (handlers : List (Handler α)) (rules : List (Rule α)) (gate : Gate) (agent : α)

/-- No category with available directives is missing, and every category lists its best. -/
structure ListsAvailable (a : Advertisement) : Prop where
  present : ∀ handler, Available handlers gate agent handler →
    handler.definition.category ∈ a.groups.map (·.category)
  lists : ∀ group ∈ a.groups, ∃ order,
    ListsBest handlers rules gate agent (max gate.config.perCategoryLimit.val 1) group order

theorem offersIn_muted (category : Category) :
    offersIn (ofList (handlers.map (Handler.muted agent))) rules gate agent category =
      offersIn (ofList handlers) rules gate agent category := by
  simp only [offersIn, inCategory, toList_ofList_map (Handler.definition_muted agent),
    List.filter_map, List.map_map, Function.comp_def, Handler.definition_muted, Gate.offers_muted]

theorem rank_muted :
    rank (ofList (handlers.map (Handler.muted agent))) rules gate agent =
      .finished (ofAvailable (ofList handlers) rules gate agent) := by
  have hanswers : ∀ handler ∈ (ofList (handlers.map (Handler.muted agent))).toList,
      Answers gate agent handler := by
    intro handler hm
    rw [toList_ofList_map (Handler.definition_muted agent)] at hm
    obtain ⟨own, -, rfl⟩ := List.mem_map.mp hm
    rw [Answers, Gate.offers_muted]
    exact Gate.isAvailable_muted
  rw [rank_eq hanswers]
  simp only [ofAvailable, offersIn_muted]

theorem listsAvailable_ofAvailable :
    ListsAvailable handlers rules gate agent (ofAvailable (ofList handlers) rules gate agent) where
  present := fun handler havailable => mem_categories_iff.mpr ⟨handler, havailable, rfl⟩
  lists := fun _ => exists_listsBest_of_mem

end Muted

end Advertisement

/-! ### Dispatchers -/

namespace Dispatcher

variable {α : Type} [Agent α]

theorem advertiseAt_eq_crashed_iff {d : Dispatcher α} {s : Session α} {now : Tick}
    {message : Option String} :
    d.advertiseAt s now = .crashed message ↔
      Advertisement.rank d.catalog d.rules (d.gate s.ledger now) s.agent = .crashed message := by
  simp only [advertiseAt]
  cases Advertisement.rank d.catalog d.rules (d.gate s.ledger now) s.agent <;> simp

section

variable (handlers : List (Handler α)) (rules : List (Rule α)) (config : Config) (s : Session α)
  (now : Tick)

theorem exists_advertiseAt_muted :
    ∃ a event, (⟨.ofList (handlers.map (Handler.muted s.agent)), rules, config⟩ :
        Dispatcher α).advertiseAt s now = .finished (a, event) ∧
      a.ListsAvailable handlers rules ⟨config, s.ledger, now⟩ s.agent := by
  simp only [advertiseAt, gate]
  rw [Advertisement.rank_muted]
  exact ⟨_, _, rfl, Advertisement.listsAvailable_ofAvailable handlers rules _ s.agent⟩

variable {handlers} in
theorem advertiseAt_eq_muted
    (h : ∀ handler ∈ (Catalog.ofList handlers).toList,
      Advertisement.Answers ⟨config, s.ledger, now⟩ s.agent handler) :
    (⟨.ofList handlers, rules, config⟩ : Dispatcher α).advertiseAt s now =
      (⟨.ofList (handlers.map (Handler.muted s.agent)), rules, config⟩ :
        Dispatcher α).advertiseAt s now := by
  simp only [advertiseAt, gate]
  rw [Advertisement.rank_eq h, Advertisement.rank_muted]

end

/-- Without the faulty handlers there would always be an advertisement, with every available
directive in its place. A dispatcher shows that one exactly if no hook that is reached breaks down,
and otherwise breaks down like one of the hooks. -/
theorem advertiseAt_isolates_iff (handlers : List (Handler α)) (rules : List (Rule α))
    (config : Config) (s : Session α) (now : Tick) :
    let d : Dispatcher α := ⟨.ofList handlers, rules, config⟩
    let calm : Dispatcher α := ⟨.ofList (handlers.map (Handler.muted s.agent)), rules, config⟩
    let gate := d.gate s.ledger now
    (∃ a event, calm.advertiseAt s now = .finished (a, event) ∧
        a.ListsAvailable handlers rules gate s.agent) ∧
      (d.advertiseAt s now = calm.advertiseAt s now ↔
        ∀ handler message, Catalog.Stands handlers handler →
          ¬ gate.BreaksAsked handler s.agent message) ∧
      (d.advertiseAt s now ≠ calm.advertiseAt s now →
        ∃ handler message, Catalog.Stands handlers handler ∧
          gate.BreaksAsked handler s.agent message ∧ d.advertiseAt s now = .crashed message) := by
  intro d calm gate
  have hcalm := exists_advertiseAt_muted handlers rules config s now
  refine ⟨hcalm, ⟨?_, ?_⟩, ?_⟩
  · intro heq handler message hstands hbreaks
    obtain ⟨_, hrank⟩ := Advertisement.rank_crashed rules (Catalog.mem_toList_ofList.mpr hstands)
      (Gate.isAvailable_eq_crashed_iff.mpr hbreaks)
    have hcrashed : d.advertiseAt s now = .crashed _ := advertiseAt_eq_crashed_iff.mpr hrank
    obtain ⟨a, event, ha, -⟩ := hcalm
    rw [heq, ha] at hcrashed
    contradiction
  · intro hnone
    refine advertiseAt_eq_muted rules config s now fun handler hm =>
      Advertisement.answers_iff.mpr fun message hcrashed => ?_
    exact hnone handler message (Catalog.mem_toList_ofList.mp hm)
      (Gate.isAvailable_eq_crashed_iff.mp hcrashed)
  · intro hne
    cases hrank : Advertisement.rank d.catalog d.rules gate s.agent with
    | finished shown =>
      have hanswers := Advertisement.answers_of_rank hrank
      exact absurd (advertiseAt_eq_muted rules config s now hanswers) hne
    | crashed message =>
      obtain ⟨handler, hm, hcrashed⟩ := Advertisement.exists_handler_of_rank_crashed hrank
      exact ⟨handler, message, Catalog.mem_toList_ofList.mp hm,
        Gate.isAvailable_eq_crashed_iff.mp hcrashed, advertiseAt_eq_crashed_iff.mpr hrank⟩

/-- The quota of `BOOST` breaks down, and so nobody hears of `CHEER`. -/
theorem cheer_not_advertised :
    let faulty : Handler Guest :=
      { (applause "BOOST").handler with quota := .crashed (some "quota bug") }
    let handlers := [faulty, (applause "CHEER").handler]
    let guest : Guest := ⟨"Ada"⟩
    let d : Dispatcher Guest := ⟨.ofList handlers, [], .standard⟩
    let calm : Dispatcher Guest := ⟨.ofList (handlers.map (Handler.muted guest)), [], .standard⟩
    d.advertiseAt ⟨guest, .empty 24⟩ 0 = .crashed (some "quota bug") ∧
      calm.advertiseAt ⟨guest, .empty 24⟩ 0 =
        .finished (⟨[⟨.mood, [⟨"CHEER", "", "[ACTION:CHEER]", 0⟩], 0⟩]⟩,
          .advertised "Ada" 0 1 1) := by
  decide +kernel

end Dispatcher

end ReplyActions
