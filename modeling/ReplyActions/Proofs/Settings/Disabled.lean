import ReplyActions.Proofs.Dispatch.Limits
import ReplyActions.Proofs.Dispatch.Outcomes
import ReplyActions.Proofs.Ranking
import ReplyActions.Proofs.Text.Canonical
import ReplyActions.Settings.Document

/-!
# Directives that are switched off

A document lists directives that are switched off, in any spelling. To a dispatcher with its
settings such a directive is as good as not there: an invocation of it changes nothing, and
advertisements are what they would be without it. All other directives fare as if the list were
empty.
-/

namespace ReplyActions
open Number

/-! ### The list in a document -/

namespace Datum

theorem find?_of_eachOnce {declared : List String} {fields : List (String × Datum)} {name : String}
    {datum : Datum} (h : eachOnce declared fields = true) (hd : name ∈ declared)
    (hm : (name, datum) ∈ fields) : fields.find? (fun f => f.1 = name) = some (name, datum) := by
  have hone : (fields.filter fun f => f.1 = name).length ≤ 1 :=
    of_decide_eq_true (List.all_eq_true.mp h name hd)
  have hin : (name, datum) ∈ fields.filter fun f => f.1 = name :=
    List.mem_filter.mpr ⟨hm, decide_eq_true rfl⟩
  obtain ⟨first, hfirst⟩ := List.length_eq_one_iff.mp
    (Nat.le_antisymm hone (List.length_pos_of_mem hin))
  rw [hfirst, List.mem_singleton] at hin
  rw [← List.head?_filter, hfirst, hin, List.head?_cons]

theorem items_of_toText? {items : List Datum} {texts : List String}
    (h : items.mapM toText? = some texts) : items = texts.map .text := by
  induction items generalizing texts with
  | nil =>
    rw [List.mapM_nil] at h
    injection h with h
    rw [← h, List.map_nil]
  | cons first rest ih =>
    simp only [List.mapM_cons, Option.bind_eq_bind, Option.bind_eq_some_iff] at h
    obtain ⟨one, hone, others, hothers, h⟩ := h
    injection h with h
    subst h
    cases first with
    | text value =>
      injection hone with hone
      rw [List.map_cons, ih hothers, hone]
    | _ => contradiction

/-- What is read of a list of texts is what the record holds under that name. -/
theorem mem_of_withDefault {declared : List String} {fields : List (String × Datum)}
    {name : String} {texts : List String} (honce : eachOnce declared fields = true)
    (hd : name ∈ declared)
    (h : Fields.withDefault ⟨false, fields⟩ name [] (toList? toText?) = some texts) (one : String) :
    one ∈ texts ↔ ∃ items, (name, .list items) ∈ fields ∧ .text one ∈ items := by
  simp only [Fields.withDefault, Fields.get?] at h
  constructor
  · intro hone
    cases hfound : fields.find? fun f => f.1 = name with
    | none =>
      rw [hfound] at h
      injection h with h
      rw [← h] at hone
      exact absurd hone List.not_mem_nil
    | some field =>
      obtain ⟨other, datum⟩ := field
      obtain rfl : other = name := of_decide_eq_true (List.find?_some hfound :)
      simp only [hfound, Option.map_some] at h
      cases datum with
      | list items =>
        refine ⟨items, List.mem_of_find?_eq_some hfound, ?_⟩
        rw [items_of_toText? h]
        exact List.mem_map_of_mem hone
      | _ => contradiction
  · rintro ⟨items, hm, hi⟩
    simp only [find?_of_eachOnce honce hd hm, Option.map_some] at h
    rw [items_of_toText? h] at hi
    obtain ⟨other, ho, heq⟩ := List.mem_map.mp hi
    injection heq with heq
    rwa [← heq]

end Datum

theorem Toml.exists_record_of_read {text : String} {d : Datum} (h : Toml.read text = some d) :
    ∃ fields, d = .record fields := by
  simp only [read] at h
  split at h
  · contradiction
  · obtain ⟨draft, -, hdraft⟩ := Option.bind_eq_some_iff.mp h
    obtain ⟨entries, -, rfl⟩ := Option.map_eq_some_iff.mp hdraft
    exact ⟨_, rfl⟩

theorem Registry.isSome_get?_ofList {names : List String} {name : String} :
    ((ofList (names.map fun n => (n, ()))).get? name).isSome = true ↔ name ∈ names := by
  have hstart : ∀ start : Registry Unit,
      (((names.map fun n => (n, ())).foldl (fun r entry => r.put entry.1 entry.2) start).get?
        name).isSome = true ↔ (start.get? name).isSome = true ∨ name ∈ names := by
    induction names with
    | nil => simp
    | cons first rest ih =>
      intro start
      rw [List.map_cons, List.foldl_cons, ih, get?_put, List.mem_cons]
      by_cases h : first = name
      · simp [h]
      · simp [h, Ne.symm h]
  rw [ofList, hstart]
  simp [empty, get?, lookup]

namespace Config

/-- The document lists the entry among the directives that are switched off. -/
def SwitchesOff (document entry : String) : Prop :=
  ∃ fields items, Toml.read document = some (.record fields) ∧
    ("disabled", .list items) ∈ fields ∧ Datum.text entry ∈ items

theorem exists_listed {fields : List (String × Datum)} {config : Config}
    (h : ofDatum? (.record fields) = some config) :
    ∃ listed : List String,
      config.disabled = .ofList ((listed.map canonicalId).map fun id => (id, ())) ∧
      ∀ entry, entry ∈ listed ↔
        ∃ items, ("disabled", .list items) ∈ fields ∧ Datum.text entry ∈ items := by
  simp only [ofDatum?, Option.bind_eq_bind, Option.bind_eq_some_iff] at h
  obtain ⟨f, hf, limit, -, times, -, effects, -, listed, hlisted, quotas, -, h⟩ := h
  injection h with h
  subst h
  simp only [Datum.fields?] at hf
  split at hf
  · next honce =>
    injection hf with hf
    subst hf
    refine ⟨listed, by rw [List.map_map]; rfl, fun entry => ?_⟩
    exact Datum.mem_of_withDefault honce (by simp) hlisted entry
  · contradiction

theorem isDisabled_iff {document : String} {config : Config}
    (h : ofDocument document = .ok config) (id : String) :
    config.isDisabled id = true ↔
      ∃ entry, SwitchesOff document entry ∧ canonicalId entry = canonicalId id := by
  simp only [ofDocument] at h
  split at h
  · contradiction
  · next found hfound =>
    obtain ⟨d, hd, hconfig⟩ := Option.bind_eq_some_iff.mp hfound
    simp only [checked] at h
    split at h
    · contradiction
    · injection h with h
      subst h
      obtain ⟨fields, rfl⟩ := Toml.exists_record_of_read hd
      obtain ⟨listed, hdisabled, hlisted⟩ := exists_listed hconfig
      have hswitched : ∀ entry, SwitchesOff document entry ↔ entry ∈ listed := by
        intro entry
        rw [hlisted]
        constructor
        · rintro ⟨others, items, ho, hm, hi⟩
          rw [hd] at ho
          injection ho with ho
          injection ho with ho
          subst ho
          exact ⟨items, hm, hi⟩
        · rintro ⟨items, hm, hi⟩
          exact ⟨fields, items, hd, hm, hi⟩
      simp only [isDisabled, hdisabled, Registry.isSome_get?_ofList, List.mem_map, hswitched]

end Config

/-! ### At the gate -/

namespace Gate

variable {α : Type} [Agent α] {gate : Gate} {handler : Handler α}

theorem isAvailable_of_disabled (h : gate.config.isDisabled handler.definition.id = true)
    (agent : α) : gate.isAvailable handler agent = .finished false := by
  simp only [isAvailable, h, if_true]

/-- The gate with the same settings, but nothing switched off. -/
def allOn (gate : Gate) : Gate := { gate with config := { gate.config with disabled := .empty } }

theorem examine_allOn (h : gate.config.isDisabled handler.definition.id = false) (agent : α)
    (params : Params) :
    gate.allOn.examine handler agent params = gate.examine handler agent params := by
  have hon : gate.allOn.config.isDisabled handler.definition.id = false := rfl
  simp only [examine, h, hon]
  rfl

theorem isAvailable_allOn (h : gate.config.isDisabled handler.definition.id = false) (agent : α) :
    gate.allOn.isAvailable handler agent = gate.isAvailable handler agent := by
  have hon : gate.allOn.config.isDisabled handler.definition.id = false := rfl
  simp only [isAvailable, h, hon]
  rfl

end Gate

/-! ### In advertisements -/

namespace Advertisement

variable {α : Type} [Agent α] {gate : Gate} {agent : α} {keep : Handler α → Bool}

/-- Handlers that are not available can be left out of the question. -/
theorem available_filter {known : List (Handler α)}
    (h : ∀ handler ∈ known, keep handler = false →
      gate.isAvailable handler agent = .finished false) :
    available gate agent (known.filter keep) = available gate agent known := by
  induction known with
  | nil => rfl
  | cons first rest ih =>
    rw [List.forall_mem_cons] at h
    cases hkeep : keep first with
    | true => rw [List.filter_cons_of_pos hkeep, available, available, ih h.2]
    | false =>
      rw [List.filter_cons_of_neg (by simp [hkeep]), ih h.2, available, h.1 hkeep]
      cases available gate agent rest <;> rfl

theorem groupsOf_congr {catalog catalog' : Catalog α}
    (h : ∀ category, available gate agent (catalog.inCategory category) =
      available gate agent (catalog'.inCategory category)) (rules : List (Rule α)) (limit : Nat)
    (categories : List Category) :
    groupsOf catalog rules gate agent limit categories =
      groupsOf catalog' rules gate agent limit categories := by
  induction categories with
  | nil => rfl
  | cons first rest ih => rw [groupsOf, groupsOf, h first, ih]

theorem rank_of_filter {catalog catalog' : Catalog α}
    (hlist : catalog'.toList = catalog.toList.filter keep)
    (h : ∀ handler ∈ catalog.toList, keep handler = false →
      gate.isAvailable handler agent = .finished false) (rules : List (Rule α)) :
    rank catalog' rules gate agent = rank catalog rules gate agent := by
  have hcategory : ∀ category, available gate agent (catalog'.inCategory category) =
      available gate agent (catalog.inCategory category) := by
    intro category
    rw [Catalog.inCategory, Catalog.inCategory, hlist, List.filter_comm]
    exact available_filter fun handler hm => h handler (List.mem_filter.mp hm).1
  rw [rank, rank, groupsOf_congr hcategory]

end Advertisement

/-! ### To a dispatcher -/

namespace Dispatcher

variable {α : Type} [Agent α]

/-- The handlers of all directives but one. -/
def without (id : String) (handlers : List (Handler α)) : List (Handler α) :=
  handlers.filter fun handler => canonicalId handler.definition.id ≠ canonicalId id

/-- To the dispatcher `d` a directive is as good as not there: `rest` is the dispatcher to which it
is not. -/
structure IsOff (d rest : Dispatcher α) (id : String) : Prop where
  changesNothing : ∀ (text : String) (s : Session α) (now : Tick) (front : List Invocation)
    (i : Invocation) (back : List Invocation),
    Invocation.extract text.toList = front ++ i :: back → canonicalId i.id = canonicalId id →
    d.reached now s (front ++ [i]) = d.reached now s front ∧
      ∃ result, (d.dispatchAt text s now).report.results[front.length]? = some result ∧
        result.directiveId = i.id ∧ result.outcome ≠ .success
  leavesNoGap : ∀ (s : Session α) (now : Tick), d.advertiseAt s now = rest.advertiseAt s now
  notOffered : ∀ (s : Session α) (now : Tick) (a : Advertisement) (event : Event),
    d.advertiseAt s now = .finished (a, event) →
    ∀ group ∈ a.groups, ∀ offer ∈ group.offers, canonicalId offer.id ≠ canonicalId id

section

variable {handlers : List (Handler α)} {rules : List (Rule α)} {config : Config}

variable (handlers rules) in
theorem step_of_disabled {i : Invocation} (h : config.isDisabled i.id = true) (now : Tick)
    (s : Session α) :
    ((⟨.ofList handlers, rules, config⟩ : Dispatcher α).step now s i).session = s ∧
      ((⟨.ofList handlers, rules, config⟩ : Dispatcher α).step now s i).result.outcome ≠
        .success := by
  cases hl : (Catalog.ofList handlers).lookup i.id with
  | none => simp [step, hl, Result.unknown]
  | some handler =>
    -- the gate asks under the identifier of the definition, which has the same canonical form
    have hoff : config.isDisabled handler.definition.id = true := by
      rw [Config.isDisabled, (Catalog.lookup_ofList hl).2]
      exact h
    have hrefused : (Gate.mk config s.ledger now).examine handler s.agent i.params =
        .finished (.error .disabled) := Gate.Refuses.examine (.disabled hoff)
    simp [step, hl, gate, hrefused, Result.denied]

theorem isOff_of_disabled {id : String} (h : config.isDisabled id = true) :
    IsOff (α := α) ⟨.ofList handlers, rules, config⟩ ⟨.ofList (without id handlers), rules, config⟩
      id := by
  have hoff : ∀ other, canonicalId other = canonicalId id → config.isDisabled other = true := by
    intro other ho
    rw [Config.isDisabled, ho]
    exact h
  constructor
  case changesNothing =>
    intro text s now front i back hi hid
    obtain ⟨hsession, houtcome⟩ := step_of_disabled handlers rules (hoff i.id hid) now
      (reached ⟨.ofList handlers, rules, config⟩ now s front)
    exact ⟨(reached_concat front).trans hsession, _, results_getElem? hi,
      step_directiveId _ now _ i, houtcome⟩
  case leavesNoGap =>
    intro s now
    have hunavailable : ∀ handler ∈ (Catalog.ofList handlers).toList,
        decide (canonicalId handler.definition.id ≠ canonicalId id) = false →
        (Gate.mk config s.ledger now).isAvailable handler s.agent = .finished false :=
      fun handler _ hdropped =>
        Gate.isAvailable_of_disabled (hoff _ (by simpa using hdropped)) s.agent
    have hrank := Advertisement.rank_of_filter
      (Catalog.toList_ofList_filter (fun name => name ≠ canonicalId id) handlers) hunavailable rules
    simp only [advertiseAt, gate, without, ← hrank]
  case notOffered =>
    intro s now a event ha group hg offer ho hid
    simp only [advertiseAt, gate] at ha
    split at ha
    · contradiction
    · next found hrank =>
      injection ha with ha
      obtain ⟨rfl, -⟩ := Prod.mk.inj ha
      obtain ⟨handler, havailable, hname⟩ := Advertisement.exists_handler_of_rank hrank hg ho
      rw [Gate.isAvailable_of_disabled (hoff _ (hname ▸ hid))] at havailable
      injection havailable with hfalse
      contradiction

end

/-- A directive that a document switches off, in whatever spelling, is off for good. Every other
directive is examined and available as if nothing were switched off. -/
theorem switched_off_for_good {document : String} {config : Config}
    (h : Config.ofDocument document = .ok config) (handlers : List (Handler α))
    (rules : List (Rule α)) :
    (∀ entry, Config.SwitchesOff document entry →
        IsOff (α := α) ⟨.ofList handlers, rules, config⟩
          ⟨.ofList (without entry handlers), rules, config⟩ entry) ∧
      ∀ handler : Handler α,
        (∀ entry, Config.SwitchesOff document entry →
          canonicalId entry ≠ canonicalId handler.definition.id) →
        ∀ gate : Gate, gate.config = config → ∀ agent : α,
          gate.isAvailable handler agent = gate.allOn.isAvailable handler agent ∧
            ∀ params,
              gate.examine handler agent params = gate.allOn.examine handler agent params := by
  refine ⟨fun entry he => ?_, fun handler hnone gate hconfig agent => ?_⟩
  · exact isOff_of_disabled ((Config.isDisabled_iff h entry).mpr ⟨entry, he, rfl⟩)
  · have hon : gate.config.isDisabled handler.definition.id = false := by
      rw [← Bool.not_eq_true, hconfig, Config.isDisabled_iff h]
      rintro ⟨entry, he, hid⟩
      exact hnone entry he hid
    exact ⟨(Gate.isAvailable_allOn hon agent).symm,
      fun params => (Gate.examine_allOn hon agent params).symm⟩

/-- A directive is off however it is spelled in its definition and in the document. -/
theorem applause_switched_off :
    let document := "disabled = [\" boost \"]"
    let handlers := [(applause "Boost").handler, (applause "CHEER").handler]
    ∃ config, Config.ofDocument document = .ok config ∧
      Config.SwitchesOff document " boost " ∧
      IsOff ⟨.ofList handlers, [], config⟩ ⟨.ofList (without " boost " handlers), [], config⟩
        " boost " ∧
      (without " boost " handlers).map (·.definition.id) = ["CHEER"] := by
  intro document handlers
  cases hread : Config.ofDocument document with
  | error error =>
    have hfine : (Config.ofDocument document).isOk = true := by decide +kernel
    rw [hread] at hfine
    contradiction
  | ok config =>
    have hlisted : Config.SwitchesOff document " boost " :=
      ⟨[("disabled", .list [.text " boost "])], [.text " boost "], by decide +kernel, by simp,
        by simp⟩
    exact ⟨config, rfl, hlisted,
      (switched_off_for_good hread handlers []).1 " boost " hlisted, by decide +kernel⟩

end Dispatcher

end ReplyActions
