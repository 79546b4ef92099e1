import ReplyActions.Advertisement
import ReplyActions.Proofs.Catalog
import ReplyActions.Proofs.Gate

/-!
# What an advertisement accounts for

The gate is asked about availability without parameters and without a magnitude. A directive that
is admitted with some parameters is available if its condition asks no less of parameters than of
none. Ranking moves offers and cuts the list, but every available directive is either on the list
or counted.
-/

namespace ReplyActions
open Number

/-! ### Availability -/

/-- No guard is stricter about a grant without magnitude. -/
theorem Quota.Ledger.check_none {ledger : Ledger} {policy : Policy} {key : Key} {now : Tick}
    {magnitude : Option Points} (h : ledger.check policy key now magnitude = .ok ()) :
    ledger.check policy key now none = .ok () := by
  have hcount : ∀ count accumulated,
      (do checkCount policy count
          checkMagnitude policy accumulated magnitude) = Except.ok () →
      (do checkCount policy count
          checkMagnitude policy accumulated none) = Except.ok () := by
    intro count accumulated h
    -- the cap on magnitudes has nothing to say, and the count is the same
    have hfree : checkMagnitude policy accumulated none = .ok () := by
      cases hcap : policy.magnitudeCap <;> simp only [checkMagnitude, hcap]
    cases hc : checkCount policy count with
    | error denial =>
      rw [hc] at h
      contradiction
    | ok room => exact hfree
  simp only [check] at h ⊢
  cases hu : ledger.usage? key with
  | none =>
    rw [hu] at h
    exact hcount _ _ h
  | some usage =>
    rw [hu] at h
    cases hw : checkCooldown policy usage now with
    | error denial =>
      simp only [hw] at h
      contradiction
    | ok rested =>
      simp only [hw] at h ⊢
      exact hcount _ _ h

namespace Gate

variable {α : Type} [Agent α] {gate : Gate} {handler : Handler α} {agent : α}

theorem checkQuota_none {policy : Option Quota.Policy} {id : String} {magnitude : Option Points}
    (h : gate.checkQuota policy id agent magnitude = .ok ()) :
    gate.checkQuota policy id agent none = .ok () := by
  rw [checkQuota_eq_ok_iff] at h ⊢
  exact fun inForce hpolicy => Quota.Ledger.check_none (h inForce hpolicy)

theorem isAvailable_of_examine {params : Params} {admission : Admission}
    (hopen : handler.canExecute agent params = .finished true →
      handler.canExecute agent [] = .finished true)
    (h : gate.examine handler agent params = .finished (.ok admission)) :
    gate.isAvailable handler agent = .finished true := by
  have hadmits : gate.Admits handler agent params admission := examine_eq_iff.mp h
  obtain ⟨own, hown, hpolicy, hroom⟩ := examine_ok h
  rw [hpolicy] at hroom
  simp only [isAvailable, hadmits.enabled, hopen hadmits.condition, hown, checkQuota_none hroom,
    Bool.false_eq_true, if_false]
  rfl

/-- The hooks of an action never break down, so there is always a decision. -/
theorem examine_action (gate : Gate) (action : Action α) (agent : α) (params : Params) :
    ∃ ruling, gate.examine action.handler agent params = .finished ruling := by
  obtain ⟨decision, hdecides⟩ := gate.exists_decides action.handler agent params
  cases decision with
  | finished ruling => exact ⟨ruling, examine_eq_iff.mpr hdecides⟩
  | crashed message =>
    cases hdecides with
    | condition _ crash => cases crash
    | magnitude _ crash => cases crash
    | quota _ _ crash => cases crash

/-- The directive is available, if the question is answered at all. -/
def offers (gate : Gate) (agent : α) (handler : Handler α) : Bool :=
  gate.isAvailable handler agent = .finished true

theorem isAvailable_action (gate : Gate) (action : Action α) (agent : α) :
    gate.isAvailable action.handler agent = .finished (gate.offers agent action.handler) := by
  have hfinished : ∃ isAvailable,
      gate.isAvailable action.handler agent = .finished isAvailable := by
    cases hoff : gate.config.isDisabled action.definition.id with
    | true => exact ⟨false, by simp only [isAvailable, Action.handler, hoff, if_true]⟩
    | false =>
      simp only [isAvailable, Action.handler, hoff, Bool.false_eq_true, if_false]
      cases action.canExecute agent [] with
      | false => exact ⟨false, rfl⟩
      | true => exact ⟨_, rfl⟩
  obtain ⟨isAvailable, h⟩ := hfinished
  cases isAvailable <;> simp [offers, h]

end Gate

/-! ### Ranking -/

namespace Advertisement

theorem insertOffer_perm (offer : Offer) (offers : List Offer) :
    (insertOffer offer offers).Perm (offer :: offers) := by
  induction offers with
  | nil => exact .refl _
  | cons first rest ih =>
    simp only [insertOffer]
    split
    · exact .refl _
    · exact (ih.cons first).trans (.swap offer first rest)

theorem foldl_insertOffer_perm (offers done : List Offer) :
    (offers.foldl (fun done offer => insertOffer offer done) done).Perm (done ++ offers) := by
  induction offers generalizing done with
  | nil => rw [List.foldl_nil, List.append_nil]
  | cons first rest ih =>
    have hfirst : (insertOffer first done ++ rest).Perm (first :: done ++ rest) :=
      (insertOffer_perm first done).append_right rest
    exact (ih (insertOffer first done)).trans (hfirst.trans List.perm_middle.symm)

/-- Ranking loses and doubles nothing. -/
theorem ranked_perm (offers : List Offer) : (ranked offers).Perm offers :=
  foldl_insertOffer_perm offers []

/-- The listed offers and those left out, which are only counted, are the given ones. -/
structure Covers (group : OfferGroup) (left offers : List Offer) : Prop where
  perm : (group.offers ++ left).Perm offers
  omitted : left.length = group.omitted

theorem covers_groupOf? {limit : Nat} {category : Category} {offers : List Offer}
    {group : OfferGroup} (h : groupOf? limit category offers = some group) :
    group.category = category ∧ ∃ left, Covers group left offers := by
  simp only [groupOf?] at h
  split at h
  · contradiction
  · injection h with h
    subst h
    refine ⟨rfl, (ranked offers).drop limit, ?_, ?_⟩
    · rw [List.take_append_drop]
      exact ranked_perm offers
    · rw [List.length_drop, (ranked_perm offers).length_eq]

theorem exists_groupOf? (limit : Nat) (category : Category) {offers : List Offer}
    (h : offers ≠ []) : ∃ group, groupOf? limit category offers = some group := by
  rw [groupOf?, if_neg (by rwa [List.isEmpty_iff])]
  exact ⟨_, rfl⟩

/-! ### Whole advertisements -/

variable {α : Type} [Agent α] {catalog : Catalog α} {rules : List (Rule α)} {gate : Gate}
  {agent : α}

/-- Whether a handler is available can be asked without a breakdown. -/
def Answers (gate : Gate) (agent : α) (handler : Handler α) : Prop :=
  gate.isAvailable handler agent = .finished (gate.offers agent handler)

theorem available_eq {handlers : List (Handler α)}
    (h : ∀ handler ∈ handlers, Answers gate agent handler) :
    available gate agent handlers = .finished (handlers.filter (gate.offers agent)) := by
  induction handlers with
  | nil => rfl
  | cons first rest ih =>
    rw [List.forall_mem_cons] at h
    have hfirst : gate.isAvailable first agent = .finished (gate.offers agent first) := h.1
    simp only [available, hfirst, ih h.2, List.filter_cons]

/-- The offers of a category before they are ranked. -/
def offersIn (catalog : Catalog α) (rules : List (Rule α)) (gate : Gate) (agent : α)
    (category : Category) : List Offer :=
  ((catalog.inCategory category).filter (gate.offers agent)).map fun handler =>
    offerOf rules agent handler.definition

/-- What is advertised of the handlers that answer that they are available. -/
def ofAvailable (catalog : Catalog α) (rules : List (Rule α)) (gate : Gate) (agent : α) :
    Advertisement :=
  ⟨Category.all.filterMap fun category =>
    groupOf? (max gate.config.perCategoryLimit.val 1) category
      (offersIn catalog rules gate agent category)⟩

theorem mem_groups_ofAvailable {group : OfferGroup} :
    group ∈ (ofAvailable catalog rules gate agent).groups ↔
      ∃ category, groupOf? (max gate.config.perCategoryLimit.val 1) category
        (offersIn catalog rules gate agent category) = some group := by
  simp only [ofAvailable, List.mem_filterMap, Category.mem_all, true_and]

/-- A category has a group exactly if it has available directives. -/
theorem mem_categories_ofAvailable {category : Category} :
    category ∈ (ofAvailable catalog rules gate agent).groups.map (·.category) ↔
      offersIn catalog rules gate agent category ≠ [] := by
  rw [List.mem_map]
  constructor
  · rintro ⟨group, hg, rfl⟩
    obtain ⟨category, hgroup⟩ := mem_groups_ofAvailable.mp hg
    rw [(covers_groupOf? hgroup).1]
    intro hnil
    rw [groupOf?, hnil, if_pos List.isEmpty_nil] at hgroup
    contradiction
  · intro hne
    obtain ⟨group, hgroup⟩ := exists_groupOf? (max gate.config.perCategoryLimit.val 1) category hne
    exact ⟨group, mem_groups_ofAvailable.mpr ⟨category, hgroup⟩, (covers_groupOf? hgroup).1⟩

variable (h : ∀ handler ∈ catalog.toList, Answers gate agent handler)
include h

theorem groupsOf_eq (limit : Nat) (categories : List Category) :
    groupsOf catalog rules gate agent limit categories =
      .finished (categories.filterMap fun category =>
        groupOf? limit category (offersIn catalog rules gate agent category)) := by
  induction categories with
  | nil => rfl
  | cons category rest ih =>
    have hcategory : available gate agent (catalog.inCategory category) =
        .finished ((catalog.inCategory category).filter (gate.offers agent)) :=
      available_eq fun handler hm => h handler (List.mem_filter.mp hm).1
    simp only [groupsOf, hcategory, ih, List.filterMap_cons]
    rw [← offersIn]
    cases groupOf? limit category (offersIn catalog rules gate agent category) <;> rfl

theorem rank_eq :
    rank catalog rules gate agent = .finished (ofAvailable catalog rules gate agent) := by
  simp only [rank, groupsOf_eq h, ofAvailable]

/-- A category with available directives has a group, which accounts for all of them. -/
theorem exists_group_of_rank {a : Advertisement} (ha : rank catalog rules gate agent = .finished a)
    {category : Category} (hsome : offersIn catalog rules gate agent category ≠ []) :
    ∃ group ∈ a.groups, group.category = category ∧
      ∃ left, Covers group left (offersIn catalog rules gate agent category) := by
  rw [rank_eq h] at ha
  injection ha with ha
  subst ha
  obtain ⟨group, hgroup⟩ :=
    exists_groupOf? (max gate.config.perCategoryLimit.val 1) category hsome
  exact ⟨group, mem_groups_ofAvailable.mpr ⟨category, hgroup⟩, covers_groupOf? hgroup⟩

end Advertisement

end ReplyActions
