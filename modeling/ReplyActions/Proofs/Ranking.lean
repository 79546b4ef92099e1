import Mathlib.Data.List.Nodup
import ReplyActions.Proofs.Advertisement

/-!
# The best of each category

An advertisement goes through the categories in order. Of each one it lists the best available
handlers, equal ones by the places of their directives, and counts the others. It breaks down only
if a handler does when it is asked whether it is available.
-/

namespace ReplyActions.Advertisement
open Number Catalog

variable {α : Type}

def scoreOf (rules : List (Rule α)) (agent : α) (handler : Handler α) : Int :=
  (scoreBy rules agent handler.definition).val

/-- The handler is more relevant, or as relevant and its directive was registered earlier. -/
def Precedes (handlers : List (Handler α)) (rules : List (Rule α)) (agent : α)
    (a b : Handler α) : Prop :=
  scoreOf rules agent b < scoreOf rules agent a ∨
    scoreOf rules agent a = scoreOf rules agent b ∧ place handlers a < place handlers b

section Statements

variable [Agent α] (handlers : List (Handler α)) (rules : List (Rule α)) (gate : Gate) (agent : α)

def Available (handler : Handler α) : Prop :=
  Stands handlers handler ∧ gate.isAvailable handler agent = .finished true

/-- `order` holds the available handlers of the group's category, the best first. As many as there
is room for are listed, and the others are counted. -/
structure ListsBest (limit : Nat) (group : OfferGroup) (order : List (Handler α)) : Prop where
  mem_iff : ∀ handler, handler ∈ order ↔
    Available handlers gate agent handler ∧ handler.definition.category = group.category
  sorted : order.Pairwise (Precedes handlers rules agent)
  listed : group.offers =
    (order.take limit).map fun handler => offerOf rules agent handler.definition
  omitted : group.omitted = (order.drop limit).length
  best : ∀ kept ∈ order.take limit, ∀ left ∈ order.drop limit,
    scoreOf rules agent left ≤ scoreOf rules agent kept

/-- What an advertisement says of a catalog whose handlers were registered one by one. -/
structure IsBest (a : Advertisement) : Prop where
  answered : ∀ handler, Stands handlers handler → Answers gate agent handler
  inOrder : (a.groups.map (·.category)).Sublist Category.all
  category_iff : ∀ category, category ∈ a.groups.map (·.category) ↔
    ∃ handler, Available handlers gate agent handler ∧ handler.definition.category = category
  lists : ∀ group ∈ a.groups, ∃ order,
    ListsBest handlers rules gate agent (max gate.config.perCategoryLimit.val 1) group order
  once : ((a.groups.flatMap (·.offers)).map fun offer => canonicalId offer.id).Nodup

end Statements

/-! ### Insertion keeps the order -/

section Order

variable {handlers : List (Handler α)} {rules : List (Rule α)} {agent : α}

theorem Precedes.score_le {a b : Handler α} (h : Precedes handlers rules agent a b) :
    scoreOf rules agent b ≤ scoreOf rules agent a := by
  rcases h with h | ⟨h, -⟩ <;> omega

theorem exists_insertOffer {handler : Handler α} {order : List (Handler α)}
    (hsorted : order.Pairwise (Precedes handlers rules agent))
    (hlater : ∀ known ∈ order, place handlers known < place handlers handler) :
    let offer := fun handler : Handler α => offerOf rules agent handler.definition
    ∃ after : List (Handler α), after.Perm (handler :: order) ∧
      after.Pairwise (Precedes handlers rules agent) ∧
      after.map offer = insertOffer (offer handler) (order.map offer) := by
  intro offer
  induction order with
  | nil => exact ⟨[handler], .refl _, List.pairwise_singleton .., rfl⟩
  | cons first rest ih =>
    obtain ⟨hfirst, hrest⟩ := List.pairwise_cons.mp hsorted
    simp only [List.map_cons, insertOffer]
    split
    · next hbetter =>
      have hbetter : scoreOf rules agent first < scoreOf rules agent handler := hbetter
      refine ⟨handler :: first :: rest, .refl _, List.pairwise_cons.mpr ⟨?_, hsorted⟩, rfl⟩
      intro other ho
      rcases List.mem_cons.mp ho with rfl | ho
      · exact Or.inl hbetter
      · exact Or.inl (Int.lt_of_le_of_lt (hfirst other ho).score_le hbetter)
    · next hworse =>
      have hworse : ¬ scoreOf rules agent first < scoreOf rules agent handler := hworse
      obtain ⟨after, hperm, hafter, hmap⟩ :=
        ih hrest fun known hk => hlater known (List.mem_cons_of_mem _ hk)
      refine ⟨first :: after, ?_, List.pairwise_cons.mpr ⟨?_, hafter⟩, by rw [List.map_cons, hmap]⟩
      · exact (hperm.cons first).trans (.swap handler first rest)
      · intro other ho
        rcases List.mem_cons.mp (hperm.mem_iff.mp ho) with rfl | ho
        · -- of two that are equally relevant, the new one comes from a later place
          have hplace := hlater first List.mem_cons_self
          rcases Int.lt_or_eq_of_le (Int.not_lt.mp hworse) with hlt | heq
          · exact Or.inl hlt
          · exact Or.inr ⟨heq.symm, hplace⟩
        · exact hfirst other ho

theorem exists_foldl_insertOffer {rest done : List (Handler α)}
    (hsorted : done.Pairwise (Precedes handlers rules agent))
    (hplaces : rest.Pairwise fun a b => place handlers a < place handlers b)
    (hlater : ∀ known ∈ done, ∀ handler ∈ rest, place handlers known < place handlers handler) :
    let offer := fun handler : Handler α => offerOf rules agent handler.definition
    ∃ order : List (Handler α), order.Perm (done ++ rest) ∧
      order.Pairwise (Precedes handlers rules agent) ∧
      order.map offer =
        (rest.map offer).foldl (fun done offer => insertOffer offer done) (done.map offer) := by
  intro offer
  induction rest generalizing done with
  | nil => exact ⟨done, by rw [List.append_nil], hsorted, rfl⟩
  | cons first rest ih =>
    obtain ⟨hfirst, hrest⟩ := List.pairwise_cons.mp hplaces
    obtain ⟨after, hperm, hafter, hmap⟩ :=
      exists_insertOffer hsorted fun known hk => hlater known hk first List.mem_cons_self
    have hnext : ∀ known ∈ after, ∀ handler ∈ rest,
        place handlers known < place handlers handler := by
      intro known hk handler hm
      rcases List.mem_cons.mp (hperm.mem_iff.mp hk) with rfl | hk
      · exact hfirst handler hm
      · exact hlater known hk handler (List.mem_cons_of_mem _ hm)
    obtain ⟨order, horder, hpairs, hfold⟩ := ih hafter hrest hnext
    refine ⟨order, ?_, hpairs, ?_⟩
    · exact horder.trans ((hperm.append_right rest).trans List.perm_middle.symm)
    · rw [hfold, hmap, List.map_cons, List.foldl_cons]

/-- Ranking sorts the handlers behind the offers. -/
theorem exists_ranked (rules : List (Rule α)) (agent : α) {known : List (Handler α)}
    (hplaces : known.Pairwise fun a b => place handlers a < place handlers b) :
    let offer := fun handler : Handler α => offerOf rules agent handler.definition
    ∃ order : List (Handler α), order.Perm known ∧
      order.Pairwise (Precedes handlers rules agent) ∧
      order.map offer = ranked (known.map offer) :=
  exists_foldl_insertOffer List.Pairwise.nil hplaces fun _ hk => absurd hk List.not_mem_nil

end Order

/-! ### One category -/

variable [Agent α] {handlers : List (Handler α)} {rules : List (Rule α)} {gate : Gate} {agent : α}

theorem mem_available_iff {category : Category} {handler : Handler α} :
    handler ∈ ((ofList handlers).inCategory category).filter (gate.offers agent) ↔
      Available handlers gate agent handler ∧ handler.definition.category = category := by
  rw [List.mem_filter, inCategory, List.mem_filter, mem_toList_ofList, decide_eq_true_eq,
    Gate.offers, decide_eq_true_eq, Available]
  exact and_right_comm

theorem exists_listsBest {limit : Nat} {category : Category} {group : OfferGroup}
    (h : groupOf? limit category (offersIn (ofList handlers) rules gate agent category) =
      some group) :
    group.category = category ∧
      ∃ order, ListsBest handlers rules gate agent limit group order := by
  simp only [groupOf?] at h
  split at h
  · contradiction
  · injection h with h
    subst h
    have hplaces : (((ofList handlers).inCategory category).filter (gate.offers agent)).Pairwise
        fun a b => place handlers a < place handlers b :=
      (pairwise_place_ofList handlers).sublist (List.filter_sublist.trans List.filter_sublist)
    obtain ⟨order, hperm, hsorted, hmap⟩ := exists_ranked rules agent hplaces
    refine ⟨rfl, order, fun handler => ?_, hsorted, ?_, ?_, fun kept hk left hl => ?_⟩
    · rw [hperm.mem_iff, mem_available_iff]
    · rw [List.map_take, hmap, offersIn]
    · rw [List.length_drop, hperm.length_eq, offersIn, List.length_map]
    · rw [← List.take_append_drop limit order, List.pairwise_append] at hsorted
      exact (hsorted.2.2 kept hk left hl).score_le

theorem ListsBest.handler_of_mem {limit : Nat} {group : OfferGroup} {order : List (Handler α)}
    (h : ListsBest handlers rules gate agent limit group order) {offer : Offer}
    (ho : offer ∈ group.offers) :
    ∃ handler, Available handlers gate agent handler ∧
      handler.definition.category = group.category ∧ handler.definition.id = offer.id := by
  rw [h.listed] at ho
  obtain ⟨handler, hm, rfl⟩ := List.mem_map.mp ho
  obtain ⟨havailable, hcategory⟩ := (h.mem_iff handler).mp (List.mem_of_mem_take hm)
  exact ⟨handler, havailable, hcategory, rfl⟩

theorem ListsBest.nodup {limit : Nat} {group : OfferGroup} {order : List (Handler α)}
    (h : ListsBest handlers rules gate agent limit group order) :
    (group.offers.map fun offer => canonicalId offer.id).Nodup := by
  have hne : order.Pairwise fun a b =>
      canonicalId a.definition.id ≠ canonicalId b.definition.id := by
    refine h.sorted.imp_of_mem fun {a b} ha hb hprecedes heq => ?_
    obtain rfl := ((h.mem_iff a).mp ha).1.1.unique ((h.mem_iff b).mp hb).1.1 heq
    rcases hprecedes with hlt | ⟨-, hlt⟩ <;> omega
  rw [h.listed, List.map_map, List.Nodup, List.pairwise_map]
  exact hne.sublist (List.take_sublist limit order)

/-! ### All categories -/

theorem sublist_categories (limit : Nat) (offers : Category → List Offer)
    (categories : List Category) :
    ((categories.filterMap fun category =>
      groupOf? limit category (offers category)).map (·.category)).Sublist categories := by
  induction categories with
  | nil => exact .slnil
  | cons first rest ih =>
    rw [List.filterMap_cons]
    cases hgroup : groupOf? limit first (offers first) with
    | none => exact ih.cons first
    | some group =>
      rw [List.map_cons, (covers_groupOf? hgroup).1]
      exact ih.cons_cons first

theorem offersIn_ne_nil_iff (rules : List (Rule α)) {category : Category} :
    offersIn (ofList handlers) rules gate agent category ≠ [] ↔
      ∃ handler, Available handlers gate agent handler ∧
        handler.definition.category = category := by
  rw [offersIn, ne_eq, List.map_eq_nil_iff, List.eq_nil_iff_forall_not_mem]
  simp only [mem_available_iff, Classical.not_forall, Classical.not_not]

theorem nodup_ids {groups : List OfferGroup} {limit : Nat}
    (hcategories : (groups.map (·.category)).Nodup)
    (hlists : ∀ group ∈ groups, ∃ order, ListsBest handlers rules gate agent limit group order) :
    ((groups.flatMap (·.offers)).map fun offer => canonicalId offer.id).Nodup := by
  rw [List.map_flatMap, List.nodup_flatMap]
  refine ⟨fun group hg => ?_, ?_⟩
  · obtain ⟨order, horder⟩ := hlists group hg
    exact horder.nodup
  · rw [List.Nodup, List.pairwise_map] at hcategories
    refine hcategories.imp_of_mem fun {one other} hone hother hne name hm hm' => hne ?_
    obtain ⟨offer, ho, rfl⟩ := List.mem_map.mp hm
    obtain ⟨offer', ho', hsame⟩ := List.mem_map.mp hm'
    obtain ⟨_, horder⟩ := hlists one hone
    obtain ⟨_, horder'⟩ := hlists other hother
    obtain ⟨handler, havailable, hcategory, hid⟩ := horder.handler_of_mem ho
    obtain ⟨handler', havailable', hcategory', hid'⟩ := horder'.handler_of_mem ho'
    -- one name stands for one handler, which has one category
    rw [← hid, ← hid'] at hsame
    obtain rfl := havailable'.1.unique havailable.1 hsame
    rw [← hcategory, ← hcategory']

theorem exists_listsBest_of_mem {group : OfferGroup}
    (h : group ∈ (ofAvailable (ofList handlers) rules gate agent).groups) : ∃ order,
      ListsBest handlers rules gate agent (max gate.config.perCategoryLimit.val 1) group order := by
  obtain ⟨category, hgroup⟩ := mem_groups_ofAvailable.mp h
  exact (exists_listsBest hgroup).2

theorem mem_categories_iff {category : Category} :
    category ∈ (ofAvailable (ofList handlers) rules gate agent).groups.map (·.category) ↔
      ∃ handler, Available handlers gate agent handler ∧
        handler.definition.category = category :=
  mem_categories_ofAvailable.trans (offersIn_ne_nil_iff rules)

theorem isBest_of_answers
    (h : ∀ handler ∈ (ofList handlers).toList, Answers gate agent handler) :
    IsBest handlers rules gate agent (ofAvailable (ofList handlers) rules gate agent) where
  answered := fun handler hs => h handler (mem_toList_ofList.mpr hs)
  inOrder := sublist_categories ..
  category_iff := fun _ => mem_categories_iff
  lists := fun _ => exists_listsBest_of_mem
  once := nodup_ids ((sublist_categories ..).nodup Category.nodup_all) fun _ =>
    exists_listsBest_of_mem

/-! ### Breakdowns -/

theorem available_crashed {known : List (Handler α)} {handler : Handler α}
    {message : Option String} (hm : handler ∈ known)
    (h : gate.isAvailable handler agent = .crashed message) :
    ∃ message, available gate agent known = .crashed message := by
  induction known with
  | nil => exact absurd hm List.not_mem_nil
  | cons first rest ih =>
    simp only [available]
    cases hfirst : gate.isAvailable first agent with
    | crashed message => exact ⟨message, rfl⟩
    | finished isAvailable =>
      rcases List.mem_cons.mp hm with rfl | hm
      · rw [h] at hfirst
        contradiction
      · obtain ⟨message, hrest⟩ := ih hm
        exact ⟨message, by simp only [hrest]⟩

theorem rank_crashed (rules : List (Rule α)) {catalog : Catalog α} {handler : Handler α}
    {message : Option String} (hm : handler ∈ catalog.toList)
    (h : gate.isAvailable handler agent = .crashed message) :
    ∃ message, rank catalog rules gate agent = .crashed message := by
  have hgroups : ∀ limit categories, handler.definition.category ∈ categories →
      ∃ message, groupsOf catalog rules gate agent limit categories = .crashed message := by
    intro limit categories hc
    induction categories with
    | nil => exact absurd hc List.not_mem_nil
    | cons first rest ih =>
      simp only [groupsOf]
      cases hfirst : available gate agent (catalog.inCategory first) with
      | crashed message => exact ⟨message, rfl⟩
      | finished found =>
        rcases List.mem_cons.mp hc with rfl | hc
        · have hmem : handler ∈ catalog.inCategory handler.definition.category :=
            List.mem_filter.mpr ⟨hm, decide_eq_true rfl⟩
          obtain ⟨message, hcrashed⟩ := available_crashed hmem h
          rw [hcrashed] at hfirst
          contradiction
        · obtain ⟨message, hrest⟩ := ih hc
          exact ⟨message, by simp only [hrest]⟩
  obtain ⟨message, hcrashed⟩ := hgroups (max gate.config.perCategoryLimit.val 1) Category.all
    handler.definition.category.mem_all
  exact ⟨message, by simp only [rank, hcrashed]⟩

theorem exists_handler_of_available_crashed {known : List (Handler α)} {message : Option String}
    (h : available gate agent known = .crashed message) :
    ∃ handler ∈ known, gate.isAvailable handler agent = .crashed message := by
  induction known with
  | nil => contradiction
  | cons first rest ih =>
    simp only [available] at h
    split at h
    · next hfirst =>
      injection h with h
      exact ⟨first, List.mem_cons_self, h ▸ hfirst⟩
    · split at h
      · next hrest =>
        obtain ⟨handler, hm, hcrashed⟩ := ih (hrest.trans h)
        exact ⟨handler, List.mem_cons_of_mem _ hm, hcrashed⟩
      · contradiction

theorem exists_handler_of_groupsOf_crashed {catalog : Catalog α} {rules : List (Rule α)}
    {limit : Nat} {categories : List Category} {message : Option String}
    (h : groupsOf catalog rules gate agent limit categories = .crashed message) :
    ∃ handler ∈ catalog.toList, gate.isAvailable handler agent = .crashed message := by
  induction categories with
  | nil => contradiction
  | cons first rest ih =>
    simp only [groupsOf] at h
    split at h
    · next hfirst =>
      injection h with h
      obtain ⟨handler, hm, hcrashed⟩ := exists_handler_of_available_crashed (h ▸ hfirst)
      exact ⟨handler, (List.mem_filter.mp hm).1, hcrashed⟩
    · split at h
      · next hrest => exact ih (hrest.trans h)
      · contradiction

/-- The breakdown of an advertisement is the one of a handler that is asked. -/
theorem exists_handler_of_rank_crashed {catalog : Catalog α} {rules : List (Rule α)}
    {message : Option String}
    (h : rank catalog rules gate agent = .crashed message) :
    ∃ handler ∈ catalog.toList, gate.isAvailable handler agent = .crashed message := by
  simp only [rank] at h
  split at h
  · next hgroups =>
    injection h with h
    exact exists_handler_of_groupsOf_crashed (h ▸ hgroups)
  · contradiction

theorem answers_iff {handler : Handler α} :
    Answers gate agent handler ↔
      ∀ message, gate.isAvailable handler agent ≠ .crashed message := by
  simp only [Answers, Gate.offers]
  cases gate.isAvailable handler agent with
  | crashed message => simp
  | finished isAvailable => cases isAvailable <;> simp

theorem answers_of_rank {catalog : Catalog α} {a : Advertisement}
    (h : rank catalog rules gate agent = .finished a) :
    ∀ handler ∈ catalog.toList, Answers gate agent handler := by
  intro handler hm
  rw [answers_iff]
  intro message hcrashed
  obtain ⟨_, hrank⟩ := rank_crashed rules hm hcrashed
  rw [hrank] at h
  contradiction

theorem exists_handler_of_rank {catalog : Catalog α} {a : Advertisement}
    (h : rank catalog rules gate agent = .finished a) {group : OfferGroup} (hg : group ∈ a.groups)
    {offer : Offer} (ho : offer ∈ group.offers) :
    ∃ handler, gate.isAvailable handler agent = .finished true ∧
      handler.definition.id = offer.id := by
  rw [rank_eq (answers_of_rank h)] at h
  injection h with h
  subst h
  obtain ⟨category, hgroup⟩ := mem_groups_ofAvailable.mp hg
  obtain ⟨-, left, hcovers⟩ := covers_groupOf? hgroup
  obtain ⟨handler, hm, rfl⟩ :=
    List.mem_map.mp (hcovers.perm.mem_iff.mp (List.mem_append_left left ho))
  exact ⟨handler, of_decide_eq_true (List.mem_filter.mp hm).2, rfl⟩

/-- An advertisement lists the best available handlers of each category and counts the others,
unless a handler breaks down when it is asked. -/
theorem rank_best (handlers : List (Handler α)) (rules : List (Rule α)) (gate : Gate) (agent : α) :
    match rank (ofList handlers) rules gate agent with
    | .finished a => IsBest handlers rules gate agent a
    | .crashed _ => ∃ handler message, Stands handlers handler ∧
        gate.isAvailable handler agent = .crashed message := by
  by_cases h : ∀ handler ∈ (ofList handlers).toList, Answers gate agent handler
  · rw [rank_eq h]
    exact isBest_of_answers h
  · simp only [Classical.not_forall] at h
    obtain ⟨handler, hm, hsilent⟩ := h
    cases hasked : gate.isAvailable handler agent with
    | finished isAvailable =>
      refine absurd ?_ hsilent
      cases isAvailable <;> simp [Answers, Gate.offers, hasked]
    | crashed message =>
      obtain ⟨_, hcrashed⟩ := rank_crashed rules hm hasked
      rw [hcrashed]
      exact ⟨handler, message, mem_toList_ofList.mp hm, hasked⟩

end ReplyActions.Advertisement
