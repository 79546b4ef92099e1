import Mathlib.Data.List.Basic
import Mathlib.Data.List.Induction
import ReplyActions.Catalog

/-!
# What a catalog finds

A catalog finds, under an identifier in whatever case, the handler that was registered under it
last. It lists what it finds, in the order in which the identifiers were registered first.
-/

namespace ReplyActions

theorem Registry.putEntry_of_notMem {α : Type} {name : String} (value : α)
    {entries : List (String × α)} (h : name ∉ entries.map (·.1)) :
    putEntry name value entries = entries ++ [(name, value)] := by
  induction entries with
  | nil => rfl
  | cons first rest ih =>
    rw [List.map_cons, List.mem_cons, not_or] at h
    rw [putEntry, if_neg (Ne.symm h.1), ih h.2, List.cons_append]

theorem Registry.lookup_eq_some_iff {α : Type} {name : String} {value : α}
    {entries : List (String × α)} (h : (entries.map (·.1)).Nodup) :
    lookup name entries = some value ↔ (name, value) ∈ entries := by
  induction entries with
  | nil => simp [lookup]
  | cons first rest ih =>
    obtain ⟨n, other⟩ := first
    rw [List.map_cons, List.nodup_cons] at h
    simp only [lookup, List.mem_cons, Prod.mk.injEq]
    split
    · next hn =>
      subst hn
      have hrest : (n, value) ∉ rest := fun hm => h.1 (List.mem_map.mpr ⟨_, hm, rfl⟩)
      simp only [Option.some.injEq, true_and, hrest, or_false, eq_comm]
    · next hn => simp only [ih h.2, Ne.symm hn, false_and, false_or]

theorem Registry.mem_putEntry {α : Type} {name : String} {value : α}
    {entries : List (String × α)} {entry : String × α} (h : entry ∈ putEntry name value entries) :
    entry = (name, value) ∨ entry ∈ entries := by
  induction entries with
  | nil => exact Or.inl (List.mem_singleton.mp h)
  | cons first rest ih =>
    obtain ⟨n, old⟩ := first
    simp only [putEntry] at h
    split at h
    · next hn =>
      rcases List.mem_cons.mp h with rfl | h
      · exact Or.inl (by rw [hn])
      · exact Or.inr (List.mem_cons_of_mem _ h)
    · rcases List.mem_cons.mp h with rfl | h
      · exact Or.inr List.mem_cons_self
      · exact (ih h).imp_right (List.mem_cons_of_mem _)

theorem Registry.filter_putEntry {α : Type} (p : String → Bool) (name : String) (value : α)
    (entries : List (String × α)) :
    (putEntry name value entries).filter (fun entry => p entry.1) =
      if p name then putEntry name value (entries.filter fun entry => p entry.1)
      else entries.filter fun entry => p entry.1 := by
  induction entries with
  | nil => cases hp : p name <;> simp [putEntry, hp]
  | cons first rest ih =>
    obtain ⟨n, old⟩ := first
    simp only [putEntry]
    split
    · next hn =>
      subst hn
      cases hp : p n <;> simp [putEntry, hp]
    · next hn =>
      simp only [List.filter_cons, ih]
      cases p n <;> cases p name <;> simp [putEntry, hn]

theorem Registry.map_putEntry {α : Type} (f : α → α) (name : String) (value : α)
    (entries : List (String × α)) :
    putEntry name (f value) (entries.map fun entry => (entry.1, f entry.2)) =
      (putEntry name value entries).map fun entry => (entry.1, f entry.2) := by
  induction entries with
  | nil => rfl
  | cons first rest ih =>
    obtain ⟨n, old⟩ := first
    simp only [List.map_cons, putEntry]
    split
    · rfl
    · rw [List.map_cons, ih]

namespace Catalog

variable {α : Type}

/-! ### What is found -/

theorem lookup_empty (id : String) : (empty : Catalog α).lookup id = none := rfl

theorem lookup_register (catalog : Catalog α) (handler : Handler α) (id : String) :
    (catalog.register handler).2.lookup id =
      if canonicalId handler.definition.id = canonicalId id then some handler
      else catalog.lookup id :=
  Registry.get?_put ..

theorem lookup_registered {handlers : List (Handler α)} {start : Catalog α} {id : String}
    {handler : Handler α}
    (h : (handlers.foldl (fun catalog handler => (catalog.register handler).2) start).lookup id =
      some handler) :
    start.lookup id = some handler ∨
      handler ∈ handlers ∧ canonicalId handler.definition.id = canonicalId id := by
  induction handlers generalizing start with
  | nil => exact Or.inl h
  | cons first rest ih =>
    rw [List.foldl_cons] at h
    rcases ih h with h | ⟨hm, hid⟩
    · rw [lookup_register] at h
      split at h
      · next hid =>
        injection h with h
        subst h
        exact Or.inr ⟨List.mem_cons_self, hid⟩
      · exact Or.inl h
    · exact Or.inr ⟨List.mem_cons_of_mem _ hm, hid⟩

theorem lookup_ofList {handlers : List (Handler α)} {id : String} {handler : Handler α}
    (h : (ofList handlers).lookup id = some handler) :
    handler ∈ handlers ∧ canonicalId handler.definition.id = canonicalId id := by
  rcases lookup_registered h with h | h
  · rw [lookup_empty] at h
    contradiction
  · exact h

/-! ### What is listed -/

def names (catalog : Catalog α) : List String := catalog.handlers.names

section

variable {catalog : Catalog α} {handler : Handler α}
  (h : canonicalId handler.definition.id ∉ catalog.names)
include h

theorem names_register :
    (catalog.register handler).2.names = catalog.names ++ [canonicalId handler.definition.id] := by
  simp only [names, Registry.names, register, Registry.put, Registry.names_putEntry]
  exact if_neg h

theorem toList_register : (catalog.register handler).2.toList = catalog.toList ++ [handler] := by
  simp only [toList, Registry.values, register, Registry.put, Registry.putEntry_of_notMem handler h,
    List.map_append, List.map_cons, List.map_nil]

end

theorem toList_registered {handlers : List (Handler α)} {start : Catalog α}
    (h : (start.names ++ handlers.map fun handler => canonicalId handler.definition.id).Nodup) :
    (handlers.foldl (fun catalog handler => (catalog.register handler).2) start).toList =
      start.toList ++ handlers := by
  induction handlers generalizing start with
  | nil => rw [List.foldl_nil, List.append_nil]
  | cons first rest ih =>
    rw [List.map_cons, List.append_cons] at h
    have hnew : canonicalId first.definition.id ∉ start.names := by
      intro hm
      have hdisjoint := (List.nodup_append.mp (List.nodup_append.mp h).1).2.2
      exact hdisjoint _ hm _ (List.mem_singleton_self _) rfl
    rw [← names_register hnew] at h
    rw [List.foldl_cons, ih h, toList_register hnew, ← List.append_cons]

theorem toList_ofList {handlers : List (Handler α)}
    (h : (handlers.map fun handler => canonicalId handler.definition.id).Nodup) :
    (ofList handlers).toList = handlers :=
  toList_registered h

/-! ### What stands -/

/-- The handler is registered, and none under the same identifier comes after it. -/
def Stands (handlers : List (Handler α)) (handler : Handler α) : Prop :=
  ∃ front back, handlers = front ++ handler :: back ∧
    ∀ later ∈ back, canonicalId later.definition.id ≠ canonicalId handler.definition.id

theorem ofList_concat (front : List (Handler α)) (last : Handler α) :
    ofList (front ++ [last]) = ((ofList front).register last).2 := by
  rw [ofList, List.foldl_append, List.foldl_cons, List.foldl_nil, ← ofList]

theorem stands_concat {front : List (Handler α)} {last handler : Handler α} :
    Stands (front ++ [last]) handler ↔
      handler = last ∨
        Stands front handler ∧
          canonicalId last.definition.id ≠ canonicalId handler.definition.id := by
  constructor
  · rintro ⟨before, after, h, hlater⟩
    rcases List.eq_nil_or_concat after with rfl | ⟨more, final, rfl⟩
    · exact Or.inl (List.singleton_inj.mp (List.append_inj' h rfl).2).symm
    · rw [List.concat_eq_append] at h hlater
      rw [← List.cons_append, ← List.append_assoc] at h
      obtain ⟨hfront, hlast⟩ := List.append_inj' h rfl
      rw [List.singleton_inj] at hlast
      subst hlast
      exact Or.inr ⟨⟨before, more, hfront, fun later hm =>
        hlater later (List.mem_append_left _ hm)⟩,
        hlater last (List.mem_append_right _ (List.mem_singleton_self last))⟩
  · rintro (rfl | ⟨⟨before, after, rfl, hlater⟩, hlast⟩)
    · exact ⟨front, [], rfl, fun _ hm => absurd hm List.not_mem_nil⟩
    · refine ⟨before, after ++ [last], by simp, fun later hm => ?_⟩
      rcases List.mem_append.mp hm with hm | hm
      · exact hlater later hm
      · exact List.mem_singleton.mp hm ▸ hlast

theorem lookup_ofList_eq_some_iff {handlers : List (Handler α)} {id : String}
    {handler : Handler α} :
    (ofList handlers).lookup id = some handler ↔
      Stands handlers handler ∧ canonicalId handler.definition.id = canonicalId id := by
  induction handlers using List.reverseRecOn with
  | nil =>
    have hnone : ¬ Stands [] handler := by
      rintro ⟨before, after, h, -⟩
      exact List.append_ne_nil_of_right_ne_nil before (List.cons_ne_nil _ _) h.symm
    have hempty : (ofList []).lookup id = (none : Option (Handler α)) := rfl
    simp only [hempty, hnone, reduceCtorEq, false_and]
  | append_singleton front last ih =>
    rw [ofList_concat, lookup_register, stands_concat]
    split
    · next hid =>
      rw [Option.some.injEq]
      constructor
      · rintro rfl
        exact ⟨Or.inl rfl, hid⟩
      · rintro ⟨rfl | ⟨-, hne⟩, hsame⟩
        · rfl
        · exact absurd (hid.trans hsame.symm) hne
    · next hid =>
      rw [ih]
      constructor
      · rintro ⟨hstands, hsame⟩
        exact ⟨Or.inr ⟨hstands, fun he => hid (he.trans hsame)⟩, hsame⟩
      · rintro ⟨rfl | ⟨hstands, -⟩, hsame⟩
        · exact absurd hsame hid
        · exact ⟨hstands, hsame⟩

theorem Stands.unique {handlers : List (Handler α)} {a b : Handler α} (ha : Stands handlers a)
    (hb : Stands handlers b) (h : canonicalId a.definition.id = canonicalId b.definition.id) :
    a = b := by
  have hfound := lookup_ofList_eq_some_iff.mpr ⟨ha, h⟩
  rw [lookup_ofList_eq_some_iff.mpr ⟨hb, rfl⟩] at hfound
  exact (Option.some.inj hfound).symm

theorem keyed_ofList (handlers : List (Handler α)) :
    ∀ entry ∈ (ofList handlers).handlers.entries,
      entry.1 = canonicalId entry.2.definition.id := by
  induction handlers using List.reverseRecOn with
  | nil => exact fun entry hm => absurd hm List.not_mem_nil
  | append_singleton front last ih =>
    rw [ofList_concat]
    intro entry hm
    rcases Registry.mem_putEntry hm with rfl | hm
    · rfl
    · exact ih entry hm

theorem names_ofList (handlers : List (Handler α)) :
    (ofList handlers).names =
      (ofList handlers).toList.map fun handler => canonicalId handler.definition.id := by
  rw [names, Registry.names, toList, Registry.values, List.map_map]
  exact List.map_congr_left (keyed_ofList handlers)

theorem mem_toList_ofList {handlers : List (Handler α)} {handler : Handler α} :
    handler ∈ (ofList handlers).toList ↔ Stands handlers handler := by
  have hfound : Stands handlers handler ↔
      (canonicalId handler.definition.id, handler) ∈ (ofList handlers).handlers.entries := by
    rw [← Registry.lookup_eq_some_iff (ofList handlers).handlers.nodup]
    exact ⟨fun h => lookup_ofList_eq_some_iff.mpr ⟨h, rfl⟩,
      fun h => (lookup_ofList_eq_some_iff.mp h).1⟩
  rw [hfound]
  constructor
  · intro h
    obtain ⟨⟨name, value⟩, hm, rfl⟩ := List.mem_map.mp h
    have hname := keyed_ofList handlers _ hm
    simp only at hname
    rwa [← hname]
  · exact fun h => List.mem_map.mpr ⟨_, h, rfl⟩

/-! ### Parts and variants of a catalog -/

theorem entries_ofList_filter (p : String → Bool) (handlers : List (Handler α)) :
    (ofList (handlers.filter fun handler =>
        p (canonicalId handler.definition.id))).handlers.entries =
      (ofList handlers).handlers.entries.filter fun entry => p entry.1 := by
  induction handlers using List.reverseRecOn with
  | nil => rfl
  | append_singleton front last ih =>
    rw [ofList_concat, List.filter_append, List.filter_cons, List.filter_nil]
    simp only [register, Registry.put, Registry.filter_putEntry, ← ih]
    split
    · rw [ofList_concat]
      rfl
    · rw [List.append_nil]

/-- Leaving some identifiers out leaves their handlers out, and the others in order. -/
theorem toList_ofList_filter (p : String → Bool) (handlers : List (Handler α)) :
    (ofList (handlers.filter fun handler => p (canonicalId handler.definition.id))).toList =
      (ofList handlers).toList.filter fun handler => p (canonicalId handler.definition.id) := by
  simp only [toList, Registry.values, entries_ofList_filter, List.filter_map]
  refine congrArg _ (List.filter_congr fun entry hm => ?_)
  rw [keyed_ofList handlers entry hm]
  rfl

theorem toList_ofList_map {f : Handler α → Handler α}
    (h : ∀ handler, (f handler).definition = handler.definition) (handlers : List (Handler α)) :
    (ofList (handlers.map f)).toList = (ofList handlers).toList.map f := by
  have hentries : (ofList (handlers.map f)).handlers.entries =
      (ofList handlers).handlers.entries.map fun entry => (entry.1, f entry.2) := by
    induction handlers using List.reverseRecOn with
    | nil => rfl
    | append_singleton front last ih =>
      rw [List.map_append, List.map_cons, List.map_nil, ofList_concat, ofList_concat]
      simp only [register, Registry.put, h, ih, Registry.map_putEntry]
  simp only [toList, Registry.values, hentries, List.map_map]
  rfl

/-! ### In which order -/

/-- The place of a directive: how many handlers had been registered when the first one came under
its identifier. -/
def place (handlers : List (Handler α)) (handler : Handler α) : Nat :=
  (handlers.map fun h => canonicalId h.definition.id).idxOf (canonicalId handler.definition.id)

theorem pairwise_names_ofList (handlers : List (Handler α)) :
    let ids := handlers.map fun h => canonicalId h.definition.id
    (∀ name, name ∈ (ofList handlers).names ↔ name ∈ ids) ∧
      (ofList handlers).names.Pairwise fun a b => ids.idxOf a < ids.idxOf b := by
  induction handlers using List.reverseRecOn with
  | nil => exact ⟨fun name => Iff.rfl, List.Pairwise.nil⟩
  | append_singleton front last ih =>
    obtain ⟨hmem, hsorted⟩ := ih
    have hnames : ((ofList front).register last).2.names =
        if canonicalId last.definition.id ∈ (ofList front).names then (ofList front).names
        else (ofList front).names ++ [canonicalId last.definition.id] :=
      Registry.names_putEntry ..
    intro ids
    have hids : ids = front.map (fun h => canonicalId h.definition.id) ++
        [canonicalId last.definition.id] := by
      simp only [ids, List.map_append, List.map_cons, List.map_nil]
    -- names that were known before keep their places
    have hkept : (ofList front).names.Pairwise fun a b => ids.idxOf a < ids.idxOf b := by
      refine hsorted.imp_of_mem fun {a b} ha hb hlt => ?_
      rw [hids, List.idxOf_append_of_mem ((hmem a).mp ha),
        List.idxOf_append_of_mem ((hmem b).mp hb)]
      exact hlt
    rw [ofList_concat, hnames]
    split
    · next hknown =>
      refine ⟨fun name => ?_, hkept⟩
      rw [hids, List.mem_append, List.mem_singleton, hmem]
      exact ⟨Or.inl, fun h => h.elim id fun he => he ▸ (hmem _).mp hknown⟩
    · next hnew =>
      refine ⟨fun name => ?_, ?_⟩
      · rw [hids, List.mem_append, List.mem_append, hmem]
      · rw [List.pairwise_append]
        refine ⟨hkept, List.pairwise_singleton .., fun a ha b hb => ?_⟩
        rw [List.mem_singleton.mp hb, hids, List.idxOf_append_of_mem ((hmem a).mp ha),
          List.idxOf_append_of_notMem fun hm => hnew ((hmem _).mpr hm)]
        exact Nat.lt_add_right _ (List.idxOf_lt_length_of_mem ((hmem a).mp ha))

/-- Handlers are listed by the places of their directives, however late they were registered. -/
theorem pairwise_place_ofList (handlers : List (Handler α)) :
    (ofList handlers).toList.Pairwise fun a b => place handlers a < place handlers b := by
  have hsorted := (pairwise_names_ofList handlers).2
  rw [names_ofList, List.pairwise_map] at hsorted
  exact hsorted

end Catalog

end ReplyActions
