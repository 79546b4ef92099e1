import Mathlib.Data.List.Nodup
import ReplyActions.Proofs.Catalog
import ReplyActions.Proofs.Text.Canonical

/-!
# Registering handlers

Of the handlers that are registered under one identifier, in whatever spelling, a catalog keeps the
last one in the place of the first. Each call gives back the handler whose place the new one took.
By category every handler is listed once, in the order of the catalog.
-/

namespace ReplyActions

namespace Registry

variable {α : Type}

/-- A value that is put in takes the place of the one that had its name, or comes last. -/
theorem putEntry_cases (name : String) (value : α) (entries : List (String × α)) :
    (lookup name entries = none ∧ putEntry name value entries = entries ++ [(name, value)]) ∨
      ∃ front old back, lookup name entries = some old ∧ entries = front ++ (name, old) :: back ∧
        putEntry name value entries = front ++ (name, value) :: back := by
  induction entries with
  | nil => exact Or.inl ⟨rfl, rfl⟩
  | cons first rest ih =>
    obtain ⟨n, old⟩ := first
    simp only [lookup, putEntry]
    by_cases h : n = name
    · subst h
      exact Or.inr ⟨[], old, rest, if_pos rfl, rfl, if_pos rfl⟩
    · rw [if_neg h, if_neg h]
      rcases ih with ⟨hnone, hput⟩ | ⟨front, other, back, hfound, hrest, hput⟩
      · exact Or.inl ⟨hnone, by rw [hput, List.cons_append]⟩
      · exact Or.inr ⟨(n, old) :: front, other, back, hfound, by rw [hrest, List.cons_append],
          by rw [hput, List.cons_append]⟩

/-- The values are what is found under the names, in order. -/
theorem map_some_values (r : Registry α) : r.values.map some = r.names.map r.get? := by
  rw [values, names, List.map_map, List.map_map]
  refine List.map_congr_left fun entry hm => ?_
  exact ((lookup_eq_some_iff r.nodup).mpr hm).symm

end Registry

namespace Catalog

variable {α : Type}

/-- The identifiers of handlers, in canonical form. -/
def identifiers (handlers : List (Handler α)) : List String :=
  handlers.map fun handler => canonicalId handler.definition.id

/-- Every identifier once, in the order in which they first came. -/
def slots (handlers : List (Handler α)) : List String := (identifiers handlers).eraseDups

/-- The handler that came last among those with an identifier. -/
def latest? (handlers : List (Handler α)) (id : String) : Option (Handler α) :=
  (handlers.filter fun handler => canonicalId handler.definition.id = canonicalId id).getLast?

/-- Handlers registered one after the other: what the calls give back, and the catalog
afterwards. -/
def registerAll (catalog : Catalog α) : List (Handler α) → List (Option (Handler α)) × Catalog α
  | [] => ([], catalog)
  | first :: rest =>
    let (replaced, next) := catalog.register first
    let (others, last) := registerAll next rest
    (replaced :: others, last)

/-- A new handler takes the place of the one that is displaced, or comes last if there is none. -/
def TakesPlace (handler : Handler α) (before after : List (Handler α)) :
    Option (Handler α) → Prop
  | some old => ∃ front back, before = front ++ old :: back ∧ after = front ++ handler :: back
  | none => after = before ++ [handler]

/-- What there is to say of a catalog in which handlers were registered one by one, and of what the
calls gave back. -/
structure KeepsLatest (handlers : List (Handler α)) (returned : List (Option (Handler α)))
    (catalog : Catalog α) : Prop where
  finds : ∀ id, catalog.lookup id = latest? handlers id
  lists : catalog.toList.map some = (slots handlers).map (latest? handlers)
  counts : catalog.size = (slots handlers).length
  answers : returned.length = handlers.length
  displaces : ∀ front handler back, handlers = front ++ handler :: back →
    ∃ replaced, returned[front.length]? = some replaced ∧
      replaced = latest? front handler.definition.id ∧
      TakesPlace handler (ofList front).toList (ofList (front ++ [handler])).toList replaced
  once : catalog.toList.Nodup
  parts : (Category.all.flatMap catalog.inCategory).Perm catalog.toList
  inOrder : ∀ category, (catalog.inCategory category).Sublist catalog.toList ∧
    ∀ handler ∈ catalog.inCategory category, handler.definition.category = category

/-! ### One call -/

theorem takesPlace_register (catalog : Catalog α) (handler : Handler α) :
    TakesPlace handler catalog.toList (catalog.register handler).2.toList
      (catalog.register handler).1 := by
  simp only [register, lookup, Registry.get?, toList, Registry.values, Registry.put]
  rcases Registry.putEntry_cases (canonicalId handler.definition.id) handler
    catalog.handlers.entries with ⟨hnone, hput⟩ | ⟨front, old, back, hfound, hentries, hput⟩
  · rw [hnone, hput, List.map_append]
    rfl
  · rw [hfound, hput]
    refine ⟨front.map (·.2), back.map (·.2), ?_, by rw [List.map_append, List.map_cons]⟩
    rw [hentries, List.map_append, List.map_cons]

/-! ### All calls -/

theorem registerAll_catalog (start : Catalog α) (handlers : List (Handler α)) :
    (start.registerAll handlers).2 =
      handlers.foldl (fun catalog handler => (catalog.register handler).2) start := by
  induction handlers generalizing start with
  | nil => rfl
  | cons first rest ih => exact ih _

theorem length_registerAll (start : Catalog α) (handlers : List (Handler α)) :
    (start.registerAll handlers).1.length = handlers.length := by
  induction handlers generalizing start with
  | nil => rfl
  | cons first rest ih => exact congrArg (· + 1) (ih _)

/-- A call gives back what it would if the later ones were not made. -/
theorem registerAll_getElem? (start : Catalog α) (front : List (Handler α)) (handler : Handler α)
    (back : List (Handler α)) :
    (start.registerAll (front ++ handler :: back)).1[front.length]? =
      some ((start.registerAll front).2.register handler).1 := by
  induction front generalizing start with
  | nil => rfl
  | cons first rest ih => exact ih _

theorem latest?_concat (front : List (Handler α)) (last : Handler α) (id : String) :
    latest? (front ++ [last]) id =
      if canonicalId last.definition.id = canonicalId id then some last else latest? front id := by
  rw [latest?, List.filter_append]
  split
  · next h =>
    rw [List.filter_cons_of_pos (by simpa using h), List.filter_nil, List.getLast?_concat]
  · next h =>
    rw [List.filter_cons_of_neg (by simpa using h), List.filter_nil, List.append_nil, latest?]

theorem lookup_ofList_eq_latest? (handlers : List (Handler α)) (id : String) :
    (ofList handlers).lookup id = latest? handlers id := by
  induction handlers using List.reverseRecOn with
  | nil => rfl
  | append_singleton front last ih => rw [ofList_concat, lookup_register, latest?_concat, ih]

theorem slots_concat (front : List (Handler α)) (last : Handler α) :
    slots (front ++ [last]) =
      if canonicalId last.definition.id ∈ slots front then slots front
      else slots front ++ [canonicalId last.definition.id] := by
  have hids : identifiers (front ++ [last]) =
      identifiers front ++ [canonicalId last.definition.id] := List.map_append
  rw [slots, hids, List.eraseDups_append, ← slots]
  by_cases h : canonicalId last.definition.id ∈ identifiers front
  · have hold : canonicalId last.definition.id ∈ slots front := List.mem_eraseDups.mpr h
    simp [List.removeAll, h, hold]
  · have hnew : canonicalId last.definition.id ∉ slots front := fun hm =>
      h (List.mem_eraseDups.mp hm)
    simp [List.removeAll, h, hnew, List.eraseDups_cons]

theorem names_ofList_eq_slots (handlers : List (Handler α)) :
    (ofList handlers).names = slots handlers := by
  induction handlers using List.reverseRecOn with
  | nil => rfl
  | append_singleton front last ih =>
    rw [ofList_concat, slots_concat, ← ih]
    exact Registry.names_putEntry ..

theorem canonicalId_of_mem_slots {handlers : List (Handler α)} {name : String}
    (h : name ∈ slots handlers) : canonicalId name = name := by
  obtain ⟨handler, -, rfl⟩ := List.mem_map.mp (List.mem_eraseDups.mp h)
  exact canonicalId_canonicalId _

/-- One handler is listed for every identifier: the one that came last, in the place of the
first. -/
theorem map_some_toList_ofList (handlers : List (Handler α)) :
    (ofList handlers).toList.map some = (slots handlers).map (latest? handlers) := by
  rw [toList, Registry.map_some_values]
  change (ofList handlers).names.map _ = _
  rw [names_ofList_eq_slots]
  refine List.map_congr_left fun name hm => ?_
  rw [← lookup_ofList_eq_latest?, lookup, canonicalId_of_mem_slots hm]

theorem size_ofList (handlers : List (Handler α)) :
    (ofList handlers).size = (slots handlers).length := by
  rw [← names_ofList_eq_slots, names, Registry.names, List.length_map, size, Registry.size]

theorem nodup_toList_ofList (handlers : List (Handler α)) : (ofList handlers).toList.Nodup := by
  have hnames : (ofList handlers).names.Nodup := (ofList handlers).handlers.nodup
  rw [names_ofList] at hnames
  exact hnames.of_map

/-! ### By category -/

/-- Handlers that are told apart are listed once by category. -/
theorem perm_inCategory {catalog : Catalog α} (h : catalog.toList.Nodup) :
    (Category.all.flatMap catalog.inCategory).Perm catalog.toList := by
  have hparts : (Category.all.flatMap catalog.inCategory).Nodup := by
    rw [List.nodup_flatMap]
    refine ⟨fun category _ => h.filter _, Category.nodup_all.imp fun {one other} hne => ?_⟩
    intro handler hone hother
    have hcategory := of_decide_eq_true (List.mem_filter.mp hone).2
    exact hne (hcategory.symm.trans (of_decide_eq_true (List.mem_filter.mp hother).2))
  rw [List.perm_ext_iff_of_nodup hparts h]
  intro handler
  rw [List.mem_flatMap]
  constructor
  · rintro ⟨category, -, hm⟩
    exact (List.mem_filter.mp hm).1
  · intro hm
    exact ⟨handler.definition.category, Category.mem_all _,
      List.mem_filter.mpr ⟨hm, decide_eq_true rfl⟩⟩

/-- Whatever is registered, in whatever spelling and order: a catalog finds the handler that came
last under an identifier, lists one for each identifier in the order in which these first came,
counts them, gives back the handler that is displaced, and falls into the parts of its
categories. -/
theorem registerAll_keepsLatest (handlers : List (Handler α)) :
    KeepsLatest handlers (empty.registerAll handlers).1 (empty.registerAll handlers).2 := by
  have hcatalog (handlers : List (Handler α)) : (empty.registerAll handlers).2 = ofList handlers :=
    registerAll_catalog empty handlers
  rw [hcatalog]
  exact {
    finds := lookup_ofList_eq_latest? handlers
    lists := map_some_toList_ofList handlers
    counts := size_ofList handlers
    answers := length_registerAll empty handlers
    displaces := by
      rintro front handler back rfl
      refine ⟨_, registerAll_getElem? empty front handler back, ?_, ?_⟩
      · rw [hcatalog]
        exact lookup_ofList_eq_latest? front handler.definition.id
      · rw [hcatalog, ofList_concat]
        exact takesPlace_register (ofList front) handler
    once := nodup_toList_ofList handlers
    parts := perm_inCategory (nodup_toList_ofList handlers)
    inOrder := fun category => ⟨List.filter_sublist, fun handler hm =>
      of_decide_eq_true (List.mem_filter.mp hm).2⟩ }

end Catalog

end ReplyActions
