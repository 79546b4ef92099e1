/-!
# Registries

Named values in the order in which their names were first put in. A value that is put in under a
known name takes the place of the earlier one.
-/

namespace ReplyActions

structure Registry (α : Type) where
  entries : List (String × α)
  nodup : (entries.map (·.1)).Nodup

namespace Registry

variable {α : Type}

def empty : Registry α := ⟨[], List.nodup_nil⟩

instance : Inhabited (Registry α) := ⟨empty⟩

def names (r : Registry α) : List String := r.entries.map (·.1)

def values (r : Registry α) : List α := r.entries.map (·.2)

def size (r : Registry α) : Nat := r.entries.length

def lookup (name : String) : List (String × α) → Option α
  | [] => none
  | (n, value) :: rest => if n = name then some value else lookup name rest

def get? (r : Registry α) (name : String) : Option α := lookup name r.entries

def putEntry (name : String) (value : α) : List (String × α) → List (String × α)
  | [] => [(name, value)]
  | (n, old) :: rest =>
    if n = name then (n, value) :: rest else (n, old) :: putEntry name value rest

theorem names_putEntry (name : String) (value : α) (entries : List (String × α)) :
    (putEntry name value entries).map (·.1) =
      if name ∈ entries.map (·.1) then entries.map (·.1) else entries.map (·.1) ++ [name] := by
  induction entries with
  | nil => simp [putEntry]
  | cons first rest ih =>
    obtain ⟨n, old⟩ := first
    by_cases h : n = name
    · simp [putEntry, h]
    · by_cases hm : name ∈ rest.map (·.1)
      · rw [if_pos hm] at ih
        simp only [putEntry, if_neg h, List.map_cons, ih, List.mem_cons, hm, or_true, if_true]
      · rw [if_neg hm] at ih
        simp only [putEntry, if_neg h, List.map_cons, ih, List.mem_cons, hm, Ne.symm h, or_self,
          if_false, List.cons_append]

theorem nodup_putEntry (name : String) (value : α) {entries : List (String × α)}
    (h : (entries.map (·.1)).Nodup) : ((putEntry name value entries).map (·.1)).Nodup := by
  rw [names_putEntry]
  split
  · exact h
  · next hm =>
    rw [List.nodup_append]
    refine ⟨h, List.nodup_cons.mpr ⟨List.not_mem_nil, List.nodup_nil⟩, ?_⟩
    intro a ha b hb
    rw [List.mem_singleton] at hb
    subst hb
    rintro rfl
    exact hm ha

/-- Puts a value in under a name. A known name keeps its place, a new one comes last. -/
def put (r : Registry α) (name : String) (value : α) : Registry α :=
  ⟨putEntry name value r.entries, nodup_putEntry name value r.nodup⟩

/-- The registry of a list of named values, put in from left to right. -/
def ofList (entries : List (String × α)) : Registry α :=
  entries.foldl (fun r entry => r.put entry.1 entry.2) empty

theorem lookup_putEntry (name other : String) (value : α) (entries : List (String × α)) :
    lookup other (putEntry name value entries) =
      if name = other then some value else lookup other entries := by
  induction entries with
  | nil => simp [putEntry, lookup]
  | cons first rest ih =>
    obtain ⟨n, old⟩ := first
    simp only [putEntry]
    by_cases h : n = name
    · subst h
      by_cases ho : n = other <;> simp [lookup, ho]
    · by_cases ho : n = other
      · subst ho
        simp [lookup, h, Ne.symm h]
      · simp [lookup, h, ho, ih]

theorem get?_put (r : Registry α) (name other : String) (value : α) :
    (r.put name value).get? other = if name = other then some value else r.get? other :=
  lookup_putEntry name other value r.entries

end Registry

end ReplyActions
