/-!
# Sorted maps

Finite maps as lists of entries in ascending order of their keys. The order is part of the type,
so two maps with the same entries are the same value, and a map is written out as it stands.
-/

namespace ReplyActions

/-- A finite map, its entries in ascending order of the keys. -/
structure SortedMap (κ ν : Type) [Ord κ] where
  entries : List (κ × ν)
  ascending : entries.Pairwise fun a b => compare a.1 b.1 = .lt
deriving DecidableEq

namespace SortedMap

variable {κ ν : Type} [Ord κ]

def empty : SortedMap κ ν := ⟨[], List.Pairwise.nil⟩

instance : Inhabited (SortedMap κ ν) := ⟨empty⟩

def isEmpty (m : SortedMap κ ν) : Bool := m.entries.isEmpty

def size (m : SortedMap κ ν) : Nat := m.entries.length

def values (m : SortedMap κ ν) : List ν := m.entries.map (·.2)

def lookup [DecidableEq κ] (key : κ) : List (κ × ν) → Option ν
  | [] => none
  | (k, v) :: rest => if k = key then some v else lookup key rest

def get? [DecidableEq κ] (m : SortedMap κ ν) (key : κ) : Option ν := lookup key m.entries

def contains [DecidableEq κ] (m : SortedMap κ ν) (key : κ) : Bool := (m.get? key).isSome

/-- The entries with one more, which takes the place of an entry with the same key. -/
def insertEntry (key : κ) (value : ν) : List (κ × ν) → List (κ × ν)
  | [] => [(key, value)]
  | (k, v) :: rest =>
    match compare key k with
    | .lt => (key, value) :: (k, v) :: rest
    | .eq => (key, value) :: rest
    | .gt => (k, v) :: insertEntry key value rest

theorem mem_insertEntry {key : κ} {value : ν} {entry : κ × ν} {entries : List (κ × ν)}
    (h : entry ∈ insertEntry key value entries) : entry = (key, value) ∨ entry ∈ entries := by
  induction entries with
  | nil => simpa [insertEntry] using h
  | cons first rest ih =>
    obtain ⟨k, v⟩ := first
    simp only [insertEntry] at h
    split at h
    · simpa using h
    · rcases List.mem_cons.mp h with h | h
      · exact Or.inl h
      · exact Or.inr (List.mem_cons_of_mem _ h)
    · rcases List.mem_cons.mp h with h | h
      · exact Or.inr (h ▸ List.mem_cons_self)
      · rcases ih h with h | h
        · exact Or.inl h
        · exact Or.inr (List.mem_cons_of_mem _ h)

theorem ascending_insertEntry [Std.TransOrd κ] [Std.LawfulEqOrd κ] (key : κ) (value : ν)
    {entries : List (κ × ν)} (h : entries.Pairwise fun a b => compare a.1 b.1 = .lt) :
    (insertEntry key value entries).Pairwise fun a b => compare a.1 b.1 = .lt := by
  induction entries with
  | nil => simp [insertEntry]
  | cons first rest ih =>
    obtain ⟨k, v⟩ := first
    have hfirst : ∀ a ∈ rest, compare k a.1 = .lt := fun a ha => List.rel_of_pairwise_cons h ha
    have hrest := h.of_cons
    simp only [insertEntry]
    split
    · next hlt =>
      refine h.cons fun a ha => ?_
      rcases List.mem_cons.mp ha with ha | ha
      · subst ha
        exact hlt
      · exact Std.TransCmp.lt_trans hlt (hfirst _ ha)
    · next heq =>
      have hk : key = k := Std.LawfulEqOrd.eq_of_compare heq
      subst hk
      exact hrest.cons hfirst
    · next hgt =>
      refine (ih hrest).cons fun a ha => ?_
      rcases mem_insertEntry ha with ha | ha
      · subst ha
        exact Std.OrientedCmp.gt_iff_lt.mp hgt
      · exact hfirst _ ha

def insert [Std.TransOrd κ] [Std.LawfulEqOrd κ] (m : SortedMap κ ν) (key : κ) (value : ν) :
    SortedMap κ ν :=
  ⟨insertEntry key value m.entries, ascending_insertEntry key value m.ascending⟩

def filter (m : SortedMap κ ν) (p : κ → ν → Bool) : SortedMap κ ν :=
  ⟨m.entries.filter fun entry => p entry.1 entry.2, m.ascending.filter _⟩

def erase [DecidableEq κ] (m : SortedMap κ ν) (key : κ) : SortedMap κ ν :=
  m.filter fun k _ => k ≠ key

/-- The map of a list of entries; of two entries with one key, the later counts. -/
def ofList [Std.TransOrd κ] [Std.LawfulEqOrd κ] (entries : List (κ × ν)) : SortedMap κ ν :=
  entries.foldl (fun m entry => m.insert entry.1 entry.2) empty

/-! ### What a map gives to a key -/

theorem lookup_insertEntry [DecidableEq κ] [Std.LawfulEqOrd κ] (key other : κ) (value : ν)
    (entries : List (κ × ν)) :
    lookup other (insertEntry key value entries) =
      if key = other then some value else lookup other entries := by
  induction entries with
  | nil => simp [insertEntry, lookup]
  | cons first rest ih =>
    obtain ⟨k, v⟩ := first
    simp only [insertEntry]
    split
    · simp [lookup]
    · next heq =>
      have hk : key = k := Std.LawfulEqOrd.eq_of_compare heq
      subst hk
      by_cases h : key = other <;> simp [lookup, h]
    · next hgt =>
      have hne : key ≠ k := by
        rintro rfl
        rw [Std.ReflOrd.compare_self] at hgt
        contradiction
      by_cases h : key = other
      · subst h
        simp [lookup, ih, hne.symm]
      · by_cases hk : k = other <;> simp [lookup, h, hk, ih]

@[simp] theorem get?_empty [DecidableEq κ] (key : κ) :
    (empty : SortedMap κ ν).get? key = none := rfl

theorem get?_insert [DecidableEq κ] [Std.TransOrd κ] [Std.LawfulEqOrd κ] (m : SortedMap κ ν)
    (key other : κ) (value : ν) :
    (m.insert key value).get? other = if key = other then some value else m.get? other :=
  lookup_insertEntry key other value m.entries

end SortedMap

end ReplyActions
