import ReplyActions.SortedMap

/-!
# Sorted maps are determined by what they give

The keys of a sorted map are all different, so a look-up finds every entry, a filter decides about
each entry by itself, and two maps that give the same to every key are equal.
-/

namespace ReplyActions

/-- Lists in strict order are equal if they have the same members. -/
theorem eq_of_mem_iff_of_pairwise {β : Type} {r : β → β → Prop} (hr : ∀ x y, r x y → ¬ r y x)
    {xs ys : List β} (hx : xs.Pairwise r) (hy : ys.Pairwise r) (h : ∀ x, x ∈ xs ↔ x ∈ ys) :
    xs = ys := by
  have hnodup : ∀ zs : List β, zs.Pairwise r → zs.Nodup := by
    intro zs hz
    refine hz.imp fun {x y} hxy heq => ?_
    subst heq
    exact hr x x hxy hxy
  have hperm : xs.Perm ys := (List.perm_ext_iff_of_nodup (hnodup xs hx) (hnodup ys hy)).mpr h
  exact hperm.eq_of_pairwise (fun x y _ _ hxy hyx => absurd hyx (hr x y hxy)) hx hy

namespace SortedMap

variable {κ ν : Type} [Ord κ] [DecidableEq κ] [Std.TransOrd κ]

omit [DecidableEq κ] in
theorem key_ne_of_ascending {key : κ} {value : ν} {rest : List (κ × ν)}
    (h : ((key, value) :: rest).Pairwise fun a b => compare a.1 b.1 = .lt) :
    ∀ entry ∈ rest, entry.1 ≠ key := by
  intro entry he heq
  have hlt := List.rel_of_pairwise_cons h he
  rw [heq, Std.ReflOrd.compare_self] at hlt
  contradiction

theorem lookup_eq_some_iff {key : κ} {value : ν} {entries : List (κ × ν)}
    (h : entries.Pairwise fun a b => compare a.1 b.1 = .lt) :
    lookup key entries = some value ↔ (key, value) ∈ entries := by
  induction entries with
  | nil => simp [lookup]
  | cons first rest ih =>
    obtain ⟨k, v⟩ := first
    have hne := key_ne_of_ascending h
    by_cases hk : k = key
    · subst hk
      have hr : (k, value) ∉ rest := fun hm => hne _ hm rfl
      simp [lookup, hr, eq_comm]
    · have hp : (key, value) ≠ (k, v) := fun he => hk (congrArg Prod.fst he).symm
      simp [lookup, hk, ih h.of_cons, hp]

theorem get?_eq_some_iff (m : SortedMap κ ν) (key : κ) (value : ν) :
    m.get? key = some value ↔ (key, value) ∈ m.entries :=
  lookup_eq_some_iff m.ascending

theorem get?_filter (m : SortedMap κ ν) (p : κ → ν → Bool) (key : κ) :
    (m.filter p).get? key = (m.get? key).filter (p key) := by
  apply Option.ext
  intro value
  rw [get?_eq_some_iff, Option.filter_eq_some_iff, get?_eq_some_iff, filter, List.mem_filter]

theorem get?_erase (m : SortedMap κ ν) (key other : κ) :
    (m.erase key).get? other = if key = other then none else m.get? other := by
  rw [erase, get?_filter]
  cases m.get? other with
  | none => simp
  | some value =>
    by_cases h : key = other
    · simp [h, Option.filter_some]
    · simp [h, Ne.symm h, Option.filter_some]

theorem ext_get? [Std.LawfulEqOrd κ] {a b : SortedMap κ ν} (h : ∀ key, a.get? key = b.get? key) :
    a = b := by
  have hmem : ∀ entry, entry ∈ a.entries ↔ entry ∈ b.entries := by
    rintro ⟨key, value⟩
    rw [← get?_eq_some_iff, ← get?_eq_some_iff, h]
  have hasymm : ∀ x y : κ × ν, compare x.1 y.1 = .lt → ¬ compare y.1 x.1 = .lt :=
    fun x y hlt => Std.OrientedCmp.not_lt_of_lt hlt
  have heq : a.entries = b.entries :=
    eq_of_mem_iff_of_pairwise hasymm a.ascending b.ascending hmem
  cases a
  cases b
  simp only at heq
  subst heq
  rfl

theorem insert_of_get? [Std.LawfulEqOrd κ] {m : SortedMap κ ν} {key : κ} {value : ν}
    (h : m.get? key = some value) : m.insert key value = m := by
  apply ext_get?
  intro other
  rw [get?_insert]
  split
  · next heq => rw [← heq, h]
  · rfl

theorem get?_foldl_insert [Std.LawfulEqOrd κ] {entries : List (κ × ν)}
    (h : entries.Pairwise fun a b => compare a.1 b.1 = .lt) (m : SortedMap κ ν) (key : κ) :
    (entries.foldl (fun m entry => m.insert entry.1 entry.2) m).get? key =
      (lookup key entries).or (m.get? key) := by
  induction entries generalizing m with
  | nil => rfl
  | cons first rest ih =>
    obtain ⟨k, v⟩ := first
    rw [List.foldl_cons, ih h.of_cons, get?_insert]
    by_cases hk : k = key
    · subst hk
      -- the key does not come again, so nothing takes the place of this entry
      have hnone : lookup k rest = none := by
        rw [Option.eq_none_iff_forall_ne_some]
        intro value hvalue
        exact key_ne_of_ascending h _ ((lookup_eq_some_iff h.of_cons).mp hvalue) rfl
      simp only [lookup, hnone, if_true, Option.none_or, Option.some_or]
    · simp only [lookup, if_neg hk]

theorem ofList_entries [Std.LawfulEqOrd κ] (m : SortedMap κ ν) : ofList m.entries = m := by
  apply ext_get?
  intro key
  rw [ofList, get?_foldl_insert m.ascending, get?_empty, Option.or_none]
  rfl

/-! ### What holds of every value -/

section All

variable {κ ν : Type} [Ord κ] {m : SortedMap κ ν} {P : ν → Prop} {key : κ} {value : ν}

def All (m : SortedMap κ ν) (P : ν → Prop) : Prop := ∀ entry ∈ m.entries, P entry.2

instance [DecidablePred P] : Decidable (m.All P) :=
  inferInstanceAs (Decidable (∀ entry ∈ m.entries, P entry.2))

theorem All.get? [DecidableEq κ] [Std.TransOrd κ] (h : m.All P) (hv : m.get? key = some value) :
    P value :=
  h (key, value) ((get?_eq_some_iff m key value).mp hv)

theorem All.insert [Std.TransOrd κ] [Std.LawfulEqOrd κ] (h : m.All P) (hv : P value) :
    (m.insert key value).All P := by
  intro entry he
  rcases mem_insertEntry he with rfl | he
  · exact hv
  · exact h entry he

theorem All.erase [DecidableEq κ] (h : m.All P) : (m.erase key).All P :=
  fun entry he => h entry (List.mem_filter.mp he).1

end All

end SortedMap

end ReplyActions
