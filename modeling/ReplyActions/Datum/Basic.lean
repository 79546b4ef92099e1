/-!
# Data

The values that a document of settings or of saved state consists of, whatever format it is
written in.
-/

namespace ReplyActions

inductive Datum where
  | null
  | bool (value : Bool)
  /-- An integer of at most 64 bits. -/
  | int (value : Int)
  /-- Any other number, as it is spelled. -/
  | real (spelling : String)
  | text (value : String)
  /-- A value that is well formed and that nobody can read: it holds half of a surrogate pair. -/
  | unreadable
  | list (items : List Datum)
  | record (fields : List (String × Datum))

namespace Datum

instance : Inhabited Datum := ⟨null⟩

mutual

def same : Datum → Datum → Bool
  | null, null => true
  | bool a, bool b => a == b
  | int a, int b => a == b
  | real a, real b => a == b
  | text a, text b => a == b
  | unreadable, unreadable => true
  | list a, list b => sameItems a b
  | record a, record b => sameFields a b
  | _, _ => false

def sameItems : List Datum → List Datum → Bool
  | [], [] => true
  | a :: as, b :: bs => same a b && sameItems as bs
  | _, _ => false

def sameFields : List (String × Datum) → List (String × Datum) → Bool
  | [], [] => true
  | (j, a) :: as, (k, b) :: bs => j == k && same a b && sameFields as bs
  | _, _ => false

end

mutual

theorem eq_of_same (a b : Datum) (h : same a b = true) : a = b := by
  cases a <;> cases b <;> simp [same] at h <;> try first | rfl | (subst h; rfl)
  · rw [eq_of_sameItems _ _ h]
  · rw [eq_of_sameFields _ _ h]

theorem eq_of_sameItems (a b : List Datum) (h : sameItems a b = true) : a = b := by
  match a, b with
  | [], [] => rfl
  | a :: as, b :: bs =>
    simp only [sameItems, Bool.and_eq_true] at h
    rw [eq_of_same a b h.1, eq_of_sameItems as bs h.2]
  | [], _ :: _ => simp [sameItems] at h
  | _ :: _, [] => simp [sameItems] at h

theorem eq_of_sameFields (a b : List (String × Datum)) (h : sameFields a b = true) : a = b := by
  match a, b with
  | [], [] => rfl
  | (j, a) :: as, (k, b) :: bs =>
    simp only [sameFields, Bool.and_eq_true, beq_iff_eq] at h
    rw [h.1.1, eq_of_same a b h.1.2, eq_of_sameFields as bs h.2]
  | [], _ :: _ => simp [sameFields] at h
  | _ :: _, [] => simp [sameFields] at h

end

mutual

theorem same_self (a : Datum) : same a a = true := by
  match a with
  | null | bool _ | int _ | real _ | text _ | unreadable => simp [same]
  | list items => simpa [same] using sameItems_self items
  | record fields => simpa [same] using sameFields_self fields

theorem sameItems_self (a : List Datum) : sameItems a a = true := by
  match a with
  | [] => rfl
  | a :: as => simp [sameItems, same_self a, sameItems_self as]

theorem sameFields_self (a : List (String × Datum)) : sameFields a a = true := by
  match a with
  | [] => rfl
  | (k, a) :: as => simp [sameFields, same_self a, sameFields_self as]

end

instance : DecidableEq Datum := fun a b =>
  decidable_of_iff (same a b = true) ⟨eq_of_same a b, fun h => h ▸ same_self a⟩

/-- The value of a field, the last one if there are several. -/
def field? (name : String) : Datum → Option Datum
  | record fields => (fields.reverse.find? fun f => f.1 = name).map (·.2)
  | _ => none

end Datum

end ReplyActions
