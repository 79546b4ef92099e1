import ReplyActions.Datum.Basic
import ReplyActions.Json.Reader

/-!
# Plain data

Data without anything that is only kept as it was spelled: the numbers are integers of 64 bits, and
every text can be read. Whatever is saved is plain.
-/

namespace ReplyActions.Datum

/-- Induction over a value: what holds of all items or of the values of all fields has to hold of
the whole. -/
@[elab_as_elim]
theorem ind {P : Datum → Prop} (null : P .null) (bool : ∀ b, P (.bool b)) (int : ∀ i, P (.int i))
    (real : ∀ spelling, P (.real spelling)) (text : ∀ s, P (.text s)) (unreadable : P .unreadable)
    (list : ∀ items, (∀ item ∈ items, P item) → P (.list items))
    (record : ∀ fields, (∀ field ∈ fields, P field.2) → P (.record fields)) (value : Datum) :
    P value :=
  Datum.rec null bool int real text unreadable list record (fun _ h => absurd h List.not_mem_nil)
    (fun _ _ hfirst hrest => List.forall_mem_cons.mpr ⟨hfirst, hrest⟩)
    (fun _ h => absurd h List.not_mem_nil)
    (fun _ _ hfirst hrest => List.forall_mem_cons.mpr ⟨hfirst, hrest⟩) (fun _ _ h => h) value

mutual

def IsPlain : Datum → Prop
  | .int i => Json.isInteger64 i = true
  | .real _ => False
  | .unreadable => False
  | .list items => ArePlain items
  | .record fields => HavePlain fields
  | _ => True

def ArePlain : List Datum → Prop
  | [] => True
  | first :: rest => IsPlain first ∧ ArePlain rest

def HavePlain : List (String × Datum) → Prop
  | [] => True
  | (_, value) :: rest => IsPlain value ∧ HavePlain rest

end

@[simp] theorem isPlain_list {items : List Datum} :
    IsPlain (.list items) ↔ ∀ item ∈ items, IsPlain item := by
  rw [IsPlain]
  induction items with
  | nil => simp [ArePlain]
  | cons first rest ih => rw [ArePlain, ih, List.forall_mem_cons]

@[simp] theorem isPlain_record {fields : List (String × Datum)} :
    IsPlain (.record fields) ↔ ∀ field ∈ fields, IsPlain field.2 := by
  rw [IsPlain]
  induction fields with
  | nil => simp [HavePlain]
  | cons first rest ih => rw [HavePlain, ih, List.forall_mem_cons]

end ReplyActions.Datum
