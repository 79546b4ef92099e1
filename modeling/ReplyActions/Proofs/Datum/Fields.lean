import ReplyActions.Datum.Fields
import ReplyActions.Proofs.Datum.Plain
import ReplyActions.Proofs.SortedMap

/-!
# Reading what has been put into data

Every writer of a simple value is undone by its reader, and writes plain data. Lists, maps and
values that may be missing are as good as their parts.
-/

namespace ReplyActions
open Number

namespace Datum

variable {α : Type} {reader : Datum → Option α} {writer : α → Datum}

/-! ### Numbers -/

theorem toUnsigned?_ofUnsigned {max : Nat} (n : Unsigned max) :
    toUnsigned? (ofUnsigned n) = some n :=
  Unsigned.ofInt?_val n

theorem toSigned?_ofSigned {max : Nat} (i : Signed max) : toSigned? (ofSigned i) = some i :=
  Signed.ofInt?_val i

theorem isPlain_ofUnsigned {max : Nat} (n : Unsigned max) (h : max ≤ 18446744073709551615) :
    (ofUnsigned n).IsPlain := by
  have hle := n.val_le
  simp only [ofUnsigned, IsPlain, Json.isInteger64, Bool.and_eq_true, decide_eq_true_eq]
  omega

theorem isPlain_ofSigned {max : Nat} (i : Signed max) (h : max ≤ 9223372036854775807) :
    (ofSigned i).IsPlain := by
  have hlow := i.le_val
  have hhigh := i.val_le
  simp only [ofSigned, IsPlain, Json.isInteger64, Bool.and_eq_true, decide_eq_true_eq]
  omega

theorem isPlain_grade (grade : Grade) : (ofUnsigned grade).IsPlain :=
  isPlain_ofUnsigned grade (by decide)

theorem isPlain_amount (amount : Amount) : (ofUnsigned amount).IsPlain :=
  isPlain_ofUnsigned amount (by decide)

theorem isPlain_tick (tick : Tick) : (ofUnsigned tick).IsPlain :=
  isPlain_ofUnsigned tick (Nat.le_refl _)

theorem isPlain_points (points : Points) : (ofSigned points).IsPlain :=
  isPlain_ofSigned points (by decide)

/-! ### Values that may be missing -/

theorem nullable_ofOption (h : ∀ x, reader (writer x) = some x) (hnull : ∀ x, writer x ≠ .null)
    (o : Option α) : Fields.nullable reader (ofOption writer o) = some o := by
  cases o with
  | none => rfl
  | some x =>
    simp only [ofOption, Fields.nullable]
    split
    · next heq => exact absurd heq (hnull x)
    · rw [h, Option.map_some]

theorem isPlain_ofOption (h : ∀ x, (writer x).IsPlain) (o : Option α) :
    (ofOption writer o).IsPlain := by
  cases o with
  | none => exact trivial
  | some x => exact h x

/-! ### Lists and maps -/

theorem mapM_map {β : Type} {read : β → Option α} {write : α → β} (h : ∀ x, read (write x) = some x)
    (xs : List α) : (xs.map write).mapM read = some xs := by
  induction xs with
  | nil => rfl
  | cons first rest ih =>
    rw [List.map_cons, List.mapM_cons, h, ih]
    rfl

theorem toList?_map (h : ∀ x, reader (writer x) = some x) (xs : List α) :
    toList? reader (.list (xs.map writer)) = some xs :=
  mapM_map h xs

theorem isPlain_map (h : ∀ x, (writer x).IsPlain) (xs : List α) :
    IsPlain (.list (xs.map writer)) := by
  rw [isPlain_list, List.forall_mem_map]
  exact fun x _ => h x

theorem toMap?_ofMap (h : ∀ x, reader (writer x) = some x) (m : SortedMap String α) :
    toMap? reader (ofMap writer m) = some m := by
  have hentry : ∀ entry : String × α,
      (reader (writer entry.2)).map (fun value => (entry.1, value)) = some entry := by
    intro entry
    rw [h, Option.map_some]
  have hentries : toEntries? reader (ofMap writer m) = some m.entries := mapM_map hentry m.entries
  rw [toMap?, hentries, Option.map_some, SortedMap.ofList_entries]

theorem isPlain_ofMap (h : ∀ x, (writer x).IsPlain) (m : SortedMap String α) :
    (ofMap writer m).IsPlain := by
  rw [ofMap, isPlain_record, List.forall_mem_map]
  exact fun entry _ => h entry.2

end Datum

end ReplyActions
