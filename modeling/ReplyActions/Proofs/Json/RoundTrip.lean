import ReplyActions.Json.Printer
import ReplyActions.Proofs.Json.Spelling

/-!
# Reading what has been written

Plain data, laid out over several lines, are spelled correctly, so they are read back as they were.
-/

namespace ReplyActions.Json
open Number

variable {c : Char} {level : Nat}

/-! ### Strings -/

theorem hexDigit?_hexDigit {n : Nat} (h : n < 16) : hexDigit? (hexDigit n) = some n := by
  have hall : ∀ digit : Fin 16, hexDigit? (hexDigit digit.val) = some digit.val := by decide
  exact hall ⟨n, h⟩

theorem spellsChar_control (h : c.toNat < 32) :
    SpellsChar c ['\\', 'u', '0', '0', hexDigit (c.toNat / 16), hexDigit (c.toNat % 16)] := by
  have hunit : ((0 * 16 + 0) * 16 + c.toNat / 16) * 16 + c.toNat % 16 = c.toNat := by omega
  have hzero : hexDigit? '0' = some 0 := by decide
  have hhigh : hexDigit? (hexDigit (c.toNat / 16)) = some (c.toNat / 16) :=
    hexDigit?_hexDigit (by omega)
  have hlow : hexDigit? (hexDigit (c.toNat % 16)) = some (c.toNat % 16) :=
    hexDigit?_hexDigit (by omega)
  have hspelled := SpellsUnit.digits hzero hzero hhigh hlow
  rw [hunit] at hspelled
  exact .unit hspelled

theorem spellsChar_writtenChar (c : Char) : SpellsChar c (writtenChar c) := by
  unfold writtenChar
  split
  · exact .short rfl
  · exact .short rfl
  · exact .short rfl
  · exact .short rfl
  · exact .short rfl
  · exact .short rfl
  · exact .short rfl
  · next hquote hslash _ _ _ _ _ =>
    split
    · next h => exact spellsChar_control h
    · next h => exact .plain (Nat.not_lt.mp h) hquote hslash

theorem spellsText_writtenText (s : String) : SpellsText s (writtenText s) := by
  have hchars : ∀ chars : List Char, SpellsChars chars (chars.flatMap writtenChar) := by
    intro chars
    induction chars with
    | nil => exact .nil
    | cons c rest ih => exact .cons (spellsChar_writtenChar c) ih
  exact ⟨s.toList.flatMap writtenChar, rfl, hchars s.toList⟩

/-! ### Lists and records -/

theorem isGap_newLine (level : Nat) : IsGap (newLine level) := by
  refine List.forall_mem_cons.mpr ⟨rfl, fun c hc => ?_⟩
  rw [List.eq_of_mem_replicate hc]
  rfl

/-- The value is spelled by its layout. -/
def IsSpelled (value : Datum) : Prop := ∀ level, Spells value (prettyChars level value)

theorem spellsItems_prettyItems {item : Datum} {rest : List Datum} {before after : List Char}
    (h : ∀ value ∈ item :: rest, IsSpelled value) (hbefore : IsGap before) (hafter : IsGap after) :
    SpellsItems (item :: rest) (before ++ (prettyItems level (item :: rest) ++ after)) := by
  induction rest generalizing item before with
  | nil => exact ⟨before, _, after, rfl, hbefore, h item List.mem_cons_self level, hafter⟩
  | cons next rest ih =>
    rw [List.forall_mem_cons] at h
    have hitem : Padded (Spells item) (before ++ (prettyChars level item ++ [])) :=
      ⟨before, _, [], rfl, hbefore, h.1 level, isGap_nil⟩
    refine ⟨_, _, ?_, hitem, ih h.2 (isGap_newLine level)⟩
    simp only [prettyItems, List.append_assoc, List.cons_append, List.append_nil]

theorem spellsFields_prettyFields {name : String} {value : Datum} {rest : List (String × Datum)}
    {before after : List Char} (h : ∀ field ∈ (name, value) :: rest, IsSpelled field.2)
    (hbefore : IsGap before) (hafter : IsGap after) :
    SpellsFields ((name, value) :: rest)
      (before ++ (prettyFields level ((name, value) :: rest) ++ after)) := by
  have hspace : IsGap [' '] := fun c hc => List.mem_singleton.mp hc ▸ rfl
  induction rest generalizing name value before with
  | nil =>
    refine ⟨before ++ (writtenText name ++ []), [' '] ++ (prettyChars level value ++ after), ?_,
      ⟨before, _, [], rfl, hbefore, spellsText_writtenText name, isGap_nil⟩,
      ⟨[' '], _, after, rfl, hspace, h _ List.mem_cons_self level, hafter⟩⟩
    simp only [prettyFields, List.append_assoc, List.cons_append, List.append_nil, List.nil_append]
  | cons next rest ih =>
    rw [List.forall_mem_cons] at h
    refine ⟨before ++ (writtenText name ++ []), [' '] ++ (prettyChars level value ++ []), _, ?_,
      ⟨before, _, [], rfl, hbefore, spellsText_writtenText name, isGap_nil⟩,
      ⟨[' '], _, [], rfl, hspace, h.1 level, isGap_nil⟩, ih h.2 (isGap_newLine level)⟩
    simp only [prettyFields, List.append_assoc, List.cons_append, List.append_nil, List.nil_append]

/-! ### Documents -/

theorem isSpelled_of_isPlain {value : Datum} (h : value.IsPlain) : IsSpelled value := by
  induction value using Datum.ind with
  | null => exact fun _ => rfl
  | bool b => exact fun _ => rfl
  | int i => exact fun _ => ⟨h, rfl⟩
  | real spelling => exact h.elim
  | text s => exact fun _ => spellsText_writtenText s
  | unreadable => exact h.elim
  | list items ih =>
    intro level
    rw [Datum.isPlain_list] at h
    cases items with
    | nil => exact ⟨[], rfl, isGap_nil⟩
    | cons item rest =>
      refine ⟨newLine (level + 1) ++ (prettyItems (level + 1) (item :: rest) ++ newLine level), ?_,
        spellsItems_prettyItems (fun value hm => ih value hm (h value hm))
          (isGap_newLine (level + 1)) (isGap_newLine level)⟩
      simp only [prettyChars, List.append_assoc, List.cons_append]
  | record fields ih =>
    intro level
    rw [Datum.isPlain_record] at h
    cases fields with
    | nil => exact ⟨[], rfl, isGap_nil⟩
    | cons field rest =>
      refine ⟨newLine (level + 1) ++ (prettyFields (level + 1) (field :: rest) ++ newLine level),
        ?_, spellsFields_prettyFields (fun value hm => ih value hm (h value hm))
          (isGap_newLine (level + 1)) (isGap_newLine level)⟩
      simp only [prettyChars, List.append_assoc, List.cons_append]

theorem spellsDocument_pretty {value : Datum} (h : value.IsPlain) :
    SpellsDocument value (pretty value) := by
  rw [SpellsDocument, pretty, String.toList_ofList]
  exact ⟨[], _, [], (List.append_nil _).symm, isGap_nil,
    isSpelled_of_isPlain h 0, isGap_nil⟩

theorem read_pretty {value : Datum} (h : value.IsPlain) : read (pretty value) = some value :=
  read_of_spells (spellsDocument_pretty h)

end ReplyActions.Json
