import ReplyActions.Proofs.Directive.Validation
import ReplyActions.Proofs.Number.Decimal
import ReplyActions.Proofs.Text.Shown

/-!
# Reading what has been accepted

A value is accepted for a kind exactly if it can be read as one. A text is read as what stands
between the blanks at its ends, an integer as the number that is spelled there: at least one digit,
with at most one sign in front, whatever zeros it begins with, as far as the number is in range.
-/

namespace ReplyActions

/-! ### What stands between blanks -/

namespace Text

/-- Only blanks are around the core, and none are at its own ends. -/
structure IsCore (core text : List Char) : Prop where
  ends : NeitherEnd isBlank core
  around : ∃ before after, text = before ++ core ++ after ∧
    (∀ c ∈ before, isBlank c = true) ∧ ∀ c ∈ after, isBlank c = true

theorem isCore_trim (text : List Char) : IsCore (trim text) text := by
  refine ⟨neitherEnd_trimBy isBlank text, ?_⟩
  obtain ⟨after, hafter, hblanks⟩ := exists_trimEndBy_append isBlank (trimStartBy isBlank text)
  refine ⟨text.takeWhile isBlank, after, ?_, fun c hc => List.mem_takeWhile_imp hc, hblanks⟩
  rw [List.append_assoc]
  unfold trim trimBy
  rw [hafter]
  exact List.takeWhile_append_dropWhile.symm

theorem IsCore.trim_eq {core text : List Char} (h : IsCore core text) : trim text = core := by
  obtain ⟨before, after, rfl, hbefore, hafter⟩ := h.around
  have hend : trimEndBy isBlank (core ++ after) = core := by
    have hafter : ∀ c ∈ after.reverse, isBlank c = true := fun c hc =>
      hafter c (List.mem_reverse.mp hc)
    rw [trimEndBy, List.reverse_append, List.dropWhile_append_of_pos hafter]
    exact (trimEndBy_eq_self_iff isBlank core).mpr h.ends.last
  unfold trim trimBy trimStartBy
  rw [List.append_assoc, List.dropWhile_append_of_pos hbefore]
  cases core with
  | nil =>
    have hnone : after.dropWhile isBlank = [] := List.dropWhile_eq_nil_iff.mpr hafter
    rw [List.nil_append, hnone]
    rfl
  | cons c rest =>
    have hc : ¬ isBlank c = true := by
      rw [h.ends.first c rfl]
      exact Bool.false_ne_true
    rw [List.cons_append, List.dropWhile_cons_of_neg hc]
    exact hend

theorem trim_eq_iff {core text : List Char} : trim text = core ↔ IsCore core text :=
  ⟨fun h => h ▸ isCore_trim text, IsCore.trim_eq⟩

theorem toList_trimmed (text : String) : (trimmed text).toList = trim text.toList :=
  String.toList_ofList

end Text

/-! ### Reading at a position -/

open Number

/-- The value at the position can be read as one of the kind; a word has no blank inside. -/
def ParamKind.IsRead (kind : ParamKind) (params : Params) (index : Nat) : Prop :=
  match kind with
  | .integer => ∃ value, params.whole? index = some value
  | .number => ∃ bits, params.number? index = some bits
  | .word => ∃ value, params.text? index = some value ∧
      ∀ c ∈ value.toList, Text.isBlank c = false
  | .text => ∃ value, params.text? index = some value

section

variable {params : Params} {index : Nat} {raw : String}

theorem Params.text?_of_blank (h : params[index]? = some raw) (hblank : Text.trimmed raw = "") :
    params.text? index = none := by
  rw [text?, h, Option.map_some, Option.filter_some, if_neg (by simpa using hblank)]

theorem Params.text?_eq_some_iff (h : params[index]? = some raw) {value : String} :
    params.text? index = some value ↔
      value ≠ "" ∧ Text.IsCore value.toList raw.toList := by
  rw [← Text.trim_eq_iff, ← Text.toList_trimmed, String.toList_inj]
  by_cases hblank : Text.trimmed raw = ""
  · rw [text?_of_blank h hblank, hblank]
    simp only [reduceCtorEq, false_iff, not_and]
    exact fun hne heq => hne heq.symm
  · rw [text?_of_getElem? h hblank, Option.some.injEq]
    exact ⟨fun heq => ⟨heq ▸ hblank, heq⟩, fun heq => heq.2⟩

theorem wholeOf?_eq_some_iff {text : String} {value : Whole} :
    wholeOf? text = some value ↔ SpellsInteger text.toList value.val := by
  unfold wholeOf?
  rw [Option.bind_eq_some_iff]
  constructor
  · rintro ⟨i, hi, hvalue⟩
    rw [Signed.val_of_ofInt? hvalue]
    exact intOf?_eq_some_iff.mp hi
  · exact fun h => ⟨value.val, intOf?_eq_some_iff.mpr h, Signed.ofInt?_val value⟩

theorem wholeOf?_trimmed_eq_some_iff {value : Whole} :
    wholeOf? (Text.trimmed raw) = some value ↔
      ∃ core, Text.IsCore core raw.toList ∧ SpellsInteger core value.val := by
  rw [wholeOf?_eq_some_iff, Text.toList_trimmed]
  constructor
  · exact fun h => ⟨_, Text.isCore_trim raw.toList, h⟩
  · rintro ⟨core, hcore, h⟩
    rw [hcore.trim_eq]
    exact h

theorem Params.whole?_of_getElem? (h : params[index]? = some raw) :
    params.whole? index = wholeOf? (Text.trimmed raw) := by
  unfold whole?
  by_cases hblank : Text.trimmed raw = ""
  · rw [text?_of_blank h hblank, hblank]
    decide
  · rw [text?_of_getElem? h hblank, Option.bind_some]

theorem Params.number?_of_getElem? (h : params[index]? = some raw) :
    params.number? index = finiteBits? (Text.trimmed raw) := by
  unfold number?
  by_cases hblank : Text.trimmed raw = ""
  · rw [text?_of_blank h hblank, hblank]
    decide
  · rw [text?_of_getElem? h hblank, Option.bind_some]

/-- A value is accepted for a kind exactly if it can be read as one. -/
theorem ParamKind.accepts_iff_isRead (kind : ParamKind) (h : params[index]? = some raw) :
    kind.accepts raw = true ↔ kind.IsRead params index := by
  cases kind with
  | integer =>
    unfold accepts IsRead
    rw [Params.whole?_of_getElem? h]
    exact Option.isSome_iff_exists
  | number =>
    unfold accepts IsRead
    rw [Params.number?_of_getElem? h]
    exact Option.isSome_iff_exists
  | word =>
    unfold accepts IsRead
    by_cases hblank : Text.trimmed raw = ""
    · simp [Params.text?_of_blank h hblank, hblank]
    · simp [Params.text?_of_getElem? h hblank, hblank]
  | text =>
    unfold accepts IsRead
    by_cases hblank : Text.trimmed raw = ""
    · simp [Params.text?_of_blank h hblank, hblank]
    · simp [Params.text?_of_getElem? h hblank, hblank]

theorem Definition.isRead_of_validate {d : Definition} {spec : ParamSpec}
    (h : d.validate params = .ok ()) (hspec : d.params[index]? = some spec)
    (hraw : params[index]? = some raw) : spec.kind.IsRead params index :=
  (spec.kind.accepts_iff_isRead hraw).mp (accepts_of_validate h hspec hraw)

end

theorem ParamKind.accepts_integer_iff (raw : String) :
    ParamKind.integer.accepts raw = true ↔
      ∃ core i, Text.IsCore core raw.toList ∧ SpellsInteger core i ∧
        -9223372036854775808 ≤ i ∧ i ≤ 9223372036854775807 := by
  unfold accepts
  rw [Option.isSome_iff_exists]
  constructor
  · rintro ⟨value, hvalue⟩
    obtain ⟨core, hcore, hspells⟩ := wholeOf?_trimmed_eq_some_iff.mp hvalue
    exact ⟨core, value.val, hcore, hspells, value.le_val, value.val_le⟩
  · rintro ⟨core, i, hcore, hspells, hlow, hhigh⟩
    exact ⟨⟨i, hlow, hhigh⟩, wholeOf?_trimmed_eq_some_iff.mpr ⟨core, hcore, hspells⟩⟩

/-- Zeros in front and blanks around do not matter, but the range does. -/
example : ParamKind.integer.accepts "\u2003-0009223372036854775808\u3000" = true ∧
    ParamKind.integer.accepts "9223372036854775808" = false := by decide +kernel

/-- Every value of an accepted list can be read as one of its kind, and a value that cannot be read
as one of a kind is accepted for it nowhere. What is read is what is written there: the text between
the blanks, or the integer that this text spells. -/
theorem accepted_values_are_read :
    (∀ (d : Definition) (params : Params), d.validate params = .ok () →
      ∀ index < params.length, ∃ spec, d.params[index]? = some spec ∧
        spec.kind.IsRead params index) ∧
    ∀ (params : Params) (index : Nat) (raw : String), params[index]? = some raw →
      (∀ kind : ParamKind, ¬ kind.IsRead params index → kind.accepts raw = false) ∧
      (∀ value, params.text? index = some value ↔
        value ≠ "" ∧ Text.IsCore value.toList raw.toList) ∧
      (∀ value, params.whole? index = some value ↔
        ∃ core, Text.IsCore core raw.toList ∧ SpellsInteger core value.val) ∧
      (ParamKind.integer.accepts raw = true ↔
        ∃ core i, Text.IsCore core raw.toList ∧ SpellsInteger core i ∧
          -9223372036854775808 ≤ i ∧ i ≤ 9223372036854775807) := by
  refine ⟨fun d params h index hindex => ?_, fun params index raw hraw => ?_⟩
  · have hroom : index < d.params.length :=
      Nat.lt_of_lt_of_le hindex (Definition.validate_eq_ok_iff.mp h).2.1
    have hspec := List.getElem?_eq_getElem hroom
    have hraw := List.getElem?_eq_getElem hindex
    exact ⟨_, hspec, Definition.isRead_of_validate h hspec hraw⟩
  · refine ⟨fun kind hunread => ?_, fun value => Params.text?_eq_some_iff hraw, fun value => ?_,
      ParamKind.accepts_integer_iff raw⟩
    · rw [← Bool.not_eq_true, kind.accepts_iff_isRead hraw]
      exact hunread
    · rw [Params.whole?_of_getElem? hraw]
      exact wholeOf?_trimmed_eq_some_iff

/-- A word, an integer and a text, with blanks around them, zeros in front and blanks inside. -/
theorem accepted_values_are_read_greeting :
    let d := Definition.named "GREET" .social "" .moderate
      [⟨"who", .word, true⟩, ⟨"times", .integer, true⟩, ⟨"words", .text, false⟩] []
    let params : Params := [" bob\u3000", "\t-007", " good day "]
    d.validate params = .ok () ∧ ParamKind.word.IsRead params 0 ∧
      ParamKind.integer.IsRead params 1 ∧ ParamKind.text.IsRead params 2 ∧
      ¬ ParamKind.word.IsRead params 2 ∧ ParamKind.word.accepts " good day " = false := by
  intro d params
  have hvalid : d.validate params = .ok () := by decide +kernel
  have hread : ∀ (index : Nat) (spec : ParamSpec), index < params.length →
      d.params[index]? = some spec → spec.kind.IsRead params index := by
    intro index spec hindex hspec
    obtain ⟨other, hother, hread⟩ := accepted_values_are_read.1 d params hvalid index hindex
    obtain rfl := Option.some.inj (hspec.symm.trans hother)
    exact hread
  have hinside : ¬ ParamKind.word.IsRead params 2 := by
    rintro ⟨value, hvalue, hall⟩
    have hday : params.text? 2 = some "good day" := by decide +kernel
    obtain rfl := Option.some.inj (hday.symm.trans hvalue)
    exact absurd (hall ' ' (by decide +kernel)) (by decide)
  exact ⟨hvalid, hread 0 _ (by decide) rfl, hread 1 _ (by decide) rfl, hread 2 _ (by decide) rfl,
    hinside, (accepted_values_are_read.2 params 2 " good day " rfl).1 .word hinside⟩

end ReplyActions
