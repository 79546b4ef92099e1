import Mathlib.Data.List.TakeWhile
import ReplyActions.Token.Invocation

/-!
# Canonical forms

Trimming twice is trimming once, capitals have no capitals of their own, and neither operation
undoes the other. So an identifier in canonical form is its own canonical form.
-/

namespace ReplyActions.Text

/-! ### Trimming -/

theorem isInfix_trim (text : List Char) : trim text <:+: text := by
  have hstart : text.dropWhile isBlank <:+: text := (List.dropWhile_suffix _).isInfix
  refine List.IsInfix.trans ?_ hstart
  rw [trim, trimBy, trimEndBy, ← List.reverse_infix, List.reverse_reverse]
  exact (List.dropWhile_suffix _).isInfix

theorem mem_of_mem_trim {text : List Char} {c : Char} (h : c ∈ trim text) : c ∈ text :=
  (isInfix_trim text).subset h

theorem dropWhile_eq_self {p : Char → Bool} {text : List Char}
    (h : ∀ c rest, text = c :: rest → p c = false) : text.dropWhile p = text := by
  cases text with
  | nil => rfl
  | cons c rest =>
    rw [List.dropWhile_cons_of_neg]
    simp [h c rest rfl]

theorem not_of_dropWhile_eq_cons {p : Char → Bool} {text rest : List Char} {c : Char}
    (h : text.dropWhile p = c :: rest) : p c = false := by
  have hn := List.head?_dropWhile_not p text
  rw [h] at hn
  exact hn

theorem trimBy_trimBy (p : Char → Bool) (text : List Char) :
    trimBy p (trimBy p text) = trimBy p text := by
  have hstart : trimStartBy p (trimBy p text) = trimBy p text := by
    refine dropWhile_eq_self fun c rest hc => ?_
    -- what is left at the end begins as the text without its first blanks does
    have hpre : trimBy p text <+: text.dropWhile p := by
      rw [trimBy, trimEndBy, ← List.reverse_suffix, List.reverse_reverse]
      exact List.dropWhile_suffix p
    obtain ⟨more, hm⟩ := hpre
    rw [hc] at hm
    exact not_of_dropWhile_eq_cons hm.symm
  have hend : trimEndBy p (trimBy p text) = trimBy p text := by
    simp only [trimBy, trimEndBy, List.reverse_reverse]
    rw [dropWhile_eq_self fun c rest hc => not_of_dropWhile_eq_cons hc]
  rw [trimBy, hstart, hend]

/-- Neither the first nor the last character of the text satisfies `p`. -/
structure NeitherEnd (p : Char → Bool) (text : List Char) : Prop where
  first : ∀ c ∈ text.head?, p c = false
  last : ∀ c ∈ text.getLast?, p c = false

theorem trimStartBy_eq_self_iff (p : Char → Bool) (text : List Char) :
    trimStartBy p text = text ↔ ∀ c ∈ text.head?, p c = false := by
  constructor
  · intro h c hc
    obtain ⟨rest, rfl⟩ := List.head?_eq_some_iff.mp hc
    exact not_of_dropWhile_eq_cons h
  · intro h
    exact dropWhile_eq_self fun c rest hc => h c (by rw [hc]; rfl)

theorem trimEndBy_eq_self_iff (p : Char → Bool) (text : List Char) :
    trimEndBy p text = text ↔ ∀ c ∈ text.getLast?, p c = false := by
  rw [← List.head?_reverse, ← trimStartBy_eq_self_iff, trimEndBy, List.reverse_eq_iff]
  rfl

theorem length_trimStartBy_le (p : Char → Bool) (text : List Char) :
    (trimStartBy p text).length ≤ text.length := (List.dropWhile_suffix p).length_le

theorem length_trimEndBy_le (p : Char → Bool) (text : List Char) :
    (trimEndBy p text).length ≤ text.length := by
  have h := length_trimStartBy_le p text.reverse
  rwa [List.length_reverse, ← List.length_reverse] at h

theorem trimBy_eq_self_iff (p : Char → Bool) (text : List Char) :
    trimBy p text = text ↔ NeitherEnd p text := by
  constructor
  · intro h
    have hstart : trimStartBy p text = text := by
      refine (List.dropWhile_suffix p).eq_of_length_le ?_
      have hend := length_trimEndBy_le p (trimStartBy p text)
      rwa [show trimEndBy p (trimStartBy p text) = text from h] at hend
    rw [trimBy, hstart] at h
    exact ⟨(trimStartBy_eq_self_iff p text).mp hstart, (trimEndBy_eq_self_iff p text).mp h⟩
  · intro h
    rw [trimBy, (trimStartBy_eq_self_iff p text).mpr h.first,
      (trimEndBy_eq_self_iff p text).mpr h.last]

theorem neitherEnd_trimBy (p : Char → Bool) (text : List Char) :
    NeitherEnd p (trimBy p text) :=
  (trimBy_eq_self_iff p _).mp (trimBy_trimBy p text)

/-- Trimming takes nothing away from what it does not look for. -/
theorem filter_trimStartBy {p q : Char → Bool} (h : ∀ c, p c = true → q c = false)
    (text : List Char) : (trimStartBy p text).filter q = text.filter q := by
  unfold trimStartBy
  induction text with
  | nil => rfl
  | cons c rest ih =>
    cases hc : p c with
    | false => rw [List.dropWhile_cons_of_neg (by simp [hc])]
    | true => rw [List.dropWhile_cons_of_pos hc, ih, List.filter_cons_of_neg (by simp [h c hc])]

theorem filter_trimEndBy {p q : Char → Bool} (h : ∀ c, p c = true → q c = false)
    (text : List Char) : (trimEndBy p text).filter q = text.filter q := by
  have hstart := filter_trimStartBy h text.reverse
  unfold trimStartBy at hstart
  rw [trimEndBy, List.filter_reverse, hstart, List.filter_reverse, List.reverse_reverse]

theorem filter_trimBy {p q : Char → Bool} (h : ∀ c, p c = true → q c = false)
    (text : List Char) : (trimBy p text).filter q = text.filter q := by
  rw [trimBy, filter_trimEndBy h, filter_trimStartBy h]

theorem trim_eq_nil_iff (text : List Char) : trim text = [] ↔ ∀ c ∈ text, isBlank c = true := by
  rw [trim, trimBy, trimEndBy, List.reverse_eq_nil_iff, List.dropWhile_eq_nil_iff, trimStartBy]
  simp only [List.mem_reverse]
  constructor
  · intro h
    rw [← List.dropWhile_eq_nil_iff]
    cases hd : text.dropWhile isBlank with
    | nil => rfl
    | cons c rest =>
      have hc := h c (hd ▸ List.mem_cons_self)
      rw [not_of_dropWhile_eq_cons hd] at hc
      contradiction
  · intro h c hc
    exact h c ((List.dropWhile_suffix isBlank).subset hc)

theorem trimBy_map {p : Char → Bool} {f : Char → Char} (h : ∀ c, p (f c) = p c)
    (text : List Char) : trimBy p (text.map f) = (trimBy p text).map f := by
  have hcomp : p ∘ f = p := funext h
  simp only [trimBy, trimStartBy, trimEndBy, List.dropWhile_map, ← List.map_reverse, hcomp]

/-! ### Capitals -/

theorem toNat_upperChar (c : Char) :
    (upperChar c).toNat = if 97 ≤ c.toNat ∧ c.toNat ≤ 122 then c.toNat - 32 else c.toNat := by
  simp only [upperChar]
  split
  · next h =>
    have hv : (c.toNat - 32).isValidChar := Or.inl (by omega)
    rw [Char.ofNat, dif_pos hv]
    rfl
  · rfl

theorem upperChar_upperChar (c : Char) : upperChar (upperChar c) = upperChar c := by
  have hn := toNat_upperChar c
  rw [upperChar, if_neg]
  split at hn <;> omega

theorem toNat_lowerChar (c : Char) :
    (lowerChar c).toNat = if 65 ≤ c.toNat ∧ c.toNat ≤ 90 then c.toNat + 32 else c.toNat := by
  simp only [lowerChar]
  split
  · next h =>
    have hv : (c.toNat + 32).isValidChar := Or.inl (by omega)
    rw [Char.ofNat, dif_pos hv]
    rfl
  · rfl

theorem lowerChar_lowerChar (c : Char) : lowerChar (lowerChar c) = lowerChar c := by
  have hn := toNat_lowerChar c
  rw [lowerChar, if_neg]
  split at hn <;> omega

theorem lowerChar_eq_iff {c d : Char} (hd : d.toNat < 65 ∨ 90 < d.toNat ∧ d.toNat < 97 ∨
    122 < d.toNat) : lowerChar c = d ↔ c = d := by
  constructor
  · intro h
    have hn := toNat_lowerChar c
    rw [h] at hn
    split at hn
    · omega
    · exact (Char.toNat_inj.mp hn).symm
  · rintro rfl
    rw [lowerChar, if_neg (by omega)]

theorem lower_lower (text : String) : lower (lower text) = lower text := by
  have hf : lowerChar ∘ lowerChar = lowerChar := funext lowerChar_lowerChar
  rw [lower, lower, String.toList_ofList, List.map_map, hf]

/-- Only the letters a to z change. -/
theorem upperChar_eq_iff {c d : Char} (hd : d.toNat < 65 ∨ 90 < d.toNat ∧ d.toNat < 97 ∨
    122 < d.toNat) : upperChar c = d ↔ c = d := by
  constructor
  · intro h
    have hn := toNat_upperChar c
    rw [h] at hn
    split at hn
    · omega
    · exact (Char.toNat_inj.mp hn).symm
  · rintro rfl
    rw [upperChar, if_neg (by omega)]

theorem isBlank_upperChar (c : Char) : isBlank (upperChar c) = isBlank c := by
  by_cases h : 97 ≤ c.toNat ∧ c.toNat ≤ 122
  · -- neither small letters nor capitals are blank
    have hletter : ∀ n : Nat, 65 ≤ n ∧ n ≤ 122 → ∀ d : Char, d.toNat = n → isBlank d = false := by
      intro n hn d hd
      simp only [isBlank, hd, Bool.or_eq_false_iff, Bool.and_eq_false_iff,
        decide_eq_false_iff_not, beq_eq_false_iff_ne]
      omega
    have hn := toNat_upperChar c
    rw [if_pos h] at hn
    rw [hletter c.toNat (by omega) c rfl, hletter (c.toNat - 32) (by omega) _ hn]
  · rw [upperChar, if_neg h]

end ReplyActions.Text

namespace ReplyActions

theorem toList_canonicalId (id : String) :
    (canonicalId id).toList = (Text.trim id.toList).map Text.upperChar := by
  simp only [canonicalId, Text.upper, Text.trimmed, String.toList_ofList]

theorem canonicalId_canonicalId (id : String) : canonicalId (canonicalId id) = canonicalId id := by
  apply String.toList_injective
  have hf : Text.upperChar ∘ Text.upperChar = Text.upperChar := funext Text.upperChar_upperChar
  rw [toList_canonicalId, toList_canonicalId, Text.trim,
    Text.trimBy_map Text.isBlank_upperChar, List.map_map, hf, Text.trim, Text.trimBy_trimBy]

theorem canonicalId_ne_empty_iff (text : List Char) :
    canonicalId (String.ofList text) ≠ "" ↔ ∃ c ∈ text, Text.isBlank c = false := by
  have hempty : canonicalId (String.ofList text) = "" ↔ Text.trim text = [] := by
    rw [← String.toList_inj, toList_canonicalId, String.toList_ofList]
    exact List.map_eq_nil_iff
  rw [ne_eq, hempty, Text.trim_eq_nil_iff]
  simp only [Classical.not_forall, Bool.not_eq_true, exists_prop]

end ReplyActions
