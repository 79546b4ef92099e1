import ReplyActions.Token.Strip

/-!
# Where tokens occur

A token as it is written, and the texts that hold one. The scanners of a text look at one position
at a time; here their answers are tied to the stretches of text that are tokens.
-/

namespace ReplyActions.Token

def IsPlain (text : List Char) : Prop := ∀ c ∈ text, isBracket c = false

/-- A token as it is written: the opener in whatever case, a body without brackets, and the
closing bracket. -/
inductive IsToken : List Char → Prop where
  | mk {word body : List Char} (hword : word.map Text.lowerChar = keyword)
    (hbody : IsPlain body) : IsToken ('[' :: (word ++ body) ++ [']'])

def HoldsToken (text : List Char) : Prop := ∃ token, IsToken token ∧ token <:+: text

/-! ### Brackets and the keyword -/

theorem isBracket_eq_true_iff (c : Char) : isBracket c = true ↔ c = '[' ∨ c = ']' := by
  simp only [isBracket, Bool.or_eq_true, beq_iff_eq]

theorem isBracket_eq_false_iff (c : Char) : isBracket c = false ↔ c ≠ '[' ∧ c ≠ ']' := by
  simp only [isBracket, Bool.or_eq_false_iff, beq_eq_false_iff_ne, ne_eq]

theorem lowerChar_of_isBracket {c : Char} (h : isBracket c = true) : Text.lowerChar c = c := by
  rcases (isBracket_eq_true_iff c).mp h with rfl | rfl <;> decide

theorem not_mem_keyword_of_isBracket {c : Char} (h : isBracket c = true) : c ∉ keyword := by
  rcases (isBracket_eq_true_iff c).mp h with rfl | rfl <;> decide

theorem isPlain_nil : IsPlain [] := fun _ h => absurd h List.not_mem_nil

theorem isPlain_cons {c : Char} {text : List Char} :
    IsPlain (c :: text) ↔ isBracket c = false ∧ IsPlain text := by
  simp only [IsPlain, List.mem_cons, forall_eq_or_imp]

theorem isPlain_append {a b : List Char} : IsPlain (a ++ b) ↔ IsPlain a ∧ IsPlain b := by
  simp only [IsPlain, List.mem_append, or_imp, forall_and]

theorem isPlain_reverse {text : List Char} : IsPlain text.reverse ↔ IsPlain text := by
  simp only [IsPlain, List.mem_reverse]

theorem isPlain_of_lower_eq_keyword {word : List Char}
    (h : word.map Text.lowerChar = keyword) : IsPlain word := by
  intro c hc
  cases hb : isBracket c with
  | false => rfl
  | true =>
    have hm : Text.lowerChar c ∈ word.map Text.lowerChar := List.mem_map_of_mem hc
    rw [h, lowerChar_of_isBracket hb] at hm
    exact absurd hm (not_mem_keyword_of_isBracket hb)

theorem startsWithKeyword_iff (text : List Char) :
    startsWithKeyword text = true ↔
      ∃ word rest, text = word ++ rest ∧ word.map Text.lowerChar = keyword := by
  simp only [startsWithKeyword, beq_iff_eq]
  constructor
  · intro h
    exact ⟨text.take keyword.length, text.drop keyword.length, (List.take_append_drop ..).symm, h⟩
  · rintro ⟨word, rest, rfl, h⟩
    have hl : word.length = keyword.length := by rw [← h, List.length_map]
    rw [← hl, List.take_left', h]
    rfl

/-- The keyword lies in front of the first bracket, or nowhere. -/
theorem startsWithKeyword_append_bracket (text rest : List Char) {c : Char}
    (hc : isBracket c = true) : startsWithKeyword (text ++ c :: rest) = startsWithKeyword text := by
  rw [Bool.eq_iff_iff, startsWithKeyword_iff, startsWithKeyword_iff]
  constructor
  · rintro ⟨word, more, h, hw⟩
    rcases List.append_eq_append_iff.mp h with ⟨tail, rfl, hm⟩ | ⟨tail, rfl, -⟩
    · cases tail with
      | nil => exact ⟨text ++ [], [], by simp, hw⟩
      | cons d tail =>
        obtain ⟨rfl, -⟩ := List.cons.inj hm
        have hp := isPlain_of_lower_eq_keyword hw _ (List.mem_append_right _ List.mem_cons_self)
        rw [hc] at hp
        contradiction
    · exact ⟨word, tail, rfl, hw⟩
  · rintro ⟨word, more, rfl, hw⟩
    exact ⟨word, more ++ c :: rest, List.append_assoc .., hw⟩

theorem isToken_iff (token : List Char) :
    IsToken token ↔
      ∃ inside, token = '[' :: inside ++ [']'] ∧ startsWithKeyword inside = true ∧
        IsPlain inside := by
  constructor
  · rintro ⟨hw, hb⟩
    exact ⟨_, rfl, (startsWithKeyword_iff _).mpr ⟨_, _, rfl, hw⟩,
      isPlain_append.mpr ⟨isPlain_of_lower_eq_keyword hw, hb⟩⟩
  · rintro ⟨inside, rfl, hk, hp⟩
    obtain ⟨word, body, rfl, hw⟩ := (startsWithKeyword_iff inside).mp hk
    exact .mk hw (isPlain_append.mp hp).2

/-! ### Tokens and positions -/

theorem dropWhile_plain {body : List Char} (h : IsPlain body) {c : Char} (hc : isBracket c = true)
    (rest : List Char) : (body ++ c :: rest).dropWhile (!isBracket ·) = c :: rest := by
  rw [List.dropWhile_append_of_pos (fun a ha => by simp [h a ha]), List.dropWhile_cons_of_neg]
  simp [hc]

theorem takeWhile_plain {body : List Char} (h : IsPlain body) {c : Char} (hc : isBracket c = true)
    (rest : List Char) : (body ++ c :: rest).takeWhile (!isBracket ·) = body := by
  rw [List.takeWhile_append_of_pos (fun a ha => by simp [h a ha]), List.takeWhile_cons_of_neg,
    List.append_nil]
  simp [hc]

theorem bodyAt?_eq_some_iff (text body : List Char) :
    bodyAt? text = some body ↔
      ∃ word after, text = '[' :: (word ++ body) ++ ']' :: after ∧
        word.map Text.lowerChar = keyword ∧ IsPlain body := by
  constructor
  · intro h
    simp only [bodyAt?] at h
    split at h
    · next ho =>
      split at h
      · next after hd =>
        injection h with h
        obtain ⟨rest, rfl⟩ : ∃ rest, text = '[' :: rest := by
          unfold startsWithOpener at ho
          split at ho
          · exact ⟨_, rfl⟩
          · contradiction
        obtain ⟨word, inside, rfl, hw⟩ := (startsWithKeyword_iff rest).mp ho
        have hl : openerLength = word.length + 1 := by
          rw [openerLength, ← hw, List.length_map]
        rw [hl, List.drop_succ_cons, List.drop_left'] at h hd
        · refine ⟨word, after, ?_, hw, ?_⟩
          · rw [← h, ← hd, List.cons_append, List.append_assoc, List.takeWhile_append_dropWhile]
          · rw [← h]
            intro c hc
            simpa using List.all_eq_true.mp List.all_takeWhile c hc
        · rfl
        · rfl
      · contradiction
    · contradiction
  · rintro ⟨word, after, rfl, hw, hb⟩
    have ho : startsWithOpener ('[' :: (word ++ body) ++ ']' :: after) = true :=
      (startsWithKeyword_iff _).mpr ⟨word, body ++ ']' :: after, List.append_assoc .., hw⟩
    have hl : openerLength = word.length + 1 := by
      rw [openerLength, ← hw, List.length_map]
    have hd : ('[' :: (word ++ body) ++ ']' :: after).drop openerLength = body ++ ']' :: after := by
      rw [hl, List.cons_append, List.drop_succ_cons, List.append_assoc, List.drop_left' rfl]
    simp only [bodyAt?, ho, if_true, hd, dropWhile_plain hb (by decide : isBracket ']' = true),
      takeWhile_plain hb (by decide : isBracket ']' = true)]

theorem holdsToken_iff (text : List Char) :
    HoldsToken text ↔ ∃ rest, rest <:+ text ∧ (bodyAt? rest).isSome = true := by
  constructor
  · rintro ⟨_, @⟨word, body, hw, hb⟩, before, after, rfl⟩
    refine ⟨_, ⟨before, (List.append_assoc ..).symm⟩, Option.isSome_iff_exists.mpr ⟨body, ?_⟩⟩
    exact (bodyAt?_eq_some_iff _ body).mpr ⟨word, after, by simp, hw, hb⟩
  · rintro ⟨rest, ⟨before, rfl⟩, h⟩
    obtain ⟨body, h⟩ := Option.isSome_iff_exists.mp h
    obtain ⟨word, after, rfl, hw, hb⟩ := (bodyAt?_eq_some_iff rest body).mp h
    exact ⟨_, .mk hw hb, before, after, by simp⟩

theorem HoldsToken.mono {part text : List Char} (h : HoldsToken part) (hi : part <:+: text) :
    HoldsToken text := by
  obtain ⟨token, ht, hp⟩ := h
  exact ⟨token, ht, hp.trans hi⟩

/-- One more character completes at most the token that ends with it. -/
theorem holdsToken_concat {text : List Char} {c : Char} (h : HoldsToken (text ++ [c])) :
    HoldsToken text ∨ c = ']' ∧
      ∃ inside, '[' :: inside <:+ text ∧ startsWithKeyword inside = true ∧ IsPlain inside := by
  obtain ⟨token, ht, hi⟩ := h
  obtain ⟨inside, rfl, hk, hp⟩ := (isToken_iff token).mp ht
  rcases List.infix_concat_iff.mp hi with hs | hi
  · obtain ⟨before, hs⟩ := hs
    rw [← List.append_assoc] at hs
    obtain ⟨hs, hc⟩ := List.append_inj' hs rfl
    exact Or.inr ⟨(List.singleton_inj.mp hc).symm, inside, ⟨before, hs⟩, hk, hp⟩
  · exact Or.inl ⟨_, ht, hi⟩

theorem hasOpener_of_suffix {rest text : List Char} (h : '[' :: rest <:+ text)
    (hk : startsWithKeyword rest = true) : hasOpener text = true := by
  induction text with
  | nil => simp at h
  | cons c more ih =>
    simp only [hasOpener, Bool.or_eq_true]
    rcases List.suffix_cons_iff.mp h with h | h
    · rw [← h]
      exact Or.inl hk
    · exact Or.inr (ih h)

theorem extractFrom_eq_nil {text : List Char} (h : ¬ HoldsToken text) (offset ordinal : Nat) :
    Invocation.extractFrom offset ordinal text = [] := by
  induction text generalizing offset with
  | nil => rfl
  | cons c rest ih =>
    have hb : bodyAt? (c :: rest) = none := by
      rw [← Option.not_isSome_iff_eq_none]
      exact fun hs => h ((holdsToken_iff _).mpr ⟨_, List.suffix_rfl, hs⟩)
    simp only [Invocation.extractFrom, Invocation.requestAt?, hb]
    exact ih (fun ht => h (ht.mono (List.suffix_cons c rest).isInfix)) (offset + 1)

theorem extract_eq_nil {text : List Char} (h : ¬ HoldsToken text) :
    Invocation.extract text = [] := by
  rw [Invocation.extract, extractFrom_eq_nil h, ite_self]

end ReplyActions.Token
