import ReplyActions.Proofs.Text.Capital

/-!
# Cleaning a text again

What cleaning leaves holds no bracket of markup, begins with no blank, ends with no blank and no
trailing mark, and keeps its first letter. But it may still begin or end with a quotation mark that
stood behind a blank or in front of a trailing mark, and a text that is cut ends in an ellipsis.
Those two are what cleaning it again takes away, and otherwise it changes nothing.
-/

namespace ReplyActions.Text

/-! ### Trimming -/

section

variable {p : Char → Bool} {c : Char}

theorem trimEndBy_isPrefix (p : Char → Bool) (text : List Char) : trimEndBy p text <+: text := by
  rw [trimEndBy, ← List.reverse_suffix, List.reverse_reverse]
  exact List.dropWhile_suffix p

theorem trimBy_sublist (p : Char → Bool) (text : List Char) : (trimBy p text).Sublist text :=
  (trimEndBy_isPrefix p _).sublist.trans (List.dropWhile_sublist p)

theorem not_of_mem_getLast?_trimEndBy {text : List Char} (h : c ∈ (trimEndBy p text).getLast?) :
    p c = false := by
  rw [trimEndBy, List.getLast?_reverse] at h
  obtain ⟨rest, hrest⟩ := List.head?_eq_some_iff.mp h
  exact not_of_dropWhile_eq_cons hrest

theorem trimEndBy_append_cons (h : p c = false) (a b : List Char) :
    trimEndBy p (a ++ c :: b) = a ++ c :: trimEndBy p b := by
  rw [trimEndBy, List.reverse_append, List.reverse_cons, List.append_assoc, List.singleton_append,
    Token.dropWhile_append_neg h]
  simp [trimEndBy]

theorem trimBy_concat (h : p c = false) (text : List Char) :
    trimBy p (text ++ [c]) = trimStartBy p text ++ [c] := by
  rw [trimBy, trimStartBy, Token.dropWhile_append_neg h]
  exact trimEndBy_append_of_neg p _ h

theorem countP_trimBy_lt {text : List Char} (h : ¬ NeitherEnd p text) :
    (trimBy p text).countP p < text.countP p := by
  -- nothing else is cut off, so the lengths tell how much of it is
  have hsame : (trimBy p text).countP (!p ·) = text.countP (!p ·) := by
    rw [List.countP_eq_length_filter, List.countP_eq_length_filter,
      filter_trimBy fun c hc => by rw [hc]; rfl]
  have hlt : (trimBy p text).length < text.length := by
    refine Nat.lt_of_le_of_ne (trimBy_sublist p text).length_le fun heq => h ?_
    exact (trimBy_eq_self_iff p text).mp ((trimBy_sublist p text).eq_of_length heq)
  have hall := List.length_eq_countP_add_countP p (l := trimBy p text)
  have hall' := List.length_eq_countP_add_countP p (l := text)
  simp only [Bool.not_eq_true, Bool.decide_eq_false] at hall hall'
  omega

end

/-! ### Markup -/

def IsUnmarked (text : List Char) : Prop := ∀ c ∈ text, isMarkupBracket c = false

theorem withoutMarkup_of_isUnmarked {text : List Char} (h : IsUnmarked text) :
    withoutMarkup text = text := by
  rw [withoutMarkup]
  induction text with
  | nil => rfl
  | cons c rest ih =>
    obtain ⟨hc, hrest⟩ := List.forall_mem_cons.mp h
    have hnone : markupLength? c rest = none := by
      simp only [isMarkupBracket, Bool.or_eq_false_iff, beq_eq_false_iff_ne] at hc
      simp only [markupLength?, closingBracket?, if_neg hc.1.1.1, if_neg hc.1.2]
    simp only [withoutMarkupFrom, hnone, ih hrest]

/-! ### The first letter -/

theorem withSmallStart_of_not_isCapital {first : Char} (h : isCapital first = false)
    (rest : List Char) : withSmallStart (first :: rest) = first :: rest := by
  simp [withSmallStart, h]

theorem withSmallStart_of_acronym {second : Char} (h : isCapital second = true) (first : Char)
    (rest : List Char) : withSmallStart (first :: second :: rest) = first :: second :: rest := by
  simp [withSmallStart, h]

theorem withSmallStart_of_isCapital {first : Char} {rest : List Char}
    (hfirst : isCapital first = true) (hrest : ∀ c ∈ rest.head?, isCapital c = false) :
    withSmallStart (first :: rest) = smallForm first ++ rest := by
  cases rest with
  | nil => simp [withSmallStart, hfirst]
  | cons second more => simp [withSmallStart, hfirst, hrest second rfl]

theorem withSmallStart_cases (first : Char) (rest : List Char) :
    (isCapital first = false ∧ withSmallStart (first :: rest) = first :: rest) ∨
    (∃ second more, rest = second :: more ∧ isCapital second = true ∧
      withSmallStart (first :: rest) = first :: rest) ∨
    (isCapital first = true ∧ (∀ c ∈ rest.head?, isCapital c = false) ∧
      withSmallStart (first :: rest) = smallForm first ++ rest) := by
  cases hfirst : isCapital first with
  | false => exact Or.inl ⟨rfl, withSmallStart_of_not_isCapital hfirst rest⟩
  | true =>
    refine Or.inr ?_
    by_cases hrest : ∀ c ∈ rest.head?, isCapital c = false
    · exact Or.inr ⟨rfl, hrest, withSmallStart_of_isCapital hfirst hrest⟩
    · cases rest with
      | nil => simp at hrest
      | cons second more =>
        have hsecond : isCapital second = true := by simpa using hrest
        exact Or.inl ⟨second, more, rfl, hsecond, withSmallStart_of_acronym hsecond first more⟩

theorem mem_withSmallStart {text : List Char} {c : Char} (h : c ∈ withSmallStart text) :
    c ∈ text ∨ isMarked c = false := by
  cases text with
  | nil => exact Or.inl h
  | cons first rest =>
    rcases withSmallStart_cases first rest with ⟨-, he⟩ | ⟨-, -, -, -, he⟩ | ⟨hfirst, -, he⟩
    · exact Or.inl (he ▸ h)
    · exact Or.inl (he ▸ h)
    · rw [he, List.mem_append] at h
      rcases h with h | h
      · exact Or.inr (isMarked_smallForm hfirst c h)
      · exact Or.inl (List.mem_cons_of_mem first h)

theorem head_withSmallStart {text : List Char} {c : Char} (h : c ∈ (withSmallStart text).head?) :
    c ∈ text.head? ∨ isMarked c = false := by
  cases text with
  | nil => exact Or.inl h
  | cons first rest =>
    rcases withSmallStart_cases first rest with ⟨-, he⟩ | ⟨-, -, -, -, he⟩ | ⟨hfirst, -, he⟩
    · exact Or.inl (he ▸ h)
    · exact Or.inl (he ▸ h)
    · have hmarks := isMarked_smallForm hfirst
      rw [he] at h
      rcases smallForm_cons with hsame | ⟨d, more, hd, -⟩
      · rw [hsame] at h
        exact Or.inl h
      · rw [hd] at h hmarks
        obtain rfl : d = c := Option.some.inj h
        exact Or.inr (hmarks d List.mem_cons_self)

theorem countP_withSmallStart_le {p : Char → Bool} (hp : ∀ c, p c = true → isMarked c = true)
    (text : List Char) : (withSmallStart text).countP p ≤ text.countP p := by
  cases text with
  | nil => exact Nat.le_refl 0
  | cons first rest =>
    rcases withSmallStart_cases first rest with ⟨-, he⟩ | ⟨-, -, -, -, he⟩ | ⟨hfirst, -, he⟩
    · rw [he]
    · rw [he]
    · have hnone : (smallForm first).countP p = 0 := by
        rw [List.countP_eq_zero]
        intro c hc
        rw [eq_false_of_isMarked hp (isMarked_smallForm hfirst c hc)]
        exact Bool.false_ne_true
      rw [he, List.countP_append, hnone, Nat.zero_add]
      exact (List.sublist_cons_self first rest).countP_le

theorem withSmallStart_concat {c : Char} (hc : isCapital c = false) (text : List Char) :
    ∃ front, withSmallStart (text ++ [c]) = front ++ [c] ∧ front.length ≤ text.length + 1 := by
  cases text with
  | nil => exact ⟨[], withSmallStart_of_not_isCapital hc [], Nat.zero_le _⟩
  | cons first rest =>
    rw [List.cons_append]
    rcases withSmallStart_cases first (rest ++ [c]) with ⟨-, he⟩ | ⟨-, -, -, -, he⟩ | ⟨-, -, he⟩
    · exact ⟨first :: rest, he, Nat.le_succ _⟩
    · exact ⟨first :: rest, he, Nat.le_succ _⟩
    · have hlength := length_smallForm_le first
      refine ⟨smallForm first ++ rest, by rw [he, List.append_assoc], ?_⟩
      simp only [List.length_append, List.length_cons]
      omega

/-- A letter that has been made small stays as it is, whatever is cut off behind it. -/
theorem withSmallStart_trimEndBy {p : Char → Bool} (hp : ∀ c, p c = true → isMarked c = true)
    (text : List Char) :
    withSmallStart (trimEndBy p (withSmallStart text)) = trimEndBy p (withSmallStart text) := by
  have hfront : ∀ d more, trimEndBy p (d :: more) = [] ∨
      ∃ kept, trimEndBy p (d :: more) = d :: kept ∧ kept <+: more := fun d more =>
    List.prefix_cons_iff.mp (trimEndBy_isPrefix p (d :: more))
  cases text with
  | nil => rfl
  | cons first rest =>
    rcases withSmallStart_cases first rest with
      ⟨hfirst, he⟩ | ⟨second, more, rfl, hsecond, he⟩ | ⟨hfirst, hrest, he⟩
    · rw [he]
      rcases hfront first rest with hk | ⟨kept, hk, -⟩
      · rw [hk]
        rfl
      · rw [hk, withSmallStart_of_not_isCapital hfirst]
    · -- the second capital is no mark and stays in its place
      have hp2 : p second = false := eq_false_of_isMarked hp (isMarked_of_isCapital hsecond)
      have hk : trimEndBy p (first :: second :: more) = first :: second :: trimEndBy p more :=
        trimEndBy_append_cons hp2 [first] more
      rw [he, hk, withSmallStart_of_acronym hsecond]
    · rw [he]
      rcases smallForm_cons with hs | ⟨d, more, hs, hd⟩
      · rw [hs, List.singleton_append]
        rcases hfront first rest with hk | ⟨kept, hk, tail, rfl⟩
        · rw [hk]
          rfl
        · have hkept : ∀ c ∈ kept.head?, isCapital c = false := fun c hc =>
            hrest c (List.mem_head?_append_of_mem_head? hc)
          rw [hk, withSmallStart_of_isCapital hfirst hkept, hs]
          rfl
      · rw [hs, List.cons_append]
        rcases hfront d (more ++ rest) with hk | ⟨kept, hk, -⟩
        · rw [hk]
          rfl
        · rw [hk, withSmallStart_of_not_isCapital hd]

/-! ### What cleaning leaves -/

/-- What is cut off the end of a text. -/
def isFinal (c : Char) : Bool := isTrailingMark c || isBlank c

theorem isMarked_of_isFinal (c : Char) (h : isFinal c = true) : isMarked c = true := by
  rcases Bool.or_eq_true_iff.mp h with h | h
  · simp only [isMarked, h, Bool.or_true]
  · simp only [isMarked, h, Bool.true_or]

/-- The last steps, once there is no markup left and nothing around the text. -/
def polished (text : List Char) : List Char :=
  trimStartBy isBlank (trimEndBy isFinal (withSmallStart text))

theorem cleanedAtLength_eq (text : List Char) :
    cleanedAtLength text = polished (trim (trimBy isQuotationMark
      (trim ((withoutMarkup (trim text)).filter (!isMarkupBracket ·))))) := rfl

theorem polished_sublist (text : List Char) : (polished text).Sublist (withSmallStart text) :=
  (List.dropWhile_sublist isBlank).trans (trimEndBy_isPrefix isFinal _).sublist

/-- A text as cleaning leaves it, before it is cut to a length. -/
structure Finished (text : List Char) : Prop where
  unmarked : IsUnmarked text
  first : ∀ c ∈ text.head?, isBlank c = false
  last : ∀ c ∈ text.getLast?, isFinal c = false
  small : withSmallStart text = text

theorem Finished.neitherEnd {text : List Char} (h : Finished text) : NeitherEnd isBlank text where
  first := h.first
  last := fun c hc => (Bool.or_eq_false_iff.mp (h.last c hc)).2

theorem finished_polished {text : List Char} (hunmarked : IsUnmarked text)
    (h : NeitherEnd isBlank text) : Finished (polished text) := by
  have hfront := trimEndBy_isPrefix isFinal (withSmallStart text)
  have hfirst : ∀ c ∈ (trimEndBy isFinal (withSmallStart text)).head?, isBlank c = false := by
    intro c hc
    obtain ⟨tail, htail⟩ := hfront
    have hsmall : c ∈ (withSmallStart text).head? :=
      htail ▸ List.mem_head?_append_of_mem_head? hc
    rcases head_withSmallStart hsmall with hc | hc
    · exact h.first c hc
    · exact eq_false_of_isMarked isMarked_of_isBlank hc
  rw [polished, (trimStartBy_eq_self_iff isBlank _).mpr hfirst]
  exact {
    unmarked := by
      intro c hc
      rcases mem_withSmallStart (hfront.subset hc) with hc | hc
      · exact hunmarked c hc
      · exact eq_false_of_isMarked isMarked_of_isMarkupBracket hc
    first := hfirst
    last := fun c hc => not_of_mem_getLast?_trimEndBy hc
    small := withSmallStart_trimEndBy isMarked_of_isFinal text }

theorem finished_cleanedAtLength (text : List Char) : Finished (cleanedAtLength text) := by
  rw [cleanedAtLength_eq]
  apply finished_polished
  · intro c hc
    have hplain := (trimBy_sublist _ _).subset
      ((trimBy_sublist _ _).subset ((trimBy_sublist _ _).subset hc))
    simpa using (List.mem_filter.mp hplain).2
  · exact neitherEnd_trimBy isBlank _

theorem cleanedAtLength_of_isUnmarked {text : List Char} (hunmarked : IsUnmarked text)
    (h : NeitherEnd isBlank text) :
    cleanedAtLength text = polished (trim (trimBy isQuotationMark text)) := by
  have htrim : trim text = text := (trimBy_eq_self_iff isBlank text).mpr h
  have hplain : text.filter (!isMarkupBracket ·) = text :=
    List.filter_eq_self.mpr fun c hc => by rw [hunmarked c hc]; rfl
  rw [cleanedAtLength_eq, htrim, withoutMarkup_of_isUnmarked hunmarked, hplain, htrim]

theorem Finished.cleanedAtLength_eq_self {text : List Char} (h : Finished text)
    (hquotes : NeitherEnd isQuotationMark text) : cleanedAtLength text = text := by
  rw [cleanedAtLength_of_isUnmarked h.unmarked h.neitherEnd,
    (trimBy_eq_self_iff isQuotationMark text).mpr hquotes, trim,
    (trimBy_eq_self_iff isBlank text).mpr h.neitherEnd, polished, h.small,
    (trimEndBy_eq_self_iff isFinal text).mpr h.last,
    (trimStartBy_eq_self_iff isBlank text).mpr h.first]

/-- Cleaning takes quotation marks away from the ends, and puts none in. -/
theorem Finished.countP_cleanedAtLength_lt {text : List Char} (h : Finished text)
    (hquotes : ¬ NeitherEnd isQuotationMark text) :
    (cleanedAtLength text).countP isQuotationMark < text.countP isQuotationMark := by
  rw [cleanedAtLength_of_isUnmarked h.unmarked h.neitherEnd]
  calc (polished (trim (trimBy isQuotationMark text))).countP isQuotationMark
      ≤ (withSmallStart (trim (trimBy isQuotationMark text))).countP isQuotationMark :=
        (polished_sublist _).countP_le
    _ ≤ (trim (trimBy isQuotationMark text)).countP isQuotationMark :=
        countP_withSmallStart_le isMarked_of_isQuotationMark _
    _ ≤ (trimBy isQuotationMark text).countP isQuotationMark := (trimBy_sublist _ _).countP_le
    _ < text.countP isQuotationMark := countP_trimBy_lt hquotes

/-- A text that ends in a full stop does not get longer. -/
theorem length_cleanedAtLength_le {text : List Char} (hunmarked : IsUnmarked (text ++ ['.']))
    (h : NeitherEnd isBlank (text ++ ['.'])) :
    (cleanedAtLength (text ++ ['.'])).length ≤ text.length + 1 := by
  have hcapital : isCapital '.' = false := by decide +kernel
  obtain ⟨front, hfront, hlength⟩ := withSmallStart_concat hcapital
    (trimStartBy isBlank (trimStartBy isQuotationMark text))
  have hinner := (length_trimStartBy_le isBlank (trimStartBy isQuotationMark text)).trans
    (length_trimStartBy_le isQuotationMark text)
  have hend := (length_trimStartBy_le isBlank (trimEndBy isFinal front)).trans
    (length_trimEndBy_le isFinal front)
  rw [cleanedAtLength_of_isUnmarked hunmarked h, trimBy_concat (by decide), trim,
    trimBy_concat (by decide), polished, hfront, trimEndBy_append_of_pos _ _ (by decide)]
  omega

theorem cleaned_trimmed (text : String) (maxLength : Nat) :
    cleaned (trimmed text) maxLength = cleaned text maxLength := by
  have htrim : trim (trimmed text).toList = trim text.toList := by
    simp only [trimmed, String.toList_ofList, trim, trimBy_trimBy]
  simp only [cleaned, cleanedAtLength, htrim]

/-! ### Cut texts -/

theorem cleaned_eq_cleaned {a b : Nat} {text : String}
    (h : a = b ∨ (cleanedAtLength text.toList).length ≤ min a b) :
    cleaned text a = cleaned text b := by
  rcases h with rfl | h
  · rfl
  · rw [cleaned, cleaned, shortened, if_pos (by omega), shortened, if_pos (by omega)]

theorem countP_shortened_le (maxLength : Nat) (text : List Char) :
    (shortened maxLength text).countP isQuotationMark ≤ text.countP isQuotationMark := by
  unfold shortened
  split
  · exact Nat.le_refl _
  · have hnone : ellipsis.countP isQuotationMark = 0 := by decide
    rw [List.countP_append, hnone, Nat.add_zero]
    exact ((trimEndBy_isPrefix isBlank _).trans (List.take_prefix _ text)).sublist.countP_le

theorem isQuotationMark_lowerChar (c : Char) :
    isQuotationMark (lowerChar c) = isQuotationMark c := by
  rw [Bool.eq_iff_iff]
  simp (disch := decide) only [isQuotationMark, List.contains_iff_mem, List.mem_cons,
    lowerChar_eq_iff, List.not_mem_nil]

theorem countP_map_lowerChar (text : List Char) :
    (text.map lowerChar).countP isQuotationMark = text.countP isQuotationMark := by
  have hp : isQuotationMark ∘ lowerChar = isQuotationMark := funext isQuotationMark_lowerChar
  rw [List.countP_map, hp]

namespace Finished

variable {text : List Char} {maxLength : Nat}

theorem exists_cut (h : Finished text) (hlong : maxLength < text.length) :
    ∃ kept, shortened maxLength text = kept ++ ['.', '.'] ++ ['.'] ∧
      kept.length ≤ maxLength - 3 ∧ IsUnmarked (kept ++ ['.', '.'] ++ ['.']) ∧
      NeitherEnd isBlank (kept ++ ['.', '.'] ++ ['.']) := by
  have hfront : trimEndBy isBlank (text.take (maxLength - 3)) <+: text :=
    (trimEndBy_isPrefix isBlank _).trans (List.take_prefix _ text)
  have hcut : shortened maxLength text =
      trimEndBy isBlank (text.take (maxLength - 3)) ++ ['.', '.'] ++ ['.'] := by
    rw [shortened, if_neg (Nat.not_le.mpr hlong), List.append_assoc]
    rfl
  refine ⟨_, hcut, (length_trimEndBy_le isBlank _).trans (List.length_take_le _ text), ?_, ?_, ?_⟩
  · intro c hc
    rw [List.append_assoc, List.mem_append] at hc
    rcases hc with hc | hc
    · exact h.unmarked c (hfront.subset hc)
    · obtain rfl : c = '.' := by simpa using hc
      decide
  · intro c hc
    generalize trimEndBy isBlank (text.take (maxLength - 3)) = kept at hfront hc
    cases kept with
    | nil =>
      obtain rfl : '.' = c := Option.some.inj hc
      decide
    | cons d more =>
      obtain ⟨tail, rfl⟩ := hfront
      exact h.first c hc
  · intro c hc
    rw [List.getLast?_concat] at hc
    obtain rfl : '.' = c := Option.some.inj hc
    decide

theorem length_cleanedAtLength_cut_le (h : Finished text) (hlong : maxLength < text.length) :
    (cleanedAtLength (shortened maxLength text)).length ≤ maxLength := by
  obtain ⟨kept, hcut, hlength, hunmarked, hends⟩ := h.exists_cut hlong
  rw [hcut]
  by_cases hroom : 3 ≤ maxLength
  · have hle := length_cleanedAtLength_le hunmarked hends
    simp only [List.length_append, List.length_cons, List.length_nil] at hle
    omega
  · -- the length leaves no room for the ellipsis, which stands there all the same
    obtain rfl : kept = [] := List.length_eq_zero_iff.mp (by omega)
    have hnothing : cleanedAtLength ([] ++ ['.', '.'] ++ ['.']) = [] := by decide +kernel
    rw [hnothing]
    exact Nat.zero_le _

theorem shortened_again (h : Finished text) (hlength : text.length ≤ maxLength)
    (hquotes : NeitherEnd isQuotationMark text) :
    shortened maxLength (cleanedAtLength (shortened maxLength text)) =
      shortened maxLength text := by
  have hshort : shortened maxLength text = text := if_pos hlength
  rw [hshort, h.cleanedAtLength_eq_self hquotes, hshort]

theorem shortened_differs_of_quotes (h : Finished text) (hlength : text.length ≤ maxLength)
    (hquotes : ¬ NeitherEnd isQuotationMark text) :
    (shortened maxLength (cleanedAtLength (shortened maxLength text))).map lowerChar ≠
      (shortened maxLength text).map lowerChar := by
  rw [show shortened maxLength text = text from if_pos hlength]
  intro heq
  have hcount := congrArg (List.countP isQuotationMark) heq
  rw [countP_map_lowerChar, countP_map_lowerChar] at hcount
  have hle := countP_shortened_le maxLength (cleanedAtLength text)
  have hlt := h.countP_cleanedAtLength_lt hquotes
  omega

theorem shortened_differs_of_cut (h : Finished text) (hlong : maxLength < text.length) :
    (shortened maxLength (cleanedAtLength (shortened maxLength text))).map lowerChar ≠
      (shortened maxLength text).map lowerChar := by
  have hfits : shortened maxLength (cleanedAtLength (shortened maxLength text)) =
      cleanedAtLength (shortened maxLength text) :=
    if_pos (h.length_cleanedAtLength_cut_le hlong)
  obtain ⟨kept, hcut, -⟩ := h.exists_cut hlong
  rw [hfits, hcut]
  intro heq
  -- a text that is not cut does not end in a full stop
  have hlast := congrArg List.getLast? heq
  rw [List.map_append, List.map_singleton, List.getLast?_concat, List.getLast?_map] at hlast
  obtain ⟨c, hc, hdot⟩ := Option.map_eq_some_iff.mp hlast
  have hperiod : lowerChar '.' = '.' := by decide
  rw [hperiod, lowerChar_eq_iff (by decide)] at hdot
  subst hdot
  have hfinal : isFinal '.' = false := (finished_cleanedAtLength _).last '.' hc
  exact absurd hfinal (by decide)

end Finished

/-! ### Cleaning again -/

/-- The cleaned text has room, and no quotation mark stands at its ends. -/
structure StaysClean (text : String) (maxLength : Nat) : Prop where
  fits : (cleanedAtLength text.toList).length ≤ maxLength
  unquoted : NeitherEnd isQuotationMark (cleanedAtLength text.toList)

theorem toList_cleaned_cleaned (text : String) (maxLength : Nat) :
    (cleaned (cleaned text maxLength) maxLength).toList =
      shortened maxLength
        (cleanedAtLength (shortened maxLength (cleanedAtLength text.toList))) := by
  simp only [cleaned, String.toList_ofList]

theorem cleaned_cleaned_of_staysClean {text : String} {maxLength : Nat}
    (h : StaysClean text maxLength) :
    cleaned (cleaned text maxLength) maxLength = cleaned text maxLength := by
  apply String.toList_injective
  rw [toList_cleaned_cleaned, cleaned, String.toList_ofList]
  exact (finished_cleanedAtLength _).shortened_again h.fits h.unquoted

theorem sameIgnoringCase_cleaned_cleaned_iff (text : String) (maxLength : Nat) :
    sameIgnoringCase (cleaned text maxLength) (cleaned (cleaned text maxLength) maxLength) = true ↔
      StaysClean text maxLength := by
  constructor
  · intro h
    rw [sameIgnoringCase, beq_iff_eq, toList_cleaned_cleaned, cleaned, String.toList_ofList] at h
    have hfinished := finished_cleanedAtLength text.toList
    have hfits : (cleanedAtLength text.toList).length ≤ maxLength := by
      by_contra hlong
      exact hfinished.shortened_differs_of_cut (Nat.lt_of_not_le hlong) h.symm
    refine ⟨hfits, ?_⟩
    by_contra hquotes
    exact hfinished.shortened_differs_of_quotes hfits hquotes h.symm
  · intro h
    rw [cleaned_cleaned_of_staysClean h, sameIgnoringCase_iff]

end ReplyActions.Text
