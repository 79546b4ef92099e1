import ReplyActions.Proofs.Text.Cleanup

/-!
# What a cleaned text looks like

A cleaned text fits its length, holds no bracket of markup, and begins and ends with no blank. If it
has not been cut, it does not end in a punctuation mark either; if it has been, it is the beginning
of what was too long, without the blanks at the cut, and an ellipsis.
-/

namespace ReplyActions.Text

theorem exists_trimEndBy_append (p : Char → Bool) (text : List Char) :
    ∃ rest, trimEndBy p text ++ rest = text ∧ ∀ c ∈ rest, p c = true := by
  refine ⟨(text.reverse.takeWhile p).reverse, ?_, fun c hc => ?_⟩
  · rw [trimEndBy, ← List.reverse_append, List.takeWhile_append_dropWhile, List.reverse_reverse]
  · exact List.mem_takeWhile_imp (List.mem_reverse.mp hc)

theorem IsUnmarked.notMem {text : List Char} (h : IsUnmarked text) :
    '<' ∉ text ∧ '>' ∉ text ∧ '[' ∉ text ∧ ']' ∉ text := by
  have hnot : ∀ c, isMarkupBracket c = true → c ∉ text := by
    intro c hc hm
    rw [h c hm] at hc
    contradiction
  exact ⟨hnot '<' rfl, hnot '>' rfl, hnot '[' rfl, hnot ']' rfl⟩

/-- What is left of a text that is too long. -/
theorem exists_shortened {maxLength : Nat} {text : List Char} (hlong : maxLength < text.length) :
    ∃ kept blanks, kept ++ blanks = text.take (maxLength - 3) ∧
      (∀ c ∈ blanks, isBlank c = true) ∧ shortened maxLength text = kept ++ ellipsis := by
  obtain ⟨blanks, hall, hblanks⟩ := exists_trimEndBy_append isBlank (text.take (maxLength - 3))
  exact ⟨_, blanks, hall, hblanks, if_neg (Nat.not_le.mpr hlong)⟩

namespace Finished

variable {text : List Char} {maxLength : Nat}

theorem shortened_presentable (h : Finished text) (maxLength : Nat) :
    IsUnmarked (shortened maxLength text) ∧ NeitherEnd isBlank (shortened maxLength text) := by
  by_cases hfits : text.length ≤ maxLength
  · rw [show shortened maxLength text = text from if_pos hfits]
    exact ⟨h.unmarked, h.neitherEnd⟩
  · obtain ⟨kept, hcut, -, hunmarked, hends⟩ := h.exists_cut (Nat.lt_of_not_le hfits)
    rw [hcut]
    exact ⟨hunmarked, hends⟩

theorem length_shortened_le (h : Finished text) (hroom : 3 ≤ maxLength) :
    (shortened maxLength text).length ≤ maxLength := by
  by_cases hfits : text.length ≤ maxLength
  · rw [show shortened maxLength text = text from if_pos hfits]
    exact hfits
  · obtain ⟨kept, hcut, hlength, -⟩ := h.exists_cut (Nat.lt_of_not_le hfits)
    rw [hcut]
    simp only [List.length_append, List.length_cons, List.length_nil]
    omega

end Finished

theorem trimmed_cleaned (text : String) (maxLength : Nat) :
    trimmed (cleaned text maxLength) = cleaned text maxLength := by
  have hends := ((finished_cleanedAtLength text.toList).shortened_presentable maxLength).2
  rw [trimmed, cleaned, String.toList_ofList, trim, (trimBy_eq_self_iff isBlank _).mpr hends]

/-- A cleaned text fits its length, holds no bracket of markup and has no blank at its ends. It ends
in no punctuation mark, unless it had to be cut: then it is all that has room in front of an
ellipsis, but for the blanks at the end of that. -/
theorem cleaned_is_presentable (text : String) (maxLength : Nat) (hroom : 4 ≤ maxLength) :
    let whole := cleanedAtLength text.toList
    let shown := (cleaned text maxLength).toList
    shown.length ≤ maxLength ∧
      ('<' ∉ shown ∧ '>' ∉ shown ∧ '[' ∉ shown ∧ ']' ∉ shown) ∧
      NeitherEnd isBlank shown ∧
      (whole.length ≤ maxLength →
        shown = whole ∧ ∀ c ∈ shown.getLast?, isTrailingMark c = false) ∧
      (maxLength < whole.length →
        ∃ kept blanks, kept ++ blanks = whole.take (maxLength - 3) ∧
          (∀ c ∈ blanks, isBlank c = true) ∧ shown = kept ++ ellipsis) := by
  intro whole shown
  have hfinished : Finished whole := finished_cleanedAtLength text.toList
  have hshown : shown = shortened maxLength whole := String.toList_ofList
  clear_value whole shown
  subst hshown
  obtain ⟨hunmarked, hends⟩ := hfinished.shortened_presentable maxLength
  refine ⟨hfinished.length_shortened_le (Nat.le_of_succ_le hroom), hunmarked.notMem, hends,
    fun hfits => ?_, exists_shortened⟩
  rw [show shortened maxLength whole = whole from if_pos hfits]
  exact ⟨rfl, fun c hc => (Bool.or_eq_false_iff.mp (hfinished.last c hc)).1⟩

/-- The cut falls on a blank behind a comma; with more room nothing is cut. -/
theorem cleaned_is_presentable_greeting :
    let text := " “Hello, [b]big <i>world!” "
    4 ≤ 10 ∧ cleaned text 10 = "hello,..." ∧ 4 ≤ 80 ∧ cleaned text 80 = "hello, big world" ∧
      NeitherEnd isBlank (cleaned text 10).toList ∧
      (∃ kept blanks, kept ++ blanks = "hello, ".toList ∧ (∀ c ∈ blanks, isBlank c = true) ∧
        (cleaned text 10).toList = kept ++ ellipsis) ∧
      ∀ c ∈ (cleaned text 80).toList.getLast?, isTrailingMark c = false := by
  intro text
  have hten : (4 : Nat) ≤ 10 := by decide
  have heighty : (4 : Nat) ≤ 80 := by decide
  have hwhole : cleanedAtLength text.toList = "hello, big world".toList := by decide +kernel
  have hcut : cleaned text 10 = "hello,..." := by decide +kernel
  have huncut : cleaned text 80 = "hello, big world" := by decide +kernel
  obtain ⟨-, -, hends, -, hshort⟩ := cleaned_is_presentable text 10 hten
  obtain ⟨-, -, -, hlong, -⟩ := cleaned_is_presentable text 80 heighty
  rw [hwhole] at hshort hlong
  exact ⟨hten, hcut, heighty, huncut, hends, hshort (by decide), (hlong (by decide)).2⟩

end ReplyActions.Text
