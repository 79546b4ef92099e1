import ReplyActions.Proofs.Text.Canonical
import ReplyActions.Proofs.Token.Standing

/-!
# When stripping takes something out

Stripping takes something out of a text exactly if the text holds a token, and then the text gets
shorter.
-/

namespace ReplyActions.Token

/-- Something has been taken out only if there was a token, and the text has got shorter by it. -/
theorem removed_holdsToken (source rest : List Char)
    (h : (Scan.start.readAll source rest).removed = true) :
    HoldsToken source ∧ (Scan.start.readAll source rest).out.length < source.length := by
  let p : List Char → Scan → List Char → Prop := fun source s rest =>
    Standing s.frames source s.out rest ∧
      (s.removed = true → HoldsToken source ∧ s.out.length < source.length)
  have step : ∀ source s c rest, p source s (c :: rest) →
      p (source ++ [c]) (s.read c rest) rest := by
    rintro source s c rest ⟨hs, hp⟩
    refine ⟨standing_read hs, ?_⟩
    have grow : s.removed = true → HoldsToken (source ++ [c]) ∧
        s.out.length + 1 < (source ++ [c]).length := fun hr =>
      ⟨HoldsToken.mono (hp hr).1 List.infix_append_left, by simpa using (hp hr).2⟩
    rcases s.read_cases c rest with ⟨-, hr⟩ | ⟨-, hr⟩ | ⟨rfl, before, outer, hf, hr⟩ | ⟨-, -, hr⟩
    · rwa [hr]
    · rwa [hr]
    · rw [hf] at hs
      obtain ⟨front, nest, hn, ht, -, ho⟩ := hs.clean_token
      intro _
      rw [hr, hn]
      refine ⟨HoldsToken.mono ht.holdsToken List.infix_append_right, ?_⟩
      have hb := ho.length_le
      have hk := (keptBefore_suffix before rest).length_le
      obtain ⟨inside, rfl, -⟩ := ht
      simp only [List.length_append, List.length_cons, List.length_nil]
      omega
    · rwa [hr]
  have hstart : p [] Scan.start (source ++ rest) :=
    ⟨.base (by decide) (Nat.le_refl 0), fun h => by contradiction⟩
  exact (Scan.readAll_invariant step hstart).2 h

theorem removed_of_holdsToken {text : List Char} (h : HoldsToken text) :
    (Scan.finish text).removed = true := by
  obtain ⟨token, ht, before, after, rfl⟩ := h
  rw [Scan.finish, Scan.readAll_append, Scan.readAll_append]
  refine Scan.removed_readAll ?_ _ _
  rw [Scan.readAll_nest (isNest_of_isToken ht)]

theorem removed_iff (text : List Char) :
    (Scan.finish text).removed = true ↔ HoldsToken text :=
  ⟨fun h => (removed_holdsToken text [] h).1, removed_of_holdsToken⟩

theorem hasOpener_of_holdsToken {text : List Char} (h : HoldsToken text) :
    hasOpener text = true := by
  obtain ⟨token, ht, before, after, rfl⟩ := h
  obtain ⟨inside, rfl, hk, -⟩ := (isToken_iff token).mp ht
  have hs : '[' :: (inside ++ ']' :: after) <:+ before ++ ('[' :: inside ++ [']']) ++ after :=
    ⟨before, by simp⟩
  refine hasOpener_of_suffix hs ?_
  rwa [startsWithKeyword_append_bracket _ _ (by decide)]

/-! ### The stripped text -/

theorem strip_of_not_holdsToken {text : List Char} (h : ¬ HoldsToken text) : strip text = text := by
  have hr : (Scan.finish text).removed = false := by
    rw [← Bool.not_eq_true, removed_iff]
    exact h
  simp only [strip, stripped?, Scan.stripFrom_start, hr, ite_self, Option.getD_none]

theorem strip_of_holdsToken {text : List Char} (h : HoldsToken text) :
    strip text = Text.trim (Scan.finish text).out.reverse := by
  simp only [strip, stripped?, Scan.stripFrom_start, removed_of_holdsToken h,
    hasOpener_of_holdsToken h, if_true, Option.getD_some]

theorem isBlank_of_isBracket {c : Char} (h : isBracket c = true) : Text.isBlank c = false := by
  rcases (isBracket_eq_true_iff c).mp h with rfl | rfl <;> decide

theorem holdsToken_trim_iff (text : List Char) : HoldsToken (Text.trim text) ↔ HoldsToken text := by
  constructor
  · exact fun h => HoldsToken.mono h (Text.isInfix_trim text)
  · rintro ⟨token, ht, before, after, rfl⟩
    refine ⟨token, ht, ?_⟩
    obtain ⟨inside, rfl, -, -⟩ := (isToken_iff token).mp ht
    have hstart : Text.trimStartBy Text.isBlank (before ++ ('[' :: inside ++ [']']) ++ after) =
        before.dropWhile Text.isBlank ++ '[' :: (inside ++ ']' :: after) := by
      rw [Text.trimStartBy, ← dropWhile_append_neg (isBlank_of_isBracket (by decide))]
      simp
    rw [Text.trim, Text.trimBy, hstart, Text.trimEndBy, ← List.reverse_infix, List.reverse_reverse]
    have hend : (before.dropWhile Text.isBlank ++ '[' :: (inside ++ ']' :: after)).reverse =
        after.reverse ++ ']' ::
          (inside.reverse ++ '[' :: (before.dropWhile Text.isBlank).reverse) := by
      simp
    rw [hend, dropWhile_append_neg (isBlank_of_isBracket (by decide))]
    exact ⟨after.reverse.dropWhile Text.isBlank, (before.dropWhile Text.isBlank).reverse, by simp⟩

theorem length_strip_lt {text : List Char} (h : HoldsToken text) :
    (strip text).length < text.length := by
  rw [strip_of_holdsToken h]
  have ht := (Text.isInfix_trim (Scan.finish text).out.reverse).length_le
  have hr := (removed_holdsToken text [] (removed_of_holdsToken h)).2
  rw [List.length_reverse] at ht
  exact Nat.lt_of_le_of_lt ht hr

end ReplyActions.Token
