import ReplyActions.Proofs.Token.Scan

/-!
# Nests

A nest is an opener with its closing bracket where every bracket in between belongs to a nest
again. Nests are what stripping takes out. What is left of a text that holds no brackets but those
of nests depends on the character behind each nest, which decides about the gap in front of it.
-/

namespace ReplyActions.Token

inductive Nested : List Char → Prop where
  | nil : Nested []
  | char {text : List Char} {c : Char} (h : Nested text) (hc : isBracket c = false) :
    Nested (text ++ [c])
  | nest {text inside : List Char} (h : Nested text) (hi : Nested inside)
    (hk : startsWithKeyword inside = true) : Nested (text ++ ('[' :: inside ++ [']']))

/-- An opener with its closing bracket, and only nests inside. -/
def IsNest (text : List Char) : Prop :=
  ∃ inside, text = '[' :: inside ++ [']'] ∧ Nested inside ∧ startsWithKeyword inside = true

/-- `kept` is what is left of `source`, last character first, once its nests are taken out; `next`
is the text behind it. -/
inductive Cleared : List Char → List Char → List Char → Prop where
  | nil (next : List Char) : Cleared [] next []
  | char {source next kept : List Char} {c : Char} (h : Cleared source (c :: next) kept)
    (hc : isBracket c = false) : Cleared (source ++ [c]) next (c :: kept)
  | nest {source nest next kept : List Char} (h : Cleared source (nest ++ next) kept)
    (hn : IsNest nest) : Cleared (source ++ nest) next (keptBefore kept next)

theorem nested_of_plain {text : List Char} (h : IsPlain text) : Nested text := by
  rw [← List.reverse_reverse text] at h ⊢
  generalize text.reverse = backwards at h ⊢
  induction backwards with
  | nil => exact .nil
  | cons c more ih =>
    rw [isPlain_reverse, isPlain_cons] at h
    rw [List.reverse_cons]
    exact .char (ih (isPlain_reverse.mpr h.2)) h.1

theorem isNest_of_isToken {token : List Char} (h : IsToken token) : IsNest token := by
  obtain ⟨inside, rfl, hk, hp⟩ := (isToken_iff token).mp h
  exact ⟨inside, rfl, nested_of_plain hp, hk⟩

theorem Nested.isPlain_or_holdsToken {text : List Char} (h : Nested text) :
    IsPlain text ∨ HoldsToken text := by
  induction h with
  | nil => exact Or.inl isPlain_nil
  | char _ hc ih =>
    rcases ih with ih | ih
    · exact Or.inl (isPlain_append.mpr ⟨ih, isPlain_cons.mpr ⟨hc, isPlain_nil⟩⟩)
    · exact Or.inr (HoldsToken.mono ih List.infix_append_left)
  | @nest text inside _ _ hk _ ih =>
    have hn : HoldsToken ('[' :: inside ++ [']']) := by
      rcases ih with ih | ih
      · exact ⟨_, (isToken_iff _).mpr ⟨inside, rfl, hk, ih⟩, List.infix_rfl⟩
      · exact HoldsToken.mono ih ⟨['['], [']'], rfl⟩
    exact Or.inr (HoldsToken.mono hn List.infix_append_right)

theorem IsNest.holdsToken {text : List Char} (h : IsNest text) : HoldsToken text := by
  obtain ⟨inside, rfl, hi, hk⟩ := h
  rcases hi.isPlain_or_holdsToken with hp | ht
  · exact ⟨_, (isToken_iff _).mpr ⟨inside, rfl, hk, hp⟩, List.infix_rfl⟩
  · exact HoldsToken.mono ht ⟨['['], [']'], rfl⟩

/-! ### Gaps -/

theorem dropWhile_append_neg {p : Char → Bool} {c : Char} (hc : p c = false)
    (a rest : List Char) : (a ++ c :: rest).dropWhile p = a.dropWhile p ++ c :: rest := by
  induction a with
  | nil => simp [hc]
  | cons d more ih =>
    cases h : p d with
    | false => simp [h]
    | true => simpa [h] using ih

theorem suffix_dropWhile {p : Char → Bool} {c : Char} (hc : p c = false)
    {rest text : List Char} (h : c :: rest <:+ text) : c :: rest <:+ text.dropWhile p := by
  obtain ⟨a, rfl⟩ := h
  rw [dropWhile_append_neg hc]
  exact List.suffix_append ..

theorem isGap_of_isBracket {c : Char} (h : isBracket c = true) : isGap c = false := by
  rcases (isBracket_eq_true_iff c).mp h with rfl | rfl <;> decide

theorem keptBefore_append {c : Char} (hc : isBracket c = true) (kept before next : List Char) :
    keptBefore (kept ++ c :: before) next = keptBefore kept next ++ c :: before := by
  simp only [keptBefore]
  split
  · rfl
  · exact dropWhile_append_neg (isGap_of_isBracket hc) kept before

theorem keptBefore_suffix (before next : List Char) : keptBefore before next <:+ before := by
  simp only [keptBefore]
  split
  · exact List.suffix_rfl
  · exact List.dropWhile_suffix _

theorem suffix_keptBefore {c : Char} (hc : isBracket c = true) {rest before : List Char}
    (h : c :: rest <:+ before) (next : List Char) : c :: rest <:+ keptBefore before next := by
  simp only [keptBefore]
  split
  · exact h
  · exact suffix_dropWhile (isGap_of_isBracket hc) h

theorem Cleared.nested {source next kept : List Char} (h : Cleared source next kept) :
    Nested source := by
  induction h with
  | nil => exact .nil
  | char _ hc ih => exact .char ih hc
  | nest _ hn ih =>
    obtain ⟨inside, rfl, hi, hk⟩ := hn
    exact .nest ih hi hk

theorem Cleared.isPlain {source next kept : List Char} (h : Cleared source next kept) :
    IsPlain kept := by
  induction h with
  | nil => exact isPlain_nil
  | char _ hc ih => exact isPlain_cons.mpr ⟨hc, ih⟩
  | nest _ _ ih => exact fun c hc => ih c ((keptBefore_suffix _ _).subset hc)

theorem Cleared.eq_reverse_or_holdsToken {source next kept : List Char}
    (h : Cleared source next kept) : kept = source.reverse ∨ HoldsToken source := by
  induction h with
  | nil => exact Or.inl rfl
  | char _ _ ih =>
    rcases ih with rfl | ih
    · exact Or.inl (by simp)
    · exact Or.inr (HoldsToken.mono ih List.infix_append_left)
  | nest _ hn _ => exact Or.inr (HoldsToken.mono hn.holdsToken List.infix_append_right)

/-! ### Reading nests -/

namespace Scan

/-- A nest is taken out, whatever stands around it. `hi` says what is left of its inside while it
is read. -/
theorem readAll_opener {inside next : List Char} (hk : startsWithKeyword inside = true)
    (hi : ∀ frames before removed, ∃ kept r,
      readAll ⟨frames, '[' :: before, removed⟩ inside (']' :: next) =
        ⟨frames, kept ++ '[' :: before, r⟩) (s : Scan) :
    s.readAll ('[' :: inside ++ [']']) next = ⟨s.frames, keptBefore s.out next, true⟩ := by
  have ho : opened s.out (inside ++ ']' :: next) = .token s.out true := by
    rw [opened, startsWithKeyword_append_bracket _ _ (by decide), if_pos hk]
  obtain ⟨kept, r, h⟩ := hi (.token s.out true :: s.frames) s.out s.removed
  have hr : s.readAll ('[' :: inside ++ [']']) next =
      ((s.read '[' (inside ++ ']' :: next)).readAll inside (']' :: next)).read ']' next := by
    rw [List.cons_append, readAll, readAll_append, List.append_assoc]
    rfl
  rw [hr, read_open, ho, h, read_close_token rfl]

theorem readAll_nested {text : List Char} (h : Nested text) (next : List Char) :
    ∀ frames before removed, ∃ kept r,
      readAll ⟨frames, '[' :: before, removed⟩ text next = ⟨frames, kept ++ '[' :: before, r⟩ := by
  induction h generalizing next with
  | nil => exact fun _ _ removed => ⟨[], removed, rfl⟩
  | @char text c _ hc ih =>
    intro frames before removed
    obtain ⟨kept, r, h⟩ := ih (c :: next) frames before removed
    refine ⟨c :: kept, r, ?_⟩
    rw [readAll_append, List.singleton_append, h]
    exact read_plain _ hc next
  | @nest text inside _ _ hk ih ihi =>
    intro frames before removed
    obtain ⟨kept, r, h⟩ := ih ('[' :: inside ++ [']'] ++ next) frames before removed
    refine ⟨keptBefore kept next, true, ?_⟩
    rw [readAll_append, h, readAll_opener hk (ihi (']' :: next)), keptBefore_append (by decide)]

theorem readAll_nest {nest : List Char} (h : IsNest nest) (s : Scan) (next : List Char) :
    s.readAll nest next = ⟨s.frames, keptBefore s.out next, true⟩ := by
  obtain ⟨inside, rfl, hi, hk⟩ := h
  exact readAll_opener hk (readAll_nested hi (']' :: next)) s

theorem readAll_cleared {source next kept : List Char} (h : Cleared source next kept)
    (frames : List Frame) (before : List Char) (removed : Bool) :
    ∃ r, readAll ⟨frames, '[' :: before, removed⟩ source next =
      ⟨frames, kept ++ '[' :: before, r⟩ := by
  induction h with
  | nil => exact ⟨removed, rfl⟩
  | @char source next kept c _ hc ih =>
    obtain ⟨r, h⟩ := ih
    refine ⟨r, ?_⟩
    rw [readAll_append, List.singleton_append, h]
    exact read_plain _ hc next
  | nest _ hn ih =>
    obtain ⟨r, h⟩ := ih
    refine ⟨true, ?_⟩
    rw [readAll_append, h, readAll_nest hn, keptBefore_append (by decide)]

end Scan

end ReplyActions.Token
