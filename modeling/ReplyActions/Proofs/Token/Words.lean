import Mathlib.Data.List.DropRight
import ReplyActions.Proofs.Token.Stripped

/-!
# Words on either side of tokens

A word, a gap, tokens one after the other, and another word. Each token that is taken out decides
by itself whether the gap in front of it goes too, and looks no farther than the next character. A
single token sees the word behind it and leaves the gap. Of several tokens the first one sees a
bracket and takes the gap along, and the words are glued together.
-/

namespace ReplyActions.Token

/-- A text that ends in a word, a gap, tokens, and a text that begins with a word. -/
structure Between (left gap : List Char) (tokens : List (List Char)) (right : List Char) :
    Prop where
  left_plain : IsPlain left
  left_word : ∃ front c, left = front ++ [c] ∧ Text.isAlphanumeric c = true
  gap_ne : gap ≠ []
  gap_gap : ∀ c ∈ gap, isGap c = true
  tokens_ne : tokens ≠ []
  tokens_token : ∀ token ∈ tokens, IsToken token
  right_plain : IsPlain right
  right_word : wordFollows right = true

/-- Stripping the text leaves white space between the two, each of which loses no more than the
white space at the end of the text. -/
def KeepsApart (left right text : List Char) : Prop :=
  ∃ space, space ≠ [] ∧ (∀ c ∈ space, Text.isBlank c = true) ∧
    strip text = Text.trimStartBy Text.isBlank left ++ space ++ Text.trimEndBy Text.isBlank right

/-! ### Blanks and words -/

/-- All blank characters, by code point. -/
def blanks : List Nat :=
  [9, 10, 11, 12, 13, 0x20, 0x85, 0xA0, 0x1680, 0x2000, 0x2001, 0x2002, 0x2003, 0x2004, 0x2005,
    0x2006, 0x2007, 0x2008, 0x2009, 0x200A, 0x2028, 0x2029, 0x202F, 0x205F, 0x3000]

theorem mem_blanks {c : Char} (h : Text.isBlank c = true) : c.toNat ∈ blanks := by
  simp only [Text.isBlank, Bool.or_eq_true, Bool.and_eq_true, decide_eq_true_eq, beq_iff_eq] at h
  simp only [blanks, List.mem_cons, List.not_mem_nil, or_false]
  omega

theorem isBlank_of_isAlphanumeric {c : Char} (h : Text.isAlphanumeric c = true) :
    Text.isBlank c = false := by
  have hnone : (blanks.any fun n => Text.lettersAndNumerals.any fun range =>
      range.1 ≤ n && n ≤ range.2) = false := by decide +kernel
  cases hb : Text.isBlank c with
  | false => rfl
  | true =>
    have hfree := List.any_eq_false.mp hnone c.toNat (mem_blanks hb)
    exact absurd h hfree

theorem isBlank_of_isGap {c : Char} (h : isGap c = true) : Text.isBlank c = true := by
  simp only [isGap, Bool.or_eq_true, beq_iff_eq] at h
  rcases h with rfl | rfl <;> decide

theorem isGap_of_isAlphanumeric {c : Char} (h : Text.isAlphanumeric c = true) :
    isGap c = false := by
  cases hg : isGap c with
  | false => rfl
  | true =>
    have hb := isBlank_of_isGap hg
    rw [isBlank_of_isAlphanumeric h] at hb
    contradiction

/-- Where words stand at the inner ends, trimming reaches the outer ends only. -/
theorem trim_between {front back middle : List Char} {c d : Char}
    (hc : Text.isBlank c = false) (hd : Text.isBlank d = false) :
    Text.trim (front ++ [c] ++ middle ++ d :: back) =
      Text.trimStartBy Text.isBlank (front ++ [c]) ++ middle ++
        Text.trimEndBy Text.isBlank (d :: back) := by
  have hstart : Text.trimStartBy Text.isBlank (front ++ [c] ++ middle ++ d :: back) =
      front.dropWhile Text.isBlank ++ c :: (middle ++ d :: back) := by
    rw [Text.trimStartBy, ← dropWhile_append_neg hc]
    simp
  rw [Text.trim, Text.trimBy, hstart, Text.trimStartBy, dropWhile_append_neg hc, Text.trimEndBy,
    Text.trimEndBy, List.reverse_cons, List.reverse_append, List.reverse_cons, List.reverse_append,
    List.reverse_cons]
  have hend := dropWhile_append_neg hd back.reverse
    (middle.reverse ++ [c] ++ (front.dropWhile Text.isBlank).reverse)
  simp only [List.append_assoc, List.cons_append, List.nil_append] at hend ⊢
  rw [hend, dropWhile_append_neg hd]
  simp

/-! ### Tokens one after the other -/

namespace Scan

theorem readAll_plain {text : List Char} (h : IsPlain text) (s : Scan) (next : List Char) :
    s.readAll text next = ⟨s.frames, text.reverse ++ s.out, s.removed⟩ := by
  induction text generalizing s with
  | nil => rfl
  | cons c more ih =>
    obtain ⟨hc, hm⟩ := isPlain_cons.mp h
    rw [readAll, read_plain s hc, ih hm]
    simp

/-- All but the last of several nests have a bracket behind them, and take the gap along. -/
theorem readAll_nests {nests : List (List Char)} (hnests : ∀ nest ∈ nests, IsNest nest)
    (hne : nests ≠ []) (s : Scan) (next : List Char) :
    s.readAll nests.flatten next =
      ⟨s.frames, keptBefore (if nests.length = 1 then s.out else s.out.dropWhile isGap) next,
        true⟩ := by
  induction nests generalizing s with
  | nil => contradiction
  | cons nest rest ih =>
    obtain ⟨hnest, hrest⟩ := List.forall_mem_cons.mp hnests
    cases rest with
    | nil =>
      rw [List.flatten_cons, List.flatten_nil, List.append_nil, readAll_nest hnest]
      rfl
    | cons second more =>
      obtain ⟨inside, hsecond, -⟩ := hrest second List.mem_cons_self
      have hbracket : keptBefore s.out ((second :: more).flatten ++ next) =
          s.out.dropWhile isGap := by
        have hno : Text.isAlphanumeric '[' = false := by decide +kernel
        rw [List.flatten_cons, hsecond]
        exact if_neg (by simp [wordFollows, hno])
      rw [List.flatten_cons, readAll_append, readAll_nest hnest, hbracket,
        ih hrest (List.cons_ne_nil _ _)]
      simp only [List.dropWhile_idempotent, ite_self, List.length_cons, Nat.add_eq_right,
        Nat.succ_ne_zero, if_false]

end Scan

/-! ### What is left between the words -/

variable {left gap right : List Char} {tokens : List (List Char)}

/-- A single token leaves the gap, and several tokens take it along. -/
theorem Between.strip_eq (h : Between left gap tokens right) :
    strip (left ++ gap ++ tokens.flatten ++ right) =
      Text.trimStartBy Text.isBlank left ++ (if tokens.length = 1 then gap else []) ++
        Text.trimEndBy Text.isBlank right := by
  obtain ⟨front, c, rfl, hc⟩ := h.left_word
  obtain ⟨d, back, rfl⟩ : ∃ d back, right = d :: back := by
    cases hr : right with
    | nil => exact absurd (hr ▸ h.right_word) (by decide)
    | cons d back => exact ⟨d, back, rfl⟩
  have hd : Text.isAlphanumeric d = true := h.right_word
  have hholds : HoldsToken (front ++ [c] ++ gap ++ tokens.flatten ++ d :: back) := by
    obtain ⟨token, ht⟩ := List.exists_mem_of_ne_nil _ h.tokens_ne
    obtain ⟨before, after, hsplit⟩ := List.append_of_mem ht
    refine ⟨token, h.tokens_token token ht,
      front ++ [c] ++ gap ++ before.flatten, after.flatten ++ d :: back, ?_⟩
    simp [hsplit]
  have hgap : IsPlain gap := fun a ha => by
    cases hb : isBracket a with
    | false => rfl
    | true => exact absurd (h.gap_gap a ha) (by simp [isGap_of_isBracket hb])
  have hout : (Scan.finish (front ++ [c] ++ gap ++ tokens.flatten ++ d :: back)).out.reverse =
      front ++ [c] ++ (if tokens.length = 1 then gap else []) ++ d :: back := by
    rw [Scan.finish, Scan.readAll_append, Scan.readAll_append,
      Scan.readAll_plain (isPlain_append.mpr ⟨h.left_plain, hgap⟩),
      Scan.readAll_nests (fun token ht => isNest_of_isToken (h.tokens_token token ht)) h.tokens_ne,
      Scan.readAll_plain h.right_plain]
    have hkept : ∀ before, keptBefore before (d :: back ++ []) = before := fun before =>
      if_pos hd
    rw [hkept]
    split
    · simp [Scan.start]
    · have hdrop : (gap.reverse ++ c :: front.reverse).dropWhile isGap = c :: front.reverse := by
        rw [dropWhile_append_neg (isGap_of_isAlphanumeric hc),
          List.dropWhile_eq_nil_iff.mpr fun a ha => h.gap_gap a (List.mem_reverse.mp ha)]
        rfl
      simp [Scan.start, hdrop]
  rw [strip_of_holdsToken hholds, hout]
  exact trim_between (isBlank_of_isAlphanumeric hc) (isBlank_of_isAlphanumeric hd)

/-- The words stay apart exactly if there is a single token between them. -/
theorem keepsApart_iff (h : Between left gap tokens right) :
    KeepsApart left right (left ++ gap ++ tokens.flatten ++ right) ↔ tokens.length = 1 := by
  constructor
  · rintro ⟨space, hne, -, hs⟩
    rw [h.strip_eq, List.append_left_inj, List.append_right_inj] at hs
    split at hs
    · assumption
    · exact absurd hs.symm hne
  · intro hone
    refine ⟨gap, h.gap_ne, fun c hc => isBlank_of_isGap (h.gap_gap c hc), ?_⟩
    rw [h.strip_eq, if_pos hone]

theorem isPlain_iff_all (text : List Char) :
    IsPlain text ↔ text.all (fun c => !isBracket c) = true := by
  simp only [IsPlain, List.all_eq_true, Bool.not_eq_true']

instance (text : List Char) : Decidable (IsPlain text) :=
  decidable_of_iff _ (isPlain_iff_all text).symm

theorem keepsApart_around_token :
    Between "Take this".toList [' '] ["[ACTION:GIVE_ITEM:steel]".toList] "sword now".toList ∧
      KeepsApart "Take this".toList "sword now".toList
        "Take this [ACTION:GIVE_ITEM:steel]sword now".toList := by
  have h : Between "Take this".toList [' '] ["[ACTION:GIVE_ITEM:steel]".toList]
      "sword now".toList := {
    left_plain := by decide
    left_word := ⟨"Take thi".toList, 's', rfl, by decide +kernel⟩
    gap_ne := List.cons_ne_nil _ _
    gap_gap := List.forall_mem_singleton.mpr (by decide)
    tokens_ne := List.cons_ne_nil _ _
    tokens_token := fun token ht => List.mem_singleton.mp ht ▸ (isToken_iff _).mpr
      ⟨"ACTION:GIVE_ITEM:steel".toList, rfl, by decide, by decide⟩
    right_plain := by decide
    right_word := by decide +kernel }
  exact ⟨h, (keepsApart_iff h).mpr rfl⟩

/-- The first of two tokens takes the gap along, and the second one finds none to leave. -/
theorem two_tokens_glue_words :
    Between ['a'] [' '] ["[ACTION:X]".toList, "[ACTION:Y]".toList] ['b'] ∧
      strip "a [ACTION:X][ACTION:Y]b".toList = "ab".toList ∧
      ¬ KeepsApart ['a'] ['b'] "a [ACTION:X][ACTION:Y]b".toList := by
  have hglued : strip "a [ACTION:X][ACTION:Y]b".toList = "ab".toList := by decide +kernel
  have hbetween : Between ['a'] [' '] ["[ACTION:X]".toList, "[ACTION:Y]".toList] ['b'] := {
    left_plain := by decide
    left_word := ⟨[], 'a', rfl, by decide +kernel⟩
    gap_ne := List.cons_ne_nil _ _
    gap_gap := List.forall_mem_singleton.mpr (by decide)
    tokens_ne := List.cons_ne_nil _ _
    tokens_token := by
      intro token ht
      rcases List.mem_pair.mp ht with rfl | rfl
      · exact (isToken_iff _).mpr ⟨"ACTION:X".toList, rfl, by decide, by decide⟩
      · exact (isToken_iff _).mpr ⟨"ACTION:Y".toList, rfl, by decide, by decide⟩
    right_plain := by decide
    right_word := by decide +kernel }
  refine ⟨hbetween, hglued, ?_⟩
  rintro ⟨space, hne, -, hs⟩
  have hlength := congrArg List.length (hglued.symm.trans hs)
  rw [List.length_append, List.length_append] at hlength
  have hl : (Text.trimStartBy Text.isBlank ['a']).length = 1 := by decide
  have hr : (Text.trimEndBy Text.isBlank ['b']).length = 1 := by decide
  have hpos := List.length_pos_of_ne_nil hne
  have htwo : "ab".toList.length = 2 := by decide
  omega

end ReplyActions.Token
