import ReplyActions.Proofs.Token.Nest

/-!
# What the open brackets stand for

While a text is stripped, the stack says which opening brackets of the text read so far are still
without a partner. Behind each of them stands what is left of the text inside it: either nothing
but nests have been read there, or a bracket pair has been kept.
-/

namespace ReplyActions.Token

def lastBracket? (out : List Char) : Option Char := out.find? isBracket

def IsClosed (out : List Char) : Prop := lastBracket? out = some ']'

/-- What is kept of the text `inside` an opening bracket that stands in front of `next`. `clean`
says that no bracket pair has been kept there. -/
def IsContent (clean : Bool) (inside next kept : List Char) : Prop :=
  kept.length ≤ inside.length ∧ if clean then Cleared inside next kept else IsClosed kept

/-- The frame of an opening bracket, behind the text kept as `before` and in front of `rest`. -/
def Frame.Fits (frame : Frame) (before rest : List Char) (clean : Bool) : Prop :=
  match frame with
  | .token start spotless => start = before ∧ spotless = clean ∧ startsWithKeyword rest = true
  | .bracket => startsWithKeyword rest = false

/-- The stack and the text kept, once `source` has been read in front of `next`. -/
inductive Standing : List Frame → List Char → List Char → List Char → Prop where
  /-- Without open brackets, a kept opening bracket has a kept partner. -/
  | base {source out next : List Char} (hlast : lastBracket? out ≠ some '[')
    (hlength : out.length ≤ source.length) : Standing [] source out next
  | frame {frame : Frame} {frames : List Frame} {source out inside kept next : List Char}
    {clean : Bool} (outer : Standing frames source out ('[' :: inside ++ next))
    (hfits : frame.Fits out (inside ++ next) clean)
    (hcontent : IsContent clean inside next kept) :
    Standing (frame :: frames) (source ++ '[' :: inside) (kept ++ '[' :: out) next

/-! ### The last bracket -/

theorem lastBracket?_cons_plain {c : Char} (hc : isBracket c = false) (out : List Char) :
    lastBracket? (c :: out) = lastBracket? out := by
  simp [lastBracket?, hc]

theorem lastBracket?_cons_bracket {c : Char} (hc : isBracket c = true) (out : List Char) :
    lastBracket? (c :: out) = some c := by
  simp [lastBracket?, hc]

theorem lastBracket?_plain_append {text : List Char} (h : IsPlain text) (out : List Char) :
    lastBracket? (text ++ out) = lastBracket? out := by
  induction text with
  | nil => rfl
  | cons c more ih =>
    obtain ⟨hc, hm⟩ := isPlain_cons.mp h
    rw [List.cons_append, lastBracket?_cons_plain hc, ih hm]

theorem lastBracket?_append_of_isClosed {kept : List Char} (h : IsClosed kept)
    (out : List Char) : lastBracket? (kept ++ out) = some ']' := by
  rw [lastBracket?, List.find?_append, show kept.find? isBracket = some ']' from h]
  rfl

theorem lastBracket?_dropWhile_isGap (out : List Char) :
    lastBracket? (out.dropWhile isGap) = lastBracket? out := by
  induction out with
  | nil => rfl
  | cons c more ih =>
    cases hg : isGap c with
    | false => rw [List.dropWhile_cons_of_neg (by simp [hg])]
    | true =>
      have hc : isBracket c = false := by
        cases hb : isBracket c with
        | false => rfl
        | true => simp [isGap_of_isBracket hb] at hg
      rw [List.dropWhile_cons_of_pos hg, ih, lastBracket?_cons_plain hc]

theorem lastBracket?_keptBefore (before next : List Char) :
    lastBracket? (keptBefore before next) = lastBracket? before := by
  simp only [keptBefore]
  split
  · rfl
  · exact lastBracket?_dropWhile_isGap before

/-! ### Content -/

namespace IsContent

variable {clean : Bool} {inside next kept : List Char}

theorem nil (next : List Char) : IsContent true [] next [] := ⟨Nat.le_refl 0, .nil next⟩

theorem char {c : Char} (h : IsContent clean inside (c :: next) kept)
    (hc : isBracket c = false) : IsContent clean (inside ++ [c]) next (c :: kept) := by
  refine ⟨by simpa using h.1, ?_⟩
  cases clean with
  | false => exact (lastBracket?_cons_plain hc kept).trans h.2
  | true => exact .char h.2 hc

theorem nest {nest : List Char} (h : IsContent clean inside (nest ++ next) kept)
    (hn : IsNest nest) : IsContent clean (inside ++ nest) next (keptBefore kept next) := by
  refine ⟨?_, ?_⟩
  · have hk := (keptBefore_suffix kept next).length_le
    have hi := h.1
    rw [List.length_append]
    omega
  · cases clean with
    | false => exact (lastBracket?_keptBefore kept next).trans h.2
    | true => exact .nest h.2 hn

theorem pair {pair left : List Char} (h : IsContent clean inside (pair ++ next) kept)
    (hl : left.length ≤ pair.length) (hlast : IsClosed left) :
    IsContent false (inside ++ pair) next (left ++ kept) := by
  refine ⟨?_, lastBracket?_append_of_isClosed hlast kept⟩
  have hi := h.1
  simp only [List.length_append]
  omega

end IsContent

/-! ### Reading on -/

namespace Standing

variable {frames : List Frame} {source out next : List Char}

theorem length_le (h : Standing frames source out next) : out.length ≤ source.length := by
  induction h with
  | base _ hl => exact hl
  | frame _ _ hc ih =>
    have hk := hc.1
    simp only [List.length_append, List.length_cons]
    omega

theorem char {c : Char} (h : Standing frames source out (c :: next))
    (hc : isBracket c = false) : Standing frames (source ++ [c]) (c :: out) next := by
  cases h with
  | base hlast hlength =>
    refine .base ?_ (by simpa using hlength)
    rwa [lastBracket?_cons_plain hc]
  | @frame _ _ _ out _ kept _ _ outer hfits hcontent =>
    rw [List.append_assoc, List.cons_append]
    show Standing _ _ ((c :: kept) ++ '[' :: out) next
    exact .frame (by simpa using outer) (by simpa using hfits) (hcontent.char hc)

theorem nest {nest : List Char} (h : Standing frames source out (nest ++ next))
    (hn : IsNest nest) : Standing frames (source ++ nest) (keptBefore out next) next := by
  cases h with
  | base hlast hlength =>
    refine .base ?_ ?_
    · rwa [lastBracket?_keptBefore]
    · have hk := (keptBefore_suffix out next).length_le
      rw [List.length_append]
      omega
  | frame outer hfits hcontent =>
    rw [List.append_assoc, List.cons_append, keptBefore_append (by decide)]
    exact .frame (by simpa using outer) (by simpa using hfits) (hcontent.nest hn)

theorem pair {pair left : List Char} (h : Standing frames source out (pair ++ next))
    (hl : left.length ≤ pair.length) (hlast : IsClosed left) :
    Standing (soiled frames) (source ++ pair) (left ++ out) next := by
  cases h with
  | base _ hlength =>
    refine .base ?_ ?_
    · rw [lastBracket?_append_of_isClosed hlast]
      decide
    · simp only [List.length_append]
      omega
  | @frame frame frames source out inside kept _ clean outer hfits hcontent =>
    rw [List.append_assoc, List.cons_append, ← List.append_assoc]
    have ho : Standing frames source out ('[' :: (inside ++ pair) ++ next) := by simpa using outer
    cases frame with
    | token start spotless =>
      obtain ⟨hs, -, hk⟩ := hfits
      exact .frame ho ⟨hs, rfl, by simpa using hk⟩ (hcontent.pair hl hlast)
    | bracket =>
      exact .frame ho (by simpa [Frame.Fits] using hfits) (hcontent.pair hl hlast)

/-- Behind the opener of a clean frame stand nests only, so its closing bracket ends a nest. -/
theorem clean_token {before : List Char} {outer : List Frame}
    (h : Standing (.token before true :: outer) source out (']' :: next)) :
    ∃ front nest, source ++ [']'] = front ++ nest ∧ IsNest nest ∧ before <:+ out ∧
      Standing outer front before (nest ++ next) := by
  cases h with
  | @frame _ _ front _ inside kept _ _ ho hfits hcontent =>
    obtain ⟨rfl, rfl, hk⟩ := hfits
    rw [startsWithKeyword_append_bracket _ _ (by decide)] at hk
    have hn : IsNest ('[' :: inside ++ [']']) := ⟨inside, rfl, hcontent.2.nested, hk⟩
    exact ⟨front, _, List.append_assoc .., hn, ⟨kept ++ ['['], by simp⟩, by simpa using ho⟩

/-- A closing bracket that stays ends a pair that stays, or has no partner. -/
theorem close_kept (h : Standing frames source out (']' :: next)) :
    Standing (soiled frames.tail) (source ++ [']']) (']' :: out) next := by
  cases h with
  | base _ hlength =>
    refine .base ?_ (by simpa using hlength)
    rw [lastBracket?_cons_bracket (by decide)]
    decide
  | @frame frame frames source out inside kept _ clean outer hfits hcontent =>
    have ho : Standing frames source out ('[' :: inside ++ [']'] ++ next) := by simpa using outer
    have hlast : IsClosed (']' :: kept ++ ['[']) := lastBracket?_cons_bracket (by decide) _
    simpa using ho.pair (by simpa using hcontent.1) hlast

end Standing

theorem standing_read {s : Scan} {c : Char} {source rest : List Char}
    (h : Standing s.frames source s.out (c :: rest)) :
    Standing (s.read c rest).frames (source ++ [c]) (s.read c rest).out rest := by
  rcases s.read_cases c rest with ⟨hb, hr⟩ | ⟨rfl, hr⟩ | ⟨rfl, before, outer, hf, hr⟩ | ⟨rfl, -, hr⟩
  · rw [hr]
    exact h.char hb
  · have hfits : (Scan.opened s.out rest).Fits s.out ([] ++ rest) true := by
      cases hk : startsWithKeyword rest <;> simp [Scan.opened, Frame.Fits, hk]
    rw [hr]
    exact Standing.frame h hfits (.nil rest)
  · rw [hf] at h
    obtain ⟨front, nest, hs, hn, -, ho⟩ := h.clean_token
    rw [hr, hs]
    exact ho.nest hn
  · rw [hr]
    exact h.close_kept

end ReplyActions.Token
