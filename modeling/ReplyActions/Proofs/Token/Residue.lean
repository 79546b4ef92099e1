import ReplyActions.Proofs.Token.Stripped

/-!
# Tokens that stripping leaves behind

Stripping reads a text once. A bracket pair that is no token may turn into one when the tokens
inside it go, and then it stays. No other token stays: a stripped text is free of tokens exactly
if its source has no such pair.
-/

namespace ReplyActions.Token

/-- A bracket pair of the text is no token, but reads as one once the nests inside it are taken
out. -/
def FormsToken (text : List Char) : Prop :=
  ∃ front inside back kept, text = front ++ '[' :: inside ++ ']' :: back ∧
    startsWithKeyword inside = false ∧ Cleared inside (']' :: back) kept ∧
    startsWithKeyword kept.reverse = true

/-! ### Every token left behind has been formed -/

theorem Standing.formsToken {frames : List Frame} {source out next inside : List Char}
    (h : Standing frames source out (']' :: next))
    (hstays : ∀ before outer, frames ≠ .token before true :: outer)
    (hinside : '[' :: inside <:+ out.reverse) (hk : startsWithKeyword inside = true)
    (hp : IsPlain inside) : FormsToken (source ++ ']' :: next) := by
  obtain ⟨before, hout⟩ := hinside
  have hout : out = inside.reverse ++ '[' :: before.reverse := by
    rw [← List.reverse_reverse out, ← hout]
    simp
  have hlast : lastBracket? out = some '[' := by
    rw [hout, lastBracket?_plain_append (isPlain_reverse.mpr hp)]
    exact lastBracket?_cons_bracket (by decide) _
  cases h with
  | base hne _ => exact absurd hlast hne
  | @frame frame frames front out₀ text kept _ clean outer hfits hcontent =>
    cases clean with
    | false =>
      rw [lastBracket?_append_of_isClosed hcontent.2] at hlast
      contradiction
    | true =>
      -- the opening brackets coincide, as both are the last bracket of what is kept
      have hkept : kept = inside.reverse := by
        have ht := congrArg (List.takeWhile (!isBracket ·)) hout
        rwa [takeWhile_plain hcontent.2.isPlain (by decide),
          takeWhile_plain (isPlain_reverse.mpr hp) (by decide)] at ht
      cases frame with
      | token start spotless =>
        obtain ⟨-, rfl, -⟩ := hfits
        exact absurd rfl (hstays start frames)
      | bracket =>
        refine ⟨front, text, next, kept, rfl, ?_, hcontent.2, ?_⟩
        · rw [← hfits, startsWithKeyword_append_bracket _ _ (by decide)]
        · rwa [hkept, List.reverse_reverse]

theorem formsToken_of_left {text : List Char}
    (h : HoldsToken (Scan.finish text).out.reverse) : FormsToken text := by
  let p : List Char → Scan → List Char → Prop := fun source s rest =>
    Standing s.frames source s.out rest ∧
      (HoldsToken s.out.reverse → FormsToken (source ++ rest))
  have step : ∀ source s c rest, p source s (c :: rest) →
      p (source ++ [c]) (s.read c rest) rest := by
    rintro source s c rest ⟨hs, hp⟩
    refine ⟨standing_read hs, ?_⟩
    rw [List.append_assoc, List.singleton_append]
    rcases s.read_cases c rest with
      ⟨hb, hr⟩ | ⟨rfl, hr⟩ | ⟨rfl, before, outer, hf, hr⟩ | ⟨rfl, hf, hr⟩
    · rw [hr, List.reverse_cons]
      intro ht
      rcases holdsToken_concat ht with ht | ⟨rfl, -⟩
      · exact hp ht
      · contradiction
    · rw [hr, List.reverse_cons]
      intro ht
      rcases holdsToken_concat ht with ht | ⟨hc, -⟩
      · exact hp ht
      · contradiction
    · rw [hf] at hs
      obtain ⟨-, -, -, -, hb, -⟩ := hs.clean_token
      rw [hr]
      intro ht
      have hk := (keptBefore_suffix before rest).trans hb
      exact hp (HoldsToken.mono ht (List.reverse_prefix.mpr hk).isInfix)
    · rw [hr, List.reverse_cons]
      intro ht
      rcases holdsToken_concat ht with ht | ⟨-, inside, hi, hk, hplain⟩
      · exact hp ht
      · exact hs.formsToken hf hi hk hplain
  have hstart : p [] Scan.start (text ++ []) := by
    refine ⟨.base (by decide) (Nat.le_refl 0), ?_⟩
    rintro ⟨token, ht, hi⟩
    obtain ⟨inside, rfl, -⟩ := (isToken_iff token).mp ht
    exact absurd (List.infix_nil.mp hi) (by simp)
  simpa using (Scan.readAll_invariant step hstart).2 h

/-! ### Every token that is formed is left behind -/

/-- The kept text `kept` is out of reach: a token that is still open and could go either began
behind it, or lies outside a bracket that is still open, or holds a kept pair. -/
def Shielded (kept : List Char) (s : Scan) : Prop :=
  ∃ inner outer, s.frames = inner ++ outer ∧ soiled outer = outer ∧ kept <:+ s.out ∧
    ∀ before clean, .token before clean ∈ inner → kept <:+ before

theorem soiled_soiled (frames : List Frame) : soiled (soiled frames) = soiled frames := by
  match frames with
  | [] => rfl
  | .bracket :: outer => rfl
  | .token before clean :: outer => rfl

theorem mem_soiled {frames : List Frame} {before : List Char} {clean : Bool}
    (h : .token before clean ∈ soiled frames) : ∃ clean, .token before clean ∈ frames := by
  match frames with
  | [] => exact ⟨clean, h⟩
  | .bracket :: outer => exact ⟨clean, h⟩
  | .token start spotless :: outer =>
    rcases List.mem_cons.mp h with h | h
    · injection h with h
      exact ⟨spotless, h ▸ List.mem_cons_self⟩
    · exact ⟨clean, List.mem_cons_of_mem _ h⟩

theorem soiled_cons_append (frame : Frame) (inner outer : List Frame) :
    soiled (frame :: inner ++ outer) = soiled (frame :: inner) ++ outer := by
  cases frame <;> rfl

theorem shielded_read {kept : List Char} {s : Scan} {b c : Char} (hb : isBracket b = true)
    (rest : List Char) (h : Shielded (b :: kept) s) : Shielded (b :: kept) (s.read c rest) := by
  obtain ⟨inner, outer, hf, ho, hs, hi⟩ := h
  rcases s.read_cases c rest with ⟨-, hr⟩ | ⟨-, hr⟩ | ⟨-, before, under, hc, hr⟩ | ⟨-, -, hr⟩
  · rw [hr]
    exact ⟨inner, outer, hf, ho, hs.trans (List.suffix_cons ..), hi⟩
  · rw [hr]
    refine ⟨Scan.opened s.out rest :: inner, outer, by simp [hf], ho,
      hs.trans (List.suffix_cons ..), ?_⟩
    intro before clean hm
    rcases List.mem_cons.mp hm with hm | hm
    · simp only [Scan.opened] at hm
      split at hm
      · injection hm with hm
        exact hm ▸ hs
      · contradiction
    · exact hi before clean hm
  · rw [hr]
    cases inner with
    | nil =>
      -- a soiled stack has no clean token on top
      rw [List.nil_append, hc] at hf
      rw [← hf] at ho
      exact absurd ho (by simp [soiled])
    | cons frame inner =>
      rw [hc] at hf
      obtain ⟨rfl, rfl⟩ := List.cons.inj hf
      exact ⟨inner, outer, rfl, ho, suffix_keptBefore hb (hi before true List.mem_cons_self) rest,
        fun before clean hm => hi before clean (List.mem_cons_of_mem _ hm)⟩
  · rw [hr, hf]
    have hs : b :: kept <:+ ']' :: s.out := hs.trans (List.suffix_cons ..)
    rcases inner with _ | ⟨frame, _ | ⟨second, inner⟩⟩
    · exact ⟨[], soiled outer.tail, rfl, soiled_soiled _, hs, fun _ _ hm => by simp at hm⟩
    · exact ⟨[], outer, ho, ho, hs, fun _ _ hm => by simp at hm⟩
    · refine ⟨soiled (second :: inner), outer, soiled_cons_append .., ho, hs, ?_⟩
      intro before clean hm
      obtain ⟨clean, hm⟩ := mem_soiled hm
      exact hi before clean (List.mem_cons_of_mem _ hm)

theorem shielded_readAll {kept : List Char} {s : Scan} {b : Char} (hb : isBracket b = true)
    (text rest : List Char) (h : Shielded (b :: kept) s) :
    Shielded (b :: kept) (s.readAll text rest) :=
  @Scan.readAll_invariant (fun _ s _ => Shielded (b :: kept) s)
    (fun _ _ _ rest h => shielded_read hb rest h) [] s text rest h

theorem FormsToken.holdsToken {text : List Char} (h : FormsToken text) : HoldsToken text := by
  obtain ⟨front, inside, back, kept, rfl, hn, hc, hk⟩ := h
  rcases hc.eq_reverse_or_holdsToken with rfl | ht
  · rw [List.reverse_reverse, hn] at hk
    contradiction
  · exact HoldsToken.mono ht ⟨front ++ ['['], ']' :: back, by simp⟩

theorem FormsToken.left {text : List Char} (h : FormsToken text) :
    HoldsToken (Scan.finish text).out.reverse := by
  obtain ⟨front, inside, back, kept, rfl, hn, hc, hk⟩ := h
  let s := Scan.start.readAll front ('[' :: inside ++ ']' :: back)
  have hopen : s.read '[' (inside ++ ']' :: back) =
      ⟨.bracket :: s.frames, '[' :: s.out, s.removed⟩ := by
    rw [Scan.read_open, Scan.opened, startsWithKeyword_append_bracket _ _ (by decide), hn]
    rfl
  obtain ⟨r, hinside⟩ := Scan.readAll_cleared hc (.bracket :: s.frames) s.out s.removed
  have hclose : Scan.read ⟨.bracket :: s.frames, kept ++ '[' :: s.out, r⟩ ']' back =
      ⟨soiled s.frames, ']' :: (kept ++ '[' :: s.out), r⟩ := rfl
  have hfinish : Scan.finish (front ++ '[' :: inside ++ ']' :: back) =
      Scan.readAll ⟨soiled s.frames, ']' :: (kept ++ '[' :: s.out), r⟩ back [] := by
    rw [Scan.finish, List.append_assoc, Scan.readAll_append]
    simp only [List.append_nil, List.cons_append, Scan.readAll]
    rw [Scan.readAll_append, List.append_nil]
    show Scan.readAll ((s.read '[' (inside ++ ']' :: back)).readAll inside (']' :: back))
      (']' :: back) [] = _
    rw [hopen, hinside, Scan.readAll, List.append_nil, hclose]
  have hshield : Shielded (']' :: (kept ++ '[' :: s.out))
      ⟨soiled s.frames, ']' :: (kept ++ '[' :: s.out), r⟩ :=
    ⟨[], soiled s.frames, rfl, soiled_soiled _, List.suffix_rfl, fun _ _ hm => by simp at hm⟩
  obtain ⟨_, _, -, -, ⟨above, hs⟩, -⟩ := shielded_readAll (by decide) back [] hshield
  rw [hfinish, ← hs]
  refine ⟨'[' :: kept.reverse ++ [']'], (isToken_iff _).mpr
    ⟨kept.reverse, rfl, hk, isPlain_reverse.mpr hc.isPlain⟩, s.out.reverse, above.reverse, ?_⟩
  simp

theorem holdsToken_strip_iff (text : List Char) : HoldsToken (strip text) ↔ FormsToken text := by
  by_cases ht : HoldsToken text
  · rw [strip_of_holdsToken ht, holdsToken_trim_iff]
    exact ⟨formsToken_of_left, FormsToken.left⟩
  · rw [strip_of_not_holdsToken ht]
    exact ⟨fun h => absurd h ht, fun h => absurd h.holdsToken ht⟩

/-- Stripping leaves no token behind, nothing to ask for and nothing to strip, exactly if no
bracket pair of the text reads as a token once the nests inside it are gone. -/
theorem strip_leaves_no_token_iff (text : List Char) :
    (¬ HoldsToken (strip text) ∧ Invocation.extract (strip text) = [] ∧
      strip (strip text) = strip text) ↔ ¬ FormsToken text := by
  rw [← holdsToken_strip_iff]
  constructor
  · exact fun h => h.1
  · exact fun h => ⟨h, extract_eq_nil h, strip_of_not_holdsToken h⟩

/-- The pair around `ACTION` and `:Y` is no token until the one inside it is gone. -/
theorem strip_leaves_formed_token :
    strip "[ACTION[ACTION:X]:Y]".toList = "[ACTION:Y]".toList ∧
      (Invocation.extract (strip "[ACTION[ACTION:X]:Y]".toList)).map (·.id) = ["Y"] ∧
      strip (strip "[ACTION[ACTION:X]:Y]".toList) ≠ strip "[ACTION[ACTION:X]:Y]".toList := by
  decide +kernel

end ReplyActions.Token
