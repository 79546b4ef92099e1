import ReplyActions.Proofs.Token.Region
import ReplyActions.Proofs.Token.Words

/-!
# What remains of a text

Stripping takes the regions out of a text, and nothing else but blanks. While the text is read this
holds of every stretch between two open brackets, so that a stretch that turns out to be a region
can be given up as a whole.
-/

namespace ReplyActions.Token

def withoutBlanks (text : List Char) : List Char := text.filter (!Text.isBlank ·)

/-- What is kept of a text, last character first, lacks the regions and otherwise blanks only. -/
structure Remains (source kept : List Char) : Prop where
  sublist : kept.reverse.Sublist source
  uncovered : withoutBlanks kept.reverse = withoutBlanks (uncovered source)

/-! ### Blanks -/

theorem withoutBlanks_append (a b : List Char) :
    withoutBlanks (a ++ b) = withoutBlanks a ++ withoutBlanks b := List.filter_append a b

theorem withoutBlanks_trim (text : List Char) :
    withoutBlanks (Text.trim text) = withoutBlanks text :=
  Text.filter_trimBy (fun c hc => by rw [hc]; rfl) text

theorem withoutBlanks_keptBefore (kept next : List Char) :
    withoutBlanks (keptBefore kept next).reverse = withoutBlanks kept.reverse := by
  simp only [keptBefore]
  split
  · rfl
  · have hdrop := Text.filter_trimStartBy (q := (!Text.isBlank ·))
      (fun c hc => by rw [isBlank_of_isGap hc]; rfl) kept
    rw [withoutBlanks, withoutBlanks, List.filter_reverse, List.filter_reverse]
    exact congrArg List.reverse hdrop

/-! ### Piece by piece -/

namespace Remains

variable {a b kept left : List Char}

theorem append (ha : Remains a kept) (hb : Remains b left) (hn : NoneStray b) :
    Remains (a ++ b) (left ++ kept) := by
  constructor
  · rw [List.reverse_append]
    exact ha.sublist.append hb.sublist
  · rw [List.reverse_append, withoutBlanks_append, ha.uncovered, hb.uncovered,
      uncovered_append hn, withoutBlanks_append]

theorem nil : Remains [] [] := ⟨List.Sublist.refl [], rfl⟩

theorem char {c : Char} (hc : c ≠ ']') : Remains [c] [c] :=
  ⟨List.Sublist.refl [c], by rw [uncovered_char hc]; rfl⟩

theorem gap (h : Remains a kept) (next : List Char) : Remains a (keptBefore kept next) := by
  constructor
  · exact (List.reverse_sublist.mpr (keptBefore_suffix kept next).sublist).trans h.sublist
  · rw [withoutBlanks_keptBefore, h.uncovered]

theorem region (h : IsRegion a) : Remains a [] :=
  ⟨List.nil_sublist a, by rw [uncovered_region h]; rfl⟩

theorem pair (h : Remains a kept) (hb : Balanced a) (hr : ¬ IsRegion ('[' :: a ++ [']'])) :
    Remains ('[' :: a ++ [']']) (']' :: kept ++ ['[']) := by
  have hreverse : (']' :: kept ++ ['[']).reverse = '[' :: kept.reverse ++ [']'] := by simp
  constructor
  · rw [hreverse]
    exact (h.sublist.cons_cons '[').append (List.Sublist.refl [']'])
  · rw [hreverse, uncovered_pair hb hr, withoutBlanks_append, withoutBlanks_append]
    have hinside := congrArg ('[' :: ·) h.uncovered
    simpa [withoutBlanks, isBlank_of_isBracket (show isBracket '[' = true by decide)] using hinside

theorem stray (h : Remains a kept) (hn : NoneOpen a) : Remains (a ++ [']']) (']' :: kept) := by
  constructor
  · rw [List.reverse_cons]
    exact h.sublist.append (List.Sublist.refl [']'])
  · rw [List.reverse_cons, uncovered_stray hn, withoutBlanks_append, withoutBlanks_append,
      h.uncovered]

end Remains

/-! ### Under open brackets -/

/-- The stack and the text kept, once `source` has been read in front of `next`: what remains of
each stretch behind an open bracket, with all its brackets closed. -/
inductive Stacked : List Frame → List Char → List Char → List Char → Prop where
  | base {source out next : List Char} (hclosed : NoneOpen source) (h : Remains source out) :
    Stacked [] source out next
  | frame {frame : Frame} {frames : List Frame} {source out inside kept next : List Char}
    (outer : Stacked frames source out ('[' :: inside ++ next))
    (hfits : frame.Fits out (inside ++ next) (OpenersOnly inside)) (hinside : Balanced inside)
    (h : Remains inside kept) :
    Stacked (frame :: frames) (source ++ '[' :: inside) (kept ++ '[' :: out) next

theorem Frame.Fits.soiled {frame : Frame} {before rest : List Char} {clean : Bool}
    (h : frame.Fits before rest clean) (frames : List Frame) :
    ∃ frame', soiled (frame :: frames) = frame' :: frames ∧ frame'.Fits before rest false := by
  cases frame with
  | token start spotless => exact ⟨_, rfl, h.1, rfl, h.2.2⟩
  | bracket => exact ⟨_, rfl, h⟩

namespace Stacked

variable {frames : List Frame} {source out next : List Char}

theorem remains (h : Stacked frames source out next) : Remains source out := by
  induction h with
  | base _ h => exact h
  | frame _ _ hinside h ih =>
    have hopening := ih.append (.char (show '[' ≠ ']' by decide)) noneStray_opening
    simpa using hopening.append h hinside.noneStray

/-- A stretch with its brackets closed marks the frame around it unless it holds openers only. -/
theorem extend {piece left : List Char} (h : Stacked frames source out (piece ++ next))
    (hpiece : Balanced piece) (hr : Remains piece left) :
    Stacked (if OpenersOnly piece then frames else soiled frames) (source ++ piece)
      (left ++ out) next := by
  cases h with
  | base hclosed h =>
    rw [show soiled [] = [] from rfl, ite_self]
    exact .base (hclosed.append hpiece.noneOpen) (h.append hr hpiece.noneStray)
  | @frame frame frames source out inside kept _ outer hfits hinside h =>
    have hout : Stacked frames source out ('[' :: (inside ++ piece) ++ next) := by simpa using outer
    -- the piece lengthens the stretch behind the innermost open bracket
    have hboth := h.append hr hpiece.noneStray
    have hopeners : OpenersOnly (inside ++ piece) ↔ OpenersOnly inside ∧ OpenersOnly piece :=
      openersOnly_append hinside.noneOpen
    rw [← List.append_assoc] at hfits
    rw [List.append_assoc, List.cons_append, ← List.append_assoc]
    by_cases ho : OpenersOnly piece
    · rw [if_pos ho]
      refine .frame hout ?_ (hinside.append hpiece) hboth
      rwa [decide_eq_decide.mpr (hopeners.trans (and_iff_left ho))]
    · obtain ⟨frame', hsoiled, hfits⟩ := hfits.soiled frames
      rw [if_neg ho, hsoiled]
      refine .frame hout ?_ (hinside.append hpiece) hboth
      rwa [decide_eq_false fun hi => ho (hopeners.mp hi).2]

theorem gap (h : Stacked frames source out next) :
    Stacked frames source (keptBefore out next) next := by
  cases h with
  | base hclosed h => exact .base hclosed (h.gap next)
  | frame outer hfits hinside h =>
    rw [keptBefore_append (by decide)]
    exact .frame outer hfits hinside (h.gap next)

theorem clean_token {before : List Char} {outer : List Frame}
    (h : Stacked (.token before true :: outer) source out (']' :: next)) :
    Stacked outer (source ++ [']']) (keptBefore before next) next := by
  cases h with
  | @frame _ _ source out inside kept _ houter hfits hinside h =>
    obtain ⟨rfl, hclean, hk⟩ := hfits
    rw [startsWithKeyword_append_bracket _ _ (by decide)] at hk
    have hopeners := (openersOnly_pair hinside).mpr ⟨hk, of_decide_eq_true hclean.symm⟩
    have hregion : IsRegion ('[' :: inside ++ [']']) := ⟨⟨inside, rfl, hinside⟩, hopeners⟩
    have houter : Stacked outer source before ('[' :: inside ++ [']'] ++ next) := by
      simpa using houter
    have hgone := houter.extend hinside.pair (.region hregion)
    rw [if_pos hopeners] at hgone
    simpa using hgone.gap

theorem close_kept (h : Stacked frames source out (']' :: next))
    (hkept : ∀ before outer, frames ≠ .token before true :: outer) :
    Stacked (soiled frames.tail) (source ++ [']']) (']' :: out) next := by
  cases h with
  | base hclosed h => exact .base (hclosed.append noneOpen_closing) (h.stray hclosed)
  | @frame frame frames source out inside kept _ houter hfits hinside h =>
    have hopeners : ¬ OpenersOnly ('[' :: inside ++ [']']) := by
      intro ho
      obtain ⟨hk, hi⟩ := (openersOnly_pair hinside).mp ho
      have hk : startsWithKeyword (inside ++ ']' :: next) = true :=
        (startsWithKeyword_append_bracket _ _ (by decide)).trans hk
      cases frame with
      | token start spotless =>
        obtain ⟨-, rfl, -⟩ := hfits
        exact hkept start frames (by rw [decide_eq_true hi])
      | bracket => exact Bool.false_ne_true (hfits.symm.trans hk)
    have houter : Stacked frames source out ('[' :: inside ++ [']'] ++ next) := by
      simpa using houter
    have hpair := houter.extend hinside.pair (h.pair hinside fun hr => hopeners hr.openersOnly)
    rw [if_neg hopeners] at hpair
    simpa using hpair

end Stacked

theorem stacked_read {s : Scan} {c : Char} {source rest : List Char}
    (h : Stacked s.frames source s.out (c :: rest)) :
    Stacked (s.read c rest).frames (source ++ [c]) (s.read c rest).out rest := by
  rcases s.read_cases c rest with
    ⟨hb, hr⟩ | ⟨rfl, hr⟩ | ⟨rfl, before, outer, hf, hr⟩ | ⟨rfl, hk, hr⟩
  · obtain ⟨hopening, hclosing⟩ := (isBracket_eq_false_iff c).mp hb
    have hchar := Stacked.extend h (balanced_char hb) (.char hclosing)
    rw [if_pos (openersOnly_char hopening)] at hchar
    rw [hr]
    exact hchar
  · have hnone : OpenersOnly [] := fun after hs => by simp at hs
    have hfits : (Scan.opened s.out rest).Fits s.out ([] ++ rest) (OpenersOnly []) := by
      cases hk : startsWithKeyword rest <;> simp [Scan.opened, Frame.Fits, hk, hnone]
    rw [hr]
    exact Stacked.frame h hfits balanced_nil .nil
  · rw [hf] at h
    rw [hr]
    exact h.clean_token
  · rw [hr]
    exact h.close_kept hk

theorem remains_finish (text : List Char) : Remains text (Scan.finish text).out := by
  have hstart : Stacked Scan.start.frames [] Scan.start.out (text ++ []) :=
    .base balanced_nil.noneOpen .nil
  exact (Scan.readAll_invariant (p := fun source s rest => Stacked s.frames source s.out rest)
    (fun _ _ _ _ h => stacked_read h) hstart).remains

/-- As long as nothing has been taken out, everything has been kept. -/
theorem out_of_not_removed {text : List Char} (h : (Scan.finish text).removed = false) :
    (Scan.finish text).out = text.reverse := by
  let p : List Char → Scan → List Char → Prop := fun source s _ =>
    s.removed = false → s.out = source.reverse
  have step : ∀ source s c rest, p source s (c :: rest) →
      p (source ++ [c]) (s.read c rest) rest := by
    intro source s c rest hp
    rcases s.read_cases c rest with ⟨-, hr⟩ | ⟨rfl, hr⟩ | ⟨-, before, outer, -, hr⟩ | ⟨rfl, -, hr⟩
    · rw [hr]
      exact fun h => by simp [hp h]
    · rw [hr]
      exact fun h => by simp [hp h]
    · rw [hr]
      exact fun h => by contradiction
    · rw [hr]
      exact fun h => by simp [hp h]
  have hstart : p [] Scan.start (text ++ []) := fun _ => rfl
  exact Scan.readAll_invariant step hstart h

theorem remains_strip (text : List Char) : Remains text (strip text).reverse := by
  have hall := remains_finish text
  by_cases h : HoldsToken text
  · rw [strip_of_holdsToken h]
    constructor
    · rw [List.reverse_reverse]
      exact (Text.isInfix_trim _).sublist.trans hall.sublist
    · rw [List.reverse_reverse, withoutBlanks_trim, hall.uncovered]
  · have hr : (Scan.finish text).removed = false := by
      rwa [← Bool.not_eq_true, removed_iff]
    rwa [strip_of_not_holdsToken h, ← out_of_not_removed hr]

/-- Stripping a text takes its regions out, and nothing else but blanks. -/
theorem strip_takes_regions (text : List Char) :
    (strip text).Sublist text ∧ withoutBlanks (strip text) = withoutBlanks (uncovered text) := by
  have h := remains_strip text
  rw [← List.reverse_reverse (strip text)]
  exact ⟨h.sublist, h.uncovered⟩

end ReplyActions.Token
