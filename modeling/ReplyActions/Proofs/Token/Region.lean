import Mathlib.Data.List.Infix
import ReplyActions.Proofs.Token.Occurrence

/-!
# Regions

The brackets of a text belong together as nested ones do. The stretch from an opener to its closing
bracket is a region if no plain bracket opens inside it. Two regions lie apart or one inside the
other, so what lies outside all regions can be told piece by piece.
-/

namespace ReplyActions.Token

/-! ### Balance -/

/-- Every opening bracket has its closing one behind it. -/
def NoneOpen (text : List Char) : Prop := ∀ tail, tail <:+ text → tail.count '[' ≤ tail.count ']'

/-- Every closing bracket has its opening one in front of it. -/
def NoneStray (text : List Char) : Prop :=
  ∀ front, front <+: text → front.count ']' ≤ front.count '['

structure Balanced (text : List Char) : Prop where
  noneOpen : NoneOpen text
  noneStray : NoneStray text

theorem Balanced.count_eq {text : List Char} (h : Balanced text) :
    text.count '[' = text.count ']' := by
  apply Nat.le_antisymm
  · exact h.noneOpen text List.suffix_rfl
  · exact h.noneStray text List.prefix_rfl

theorem NoneOpen.append {a b : List Char} (ha : NoneOpen a) (hb : NoneOpen b) :
    NoneOpen (a ++ b) := by
  intro tail ht
  rcases List.suffix_or_suffix_of_suffix ht (List.suffix_append a b) with ht | ⟨more, rfl⟩
  · exact hb tail ht
  · have hm := ha more (List.suffix_append_self_iff.mp ht)
    have hall := hb b List.suffix_rfl
    simp only [List.count_append]
    omega

theorem NoneStray.append {a b : List Char} (ha : NoneStray a) (hb : NoneStray b) :
    NoneStray (a ++ b) := by
  intro front hf
  rcases List.prefix_or_prefix_of_prefix hf (List.prefix_append a b) with hf | ⟨more, rfl⟩
  · exact ha front hf
  · have hm := hb more ((List.prefix_append_right_inj a).mp hf)
    have hall := ha a List.prefix_rfl
    simp only [List.count_append]
    omega

theorem Balanced.append {a b : List Char} (ha : Balanced a) (hb : Balanced b) :
    Balanced (a ++ b) :=
  ⟨ha.noneOpen.append hb.noneOpen, ha.noneStray.append hb.noneStray⟩

theorem balanced_nil : Balanced [] := by
  constructor
  · intro tail ht
    rw [List.suffix_nil.mp ht]
    decide
  · intro front hf
    rw [List.prefix_nil.mp hf]
    decide

theorem noneStray_opening : NoneStray ['['] := by
  intro front hf
  rcases List.prefix_cons_iff.mp hf with rfl | ⟨more, rfl, hm⟩
  · decide
  · rw [List.prefix_nil.mp hm]
    decide

theorem noneOpen_closing : NoneOpen [']'] := by
  intro tail ht
  rcases List.suffix_cons_iff.mp ht with rfl | ht
  · decide
  · rw [List.suffix_nil.mp ht]
    decide

theorem balanced_char {c : Char} (hc : isBracket c = false) : Balanced [c] := by
  obtain ⟨ho, hcl⟩ := (isBracket_eq_false_iff c).mp hc
  have hnone : ∀ part : List Char, part.Sublist [c] → part.count '[' = 0 ∧ part.count ']' = 0 := by
    intro part hp
    have hm : ∀ d ∈ part, d = c := fun d hd => List.mem_singleton.mp (hp.subset hd)
    exact ⟨List.count_eq_zero.mpr fun hd => ho (hm _ hd).symm,
      List.count_eq_zero.mpr fun hd => hcl (hm _ hd).symm⟩
  constructor
  · intro tail ht
    have hz := hnone tail ht.sublist
    omega
  · intro front hf
    have hz := hnone front hf.sublist
    omega

theorem Balanced.pair {inside : List Char} (h : Balanced inside) :
    Balanced ('[' :: inside ++ [']']) := by
  constructor
  · intro tail ht
    rcases List.suffix_cons_iff.mp ht with rfl | ht
    · have he := h.count_eq
      simp
      omega
    · exact h.noneOpen.append noneOpen_closing tail ht
  · intro front hf
    rcases List.prefix_concat_iff.mp hf with rfl | hf
    · have he := h.count_eq
      simp
      omega
    · exact noneStray_opening.append h.noneStray front hf

theorem NoneOpen.not_suffix {text inside : List Char} (h : NoneOpen text) (hi : Balanced inside) :
    ¬ '[' :: inside <:+ text := by
  intro hs
  have hc := h _ hs
  have he := hi.count_eq
  simp at hc
  omega

/-! ### Openers -/

/-- Every opening bracket begins an opener. -/
def OpenersOnly (text : List Char) : Prop :=
  ∀ after, '[' :: after <:+ text → startsWithKeyword after = true

theorem startsWithKeyword_append {text : List Char} (h : ']' ∈ text) (rest : List Char) :
    startsWithKeyword (text ++ rest) = startsWithKeyword text := by
  obtain ⟨front, back, rfl⟩ := List.append_of_mem h
  rw [List.append_assoc, List.cons_append, startsWithKeyword_append_bracket _ _ (by decide),
    startsWithKeyword_append_bracket _ _ (by decide)]

theorem NoneOpen.mem_of_suffix {text after : List Char} (h : NoneOpen text)
    (hs : '[' :: after <:+ text) : ']' ∈ after := by
  have hc := h _ hs
  simp at hc
  exact List.count_pos_iff.mp (by omega)

theorem openersOnly_append {a b : List Char} (ha : NoneOpen a) :
    OpenersOnly (a ++ b) ↔ OpenersOnly a ∧ OpenersOnly b := by
  constructor
  · intro h
    constructor
    · intro after hs
      rw [← startsWithKeyword_append (ha.mem_of_suffix hs) b]
      exact h _ (List.suffix_append_self_iff.mpr hs)
    · exact fun after hs => h after (List.suffix_append_of_suffix hs)
  · intro h after hs
    obtain ⟨hfront, hback⟩ := h
    rcases List.suffix_or_suffix_of_suffix hs (List.suffix_append a b) with hs | ⟨more, hm⟩
    · exact hback after hs
    · cases more with
      | nil => exact hback after ⟨[], hm.symm⟩
      | cons d more =>
        obtain ⟨rfl, rfl⟩ := List.cons.inj hm
        have hs : '[' :: more <:+ a := List.suffix_append_self_iff.mp hs
        exact (startsWithKeyword_append (ha.mem_of_suffix hs) b).trans (hfront more hs)

theorem openersOnly_char {c : Char} (hc : c ≠ '[') : OpenersOnly [c] := by
  intro after hs
  rcases List.suffix_cons_iff.mp hs with he | hs
  · exact absurd (List.cons.inj he).1.symm hc
  · simp at hs

theorem openersOnly_pair {inside : List Char} (h : Balanced inside) :
    OpenersOnly ('[' :: inside ++ [']']) ↔
      startsWithKeyword inside = true ∧ OpenersOnly inside := by
  have hk : startsWithKeyword (inside ++ [']']) = startsWithKeyword inside :=
    startsWithKeyword_append_bracket _ _ (by decide)
  constructor
  · intro ho
    refine ⟨hk ▸ ho _ List.suffix_rfl, ?_⟩
    have hi : OpenersOnly (inside ++ [']']) := fun after hs => ho after (hs.trans ⟨['['], rfl⟩)
    exact ((openersOnly_append h.noneOpen).mp hi).1
  · intro h after hs
    obtain ⟨hw, hi⟩ := h
    rcases List.suffix_cons_iff.mp hs with he | hs
    · rw [(List.cons.inj he).2]
      exact hk.trans hw
    · exact (openersOnly_append h.noneOpen).mpr ⟨hi, openersOnly_char (by decide)⟩ after hs

/-! ### Regions -/

/-- An opener up to the closing bracket that belongs to it, where no plain bracket opens. -/
structure IsRegion (text : List Char) : Prop where
  matched : ∃ inside, text = '[' :: inside ++ [']'] ∧ Balanced inside
  openersOnly : OpenersOnly text

/-- The character at the place lies in a region of the text. -/
def Covered (text : List Char) (place : Nat) : Prop :=
  ∃ front region back, text = front ++ region ++ back ∧ IsRegion region ∧
    front.length ≤ place ∧ place < front.length + region.length

theorem Covered.lt {text : List Char} {place : Nat} (h : Covered text place) :
    place < text.length := by
  obtain ⟨front, region, back, rfl, -, -, hp⟩ := h
  simp only [List.length_append]
  omega

/-- A tail of a region closes more brackets than it opens. -/
theorem IsRegion.count_lt {region front tail : List Char} (h : IsRegion region)
    (hsplit : region = front ++ tail) (hf : front ≠ []) (ht : tail ≠ []) :
    tail.count '[' < tail.count ']' := by
  obtain ⟨inside, rfl, hi⟩ := h.matched
  cases front with
  | nil => contradiction
  | cons c front =>
    obtain ⟨-, hsplit⟩ := List.cons.inj hsplit
    have hs : tail <:+ inside ++ [']'] := ⟨front, hsplit.symm⟩
    rcases List.suffix_concat_iff.mp hs with rfl | ⟨rest, rfl, hr⟩
    · contradiction
    · have hc := hi.noneOpen rest hr
      simp
      omega

theorem Covered.append_right {a : List Char} {place : Nat} (h : Covered a place) (b : List Char) :
    Covered (a ++ b) place := by
  obtain ⟨front, region, back, rfl, hr, hfrom, hto⟩ := h
  exact ⟨front, region, back ++ b, by rw [List.append_assoc _ back], hr, hfrom, hto⟩

theorem Covered.append_left {b : List Char} {place : Nat} (h : Covered b place) (a : List Char) :
    Covered (a ++ b) (a.length + place) := by
  obtain ⟨front, region, back, rfl, hr, hfrom, hto⟩ := h
  refine ⟨a ++ front, region, back, by simp, hr, ?_, ?_⟩
  · rw [List.length_append]
    omega
  · rw [List.length_append]
    omega

/-- No region reaches from one text into another one without stray brackets. -/
theorem covered_append {a b : List Char} (hb : NoneStray b) (place : Nat) :
    Covered (a ++ b) place ↔
      Covered a place ∨ a.length ≤ place ∧ Covered b (place - a.length) := by
  constructor
  · intro h
    obtain ⟨front, region, back, hsplit, hr, hfrom, hto⟩ := h
    have inFront : ∀ more, a = front ++ region ++ more → Covered a place :=
      fun more ha => ⟨front, region, more, ha, hr, hfrom, hto⟩
    have inBack : ∀ more, front = a ++ more → b = more ++ region ++ back →
        a.length ≤ place ∧ Covered b (place - a.length) := by
      intro more hfront hparts
      subst hfront
      rw [List.length_append] at hfrom hto
      exact ⟨by omega, more, region, back, hparts, hr, by omega, by omega⟩
    rcases List.append_eq_append_iff.mp hsplit with ⟨last, hlast, hback⟩ | ⟨more, ha, -⟩
    · rcases List.append_eq_append_iff.mp hlast with ⟨first, ha, hparts⟩ | ⟨more, hfront, hmore⟩
      · by_cases hfirst : first = []
        · subst hfirst
          exact Or.inr (inBack [] (by simpa using ha.symm) (by simpa [hparts] using hback))
        by_cases hnone : last = []
        · subst hnone
          exact Or.inl (inFront [] (by simpa [hparts] using ha))
        -- the last part of the region closes more than it opens, which `b` does not allow
        have hlt := hr.count_lt hparts hfirst hnone
        have hle := hb last ⟨back, hback.symm⟩
        omega
      · exact Or.inr (inBack more hfront (hmore ▸ hback))
    · exact Or.inl (inFront more ha)
  · intro h
    rcases h with h | ⟨hle, h⟩
    · exact h.append_right b
    · have hcovered := h.append_left a
      rwa [Nat.add_sub_cancel' hle] at hcovered

theorem covered_concat {a : List Char} {c : Char}
    (h : ∀ region, region <:+ a ++ [c] → ¬ IsRegion region) (place : Nat) :
    Covered (a ++ [c]) place ↔ Covered a place := by
  constructor
  · intro hc
    obtain ⟨front, region, back, hsplit, hr, hfrom, hto⟩ := hc
    rcases List.eq_nil_or_concat back with rfl | ⟨more, d, rfl⟩
    · rw [List.append_nil] at hsplit
      exact absurd hr (h region ⟨front, hsplit.symm⟩)
    · rw [List.concat_eq_append, ← List.append_assoc] at hsplit
      obtain ⟨ha, -⟩ := List.append_inj' hsplit rfl
      exact ⟨front, region, more, ha, hr, hfrom, hto⟩
  · exact fun h => h.append_right [c]

/-! ### Regions are decidable -/

instance (text : List Char) : Decidable (NoneOpen text) :=
  decidable_of_iff (∀ tail ∈ text.tails, tail.count '[' ≤ tail.count ']')
    (by simp only [NoneOpen, List.mem_tails])

instance (text : List Char) : Decidable (NoneStray text) :=
  decidable_of_iff (∀ front ∈ text.inits, front.count ']' ≤ front.count '[')
    (by simp only [NoneStray, List.mem_inits])

instance (text : List Char) : Decidable (Balanced text) :=
  decidable_of_iff (NoneOpen text ∧ NoneStray text) ⟨fun h => ⟨h.1, h.2⟩, fun h => ⟨h.1, h.2⟩⟩

theorem openersOnly_iff_tails (text : List Char) :
    (∀ tail ∈ text.tails, tail.head? = some '[' → startsWithKeyword tail.tail = true) ↔
      OpenersOnly text := by
  constructor
  · exact fun h after hs => h ('[' :: after) ((List.mem_tails _ _).mpr hs) rfl
  · intro h tail ht hhead
    obtain ⟨after, rfl⟩ := List.head?_eq_some_iff.mp hhead
    exact h after ((List.mem_tails _ _).mp ht)

instance (text : List Char) : Decidable (OpenersOnly text) :=
  decidable_of_iff _ (openersOnly_iff_tails text)

theorem isRegion_iff_inside (text : List Char) :
    (text = '[' :: text.tail.dropLast ++ [']'] ∧ Balanced text.tail.dropLast ∧
      OpenersOnly text) ↔ IsRegion text := by
  constructor
  · exact fun h => ⟨⟨_, h.1, h.2.1⟩, h.2.2⟩
  · intro h
    obtain ⟨⟨inside, rfl, hi⟩, ho⟩ := h
    simpa using ⟨hi, ho⟩

instance (text : List Char) : Decidable (IsRegion text) :=
  decidable_of_iff _ (isRegion_iff_inside text)

theorem covered_iff_stretch (text : List Char) (place : Nat) :
    (∃ start ≤ place, ∃ stop ≤ text.length, place < stop ∧
      IsRegion ((text.take stop).drop start)) ↔ Covered text place := by
  constructor
  · intro h
    obtain ⟨start, hstart, stop, hstop, hp, hr⟩ := h
    refine ⟨(text.take stop).take start, _, text.drop stop, ?_, hr, ?_, ?_⟩
    · rw [List.take_append_drop, List.take_append_drop]
    · simp only [List.length_take]
      omega
    · simp only [List.length_take, List.length_drop]
      omega
  · intro h
    obtain ⟨front, region, back, rfl, hr, hfrom, hto⟩ := h
    refine ⟨front.length, hfrom, front.length + region.length, ?_, hto, ?_⟩
    · simp only [List.length_append]
      omega
    · rwa [← List.length_append, List.take_left', List.drop_left']
      · rfl
      · rfl

instance (text : List Char) (place : Nat) : Decidable (Covered text place) :=
  decidable_of_iff _ (covered_iff_stretch text place)

/-! ### What lies outside -/

/-- The characters of a text whose places are not taken. -/
def spared (taken : Nat → Bool) (text : List Char) : List Char :=
  (text.zipIdx.filter fun entry => !taken entry.2).map Prod.fst

/-- The characters that lie in no region, in their order. -/
def uncovered (text : List Char) : List Char := spared (fun place => Covered text place) text

theorem spared_congr {taken taken' : Nat → Bool} {text : List Char}
    (h : ∀ place < text.length, taken place = taken' place) :
    spared taken text = spared taken' text := by
  rw [spared, spared, List.filter_congr]
  intro entry he
  rw [h entry.2 (List.snd_lt_of_mem_zipIdx he)]

theorem spared_all (text : List Char) : spared (fun _ => false) text = text := by
  simp [spared]

theorem spared_none (text : List Char) : spared (fun _ => true) text = [] := by
  simp [spared]

theorem spared_append (taken : Nat → Bool) (a b : List Char) :
    spared taken (a ++ b) =
      spared taken a ++ spared (fun place => taken (a.length + place)) b := by
  have hshift : b.zipIdx a.length = b.zipIdx.map fun entry => (entry.1, a.length + entry.2) :=
    List.zipIdx_eq_map_add
  rw [spared, List.zipIdx_append, Nat.zero_add, hshift, List.filter_append, List.map_append,
    List.filter_map, List.map_map]
  rfl

theorem uncovered_append {a b : List Char} (hb : NoneStray b) :
    uncovered (a ++ b) = uncovered a ++ uncovered b := by
  rw [uncovered, spared_append]
  congr 1
  · apply spared_congr
    intro place hp
    simp only [covered_append hb, Nat.not_le.mpr hp, false_and, or_false]
  · apply spared_congr
    intro place _
    have hout : ¬ Covered a (a.length + place) := fun h => by
      have hlt := h.lt
      omega
    simp only [covered_append hb, hout, Nat.le_add_right, Nat.add_sub_cancel_left, true_and,
      false_or]

theorem uncovered_concat {a : List Char} {c : Char}
    (h : ∀ region, region <:+ a ++ [c] → ¬ IsRegion region) :
    uncovered (a ++ [c]) = uncovered a ++ [c] := by
  rw [uncovered, spared_append]
  congr 1
  · apply spared_congr
    intro place _
    rw [decide_eq_decide]
    exact covered_concat h place
  · have hfree : ∀ place < [c].length, decide (Covered (a ++ [c]) (a.length + place)) = false := by
      intro place _
      rw [decide_eq_false_iff_not, covered_concat h]
      intro hc
      have hlt := hc.lt
      omega
    rw [spared_congr hfree, spared_all]

theorem uncovered_region {region : List Char} (h : IsRegion region) : uncovered region = [] := by
  have htaken : ∀ place < region.length, decide (Covered region place) = true := by
    intro place hp
    rw [decide_eq_true_eq]
    exact ⟨[], region, [], by simp, h, Nat.zero_le _, by simpa using hp⟩
  rw [uncovered, spared_congr htaken, spared_none]

theorem IsRegion.suffix_concat {region a : List Char} {c : Char} (h : IsRegion region)
    (hs : region <:+ a ++ [c]) :
    c = ']' ∧
      ∃ inside, region = '[' :: inside ++ [']'] ∧ Balanced inside ∧ '[' :: inside <:+ a := by
  obtain ⟨inside, rfl, hi⟩ := h.matched
  obtain ⟨front, hfront⟩ := hs
  rw [← List.append_assoc] at hfront
  obtain ⟨hfront, hc⟩ := List.append_inj' hfront rfl
  exact ⟨(List.singleton_inj.mp hc).symm, inside, rfl, hi, front, hfront⟩

theorem uncovered_char {c : Char} (hc : c ≠ ']') : uncovered [c] = [c] :=
  uncovered_concat (a := []) fun _ hs hr => hc (hr.suffix_concat hs).1

/-- A pair that is no region stays, whatever becomes of its inside. -/
theorem uncovered_pair {inside : List Char} (h : Balanced inside)
    (hr : ¬ IsRegion ('[' :: inside ++ [']'])) :
    uncovered ('[' :: inside ++ [']']) = '[' :: uncovered inside ++ [']'] := by
  have hopen : uncovered ('[' :: inside) = '[' :: uncovered inside := by
    have happend := uncovered_append (a := ['[']) h.noneStray
    rwa [uncovered_char (by decide)] at happend
  rw [uncovered_concat, hopen]
  intro region hs hregion
  obtain ⟨-, other, rfl, hother, hs⟩ := hregion.suffix_concat hs
  rcases List.suffix_cons_iff.mp hs with he | hs
  · obtain ⟨-, rfl⟩ := List.cons.inj he
    exact hr hregion
  · exact h.noneOpen.not_suffix hother hs

theorem uncovered_stray {text : List Char} (h : NoneOpen text) :
    uncovered (text ++ [']']) = uncovered text ++ [']'] := by
  apply uncovered_concat
  intro region hs hregion
  obtain ⟨-, inside, -, hi, hs⟩ := hregion.suffix_concat hs
  exact h.not_suffix hi hs

-- a plain bracket keeps the opener around it, but not the one beside it
example : uncovered "[ACTION:[][ACTION:]]".toList = "[ACTION:[]]".toList := by
  decide +kernel

end ReplyActions.Token
