import ReplyActions.Proofs.Token.Words
import ReplyActions.Text.Cleanup

/-!
# Capitals, small letters and marks

A capital is none of the characters that cleaning looks out for, and its small form holds neither
such characters nor, at its front, another capital with a small form. The table of capitals is too
long to be compared entry by entry. So code points are gathered as the bits of one number, and two
tables are apart if their numbers have no bit in common.
-/

namespace ReplyActions.Text

/-- The characters that cleaning cuts off somewhere. -/
def isMarked (c : Char) : Bool :=
  isBlank c || isMarkupBracket c || isQuotationMark c || isTrailingMark c

def marks : List Char :=
  ['<', '>', '[', ']', '"', '\'', '\x60', '“', '”', '‘', '’', '«', '»', '.', '!', '?', ',', ';',
    ':', '…']

theorem isMarked_of_isBlank (c : Char) (h : isBlank c = true) : isMarked c = true := by
  simp only [isMarked, h, Bool.true_or]

theorem isMarked_of_isMarkupBracket (c : Char) (h : isMarkupBracket c = true) :
    isMarked c = true := by
  simp only [isMarked, h, Bool.or_true, Bool.true_or]

theorem isMarked_of_isQuotationMark (c : Char) (h : isQuotationMark c = true) :
    isMarked c = true := by
  simp only [isMarked, h, Bool.or_true, Bool.true_or]

theorem eq_false_of_isMarked {p : Char → Bool} (hp : ∀ c, p c = true → isMarked c = true)
    {c : Char} (h : isMarked c = false) : p c = false := by
  rw [← Bool.not_eq_true]
  intro hpc
  rw [hp c hpc] at h
  contradiction

theorem mem_marks {c : Char} (h : isMarked c = true) : isBlank c = true ∨ c ∈ marks := by
  simp only [isMarked, isMarkupBracket, isQuotationMark, isTrailingMark, Bool.or_eq_true,
    beq_iff_eq, List.contains_iff_mem] at h
  rcases h with ((h | h) | h) | h
  · exact Or.inl h
  · refine Or.inr ?_
    rcases h with ((rfl | rfl) | rfl) | rfl <;> decide
  · exact Or.inr (List.mem_append_right ['<', '>', '[', ']'] (List.mem_append_left _ h))
  · exact Or.inr (List.mem_append_right ['<', '>', '[', ']', '"', '\'', '\x60', '“', '”', '‘', '’',
      '«', '»'] h)

/-! ### Code points as bits -/

def bitsOf (codes : List Nat) : Nat := codes.foldr (fun code bits => 1 <<< code ||| bits) 0

theorem testBit_bitsOf (codes : List Nat) (n : Nat) :
    (bitsOf codes).testBit n = true ↔ n ∈ codes := by
  induction codes with
  | nil => simp [bitsOf]
  | cons code rest ih =>
    have hcons : bitsOf (code :: rest) = 1 <<< code ||| bitsOf rest := rfl
    rw [hcons, Nat.testBit_or, Bool.or_eq_true, ih, Nat.one_shiftLeft, Nat.testBit_two_pow,
      decide_eq_true_eq, List.mem_cons, eq_comm]

theorem notMem_of_bits {a b : List Nat} (h : bitsOf a &&& bitsOf b = 0) {n : Nat} (ha : n ∈ a) :
    n ∉ b := by
  intro hb
  have hbit : (bitsOf a &&& bitsOf b).testBit n = true := by
    rw [Nat.testBit_and, (testBit_bitsOf a n).mpr ha, (testBit_bitsOf b n).mpr hb]
    rfl
  rw [h, Nat.zero_testBit] at hbit
  contradiction

def rowCodes (row : Nat × Nat × Nat × Int) : List Nat :=
  List.range' row.1 ((row.2.1 - row.1) / row.2.2.1 + 1) row.2.2.1

def capitalCodes : List Nat := capitals.flatMap rowCodes

/-- The small letters of the capitals that have one. -/
def smallCodes : List Nat :=
  capitals.flatMap fun row =>
    if row.2.2.2 = 0 then [] else (rowCodes row).map fun n : Nat => (n + row.2.2.2).toNat

def markCodes : List Nat := Token.blanks ++ marks.map Char.toNat

theorem toNat_mem_markCodes {c : Char} (h : isMarked c = true) : c.toNat ∈ markCodes := by
  rcases mem_marks h with hb | hm
  · exact List.mem_append_left _ (Token.mem_blanks hb)
  · exact List.mem_append_right _ (List.mem_map_of_mem hm)

theorem capitalRow?_eq_some {c : Char} {row : Nat × Nat × Nat × Int}
    (h : capitalRow? c = some row) : row ∈ capitals ∧ c.toNat ∈ rowCodes row := by
  refine ⟨List.mem_of_find?_eq_some h, ?_⟩
  have hrow := List.find?_some h
  obtain ⟨first, last, stride, shift⟩ := row
  simp only [Bool.and_eq_true, decide_eq_true_eq, beq_iff_eq] at hrow
  obtain ⟨⟨hfirst, hlast⟩, hstride⟩ := hrow
  have hdiv : stride * ((c.toNat - first) / stride) = c.toNat - first :=
    Nat.mul_div_cancel' (Nat.dvd_of_mod_eq_zero hstride)
  have hle : (c.toNat - first) / stride ≤ (last - first) / stride :=
    Nat.div_le_div_right (by omega)
  rw [rowCodes, List.mem_range']
  exact ⟨_, Nat.lt_succ_of_le hle, by rw [hdiv]; omega⟩

theorem toNat_mem_capitalCodes {c : Char} (h : isCapital c = true) : c.toNat ∈ capitalCodes := by
  obtain ⟨row, hrow⟩ := Option.isSome_iff_exists.mp h
  obtain ⟨hm, hc⟩ := capitalRow?_eq_some hrow
  exact List.mem_flatMap.mpr ⟨row, hm, hc⟩

theorem isMarked_of_isCapital {c : Char} (h : isCapital c = true) : isMarked c = false := by
  have hapart : bitsOf capitalCodes &&& bitsOf markCodes = 0 := by decide +kernel
  rw [← Bool.not_eq_true]
  exact fun hm => notMem_of_bits hapart (toNat_mem_capitalCodes h) (toNat_mem_markCodes hm)

/-! ### Small forms -/

theorem smallCodes_valid : ∀ n ∈ smallCodes, n.isValidChar := by decide +kernel

theorem small_of_mem_smallCodes {c : Char} (h : c.toNat ∈ smallCodes) :
    isCapital c = false ∧ isMarked c = false := by
  have hcapitals : bitsOf smallCodes &&& bitsOf capitalCodes = 0 := by decide +kernel
  have hmarks : bitsOf smallCodes &&& bitsOf markCodes = 0 := by decide +kernel
  rw [← Bool.not_eq_true, ← Bool.not_eq_true]
  exact ⟨fun hc => notMem_of_bits hcapitals h (toNat_mem_capitalCodes hc),
    fun hm => notMem_of_bits hmarks h (toNat_mem_markCodes hm)⟩

theorem smallForm_cases (c : Char) :
    c = 'İ' ∨ smallForm c = [c] ∨ ∃ d, smallForm c = [d] ∧ d.toNat ∈ smallCodes := by
  by_cases hdot : c = 'İ'
  · exact Or.inl hdot
  refine Or.inr ?_
  simp only [smallForm, if_neg hdot]
  split
  · next first last stride shift hrow =>
    obtain ⟨hm, hc⟩ := capitalRow?_eq_some hrow
    by_cases hshift : shift = 0
    · left
      simp [hshift, Char.ofNat_toNat]
    · right
      have hmem : (c.toNat + shift).toNat ∈ smallCodes := by
        refine List.mem_flatMap.mpr ⟨_, hm, ?_⟩
        rw [if_neg hshift]
        exact List.mem_map_of_mem hc
      refine ⟨_, rfl, ?_⟩
      rwa [Char.ofNat, dif_pos (smallCodes_valid _ hmem)]
  · exact Or.inl rfl

theorem smallForm_cons {c : Char} :
    smallForm c = [c] ∨ ∃ d more, smallForm c = d :: more ∧ isCapital d = false := by
  rcases smallForm_cases c with rfl | h | ⟨d, h, hd⟩
  · exact Or.inr ⟨'i', [Char.ofNat 0x307], rfl, by decide +kernel⟩
  · exact Or.inl h
  · exact Or.inr ⟨d, [], h, (small_of_mem_smallCodes hd).1⟩

theorem isMarked_smallForm {c : Char} (h : isCapital c = true) :
    ∀ d ∈ smallForm c, isMarked d = false := by
  rcases smallForm_cases c with rfl | hc | ⟨d, hd, hsmall⟩
  · exact List.forall_mem_cons.mpr ⟨by decide, List.forall_mem_singleton.mpr (by decide)⟩
  · rw [hc]
    exact List.forall_mem_singleton.mpr (isMarked_of_isCapital h)
  · rw [hd]
    exact List.forall_mem_singleton.mpr (small_of_mem_smallCodes hsmall).2

theorem length_smallForm_le (c : Char) : (smallForm c).length ≤ 2 := by
  rcases smallForm_cases c with rfl | h | ⟨d, h, -⟩
  · decide
  · rw [h]
    exact Nat.le_succ 1
  · rw [h]
    exact Nat.le_succ 1

end ReplyActions.Text
