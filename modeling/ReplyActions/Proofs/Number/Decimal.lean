import ReplyActions.Number.Decimal

/-!
# The digits of a number

A natural number is written with digits alone and, unless it is zero, does not begin with one. What
is read as a number is digits as well, any zeros in front of it included, and what is read as an
integer has at most one sign in front of them.
-/

namespace ReplyActions.Number

/-! ### Numbers as they are written -/

variable {c : Char} {n : Nat}

theorem isDigit_of_mem_natDigits (h : c ∈ natDigits n) : isDigit c = true :=
  Nat.isDigit_of_mem_toDigits (by decide) (by decide) h

theorem natDigits_ne_nil (n : Nat) : natDigits n ≠ [] := Nat.toDigits_ne_nil

theorem natOfDigits_natDigits (n : Nat) : natOfDigits (natDigits n) = n :=
  Nat.ofDigitChars_ten_toDigits

theorem digitChar_ne_zero (hpos : 0 < n) (hlt : n < 10) : n.digitChar ≠ '0' := by
  have hall : ∀ digit : Fin 10, 0 < digit.val → digit.val.digitChar ≠ '0' := by decide
  exact hall ⟨n, hlt⟩ hpos

theorem natDigits_of_pos (h : 0 < n) : ∃ first rest, natDigits n = first :: rest ∧ first ≠ '0' := by
  induction n using Nat.strongRecOn with
  | ind n ih =>
    rcases Nat.lt_or_ge n 10 with hlt | hge
    · exact ⟨n.digitChar, [], Nat.toDigits_of_lt_base hlt, digitChar_ne_zero h hlt⟩
    · have hdigits : natDigits n = natDigits (n / 10) ++ [(n % 10).digitChar] := by
        rw [natDigits, Nat.toDigits_eq_if (by decide), if_neg (Nat.not_lt.mpr hge)]
        rfl
      obtain ⟨first, rest, hrest, hne⟩ := ih (n / 10) (by omega) (by omega)
      exact ⟨first, rest ++ [(n % 10).digitChar], by rw [hdigits, hrest, List.cons_append], hne⟩

/-! ### Integers as they are spelled -/

/-- At least one digit, and digits alone. -/
structure IsNumeral (text : List Char) : Prop where
  nonempty : text ≠ []
  digits : ∀ c ∈ text, isDigit c = true

inductive SpellsInteger : List Char → Int → Prop
  | plain {digits : List Char} (numeral : IsNumeral digits) :
    SpellsInteger digits (natOfDigits digits)
  | plus {digits : List Char} (numeral : IsNumeral digits) :
    SpellsInteger ('+' :: digits) (natOfDigits digits)
  | minus {digits : List Char} (numeral : IsNumeral digits) :
    SpellsInteger ('-' :: digits) (-(natOfDigits digits : Int))

theorem natOf?_eq_some_iff {text : List Char} {n : Nat} :
    natOf? text = some n ↔ IsNumeral text ∧ natOfDigits text = n := by
  unfold natOf?
  split
  · next h =>
    rw [Bool.or_eq_true, List.isEmpty_iff, Bool.not_eq_true', List.all_eq_false] at h
    simp only [reduceCtorEq, false_iff, not_and]
    intro hnumeral
    rcases h with hnil | ⟨c, hc, hnot⟩
    · exact absurd hnil hnumeral.nonempty
    · exact absurd (hnumeral.digits c hc) hnot
  · next h =>
    rw [Bool.or_eq_true, not_or, List.isEmpty_iff, Bool.not_eq_true', Bool.not_eq_false,
      List.all_eq_true] at h
    rw [Option.some.injEq]
    exact ⟨fun hn => ⟨⟨h.1, h.2⟩, hn⟩, fun hn => hn.2⟩

theorem IsNumeral.natOf?_eq {text : List Char} (h : IsNumeral text) :
    natOf? text = some (natOfDigits text) := natOf?_eq_some_iff.mpr ⟨h, rfl⟩

theorem isNumeral_of_map_natOf? {text : List Char} {f : Nat → Int} {i : Int}
    (h : (natOf? text).map f = some i) : IsNumeral text ∧ f (natOfDigits text) = i := by
  obtain ⟨n, hn, hi⟩ := Option.map_eq_some_iff.mp h
  obtain ⟨hnumeral, hdigits⟩ := natOf?_eq_some_iff.mp hn
  rw [hdigits]
  exact ⟨hnumeral, hi⟩

theorem intOf?_minus (digits : List Char) :
    intOf? ('-' :: digits) = (natOf? digits).map fun n : Nat => -(n : Int) := by
  simp only [intOf?]
  cases natOf? digits <;> rfl

theorem intOf?_plus (digits : List Char) :
    intOf? ('+' :: digits) = (natOf? digits).map fun n : Nat => (n : Int) := by
  simp only [intOf?]
  cases natOf? digits <;> rfl

theorem intOf?_plain {text : List Char} (hminus : ∀ rest, text ≠ '-' :: rest)
    (hplus : ∀ rest, text ≠ '+' :: rest) :
    intOf? text = (natOf? text).map fun n : Nat => (n : Int) := by
  unfold intOf?
  split
  · exact absurd rfl (hminus _)
  · exact absurd rfl (hplus _)
  · cases natOf? text <;> rfl

theorem IsNumeral.ne_cons {text : List Char} (h : IsNumeral text) {sign : Char}
    (hsign : isDigit sign = false) (rest : List Char) : text ≠ sign :: rest := by
  intro heq
  have hdigit := h.digits sign (heq ▸ List.mem_cons_self)
  rw [hsign] at hdigit
  contradiction

theorem SpellsInteger.intOf?_eq {text : List Char} {i : Int} (h : SpellsInteger text i) :
    intOf? text = some i := by
  cases h with
  | plain numeral =>
    -- a sign is not a digit
    rw [intOf?_plain (numeral.ne_cons (by decide)) (numeral.ne_cons (by decide)),
      numeral.natOf?_eq, Option.map_some]
  | plus numeral => rw [intOf?_plus, numeral.natOf?_eq, Option.map_some]
  | minus numeral => rw [intOf?_minus, numeral.natOf?_eq, Option.map_some]

theorem spellsInteger_of_intOf? {text : List Char} {i : Int} (h : intOf? text = some i) :
    SpellsInteger text i := by
  by_cases hminus : ∃ rest, text = '-' :: rest
  · obtain ⟨rest, rfl⟩ := hminus
    rw [intOf?_minus] at h
    obtain ⟨hnumeral, rfl⟩ := isNumeral_of_map_natOf? h
    exact .minus hnumeral
  by_cases hplus : ∃ rest, text = '+' :: rest
  · obtain ⟨rest, rfl⟩ := hplus
    rw [intOf?_plus] at h
    obtain ⟨hnumeral, rfl⟩ := isNumeral_of_map_natOf? h
    exact .plus hnumeral
  · rw [intOf?_plain (not_exists.mp hminus) (not_exists.mp hplus)] at h
    obtain ⟨hnumeral, rfl⟩ := isNumeral_of_map_natOf? h
    exact .plain hnumeral

theorem intOf?_eq_some_iff {text : List Char} {i : Int} :
    intOf? text = some i ↔ SpellsInteger text i :=
  ⟨spellsInteger_of_intOf?, SpellsInteger.intOf?_eq⟩

end ReplyActions.Number
