/-!
# Decimal text of integers

How integers are written, and which texts are read as one: an optional sign in front of at least
one of the digits 0 to 9. Leading zeros are allowed, blanks and separators are not.
-/

namespace ReplyActions.Number

def natDigits (n : Nat) : List Char := Nat.toDigits 10 n

def natText (n : Nat) : String := String.ofList (natDigits n)

/-- The characters of an integer: a minus sign only where it is negative. -/
def intDigits (i : Int) : List Char :=
  if i < 0 then '-' :: natDigits i.natAbs else natDigits i.natAbs

def intText (i : Int) : String := String.ofList (intDigits i)

/-- The text of an integer that always shows a sign. -/
def signedText (i : Int) : String :=
  if i < 0 then intText i else "+" ++ intText i

def isDigit (c : Char) : Bool := c.isDigit

def natOfDigits (digits : List Char) : Nat := Nat.ofDigitChars 10 digits 0

/-- The natural number that a text without a sign spells. -/
def natOf? (text : List Char) : Option Nat :=
  if text.isEmpty || !text.all isDigit then none else some (natOfDigits text)

/-- The integer that a text with an optional sign spells. -/
def intOf? : List Char → Option Int
  | '-' :: digits => (natOf? digits).map fun n => -(n : Int)
  | '+' :: digits => (natOf? digits).map fun n => (n : Int)
  | digits => (natOf? digits).map fun n => (n : Int)

/-! ### Writing and reading -/

theorem natOf?_natDigits (n : Nat) : natOf? (natDigits n) = some n := by
  have hne : (Nat.toDigits 10 n).isEmpty = false := by
    have := Nat.length_toDigits_pos (b := 10) (n := n)
    cases h : Nat.toDigits 10 n with
    | nil => simp [h] at this
    | cons c cs => rfl
  have hall : (Nat.toDigits 10 n).all isDigit = true := by
    rw [List.all_eq_true]
    intro c hc
    exact Nat.isDigit_of_mem_toDigits (by decide) (by decide) hc
  simp only [natOf?, natDigits, hne, hall, Bool.not_true, Bool.or_self, Bool.false_eq_true,
    if_false, natOfDigits, Nat.ofDigitChars_ten_toDigits]

end ReplyActions.Number
