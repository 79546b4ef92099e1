/-!
# Letter case of the basic letters

Identifiers and stored names are compared without regard to the case of the letters a to z.
No other letter has a second form here.
-/

namespace ReplyActions.Text

/-- The capital of a letter a to z; every other character itself. -/
def upperChar (c : Char) : Char :=
  if 97 ≤ c.toNat ∧ c.toNat ≤ 122 then Char.ofNat (c.toNat - 32) else c

/-- The small letter of a letter A to Z; every other character itself. -/
def lowerChar (c : Char) : Char :=
  if 65 ≤ c.toNat ∧ c.toNat ≤ 90 then Char.ofNat (c.toNat + 32) else c

def upper (text : String) : String := String.ofList (text.toList.map upperChar)

def lower (text : String) : String := String.ofList (text.toList.map lowerChar)

/-- The strings agree up to the case of the letters a to z. -/
def sameIgnoringCase (a b : String) : Bool := a.toList.map lowerChar == b.toList.map lowerChar

theorem sameIgnoringCase_iff (a b : String) :
    sameIgnoringCase a b = true ↔ lower a = lower b := by
  simp only [sameIgnoringCase, lower, beq_iff_eq]
  constructor
  · intro h
    rw [h]
  · intro h
    have := congrArg String.toList h
    simpa only [String.toList_ofList] using this

end ReplyActions.Text
