/-!
# Blank characters

The white space of text, and the three ways of cutting it off the ends of a text.
-/

namespace ReplyActions.Text

/-- The characters with the property `White_Space`. -/
def isBlank (c : Char) : Bool :=
  let n := c.toNat
  (9 ≤ n && n ≤ 13) || n == 0x20 || n == 0x85 || n == 0xA0 || n == 0x1680 ||
    (0x2000 ≤ n && n ≤ 0x200A) || n == 0x2028 || n == 0x2029 || n == 0x202F ||
    n == 0x205F || n == 0x3000

def trimStartBy (p : Char → Bool) (text : List Char) : List Char := text.dropWhile p

def trimEndBy (p : Char → Bool) (text : List Char) : List Char :=
  (text.reverse.dropWhile p).reverse

/-- The text without the characters at either end that satisfy `p`. -/
def trimBy (p : Char → Bool) (text : List Char) : List Char := trimEndBy p (trimStartBy p text)

def trim (text : List Char) : List Char := trimBy isBlank text

def trimmed (text : String) : String := String.ofList (trim text.toList)

/-! ### What is left after trimming -/

theorem trimEndBy_append_of_pos (p : Char → Bool) (text : List Char) {c : Char} (h : p c = true) :
    trimEndBy p (text ++ [c]) = trimEndBy p text := by
  simp [trimEndBy, h]

theorem trimEndBy_append_of_neg (p : Char → Bool) (text : List Char) {c : Char} (h : p c = false) :
    trimEndBy p (text ++ [c]) = text ++ [c] := by
  simp [trimEndBy, h]

end ReplyActions.Text
