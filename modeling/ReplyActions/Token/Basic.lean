import ReplyActions.Text.LetterCase

/-!
# Action tokens

A token is written `[ACTION:id:param:...]`. It begins with the opener `[ACTION:`, in capitals or
small letters, and ends with the closing bracket; between them stands a body without brackets,
whose segments are set apart by colons. This module says where a token begins and what its body
is.
-/

namespace ReplyActions.Token

/-- The letters of the opener, after its bracket. -/
def keyword : List Char := ['a', 'c', 't', 'i', 'o', 'n', ':']

def openerLength : Nat := keyword.length + 1

/-- The first characters of the text are the keyword, in capitals or small letters. -/
def startsWithKeyword (text : List Char) : Bool :=
  (text.take keyword.length).map Text.lowerChar == keyword

def startsWithOpener : List Char → Bool
  | '[' :: rest => startsWithKeyword rest
  | _ => false

def hasOpener : List Char → Bool
  | [] => false
  | c :: rest => startsWithOpener (c :: rest) || hasOpener rest

def isBracket (c : Char) : Bool := c == '[' || c == ']'

/-- The body of the token that the text begins with, if it begins with one. -/
def bodyAt? (text : List Char) : Option (List Char) :=
  if startsWithOpener text then
    let inside := text.drop openerLength
    match inside.dropWhile (!isBracket ·) with
    | ']' :: _ => some (inside.takeWhile (!isBracket ·))
    | _ => none
  else none

/-- The segments of a body: the pieces between its colons, at least one. -/
def segments : List Char → List (List Char)
  | [] => [[]]
  | c :: rest =>
    match segments rest with
    | [] => [[c]]
    | first :: others => if c = ':' then [] :: first :: others else (c :: first) :: others

def joined : List (List Char) → List Char
  | [] => []
  | [segment] => segment
  | segment :: others => segment ++ ':' :: joined others

/-! ### Segments and bodies -/

theorem segments_ne_nil (body : List Char) : segments body ≠ [] := by
  cases body with
  | nil => simp [segments]
  | cons c rest =>
    simp only [segments]
    split
    · simp
    · split <;> simp

theorem joined_segments (body : List Char) : joined (segments body) = body := by
  induction body with
  | nil => rfl
  | cons c rest ih =>
    simp only [segments]
    cases h : segments rest with
    | nil => exact absurd h (segments_ne_nil rest)
    | cons first others =>
      rw [h] at ih
      simp only
      split
      · next hc =>
        subst hc
        simp [joined, ih]
      · cases others with
        | nil =>
          simp only [joined] at ih ⊢
          rw [ih]
        | cons second more =>
          simp only [joined] at ih ⊢
          rw [List.cons_append, ih]

end ReplyActions.Token
