import ReplyActions.Text.Alphanumeric
import ReplyActions.Token.Invocation

/-!
# Text without tokens

Stripping reads a text once, from left to right, and keeps a stack of the brackets that stand
open. A closing bracket that ends a token takes the text back to where the token began; the spaces
and tabs in front go with it, unless a word follows at once. A token that still holds a bracket
once the tokens inside it are gone is no token and stays.

A generated reply is taken apart into the invocations it carries and the text that is left to show.
-/

namespace ReplyActions

namespace Token

inductive Frame where
  /-- An opener. `before` is the text kept in front of it, last character first; `clean` says
  that no bracket has been kept inside it. -/
  | token (before : List Char) (clean : Bool)
  | bracket
deriving DecidableEq

/-- The stack once a bracket pair has been kept inside its innermost frame. -/
def soiled : List Frame → List Frame
  | .token before _ :: outer => .token before false :: outer
  | frames => frames

def wordFollows : List Char → Bool
  | [] => false
  | c :: _ => Text.isAlphanumeric c

def isGap (c : Char) : Bool := c == ' ' || c == '\t'

/-- The text kept in front of a token that is taken out, last character first. -/
def keptBefore (before rest : List Char) : List Char :=
  if wordFollows rest then before else before.dropWhile isGap

/-- Strips the rest of a text. `frames` are the open brackets, innermost first; `out` is the text
kept so far, last character first; `removed` says that a token has been taken out. -/
def stripFrom (frames : List Frame) (out : List Char) (removed : Bool) :
    List Char → List Char × Bool
  | [] => (out.reverse, removed)
  | c :: rest =>
    if c = '[' then
      let frame := if startsWithKeyword rest then Frame.token out true else Frame.bracket
      stripFrom (frame :: frames) ('[' :: out) removed rest
    else if c = ']' then
      match frames with
      -- what has been kept since the opener goes: the text falls back to what stood before it
      | .token before true :: outer => stripFrom outer (keptBefore before rest) true rest
      -- a pair that stays makes the frame around it hold a bracket
      | _ :: outer => stripFrom (soiled outer) (']' :: out) removed rest
      | [] => stripFrom [] (']' :: out) removed rest
    else stripFrom frames (c :: out) removed rest

/-- The text with its tokens taken out and the blanks at its ends gone; `none` if it holds no
token and stays as it is. -/
def stripped? (text : List Char) : Option (List Char) :=
  if hasOpener text then
    match stripFrom [] [] false text with
    | (out, true) => some (Text.trim out)
    | (_, false) => none
  else none

def strip (text : List Char) : List Char := (stripped? text).getD text

end Token

structure Reply where
  invocations : List Invocation
  cleaned : String
  /-- The text held no token and has been left as it was. -/
  untouched : Bool
deriving DecidableEq

def Reply.ofText (text : String) : Reply :=
  match Token.stripped? text.toList with
  | some kept => ⟨Invocation.extract text.toList, String.ofList kept, false⟩
  | none => ⟨Invocation.extract text.toList, text, true⟩

end ReplyActions
