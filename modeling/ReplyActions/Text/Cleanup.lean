import ReplyActions.Text.Blank
import ReplyActions.Text.Capital

/-!
# Cleaned text

Free text is cleaned before it is stored or shown: markup and quotation marks go, the first letter
is made small, trailing punctuation goes, and a text that is too long ends in an ellipsis.
-/

namespace ReplyActions.Text

/-- The bracket that closes a piece of markup opened by the character. -/
def closingBracket? (c : Char) : Option Char :=
  if c = '<' then some '>' else if c = '[' then some ']' else none

/-- The number of characters that follow an opening bracket up to its closing one, which has to be
the next bracket of its kind. -/
def markupLength? (opening : Char) (rest : List Char) : Option Nat :=
  match closingBracket? opening with
  | none => none
  | some closing =>
    -- an opening bracket further in would begin a piece of its own
    let inside := rest.takeWhile fun c => c != opening && c != closing
    match rest.drop inside.length with
    | c :: _ => if c = closing then some (inside.length + 1) else none
    | [] => none

/-- The text without markup, after `skip` more characters that belong to some. -/
def withoutMarkupFrom (skip : Nat) : List Char → List Char
  | [] => []
  | c :: rest =>
    match skip with
    | more + 1 => withoutMarkupFrom more rest
    | 0 =>
      match markupLength? c rest with
      | some length => withoutMarkupFrom length rest
      | none => c :: withoutMarkupFrom 0 rest

def withoutMarkup (text : List Char) : List Char := withoutMarkupFrom 0 text

def isMarkupBracket (c : Char) : Bool := c == '<' || c == '>' || c == '[' || c == ']'

/-- The marks that a quotation can stand in. -/
def isQuotationMark (c : Char) : Bool :=
  ['"', '\'', '\x60', '“', '”', '‘', '’', '«', '»'].contains c

/-- The marks that are cut off the end of a text. -/
def isTrailingMark (c : Char) : Bool := ['.', '!', '?', ',', ';', ':', '…'].contains c

/-- The text with a small first letter, unless it begins with two capitals. -/
def withSmallStart : List Char → List Char
  | [] => []
  | first :: rest =>
    let acronym := match rest with
      | [] => false
      | second :: _ => isCapital second
    if acronym || !isCapital first then first :: rest else smallForm first ++ rest

def ellipsis : List Char := ['.', '.', '.']

/-- The text cut to a length that counts the ellipsis. -/
def shortened (maxLength : Nat) (text : List Char) : List Char :=
  if text.length ≤ maxLength then text
  else trimEndBy isBlank (text.take (maxLength - ellipsis.length)) ++ ellipsis

/-- The cleaned text before it is cut to a length. -/
def cleanedAtLength (text : List Char) : List Char :=
  let plain := (withoutMarkup (trim text)).filter (!isMarkupBracket ·)
  let unquoted := trim (trimBy isQuotationMark (trim plain))
  let finished := trimEndBy (fun c => isTrailingMark c || isBlank c) (withSmallStart unquoted)
  trimStartBy isBlank finished

/-- The cleaned text, of at most `maxLength` characters. -/
def cleaned (text : String) (maxLength : Nat) : String :=
  String.ofList (shortened maxLength (cleanedAtLength text.toList))

end ReplyActions.Text
