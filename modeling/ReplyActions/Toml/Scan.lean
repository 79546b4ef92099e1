/-!
# Scanning

Readers that take what they want from the front of a text, or refuse it.
-/

namespace ReplyActions.Toml

/-- A reader of the front of a text. -/
abbrev Scan := StateT (List Char) Option

namespace Scan

def peek? : Scan (Option Char) := do return (← get).head?

def anyChar : Scan Char := do
  match ← get with
  | [] => failure
  | c :: rest =>
    set rest
    return c

def charOf (p : Char → Bool) : Scan Char := do
  let c ← anyChar
  if p c then return c else failure

def char (c : Char) : Scan Unit := do
  let _ ← charOf (· == c)

def word (text : String) : Scan Unit := text.toList.forM char

/-- The longest run of characters that satisfy `p`, which may be empty. -/
def run (p : Char → Bool) : Scan (List Char) := do
  let text ← get
  set (text.dropWhile p)
  return text.takeWhile p

/-- The longest run of characters that satisfy `p`, at least one. -/
def run1 (p : Char → Bool) : Scan (List Char) := do
  let chars ← run p
  if chars.isEmpty then failure else return chars

/-- The reader's result, or nothing if it refuses the text. -/
def optional? {α : Type} (scan : Scan α) : Scan (Option α) := (some <$> scan) <|> pure none

def atEnd : Scan Unit := do
  if (← get).isEmpty then return () else failure

/-- The results of a reader that is repeated as long as it accepts the text and takes something
from it. -/
def many {α : Type} (scan : Scan α) : Scan (List α) := do
  let text ← get
  let (results, rest) := loop text.length text
  set rest
  return results
where
  /-- At most as many results as there are characters. -/
  loop : Nat → List Char → List α × List Char
    | 0, text => ([], text)
    | steps + 1, text =>
      match scan text with
      | none => ([], text)
      | some (result, rest) =>
        if rest.length < text.length then
          let (results, rest) := loop steps rest
          (result :: results, rest)
        else ([], text)

end Scan

/-! ### Blanks, comments and ends of lines -/

def isGap (c : Char) : Bool := c == ' ' || c == '\t'

def isWide (c : Char) : Bool := 0x80 ≤ c.toNat

def inComment (c : Char) : Bool := c == '\t' || (0x20 ≤ c.toNat && c.toNat ≤ 0x7E) || isWide c

def gap : Scan Unit := do
  let _ ← Scan.run isGap

def newline : Scan Unit := Scan.char '\n' <|> Scan.word "\r\n"

def comment : Scan Unit := do
  Scan.char '#'
  let _ ← Scan.run inComment

def lineEnd : Scan Unit := newline <|> Scan.atEnd

/-- What may follow on a line that is complete. -/
def lineRest : Scan Unit := do
  gap
  let _ ← Scan.optional? comment
  lineEnd

/-- Blanks, comments and line ends, as they may stand between the items of an array. -/
def spread : Scan Unit := do
  let _ ← Scan.many do
    gap
    let _ ← Scan.optional? comment
    newline
  gap

end ReplyActions.Toml
