import ReplyActions.Toml.Scalar
import ReplyActions.Toml.Table

/-!
# Reading TOML

A reader of TOML 1.0 documents. The value of a document is a record whose fields stand in the order
in which their keys were first set.
-/

namespace ReplyActions.Toml

/-! ### Values -/

def comma : Scan Unit := Scan.char ','

def separated {α : Type} (item : Scan α) : Scan (List α) := do
  match ← Scan.optional? item with
  | none => return []
  | some first =>
    let others ← Scan.many do
      comma
      item
    return first :: others

def arrayOf (value : Scan Datum) : Scan Datum := do
  Scan.char '['
  let items ← separated do
    spread
    let item ← value
    spread
    return item
  if !items.isEmpty then
    let _ ← Scan.optional? comma
  spread
  Scan.char ']'
  return .list items

/-- A table in braces, on one line. -/
def braceTableOf (value : Scan Datum) : Scan Datum := do
  Scan.char '{'
  let pairs ← separated do
    let key ← dottedKey
    Scan.char '='
    gap
    let datum ← value
    gap
    return (key, datum)
  gap
  Scan.char '}'
  match braceEntries pairs with
  | some entries => return .record (entriesToFields entries)
  | none => failure

/-- A value with fewer than `levels` levels of arrays and tables in braces around others. -/
def value : Nat → Scan Datum
  | 0 => scalar
  | levels + 1 => scalar <|> arrayOf (value levels) <|> braceTableOf (value levels)

/-! ### Lines -/

inductive Line where
  | blank
  | pair (path : List String) (key : String) (datum : Datum)
  | table (path : List String) (key : String)
  /-- The header of the next table of an array. -/
  | element (path : List String) (key : String)

def blankLine : Scan Line := do
  let _ ← Scan.optional? comment
  newline
  return .blank

def lastComment : Scan Line := do
  comment
  Scan.atEnd
  return .blank

def elementLine : Scan Line := do
  Scan.word "[["
  let (path, key) ← dottedKey
  Scan.word "]]"
  lineRest
  return .element path key

def tableLine : Scan Line := do
  Scan.char '['
  let (path, key) ← dottedKey
  Scan.char ']'
  lineRest
  return .table path key

def pairLine : Scan Line := do
  let (path, key) ← dottedKey
  Scan.char '='
  gap
  let datum ← value (maxLevels - 1)
  lineRest
  return .pair path key datum

/-- A line of a document with the blanks in front of it. -/
def line : Scan Line := do
  gap
  blankLine <|> lastComment <|> elementLine <|> tableLine <|> pairLine

/-! ### Documents -/

def Draft.withLine (d : Draft) : Line → Option Draft
  | .blank => some d
  | .pair path key datum => d.withValue path key datum
  | .table path key => d.withTable path key
  | .element path key => d.withElement path key

def lines : Scan (List Line) := do
  let _ ← Scan.optional? (Scan.char '\uFEFF')
  let all ← Scan.many line
  gap
  Scan.atEnd
  return all

def read (text : String) : Option Datum :=
  match lines text.toList with
  | none => none
  | some (all, _) => (all.foldlM Draft.withLine Draft.start).bind Draft.toDatum?

end ReplyActions.Toml
