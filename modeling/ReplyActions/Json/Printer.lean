import ReplyActions.Datum.Basic
import ReplyActions.Number.Decimal

/-!
# Writing JSON

Two layouts: on one line without spaces, and with one item a line, two spaces to a level. Only
quotes, backslashes and control characters are escaped.
-/

namespace ReplyActions.Json
open Number

def hexDigit (n : Nat) : Char := Nat.digitChar n

def writtenChar (c : Char) : List Char :=
  match c with
  | '"' => ['\\', '"']
  | '\\' => ['\\', '\\']
  | '\x08' => ['\\', 'b']
  | '\x0c' => ['\\', 'f']
  | '\n' => ['\\', 'n']
  | '\r' => ['\\', 'r']
  | '\t' => ['\\', 't']
  | _ =>
    if c.toNat < 32 then
      ['\\', 'u', '0', '0', hexDigit (c.toNat / 16), hexDigit (c.toNat % 16)]
    else [c]

def writtenText (text : String) : List Char :=
  '"' :: text.toList.flatMap writtenChar ++ ['"']

def writtenBool (b : Bool) : List Char := if b then "true".toList else "false".toList

mutual

def compactChars : Datum → List Char
  | .null => "null".toList
  | .bool b => writtenBool b
  | .int i => intDigits i
  | .real spelling => spelling.toList
  | .text s => writtenText s
  | .unreadable => "null".toList
  | .list items => '[' :: compactItems items ++ [']']
  | .record fields => '{' :: compactFields fields ++ ['}']

def compactItems : List Datum → List Char
  | [] => []
  | [item] => compactChars item
  | item :: next :: rest => compactChars item ++ ',' :: compactItems (next :: rest)

def compactFields : List (String × Datum) → List Char
  | [] => []
  | [(name, value)] => writtenText name ++ ':' :: compactChars value
  | (name, value) :: next :: rest =>
    writtenText name ++ ':' :: compactChars value ++ ',' :: compactFields (next :: rest)

end

/-- A new line and the spaces of a level. -/
def newLine (level : Nat) : List Char := '\n' :: List.replicate (2 * level) ' '

mutual

def prettyChars (level : Nat) : Datum → List Char
  | .null => "null".toList
  | .bool b => writtenBool b
  | .int i => intDigits i
  | .real spelling => spelling.toList
  | .text s => writtenText s
  | .unreadable => "null".toList
  | .list [] => ['[', ']']
  | .list (item :: rest) =>
    '[' :: newLine (level + 1) ++ prettyItems (level + 1) (item :: rest) ++ newLine level ++ [']']
  | .record [] => ['{', '}']
  | .record (field :: rest) =>
    '{' :: newLine (level + 1) ++ prettyFields (level + 1) (field :: rest) ++ newLine level ++ ['}']

def prettyItems (level : Nat) : List Datum → List Char
  | [] => []
  | [item] => prettyChars level item
  | item :: next :: rest =>
    prettyChars level item ++ ',' :: newLine level ++ prettyItems level (next :: rest)

def prettyFields (level : Nat) : List (String × Datum) → List Char
  | [] => []
  | [(name, value)] => writtenText name ++ [':', ' '] ++ prettyChars level value
  | (name, value) :: next :: rest =>
    writtenText name ++ [':', ' '] ++ prettyChars level value ++ ',' :: newLine level ++
      prettyFields level (next :: rest)

end

def compact (datum : Datum) : String := String.ofList (compactChars datum)

def pretty (datum : Datum) : String := String.ofList (prettyChars 0 datum)

end ReplyActions.Json
