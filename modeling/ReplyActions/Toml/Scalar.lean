import ReplyActions.Datum.Basic
import ReplyActions.Number.Binary64
import ReplyActions.Toml.Scan

/-!
# Simple values of TOML

Strings in their four forms, keys, integers, floating point numbers, truth values, dates and times,
as TOML 1.0 has them.
-/

namespace ReplyActions.Toml
open Number

/-! ### Strings -/

def isBasic (c : Char) : Bool :=
  let n := c.toNat
  isGap c || n == 0x21 || (0x23 ≤ n && n ≤ 0x5B) || (0x5D ≤ n && n ≤ 0x7E) || isWide c

def isLiteral (c : Char) : Bool :=
  let n := c.toNat
  c == '\t' || (0x20 ≤ n && n ≤ 0x26) || (0x28 ≤ n && n ≤ 0x7E) || isWide c

def hexValue? (c : Char) : Option Nat :=
  let n := c.toNat
  if 48 ≤ n && n ≤ 57 then some (n - 48)
  else if 65 ≤ n && n ≤ 70 then some (n - 55)
  else if 97 ≤ n && n ≤ 102 then some (n - 87)
  else none

/-- A code point of so many hexadecimal digits, which has to be a character. -/
def codePoint : Nat → Nat → Scan Char
  | 0, value => if value.isValidChar then return Char.ofNat value else failure
  | digits + 1, value => do
    match hexValue? (← Scan.anyChar) with
    | some d => codePoint digits (value * 16 + d)
    | none => failure

def escape : Scan Char := do
  Scan.char '\\'
  match ← Scan.anyChar with
  | 'b' => return '\x08'
  | 't' => return '\t'
  | 'n' => return '\n'
  | 'f' => return '\x0c'
  | 'r' => return '\r'
  | '"' => return '"'
  | '\\' => return '\\'
  | 'u' => codePoint 4 0
  | 'U' => codePoint 8 0
  | _ => failure

def basicString : Scan (List Char) := do
  Scan.char '"'
  let chars ← Scan.many (Scan.charOf isBasic <|> escape)
  Scan.char '"'
  return chars

def literalString : Scan (List Char) := do
  Scan.char '\''
  let chars ← Scan.run isLiteral
  Scan.char '\''
  return chars

/-- A backslash that takes the end of its line with it, and the blank that follows. -/
def continuation : Scan (List Char) := do
  Scan.char '\\'
  gap
  newline
  let _ ← Scan.many (newline <|> (do let _ ← Scan.charOf isGap))
  return []

/-- One or two quotes that do not end a string of several lines. -/
def innerQuotes (quote : Char) : Scan (List Char) := do
  let quotes ← Scan.run1 (· == quote)
  if quotes.length < 3 then return quotes else failure

/-- The end of a string of several lines, and the quotes before it that belong to the string. -/
def closingQuotes (quote : Char) : Scan (List Char) := do
  let text ← get
  let count := (text.takeWhile (· == quote)).length
  if count < 3 then failure
  else
    -- of a longer run the last three quotes close the string, and at most two belong to it
    let own := min (count - 3) 2
    set (text.drop (own + 3))
    return List.replicate own quote

def longString (quote : Char) (piece : Scan (List Char)) : Scan (List Char) := do
  Scan.word (String.ofList [quote, quote, quote])
  let _ ← Scan.optional? newline
  let pieces ← Scan.many (piece <|> (do newline; return ['\n']) <|> innerQuotes quote)
  let last ← closingQuotes quote
  return pieces.flatten ++ last

def longBasicString : Scan (List Char) :=
  longString '"' ((do return [← Scan.charOf isBasic]) <|> continuation <|> (do return [← escape]))

def longLiteralString : Scan (List Char) := longString '\'' (do return [← Scan.charOf isLiteral])

def string : Scan (List Char) :=
  longBasicString <|> longLiteralString <|> basicString <|> literalString

/-! ### Keys -/

def isBareKey (c : Char) : Bool := c.isAlphanum || c == '_' || c == '-'

/-- The bound on levels, both of dotted keys and of nested values. -/
def maxLevels : Nat := 80

def simpleKey : Scan String :=
  String.ofList <$> (basicString <|> literalString <|> Scan.run1 isBareKey)

def spacedKey : Scan String := do
  gap
  let key ← simpleKey
  gap
  return key

/-- A key with its parts before the last, and the last one. -/
def dottedKey : Scan (List String × String) := do
  let first ← spacedKey
  let others ← Scan.many do
    Scan.char '.'
    spacedKey
  let all := first :: others
  if all.length < maxLevels then return (all.dropLast, all.getLastD first) else failure

/-! ### Numbers -/

/-- A digit and what follows it: more digits, each behind an underscore or not. -/
def digitRun (isDigit : Char → Bool) : Scan (List Char) := do
  let first ← Scan.charOf isDigit
  let others ← Scan.many do
    let _ ← Scan.optional? (Scan.char '_')
    Scan.charOf isDigit
  return first :: others

def sign : Scan (List Char) := (do return [← Scan.charOf fun c => c == '+' || c == '-']) <|> pure []

/-- The digits of a decimal integer: no zero in front of others. -/
def decimalDigits : Scan (List Char) := do
  match ← Scan.peek? with
  | some '0' =>
    Scan.char '0'
    return ['0']
  | _ => digitRun isDigit

/-- The integers of 64 bits with a sign. -/
def signed64 (i : Int) : Scan Datum :=
  if -9223372036854775808 ≤ i && i ≤ 9223372036854775807 then return .int i else failure

def decimalInteger : Scan Datum := do
  let s ← sign
  let digits ← decimalDigits
  let n : Int := natOfDigits digits
  signed64 (if s = ['-'] then -n else n)

def radixInteger (mark : Char) (base : Nat) : Scan Datum := do
  Scan.char '0'
  Scan.char mark
  let digits ← digitRun fun c => (hexValue? c).any (· < base)
  signed64 (digits.foldl (fun n c => n * base + (hexValue? c).getD 0) 0)

def exponent : Scan (List Char) := do
  let _ ← Scan.charOf fun c => c == 'e' || c == 'E'
  let s ← sign
  let digits ← digitRun isDigit
  return 'e' :: s ++ digits

def places : Scan (List Char) := do
  Scan.char '.'
  let digits ← digitRun isDigit
  return '.' :: digits

/-- A floating point number. It may not lie above all finite ones. -/
def float : Scan Datum := do
  let s ← sign
  let whole ← decimalDigits
  let tail ← (do
    let p ← places
    let e ← Scan.optional? exponent
    return p ++ e.getD []) <|> exponent
  let spelling := String.ofList (s ++ whole ++ tail)
  -- below, the infinite value is let through
  if s ≠ ['-'] && (finiteBits? spelling).isNone then failure
  else return .real spelling

def specialFloat : Scan Datum := do
  let _ ← sign
  Scan.word "inf" <|> Scan.word "nan"
  return .real "nan"

/-! ### Dates and times -/

def twoDigits (least greatest : Nat) : Scan Nat := do
  let a ← Scan.charOf isDigit
  let b ← Scan.charOf isDigit
  let n := natOfDigits [a, b]
  if least ≤ n && n ≤ greatest then return n else failure

def daysIn (year month : Nat) : Nat :=
  if month = 2 then
    if (year % 4 = 0 && year % 100 ≠ 0) || year % 400 = 0 then 29 else 28
  else if month = 4 || month = 6 || month = 9 || month = 11 then 30
  else 31

def date : Scan Unit := do
  let digits ← (List.replicate 4 ()).mapM fun _ => Scan.charOf isDigit
  Scan.char '-'
  let month ← twoDigits 1 12
  Scan.char '-'
  let _ ← twoDigits 1 (daysIn (natOfDigits digits) month)

def time : Scan Unit := do
  let _ ← twoDigits 0 23
  Scan.char ':'
  let _ ← twoDigits 0 59
  Scan.char ':'
  let _ ← twoDigits 0 60
  let _ ← Scan.optional? do
    Scan.char '.'
    Scan.run1 isDigit

def zone : Scan Unit :=
  (do let _ ← Scan.charOf fun c => c == 'Z' || c == 'z') <|> do
    let _ ← Scan.charOf fun c => c == '+' || c == '-'
    let _ ← twoDigits 0 23
    Scan.char ':'
    let _ ← twoDigits 0 59

def dateAndTime : Scan Unit := do
  date
  let _ ← Scan.optional? do
    let _ ← Scan.charOf fun c => c == 'T' || c == 't' || c == ' '
    time
    let _ ← Scan.optional? zone

/-- A date or time is a record with one field that no declaration names. -/
def moment : Scan Datum := do
  dateAndTime <|> time
  return .record [("moment", .text "")]

/-! ### All of them -/

def truth : Scan Datum :=
  (do Scan.word "true"; return .bool true) <|> (do Scan.word "false"; return .bool false)

def scalar : Scan Datum :=
  (do return .text (String.ofList (← string))) <|> moment <|> float <|> specialFloat <|>
    radixInteger 'x' 16 <|> radixInteger 'o' 8 <|> radixInteger 'b' 2 <|> decimalInteger <|> truth

end ReplyActions.Toml
