import ReplyActions.Datum.Basic
import ReplyActions.Number.Decimal

/-!
# Reading JSON

A reader of JSON texts (RFC 8259) that takes one character at a time. Between two characters it
remembers the lists and records that are open, and what may come next. Integers that fit into 64
bits are integers; `-0` and every other number are kept as they are spelled.
-/

namespace ReplyActions.Json
open Number

/-! ### Strings -/

/-- A piece of a string: a character, or an escaped half of a surrogate pair. -/
inductive Piece where
  | char (c : Char)
  | half (unit : Nat)
deriving DecidableEq

/-- The first half of a surrogate pair. -/
def isLeading (unit : Nat) : Bool := 0xD800 ≤ unit && unit ≤ 0xDBFF

/-- The second half of a surrogate pair. -/
def isTrailing (unit : Nat) : Bool := 0xDC00 ≤ unit && unit ≤ 0xDFFF

/-- The piece that an escaped code unit stands for. -/
def pieceOf (unit : Nat) : Piece :=
  if isLeading unit || isTrailing unit then .half unit else .char (Char.ofNat unit)

/-- The character of a surrogate pair. -/
def paired (leading trailing : Nat) : Char :=
  Char.ofNat (0x10000 + (leading - 0xD800) * 0x400 + (trailing - 0xDC00))

/-- The characters of a string, if every surrogate has its other half beside it. -/
def assembled? : List Piece → Option (List Char)
  | [] => some []
  | .char c :: rest => (assembled? rest).map (c :: ·)
  | .half leading :: .half trailing :: rest =>
    if isLeading leading && isTrailing trailing then
      (assembled? rest).map (paired leading trailing :: ·)
    else none
  | .half _ :: _ => none

def hexDigit? (c : Char) : Option Nat :=
  let n := c.toNat
  if 48 ≤ n && n ≤ 57 then some (n - 48)
  else if 65 ≤ n && n ≤ 70 then some (n - 55)
  else if 97 ≤ n && n ≤ 102 then some (n - 87)
  else none

/-- Where the reader stands with respect to an escape. -/
inductive Escape where
  | outside
  | begun
  /-- After some of the four digits of a code unit, with their value. -/
  | unit (digits value : Nat)
deriving DecidableEq

def escaped? (c : Char) : Option Char :=
  match c with
  | '"' => some '"'
  | '\\' => some '\\'
  | '/' => some '/'
  | 'b' => some '\x08'
  | 'f' => some '\x0c'
  | 'n' => some '\n'
  | 'r' => some '\r'
  | 't' => some '\t'
  | _ => none

/-! ### Words and numbers -/

def isSpace (c : Char) : Bool := c == ' ' || c == '\n' || c == '\t' || c == '\r'

/-- The digits of a whole part: no zero in front of others. -/
def isWholePart : List Char → Bool
  | [] => false
  | ['0'] => true
  | '0' :: _ => false
  | digits => digits.all isDigit

def isDigits (text : List Char) : Bool := !text.isEmpty && text.all isDigit

/-- An exponent after its letter. -/
def isExponent : List Char → Bool
  | '+' :: digits => isDigits digits
  | '-' :: digits => isDigits digits
  | digits => isDigits digits

/-- What follows the whole part of a number that is not an integer. -/
def isRealTail : List Char → Bool
  | '.' :: rest =>
    let places := rest.takeWhile isDigit
    let after := rest.dropWhile isDigit
    !places.isEmpty && (after.isEmpty || (after.head?.any (fun c => c == 'e' || c == 'E') &&
      isExponent after.tail))
  | c :: rest => (c == 'e' || c == 'E') && isExponent rest
  | [] => false

/-- The integers that stay integers. -/
def isInteger64 (i : Int) : Bool := -9223372036854775808 ≤ i && i ≤ 18446744073709551615

/-- The value of a number that is spelled by a sign and an unsigned part. -/
def numberOf? (negative : Bool) (unsigned spelling : List Char) : Option Datum :=
  let whole := unsigned.takeWhile isDigit
  let tail := unsigned.dropWhile isDigit
  if !isWholePart whole then none
  else if tail.isEmpty then
    let n : Int := natOfDigits whole
    let i := if negative then -n else n
    -- as an integer, `-0` would lose its sign
    if isInteger64 i && !(negative && n == 0) then some (.int i)
    else some (.real (String.ofList spelling))
  else if isRealTail tail then some (.real (String.ofList spelling))
  else none

def bareValue? (text : List Char) : Option Datum :=
  if text = "null".toList then some .null
  else if text = "true".toList then some (.bool true)
  else if text = "false".toList then some (.bool false)
  else match text with
    | '-' :: rest => numberOf? true rest text
    | _ => numberOf? false text text

/-! ### The reader -/

/-- A list or record that is open. Its parts are remembered newest first. -/
inductive Frame where
  | list (items : List Datum)
  /-- A record with the fields so far, and the name of the field whose value is being read. A name
  that cannot be read is `none`. -/
  | record (fields : List (Option String × Datum)) (name : Option String)
deriving DecidableEq

inductive Expectation where
  | value
  /-- The first item of a list, or its end. -/
  | firstItem
  /-- The first field name of a record, or its end. -/
  | firstName
  | name
  | colon
  | string (isName : Bool) (pieces : List Piece) (escape : Escape)
  | bare (chars : List Char)
  | after (value : Datum)
deriving DecidableEq

structure State where
  frames : List Frame
  expects : Expectation
deriving DecidableEq

def State.start : State := ⟨[], .value⟩

def recordOf (fields : List (Option String × Datum)) : Datum :=
  match fields.reverse.mapM fun f => f.1.map fun name => (name, f.2) with
  | some fields => .record fields
  | none => .unreadable

def afterValue (frames : List Frame) (value : Datum) (c : Char) : Option State :=
  if isSpace c then some ⟨frames, .after value⟩
  else match c, frames with
    | ',', .list items :: outer => some ⟨.list (value :: items) :: outer, .value⟩
    | ',', .record fields name :: outer =>
      some ⟨.record ((name, value) :: fields) none :: outer, .name⟩
    | ']', .list items :: outer => some ⟨outer, .after (.list (value :: items).reverse)⟩
    | '}', .record fields name :: outer => some ⟨outer, .after (recordOf ((name, value) :: fields))⟩
    | _, _ => none

def beginValue (frames : List Frame) (c : Char) : Option State :=
  match c with
  | '"' => some ⟨frames, .string false [] .outside⟩
  | '[' => some ⟨.list [] :: frames, .firstItem⟩
  | '{' => some ⟨.record [] none :: frames, .firstName⟩
  | ',' | ']' | '}' | ':' => none
  | _ => some ⟨frames, .bare [c]⟩

def endString (frames : List Frame) (isName : Bool) (pieces : List Piece) : Option State :=
  let content := (assembled? pieces.reverse).map String.ofList
  if isName then
    match frames with
    | .record fields _ :: outer => some ⟨.record fields content :: outer, .colon⟩
    | _ => none
  -- a value that cannot be read need not be: its field may be passed over
  else match content with
    | some text => some ⟨frames, .after (.text text)⟩
    | none => some ⟨frames, .after .unreadable⟩

def inString (frames : List Frame) (isName : Bool) (pieces : List Piece) (escape : Escape)
    (c : Char) : Option State :=
  match escape with
  | .outside =>
    if c = '"' then endString frames isName pieces
    else if c = '\\' then some ⟨frames, .string isName pieces .begun⟩
    else if c.toNat < 32 then none
    else some ⟨frames, .string isName (.char c :: pieces) .outside⟩
  | .begun =>
    if c = 'u' then some ⟨frames, .string isName pieces (.unit 0 0)⟩
    else (escaped? c).map fun e => ⟨frames, .string isName (.char e :: pieces) .outside⟩
  | .unit digits value =>
    (hexDigit? c).map fun d =>
      let value := value * 16 + d
      if digits = 3 then ⟨frames, .string isName (pieceOf value :: pieces) .outside⟩
      else ⟨frames, .string isName pieces (.unit (digits + 1) value)⟩

def endsBare (c : Char) : Bool := isSpace c || c == ',' || c == ']' || c == '}'

/-- The reader after one more character, unless the text breaks the rules there. -/
def step (s : State) (c : Char) : Option State :=
  match s.expects with
  | .value => if isSpace c then some s else beginValue s.frames c
  | .firstItem =>
    if isSpace c then some s
    else if c = ']' then
      match s.frames with
      | .list _ :: outer => some ⟨outer, .after (.list [])⟩
      | _ => none
    else beginValue s.frames c
  | .firstName =>
    if isSpace c then some s
    else if c = '"' then some ⟨s.frames, .string true [] .outside⟩
    else if c = '}' then
      match s.frames with
      | .record _ _ :: outer => some ⟨outer, .after (.record [])⟩
      | _ => none
    else none
  | .name =>
    if isSpace c then some s
    else if c = '"' then some ⟨s.frames, .string true [] .outside⟩
    else none
  | .colon =>
    if isSpace c then some s
    else if c = ':' then some ⟨s.frames, .value⟩
    else none
  | .string isName pieces escape => inString s.frames isName pieces escape c
  -- only the next character tells that a word or number is over, and it counts by itself
  | .bare chars =>
    if endsBare c then (bareValue? chars.reverse).bind fun value => afterValue s.frames value c
    else some ⟨s.frames, .bare (c :: chars)⟩
  | .after value => afterValue s.frames value c

def finish (s : State) : Option Datum :=
  match s.frames, s.expects with
  | [], .after value => some value
  | [], .bare chars => bareValue? chars.reverse
  | _, _ => none

def readChars (text : List Char) : Option Datum := (text.foldlM step State.start).bind finish

def read (text : String) : Option Datum := readChars text.toList

end ReplyActions.Json
