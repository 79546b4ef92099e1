import ReplyActions.Number.Binary64
import ReplyActions.Number.Bounded
import ReplyActions.Text.Blank

/-!
# Parameters

The values that follow a directive's identifier, the kinds they can be declared as, and how they
are read. Blanks around a value never count.
-/

namespace ReplyActions
open Number

inductive ParamKind where
  | integer
  | number
  /-- A text without blanks inside. -/
  | word
  /-- A text that is not blank. -/
  | text
deriving DecidableEq

/-- The integer that a text spells, if it fits. -/
def wholeOf? (text : String) : Option Whole := (intOf? text.toList).bind Signed.ofInt?

namespace ParamKind

def all : List ParamKind := [integer, number, word, text]

def label : ParamKind → String
  | integer => "integer"
  | number => "number"
  | word => "word"
  | text => "text"

def name : ParamKind → String
  | integer => "Integer"
  | number => "Number"
  | word => "Word"
  | text => "Text"

def ofName? (name : String) : Option ParamKind := all.find? fun kind => kind.name = name

/-- The value is well formed for the kind. -/
def accepts (kind : ParamKind) (raw : String) : Bool :=
  let value := Text.trimmed raw
  match kind with
  | integer => (wholeOf? value).isSome
  | number => (finiteBits? value).isSome
  | word => value ≠ "" && !value.toList.any Text.isBlank
  | text => value ≠ ""

end ParamKind

/-- The values of one invocation, by position. -/
abbrev Params := List String

namespace Params

/-- The value at a position without the blanks around it; `none` if that leaves nothing. -/
def text? (params : Params) (index : Nat) : Option String :=
  (params[index]?.map Text.trimmed).filter (· ≠ "")

def whole? (params : Params) (index : Nat) : Option Whole := (params.text? index).bind wholeOf?

/-- The bits of the finite number at a position. -/
def number? (params : Params) (index : Nat) : Option Nat := (params.text? index).bind finiteBits?

end Params

end ReplyActions
