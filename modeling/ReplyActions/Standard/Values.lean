import ReplyActions.Handler
import ReplyActions.Text.Printable

/-!
# Values of parameters

How the standard directives read their parameters: cleaned texts, names in small letters, and
counts within bounds.
-/

namespace ReplyActions.Standard
open Number

/-- A parameter as a cleaned text, which has to have something left in it. -/
def cleanedText (params : Params) (index : Nat) (name : String) (context : Context) :
    Except Failure String :=
  let raw := (params.text? index).getD ""
  let text := context.cleaned raw
  if text = "" then
    .error (.invalidParameter name (Text.quoted raw ++ " is empty after cleanup"))
  else .ok text

/-- The length to which texts are cut before a context is at hand. -/
def lookupLength : Nat := EffectSettings.standard.maxTextLength.val

/-- A text cleaned in order to be looked up before a context is at hand. -/
def lookupLabel (raw : String) : String := Text.cleaned raw lookupLength

/-- A name as it is used in maps: without blanks at its ends, in small letters. -/
def mapKey (raw : String) : String := Text.lower (Text.trimmed raw)

def keyAt (params : Params) (index : Nat) : String := mapKey ((params.text? index).getD "")

/-- A parameter as a count from 1 to `max`; the default if it is missing. -/
def countAt (params : Params) (index : Nat) (name : String) (default max : Amount) :
    Except Failure Amount :=
  match params.whole? index with
  | none => .ok default
  | some value =>
    match (Unsigned.ofInt? value.val : Option Amount) with
    | some count =>
      if 1 ≤ count.val ∧ count.val ≤ max.val then .ok count
      else .error (outside value)
    | none => .error (outside value)
where
  outside (value : Whole) : Failure :=
    .invalidParameter name (intText value.val ++ " is outside 1..=" ++ natText max.val)

/-- A condition on a parameter, which holds if the parameter is missing. -/
def holdsAt (params : Params) (index : Nat) (condition : String → Bool) : Bool :=
  match params.text? index with
  | some value => condition value
  | none => true

def optional (name : String) (kind : ParamKind) : ParamSpec := ⟨name, kind, false⟩

def required (name : String) (kind : ParamKind) : ParamSpec := ⟨name, kind, true⟩

end ReplyActions.Standard
