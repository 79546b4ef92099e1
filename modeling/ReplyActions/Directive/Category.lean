/-!
# Categories of directives

The closed set of categories, in the order in which they are advertised. Their labels are shown in
columns: filled up with spaces to a width in characters, or cut.
-/

namespace ReplyActions

namespace Text

/-- A text that is wider than the column stays as it is. -/
def leftAligned (width : Nat) (text : String) : String :=
  text ++ String.ofList (List.replicate (width - text.length) ' ')

def rightAligned (width : Nat) (text : String) : String :=
  String.ofList (List.replicate (width - text.length) ' ') ++ text

def firstChars (count : Nat) (text : String) : String := String.ofList (text.toList.take count)

end Text

inductive Category where
  | health
  | mood
  | social
  | skills
  | prisoner
  | work
  | needs
  | transform
  | inventory
  | movement
  | special
deriving DecidableEq

namespace Category

/-- The categories in the order in which they are advertised. -/
def all : List Category :=
  [health, mood, social, skills, prisoner, work, needs, transform, inventory, movement, special]

def label : Category → String
  | health => "Health"
  | mood => "Mood"
  | social => "Social"
  | skills => "Skills"
  | prisoner => "Prisoner"
  | work => "Work"
  | needs => "Needs"
  | transform => "Transform"
  | inventory => "Inventory"
  | movement => "Movement"
  | special => "Special"

def ofLabel? (label : String) : Option Category := all.find? fun c => c.label = label

theorem mem_all (c : Category) : c ∈ all := by
  cases c <;> simp [all]

theorem nodup_all : all.Nodup := by decide

end Category

/-- How strictly a host should treat a directive. Nothing here depends on it. -/
inductive Strictness where
  | permissive
  | moderate
  | strict
deriving DecidableEq

namespace Strictness

def all : List Strictness := [permissive, moderate, strict]

def label : Strictness → String
  | permissive => "Permissive"
  | moderate => "Moderate"
  | strict => "Strict"

def ofLabel? (label : String) : Option Strictness := all.find? fun s => s.label = label

end Strictness

end ReplyActions
