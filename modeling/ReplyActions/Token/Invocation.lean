import ReplyActions.Text.Blank
import ReplyActions.Token.Basic

/-!
# Invocations

What the tokens of a text ask for: one invocation for each token that names a directive, from
left to right. A token whose first segment is blank asks for nothing.
-/

namespace ReplyActions

/-- The canonical form of a directive's identifier: without blanks at its ends, the letters a to z
in capitals. -/
def canonicalId (id : String) : String := Text.upper (Text.trimmed id)

structure Invocation where
  id : String
  /-- The values that follow the identifier, as they stand. -/
  params : List String
  /-- The number of characters in front of the token. -/
  offset : Nat
  /-- The number of invocations in front of this one. -/
  ordinal : Nat
deriving DecidableEq

namespace Invocation

/-- The identifier and the values of the token that the text begins with, if it begins with a
token that names a directive. -/
def requestAt? (text : List Char) : Option (String × List String) :=
  match Token.bodyAt? text with
  | none => none
  | some body =>
    match Token.segments body with
    | [] => none
    | first :: params =>
      let id := canonicalId (String.ofList first)
      if id = "" then none else some (id, params.map String.ofList)

/-- The invocations of a text that has `offset` characters and `ordinal` invocations in front. -/
def extractFrom (offset ordinal : Nat) : List Char → List Invocation
  | [] => []
  | c :: rest =>
    match requestAt? (c :: rest) with
    -- no need to skip the token: without a bracket in its body, no other one begins inside it
    | some (id, params) =>
      ⟨id, params, offset, ordinal⟩ :: extractFrom (offset + 1) (ordinal + 1) rest
    | none => extractFrom (offset + 1) ordinal rest

def extract (text : List Char) : List Invocation :=
  if Token.hasOpener text then extractFrom 0 0 text else []

/-- The token that asks for nothing but this invocation. -/
def token (invocation : Invocation) : List Char :=
  '[' :: "ACTION:".toList ++
    Token.joined (invocation.id.toList :: invocation.params.map String.toList) ++ [']']

end Invocation

end ReplyActions
