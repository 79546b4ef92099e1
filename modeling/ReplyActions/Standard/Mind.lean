import ReplyActions.Colonist.Basic
import ReplyActions.Standard.Values

/-!
# Directives for the mind

Thoughts come and go, traits are developed and outgrown, and an inspiration is sparked.
-/

namespace ReplyActions.Standard
open Number

/-- What is thought when nothing is said about it. -/
def usualThought : String := "had a meaningful conversation"

def thoughtLabel (params : Params) (context : Context) : Except Failure String :=
  if (params.text? 1).isSome then cleanedText params 1 "label" context else .ok usualThought

/-- The thoughts with one more, which takes the place of one with the same label. -/
def withThought (c : Colonist) (thought : Thought) : Colonist :=
  match c.thoughtIndex? thought.label with
  | some index => { c with thoughts := c.thoughts.set index thought }
  | none => { c with thoughts := c.thoughts ++ [thought] }

/-- Adds a thought whose bearing on the mood is the magnitude, and which lasts the longer the
stronger it is. -/
def addThought : Action Colonist where
  definition := ⟨"ADD_THOUGHT", .mood, "Leave a lasting impression (mood -20..20, short label)",
    .permissive, [required "mood" .integer, optional "label" .text], ["mood:canonical"]⟩
  canExecute c _ := c.alive
  magnitude params := params.whole? 0
  quota := some ⟨some 3, some 3, some 30⟩
  execute c params context :=
    match context.magnitude with
    | none => (c, .error (.invalidParameter "mood" "missing magnitude"))
    | some offset =>
      if offset.val = 0 then (c, .error (.rejected (c.name ++ " shrugs it off.")))
      else match thoughtLabel params context with
      | .error failure => (c, .error failure)
      | .ok label =>
        let hours := context.durationOf offset
        (withThought (c.atTime context.now) ⟨label, offset, context.now.plus hours⟩,
          .ok ⟨"thought:" ++ signedText offset.val,
            c.name ++ " " ++ label ++ " (" ++ signedText offset.val ++ " mood for " ++
              natText hours.val ++ " hours)."⟩)

def removeThought : Action Colonist where
  definition := ⟨"REMOVE_THOUGHT", .mood, "Let go of a thought by its label", .moderate,
    [required "label" .text], []⟩
  canExecute c params := c.alive && !c.thoughts.isEmpty &&
    holdsAt params 0 fun label => (c.thoughtIndex? (lookupLabel label)).isSome
  execute c params context :=
    let label := context.cleaned ((params.text? 0).getD "")
    match c.thoughts.find? fun thought => Text.sameIgnoringCase thought.label label with
    | none => (c, .error (.agentState ("no thought " ++ Text.quoted label)))
    | some removed =>
      ({ c with thoughts := c.thoughts.eraseP fun t => Text.sameIgnoringCase t.label label },
        .ok ⟨"thought_removed:" ++ intText removed.moodOffset.val,
          c.name ++ " no longer dwells on it."⟩)

def addTrait : Action Colonist where
  definition := ⟨"ADD_TRAIT", .transform, "Develop a new personality trait", .strict,
    [required "trait" .text], []⟩
  canExecute c params := c.alive && c.traits.length < Colonist.maxTraits &&
    holdsAt params 0 fun name => !c.hasTrait name
  quota := some ⟨none, some 1, none⟩
  execute c params context :=
    match cleanedText params 0 "trait" context with
    | .error failure => (c, .error failure)
    | .ok name =>
      if c.hasTrait name then (c, .error (.rejected (c.name ++ " is already " ++ name ++ ".")))
      else
        ({ c with traits := c.traits ++ [name] },
          .ok ⟨"trait_added:" ++ name, c.name ++ " has become " ++ name ++ "."⟩)

def removeTrait : Action Colonist where
  definition := ⟨"REMOVE_TRAIT", .transform, "Outgrow a personality trait", .strict,
    [required "trait" .text], []⟩
  canExecute c params := c.alive && !c.traits.isEmpty && holdsAt params 0 c.hasTrait
  execute c params _ :=
    let name := (params.text? 0).getD ""
    match c.traits.find? fun known => Text.sameIgnoringCase known name with
    | none => (c, .error (.agentState ("no trait " ++ Text.quoted name)))
    | some removed =>
      ({ c with traits := c.traits.eraseP fun known => Text.sameIgnoringCase known name },
        .ok ⟨"trait_removed:" ++ removed, c.name ++ " is no longer " ++ removed ++ "."⟩)

/-- The kind of inspiration that comes when none is named. -/
def usualInspiration : String := "creativity"

def inspirations : List String := [usualInspiration, "work", "recruitment", "surgery"]

def inspire : Action Colonist where
  definition := ⟨"INSPIRE", .special,
    "Spark an inspiration (creativity, work, recruitment or surgery)", .strict,
    [optional "kind" .word], []⟩
  canExecute c params := c.isActive && c.inspiration.isNone &&
    holdsAt params 0 fun kind => inspirations.contains (mapKey kind)
  quota := some ⟨none, some 1, none⟩
  execute c params context :=
    let kind := match params.text? 0 with
      | some kind => mapKey kind
      | none => usualInspiration
    ({ c with inspiration := some ⟨kind, context.now.plus context.settings.durations.long⟩ },
      .ok ⟨"inspired:" ++ kind, c.name ++ " feels a surge of " ++ kind ++ " inspiration."⟩)

end ReplyActions.Standard
