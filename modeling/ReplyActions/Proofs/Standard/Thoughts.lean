import ReplyActions.Proofs.Standard.Steps
import ReplyActions.Proofs.Standard.Values
import ReplyActions.Settings.Document

/-!
# Letting go of a thought

A thought is kept under its cleaned label, cut to the length in force. Whoever lets go of it by the
text that it was added with has the text cut twice: for the condition of the directive, which has no
settings at hand, to the usual length, and for its effect to the length in force. The effect finds
the thought again. The condition finds it where the two cuts come to the same.
-/

namespace ReplyActions

/-- A thought has its place behind those in front of it, which have other labels: the place of an
old thought with the same label, or else the last one. -/
structure Thought.TakesPlace (thought : Thought) (before front back : List Thought) : Prop where
  others : ∀ other ∈ front, Text.sameIgnoringCase other.label thought.label = false
  place : (before = front ∧ back = []) ∨
    ∃ old, before = front ++ old :: back ∧ Text.sameIgnoringCase old.label thought.label = true

namespace Colonist

def withThoughts (c : Colonist) (thoughts : List Thought) : Colonist :=
  { c with thoughts := thoughts }

/-- The colonist lives and has the thought under the label, behind thoughts with other labels. -/
structure HasThought (c : Colonist) (label : String) (thought : Thought)
    (front back : List Thought) : Prop where
  alive : c.alive = true
  label : thought.label = label
  thoughts : c.thoughts = front ++ thought :: back
  others : ∀ other ∈ front, Text.sameIgnoringCase other.label thought.label = false

end Colonist

namespace Standard
open Number

theorem withThought_thoughts (c : Colonist) (thought : Thought) :
    ∃ front back, thought.TakesPlace c.thoughts front back ∧
      (withThought c thought).thoughts = front ++ thought :: back := by
  simp only [withThought]
  split
  · next index hindex =>
    obtain ⟨hlt, hsame, hearlier⟩ := List.findIdx?_eq_some_iff_getElem.mp hindex
    refine ⟨c.thoughts.take index, c.thoughts.drop (index + 1), ⟨?_, Or.inr ⟨_, ?_, hsame⟩⟩, ?_⟩
    · intro other hm
      obtain ⟨j, hj, rfl⟩ := List.mem_take_iff_getElem.mp hm
      exact Bool.eq_false_iff.mpr (hearlier j (by omega))
    · rw [List.getElem_cons_drop, List.take_append_drop]
    · exact List.set_eq_take_append_cons_drop.trans (if_pos hlt)
  · next hnone =>
    have hothers := List.findIdx?_eq_none_iff.mp hnone
    exact ⟨c.thoughts, [], ⟨hothers, Or.inl ⟨rfl, rfl⟩⟩, rfl⟩

theorem alive_withThought (c : Colonist) (thought : Thought) :
    (withThought c thought).alive = c.alive := by
  unfold withThought
  split <;> rfl

/-! ### Adding a thought -/

theorem addThought_succeeds {c after : Colonist} {params : Params} {context : Context}
    {effect : Effect} (h : addThought.execute c params context = (after, .ok effect)) :
    ∃ offset label, thoughtLabel params context = .ok label ∧
      after = withThought (c.atTime context.now)
        ⟨label, offset, context.now.plus (context.durationOf offset)⟩ := by
  simp only [addThought] at h
  split at h
  · simp only [Prod.mk.injEq, reduceCtorEq, and_false] at h
  · next offset _ =>
    split at h
    · simp only [Prod.mk.injEq, reduceCtorEq, and_false] at h
    · split at h
      · simp only [Prod.mk.injEq, reduceCtorEq, and_false] at h
      · next label hlabel => exact ⟨offset, label, hlabel, (Prod.mk.inj h).1.symm⟩

theorem thoughtLabel_eq {params : Params} {context : Context} {raw label : String}
    (hraw : params[1]? = some raw) (hblank : Text.trimmed raw ≠ "")
    (h : thoughtLabel params context = .ok label) : label = context.cleaned raw := by
  have htext := Params.text?_of_getElem? hraw hblank
  simp only [thoughtLabel, htext, Option.isSome_some, if_true] at h
  exact cleanedText_eq hraw hblank h

/-! ### Letting go -/

/-- The directive finds a thought again by the text that it was added with, since it cuts the text
in the same way. -/
theorem removeThought_succeeds {c : Colonist} {raw : String} {context : Context}
    {thought : Thought} {front back : List Thought} (hblank : Text.trimmed raw ≠ "")
    (h : c.HasThought (context.cleaned raw) thought front back) :
    ∃ effect, removeThought.execute c [raw] context =
      (c.withThoughts (front ++ back), .ok effect) := by
  have htext : Params.text? [raw] 0 = some (Text.trimmed raw) :=
    Params.text?_of_getElem? rfl hblank
  have hcut : context.cleaned (Text.trimmed raw) = thought.label :=
    (Text.cleaned_trimmed raw _).trans h.label.symm
  have hself : Text.sameIgnoringCase thought.label thought.label = true :=
    (Text.sameIgnoringCase_iff _ _).mpr rfl
  have hnone : front.find? (fun t => Text.sameIgnoringCase t.label thought.label) = none := by
    rw [List.find?_eq_none]
    intro other hm
    rw [h.others other hm]
    exact Bool.false_ne_true
  have hfound : c.thoughts.find? (fun t => Text.sameIgnoringCase t.label thought.label) =
      some thought := by
    rw [h.thoughts, List.find?_append, hnone, Option.none_or,
      List.find?_cons_of_pos (a := thought) hself]
  have herased : c.thoughts.eraseP (fun t => Text.sameIgnoringCase t.label thought.label) =
      front ++ back := by
    rw [h.thoughts, List.eraseP_append_right _ (fun other hm => by simp [h.others other hm]),
      List.eraseP_cons_of_pos (a := thought) hself]
  simp only [removeThought, htext, Option.getD_some, hcut, hfound, herased]
  exact ⟨_, rfl⟩

theorem fits_removeThought {raw : String} (hblank : Text.trimmed raw ≠ "") :
    removeThought.definition.validate [raw] = .ok () := by
  have haccepts : ParamKind.text.accepts raw = true := decide_eq_true hblank
  simp [Definition.validate, Definition.requiredCount, removeThought, required,
    Definition.firstBadValue?, haccepts]

/-- The condition looks for the thought under the text cut to the usual length. -/
theorem canExecute_removeThought {c : Colonist} {raw : String} (hblank : Text.trimmed raw ≠ "")
    (halive : c.alive = true) :
    removeThought.canExecute c [raw] = (c.thoughtIndex? (lookupLabel raw)).isSome := by
  have htext : Params.text? [raw] 0 = some (Text.trimmed raw) :=
    Params.text?_of_getElem? rfl hblank
  have hlookup : lookupLabel (Text.trimmed raw) = lookupLabel raw := Text.cleaned_trimmed raw _
  simp only [removeThought, holdsAt, htext, hlookup, halive, Bool.true_and]
  -- nothing is found among no thoughts
  cases hc : c.thoughts with
  | nil => simp [Colonist.thoughtIndex?, hc]
  | cons first rest => rfl

/-! ### One after the other -/

section

variable {config : Config} {now : Tick} {s : Session Colonist} {raw : String}

theorem dispatchAt_addThought {magnitude : String} {added : Dispatched Colonist}
    (hadded : (dispatcher config).dispatchAt (asking "ADD_THOUGHT" [magnitude, raw]) s now = added)
    (hparams : ∀ param ∈ [magnitude, raw], Token.IsSegment param.toList)
    (hblank : Text.trimmed raw ≠ "")
    (hsuccess : added.report.results.map (·.outcome) = [.success]) :
    (dispatcher config).IsSettled now added.session.ledger ∧ ∃ thought front back,
      added.session.agent.HasThought (Text.cleaned raw config.effects.maxTextLength.val) thought
        front back ∧
      thought.TakesPlace (s.agent.atTime now).thoughts front back := by
  have hlisted : addThought ∈ actions := by simp only [actions, List.mem_cons, true_or, or_true]
  have hsettled := isSettled_asking hlisted hadded rfl hparams
  obtain ⟨-, halive, number, effect, hdone⟩ :=
    executed_of_success hlisted hadded rfl hparams hsuccess
  obtain ⟨offset, label, hlabel, hafter⟩ := addThought_succeeds hdone
  obtain ⟨front, back, htakes, hthoughts⟩ := withThought_thoughts (s.agent.atTime now)
    ⟨label, offset, now.plus (config.effects.durations.durationOf offset)⟩
  have hcut := thoughtLabel_eq rfl hblank hlabel
  refine ⟨hsettled, _, front, back, ⟨?_, hcut, ?_, htakes.others⟩, htakes⟩
  · rw [hafter, alive_withThought]
    exact halive
  · rw [hafter]
    exact hthoughts

theorem dispatchAt_removeThought {removed : Dispatched Colonist} {thought : Thought}
    {front back : List Thought}
    (hremoved : (dispatcher config).dispatchAt (asking "REMOVE_THOUGHT" [raw]) s now = removed)
    (hon : config.isDisabled "REMOVE_THOUGHT" = false)
    (hfree : config.quotaFor "REMOVE_THOUGHT" none = none)
    (hraw : Token.IsSegment raw.toList) (hblank : Text.trimmed raw ≠ "")
    (hsettled : (dispatcher config).IsSettled now s.ledger)
    (h : s.agent.HasThought (Text.cleaned raw config.effects.maxTextLength.val) thought front
      back) :
    let found := (s.agent.thoughtIndex? (lookupLabel raw)).isSome
    removed.report.results.map (·.outcome) = [if found then .success else .preconditionFailed] ∧
      removed.session = if found then ⟨s.agent.withThoughts (front ++ back), s.ledger⟩ else s := by
  intro found
  have hlisted : removeThought ∈ actions := by simp only [actions, List.mem_cons, true_or, or_true]
  have hremoval := isFree_of_quota_eq_none hlisted rfl hon hfree
  have hparams : ∀ param ∈ [raw], Token.IsSegment param.toList := List.forall_mem_singleton.mpr hraw
  have hfits := fits_removeThought hblank
  have hcan : removeThought.canExecute s.agent [raw] = found :=
    canExecute_removeThought hblank h.alive
  cases hfound : found with
  | false =>
    obtain ⟨houtcome, hsession⟩ :=
      hremoval.dispatchAt_refused hremoved rfl hparams hfits (hcan.trans hfound)
    rw [hsettled.opened] at hsession
    exact ⟨houtcome, hsession⟩
  | true =>
    have hkept : s.agent.HasThought
        (Context.cleaned ⟨now, none, config.effects⟩ raw) thought front back := h
    obtain ⟨effect, hdone⟩ := removeThought_succeeds hblank hkept
    obtain ⟨houtcome, hsession⟩ :=
      hremoval.dispatchAt_performed hremoved rfl hparams hfits (hcan.trans hfound) hdone
    rw [hsettled.opened] at hsession
    exact ⟨houtcome, hsession⟩

end

/-- A thought that has just been added is found under the usual cut of its text or not. If it is,
letting go of it takes away just this thought; if it is not, the directive is refused and nothing
changes. It is found if the usual length is the one in force, or if the cleaned text fits both. -/
theorem added_thought_is_removed (config : Config) (s : Session Colonist) (now : Tick)
    (magnitude raw : String) (hon : config.isDisabled "REMOVE_THOUGHT" = false)
    (hfree : config.quotaFor "REMOVE_THOUGHT" none = none)
    (hm : Token.IsSegment magnitude.toList) (hraw : Token.IsSegment raw.toList)
    (hblank : Text.trimmed raw ≠ "") :
    let maxLength := config.effects.maxTextLength.val
    let added := (dispatcher config).dispatchAt (asking "ADD_THOUGHT" [magnitude, raw]) s now
    let removed := (dispatcher config).dispatchAt (asking "REMOVE_THOUGHT" [raw]) added.session now
    let found := (added.session.agent.thoughtIndex? (lookupLabel raw)).isSome
    added.report.results.map (·.outcome) = [.success] →
      ∃ thought front back, thought.label = Text.cleaned raw maxLength ∧
        thought.TakesPlace (s.agent.atTime now).thoughts front back ∧
        added.session.agent.thoughts = front ++ thought :: back ∧
        removed.report.results.map (·.outcome) =
          [if found then .success else .preconditionFailed] ∧
        removed.session =
          (if found then ⟨added.session.agent.withThoughts (front ++ back), added.session.ledger⟩
          else added.session) ∧
        (maxLength = lookupLength ∨
            (Text.cleanedAtLength raw.toList).length ≤ min maxLength lookupLength →
          found = true) := by
  intro maxLength added removed found hsuccess
  have hparams : ∀ param ∈ [magnitude, raw], Token.IsSegment param.toList :=
    List.forall_mem_cons.mpr ⟨hm, List.forall_mem_singleton.mpr hraw⟩
  obtain ⟨hsettled, thought, front, back, hkept, htakes⟩ :=
    dispatchAt_addThought (show _ = added from rfl) hparams hblank hsuccess
  obtain ⟨houtcome, hsession⟩ :=
    dispatchAt_removeThought (show _ = removed from rfl) hon hfree hraw hblank hsettled hkept
  refine ⟨thought, front, back, hkept.label, htakes, hkept.thoughts, houtcome, hsession,
    fun hagree => ?_⟩
  have hcut : thought.label = lookupLabel raw :=
    hkept.label.trans (Text.cleaned_eq_cleaned hagree)
  have hmem : thought ∈ added.session.agent.thoughts :=
    hkept.thoughts ▸ List.mem_append_right _ List.mem_cons_self
  simp only [found, ← hcut, Colonist.thoughtIndex?, List.findIdx?_isSome, List.any_eq_true]
  exact ⟨thought, hmem, (Text.sameIgnoringCase_iff _ _).mpr rfl⟩

/-- A short label is found again under the usual settings. -/
theorem added_thought_is_removed_calm :
    let s : Session Colonist := ⟨.fresh "ada" "Ada", .empty 24⟩
    let added := (dispatcher .standard).dispatchAt (asking "ADD_THOUGHT" ["5", "felt calm"]) s 0
    let removed :=
      (dispatcher .standard).dispatchAt (asking "REMOVE_THOUGHT" ["felt calm"]) added.session 0
    added.report.results.map (·.outcome) = [.success] ∧
      removed.report.results.map (·.outcome) = [.success] ∧
      ∃ thought front back, added.session.agent.thoughts = front ++ thought :: back ∧
        removed.session.agent.thoughts = front ++ back := by
  intro s added removed
  have hadded : added.report.results.map (·.outcome) = [.success] := by decide +kernel
  obtain ⟨thought, front, back, -, -, hthoughts, houtcome, hsession, hfound⟩ :=
    added_thought_is_removed .standard s 0 "5" "felt calm" (by decide) (by decide) (by decide)
      (by decide) (by decide) hadded
  rw [hfound (Or.inl rfl), if_pos rfl] at houtcome hsession
  exact ⟨hadded, houtcome, thought, front, back, hthoughts,
    congrArg (fun session => session.agent.thoughts) hsession⟩

/-- A label that is longer than the length in force, but not longer than the usual length, is kept
in one form and looked up in another. -/
theorem long_label_is_not_found :
    let s : Session Colonist := ⟨.fresh "ada" "Ada", .empty 24⟩
    (Config.ofDocument "sanitize.max_text_len = 10").toOption.map (fun config =>
      let added := (dispatcher config).dispatchAt (asking "ADD_THOUGHT" ["5", "abcdefghijkl"]) s 0
      let removed :=
        (dispatcher config).dispatchAt (asking "REMOVE_THOUGHT" ["abcdefghijkl"]) added.session 0
      (config.isDisabled "REMOVE_THOUGHT", config.quotaFor "REMOVE_THOUGHT" none,
        added.report.results.map (·.outcome), removed.report.results.map (·.outcome))) =
      some (false, none, [.success], [.preconditionFailed]) := by
  decide +kernel

/-! ### The label that is shown -/

/-- Cleaning a text again changes nothing exactly if it has not been cut and has no quotation mark
left at its ends. So a thought is found under the label that is shown in these cases, and in no
other: what cleaning then takes away is more than a difference of case. -/
theorem cleaned_again_iff (text : String) (maxLength : Nat) :
    (Text.cleaned (Text.cleaned text maxLength) maxLength = Text.cleaned text maxLength ↔
      Text.StaysClean text maxLength) ∧
    ∀ (c : Colonist) (offset : Points) (expiresAt : Tick),
      ((c.withThoughts [⟨Text.cleaned text maxLength, offset, expiresAt⟩]).thoughtIndex?
          (Text.cleaned (Text.cleaned text maxLength) maxLength)).isSome = true ↔
        Text.StaysClean text maxLength := by
  constructor
  · constructor
    · intro h
      rw [← Text.sameIgnoringCase_cleaned_cleaned_iff, h, Text.sameIgnoringCase_iff]
    · exact Text.cleaned_cleaned_of_staysClean
  · intro c offset expiresAt
    rw [← Text.sameIgnoringCase_cleaned_cleaned_iff, Colonist.thoughtIndex?, List.findIdx?_isSome,
      Colonist.withThoughts, List.any_cons, List.any_nil, Bool.or_false]

/-- A label that has been cut loses its ellipsis, and one that ended in a quotation loses the
mark. -/
theorem shown_label_is_not_found :
    let label := Text.cleaned "abcdefghijkl" 10
    let ada := (Colonist.fresh "ada" "Ada").withThoughts [⟨label, 5, 24⟩]
    label = "abcdefg..." ∧ Text.cleaned label 10 = "abcdefg" ∧
      ada.thoughtIndex? (Text.cleaned label 10) = none ∧
      Text.cleaned "Said “hello”." 80 = "said “hello”" ∧
      Text.cleaned "said “hello”" 80 = "said “hello" := by
  decide +kernel

end Standard

end ReplyActions
