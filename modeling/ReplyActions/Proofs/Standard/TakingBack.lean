import ReplyActions.Proofs.Directive.Reading
import ReplyActions.Proofs.Standard.Steps
import ReplyActions.Proofs.Standard.Values
import ReplyActions.Proofs.Text.Shown

/-!
# Taking back what was added

Traits and items are kept under cleaned texts, but they are looked for under the texts as they are
given. So what has been added under a text can be taken back under the same text exactly if cleaning
changes nothing about it but the blanks at its ends and the case of its letters.
-/

namespace ReplyActions

namespace Colonist
open Number

def withTraits (c : Colonist) (traits : List String) : Colonist := { c with traits := traits }

def withInventory (c : Colonist) (inventory : SortedMap String Amount) : Colonist :=
  { c with inventory := inventory }

theorem hasTrait_withTraits_concat (c : Colonist) (trait name : String) :
    (c.withTraits (c.traits ++ [trait])).hasTrait name =
      (c.hasTrait name || Text.sameIgnoringCase trait name) := by
  simp only [hasTrait, withTraits, List.any_append, List.any_cons, List.any_nil, Bool.or_false]

theorem carried_lower (c : Colonist) (item : String) :
    c.carried (Text.lower item) = c.carried item := by
  rw [carried, Text.lower_lower, carried]

theorem carried_congr {c : Colonist} {item other : String}
    (h : Text.lower item = Text.lower other) :
    c.carried item = c.carried other := by
  rw [carried, h, carried]

theorem carried_insert (c : Colonist) (key : String) (amount : Amount) (item : String) :
    (c.withInventory (c.inventory.insert key amount)).carried item =
      if key = Text.lower item then amount else c.carried item := by
  simp only [carried, withInventory, SortedMap.get?_insert]
  split <;> rfl

theorem carried_erase (c : Colonist) (key item : String) :
    (c.withInventory (c.inventory.erase key)).carried item =
      if key = Text.lower item then 0 else c.carried item := by
  simp only [carried, withInventory, SortedMap.get?_erase]
  split <;> rfl

end Colonist

namespace Standard
open Number Colonist

/-- Cleaning changes nothing about the text but the blanks at its ends and the case of letters. -/
def KeepsForm (raw : String) : Prop :=
  Text.sameIgnoringCase (lookupLabel raw) (Text.trimmed raw) = true

instance (raw : String) : Decidable (KeepsForm raw) :=
  inferInstanceAs (Decidable (_ = true))

variable {c after : Colonist} {params : Params} {context : Context} {effect : Effect}

/-! ### Traits -/

theorem addTrait_succeeds (h : addTrait.execute c params context = (after, .ok effect)) :
    ∃ trait, cleanedText params 0 "trait" context = .ok trait ∧
      after = c.withTraits (c.traits ++ [trait]) := by
  simp only [addTrait] at h
  split at h
  · simp only [Prod.mk.injEq, reduceCtorEq, and_false] at h
  · next trait htrait =>
    split at h
    · simp only [Prod.mk.injEq, reduceCtorEq, and_false] at h
    · exact ⟨trait, htrait, (Prod.mk.inj h).1.symm⟩

theorem canExecute_removeTrait {name : String} (htext : params.text? 0 = some name) :
    removeTrait.canExecute c params = (c.alive && c.hasTrait name) := by
  simp only [removeTrait, holdsAt_of_text? htext]
  -- no trait is found among none
  cases hc : c.traits with
  | nil => simp [hasTrait, hc]
  | cons first rest => simp

/-- The trait that was developed last is outgrown again. -/
theorem removeTrait_last (context : Context) {name trait : String}
    (htext : params.text? 0 = some name)
    (hnew : c.hasTrait name = false) (hsame : Text.sameIgnoringCase trait name = true) :
    ∃ effect, removeTrait.execute (c.withTraits (c.traits ++ [trait])) params context =
      (c, .ok effect) := by
  have hothers : ∀ known ∈ c.traits, ¬ Text.sameIgnoringCase known name = true :=
    List.any_eq_false.mp hnew
  have hfound : (c.traits ++ [trait]).find? (fun known => Text.sameIgnoringCase known name) =
      some trait := by
    rw [List.find?_append, List.find?_eq_none.mpr hothers, Option.none_or,
      List.find?_cons_of_pos (a := trait) hsame]
  have herased : (c.traits ++ [trait]).eraseP (fun known => Text.sameIgnoringCase known name) =
      c.traits := by
    rw [List.eraseP_append_right _ hothers, List.eraseP_cons_of_pos (a := trait) hsame,
      List.append_nil]
  simp only [removeTrait, htext, Option.getD_some, withTraits, hfound, herased]
  exact ⟨_, rfl⟩

/-! ### Items -/

theorem giveItem_succeeds (h : giveItem.execute c params context = (after, .ok effect)) :
    ∃ text amount, cleanedText params 0 "item" context = .ok text ∧
      countAt params 1 "count" 1 75 = .ok amount ∧
      after = c.withInventory (c.inventory.insert (mapKey text)
        ((c.carried (Text.trimmed text)).plus amount)) := by
  simp only [giveItem] at h
  split at h
  · simp only [Prod.mk.injEq, reduceCtorEq, and_false] at h
  · next text htext =>
    split at h
    · simp only [Prod.mk.injEq, reduceCtorEq, and_false] at h
    · next amount hamount => exact ⟨text, amount, htext, hamount, (Prod.mk.inj h).1.symm⟩

theorem canExecute_dropItem {item : String} (htext : params.text? 0 = some item) :
    dropItem.canExecute c params = (c.alive && decide (0 < (c.carried item).val)) := by
  have hempty : c.inventory.isEmpty = true → (c.carried item).val = 0 := by
    intro h
    have hentries : c.inventory.entries = [] := List.isEmpty_iff.mp h
    simp only [carried, SortedMap.get?, hentries]
    rfl
  simp only [dropItem, holdsAt_of_text? htext]
  cases h : c.inventory.isEmpty with
  | false => simp
  | true => simp [hempty h]

/-- Of what is carried under a name, as many as are asked for are dropped, or all there are. -/
theorem dropItem_performs (context : Context) {item : String} {count : Amount}
    (htext : params.text? 0 = some item)
    (hcount : countAt params 1 "count" (c.carried item) 4294967295 = .ok count)
    (hone : 1 ≤ count.val) (hheld : 0 < (c.carried item).val) :
    ∃ after effect, dropItem.execute c params context = (after, .ok effect) ∧
      ∀ other, (after.carried other).val =
        if Text.lower item = Text.lower other then (c.carried item).val - count.val
        else (c.carried other).val := by
  have hamount : ¬ min count.val (c.carried item).val = 0 := by omega
  simp only [dropItem, keyAt_of_text? htext, mapKey_of_text? htext, carried_lower, hcount,
    if_neg hamount]
  refine ⟨_, _, rfl, fun other => ?_⟩
  split
  · next hall =>
    refine (congrArg Unsigned.val (carried_erase c (Text.lower item) other)).trans ?_
    split
    · have hzero : ((0 : Amount)).val = 0 := rfl
      omega
    · rfl
  · next hsome =>
    have hfits := (c.carried item).val_le
    refine (congrArg Unsigned.val (carried_insert c (Text.lower item) _ other)).trans ?_
    split
    · rw [Unsigned.val_saturate]
      omega
    · rfl

/-! ### One after the other -/

section

variable {s : Session Colonist} {now later : Tick} {raw count : String}

theorem keepsForm_iff :
    KeepsForm raw ↔ Text.lower (lookupLabel raw) = Text.lower (Text.trimmed raw) :=
  Text.sameIgnoringCase_iff _ _

theorem dispatchAt_addTrait {added : Dispatched Colonist}
    (hadded : (dispatcher .standard).dispatchAt (asking "ADD_TRAIT" [raw]) s now = added)
    (hraw : Token.IsSegment raw.toList) (hblank : Text.trimmed raw ≠ "")
    (hsuccess : added.report.results.map (·.outcome) = [.success]) :
    addTrait.definition.validate [raw] = .ok () ∧ s.agent.alive = true ∧
      s.agent.hasTrait (Text.trimmed raw) = false ∧
      added.session.agent = s.agent.withTraits (s.agent.traits ++ [lookupLabel raw]) := by
  have hlisted : addTrait ∈ actions := by simp only [actions, List.mem_cons, true_or, or_true]
  have htext : Params.text? [raw] 0 = some (Text.trimmed raw) := Params.text?_of_getElem? rfl hblank
  obtain ⟨hfits, hcan, magnitude, effect, hdone⟩ :=
    executed_of_success hlisted hadded rfl (List.forall_mem_singleton.mpr hraw) hsuccess
  obtain ⟨trait, htrait, hafter⟩ := addTrait_succeeds hdone
  have hcut := cleanedText_eq rfl hblank htrait
  rw [cleaned_eq_lookupLabel rfl] at hcut
  simp only [addTrait, holdsAt_of_text? htext, Bool.and_eq_true, Bool.not_eq_true'] at hcan
  rw [← hcut]
  exact ⟨hfits, hcan.1.1, hcan.2, hafter⟩

/-- The trait goes again if it is looked for in the form in which it is kept, and stays
otherwise. -/
theorem dispatchAt_removeTrait_iff {added removed : Dispatched Colonist}
    (hadded : (dispatcher .standard).dispatchAt (asking "ADD_TRAIT" [raw]) s now = added)
    (hremoved : (dispatcher .standard).dispatchAt (asking "REMOVE_TRAIT" [raw]) added.session
      later = removed)
    (hraw : Token.IsSegment raw.toList) (hblank : Text.trimmed raw ≠ "")
    (hsuccess : added.report.results.map (·.outcome) = [.success]) :
    removed.report.results.map (·.outcome) = [.success] ∧
        removed.session.agent.traits = s.agent.traits ↔ KeepsForm raw := by
  obtain ⟨hfits, halive, hnew, hagent⟩ := dispatchAt_addTrait hadded hraw hblank hsuccess
  have htext : Params.text? [raw] 0 = some (Text.trimmed raw) := Params.text?_of_getElem? rfl hblank
  have hparams : ∀ param ∈ [raw], Token.IsSegment param.toList := List.forall_mem_singleton.mpr hraw
  have hcan : removeTrait.canExecute added.session.agent [raw] =
      Text.sameIgnoringCase (lookupLabel raw) (Text.trimmed raw) := by
    have hlives : added.session.agent.alive = true := by rw [hagent]; exact halive
    rw [canExecute_removeTrait htext, hlives, hagent, hasTrait_withTraits_concat, hnew,
      Bool.true_and, Bool.false_or]
  have hlisted : removeTrait ∈ actions := by simp only [actions, List.mem_cons, true_or, or_true]
  have hremoval : IsFree .standard removeTrait := isFree_of_quota_eq_none hlisted rfl rfl rfl
  constructor
  · rintro ⟨houtcome, -⟩
    by_contra hchanged
    obtain ⟨hrefused, -⟩ := hremoval.dispatchAt_refused hremoved rfl hparams hfits
      (hcan.trans (Bool.eq_false_iff.mpr hchanged))
    exact absurd (hrefused.symm.trans houtcome) (by decide)
  · intro hkeeps
    obtain ⟨effect, hdone⟩ := removeTrait_last ⟨later, none, Config.standard.effects⟩ htext hnew
      hkeeps
    rw [← hagent] at hdone
    obtain ⟨houtcome, hafter⟩ := hremoval.dispatchAt_performed hremoved rfl hparams
      hfits (hcan.trans hkeeps) hdone
    exact ⟨houtcome, congrArg (fun session => session.agent.traits) hafter⟩

theorem dispatchAt_giveItem {given : Dispatched Colonist}
    (hgiven : (dispatcher .standard).dispatchAt (asking "GIVE_ITEM" [raw, count]) s now = given)
    (hparams : ∀ param ∈ [raw, count], Token.IsSegment param.toList)
    (hblank : Text.trimmed raw ≠ "")
    (hsuccess : given.report.results.map (·.outcome) = [.success]) :
    giveItem.definition.validate [raw, count] = .ok () ∧ s.agent.alive = true ∧
      ∃ value amount, Params.whole? [raw, count] 1 = some value ∧
        countAt [raw, count] 1 "count" 1 75 = .ok amount ∧
        given.session.agent = s.agent.withInventory (s.agent.inventory.insert
          (Text.lower (lookupLabel raw)) ((s.agent.carried (lookupLabel raw)).plus amount)) := by
  have hlisted : giveItem ∈ actions := by simp only [actions, List.mem_cons, true_or, or_true]
  obtain ⟨hfits, hcan, magnitude, effect, hdone⟩ :=
    executed_of_success hlisted hgiven rfl hparams hsuccess
  have hspec : giveItem.definition.params[1]? = some (optional "count" .integer) := rfl
  have hcount : [raw, count][1]? = some count := rfl
  obtain ⟨value, hvalue⟩ := Definition.isRead_of_validate hfits hspec hcount
  obtain ⟨text, amount, htext, hamount, hafter⟩ := giveItem_succeeds hdone
  have hcut := cleanedText_eq rfl hblank htext
  rw [cleaned_eq_lookupLabel rfl] at hcut
  have htrimmed : Text.trimmed (lookupLabel raw) = lookupLabel raw := Text.trimmed_cleaned raw _
  rw [hcut, mapKey, htrimmed] at hafter
  exact ⟨hfits, hcan, value, amount, hvalue, hamount, hafter⟩

theorem dispatchAt_dropItem {dropped : Dispatched Colonist} {amount : Amount}
    (hdropped : (dispatcher .standard).dispatchAt (asking "DROP_ITEM" [raw, count]) s now = dropped)
    (hparams : ∀ param ∈ [raw, count], Token.IsSegment param.toList)
    (hblank : Text.trimmed raw ≠ "") (hfits : dropItem.definition.validate [raw, count] = .ok ())
    (halive : s.agent.alive = true)
    (hcount : countAt [raw, count] 1 "count" (s.agent.carried (Text.trimmed raw)) 4294967295 =
      .ok amount) (hone : 1 ≤ amount.val) :
    (0 < (s.agent.carried (Text.trimmed raw)).val →
        dropped.report.results.map (·.outcome) = [.success]) ∧
      ∀ item, (dropped.session.agent.carried item).val =
        if Text.lower (Text.trimmed raw) = Text.lower item then
          (s.agent.carried (Text.trimmed raw)).val - amount.val
        else (s.agent.carried item).val := by
  have htext : Params.text? [raw, count] 0 = some (Text.trimmed raw) :=
    Params.text?_of_getElem? rfl hblank
  have hcan : dropItem.canExecute s.agent [raw, count] =
      decide (0 < (s.agent.carried (Text.trimmed raw)).val) := by
    rw [canExecute_dropItem htext, halive, Bool.true_and]
  have hlisted : dropItem ∈ actions := by simp only [actions, List.mem_cons, true_or, or_true]
  have hdropping : IsFree .standard dropItem := isFree_of_quota_eq_none hlisted rfl rfl rfl
  by_cases hheld : 0 < (s.agent.carried (Text.trimmed raw)).val
  · obtain ⟨after, effect, hdone, hcounts⟩ :=
      dropItem_performs ⟨now, none, Config.standard.effects⟩ htext hcount hone hheld
    obtain ⟨houtcome, hafter⟩ := hdropping.dispatchAt_performed hdropped rfl hparams hfits
      (hcan.trans (decide_eq_true hheld)) hdone
    rw [hafter]
    exact ⟨fun _ => houtcome, hcounts⟩
  · obtain ⟨-, hafter⟩ := hdropping.dispatchAt_refused hdropped rfl hparams hfits
      (hcan.trans (decide_eq_false hheld))
    have hsame : dropped.session.agent = s.agent := by
      rw [hafter]
      rfl
    rw [hsame]
    refine ⟨fun h => absurd h hheld, fun item => ?_⟩
    split
    · next hitem =>
      -- there is nothing to drop
      rw [carried_congr hitem] at hheld ⊢
      omega
    · rfl

/-- With room for all that is given, as many are dropped again if they are looked for under the name
under which they are kept; under another name they stay. -/
theorem dispatchAt_dropItem_iff {given dropped : Dispatched Colonist}
    (hgiven : (dispatcher .standard).dispatchAt (asking "GIVE_ITEM" [raw, count]) s now = given)
    (hdropped : (dispatcher .standard).dispatchAt (asking "DROP_ITEM" [raw, count]) given.session
      later = dropped)
    (hparams : ∀ param ∈ [raw, count], Token.IsSegment param.toList)
    (hblank : Text.trimmed raw ≠ "")
    (hsuccess : given.report.results.map (·.outcome) = [.success])
    (hroom : ∀ value, Params.whole? [raw, count] 1 = some value →
      (s.agent.carried (lookupLabel raw)).val + value.val ≤ 4294967295) :
    dropped.report.results.map (·.outcome) = [.success] ∧
        (∀ item, dropped.session.agent.carried item = s.agent.carried item) ↔ KeepsForm raw := by
  obtain ⟨hfits, halive, value, amount, hvalue, hamount, hagent⟩ :=
    dispatchAt_giveItem hgiven hparams hblank hsuccess
  obtain ⟨hsame, hone, hmax⟩ := (countAt_eq_ok_iff hvalue).mp hamount
  have hfitting := hroom value hvalue
  have hcarried : ∀ item, (given.session.agent.carried item).val =
      if Text.lower (lookupLabel raw) = Text.lower item then
        (s.agent.carried (lookupLabel raw)).val + amount.val
      else (s.agent.carried item).val := by
    intro item
    rw [hagent, carried_insert]
    split
    · rw [Unsigned.val_plus]
      omega
    · rfl
  have hlives : given.session.agent.alive = true := by rw [hagent]; exact halive
  have hcount : countAt [raw, count] 1 "count" (given.session.agent.carried (Text.trimmed raw))
      4294967295 = .ok amount :=
    (countAt_eq_ok_iff hvalue).mpr ⟨hsame, hone, hmax.trans (by decide)⟩
  obtain ⟨houtcome, hcounts⟩ :=
    dispatchAt_dropItem hdropped hparams hblank hfits hlives hcount hone
  constructor
  · rintro ⟨-, hrestored⟩
    by_contra hchanged
    have hname : ¬ Text.lower (Text.trimmed raw) = Text.lower (lookupLabel raw) := fun h =>
      hchanged (keepsForm_iff.mpr h.symm)
    have hkept := hcounts (lookupLabel raw)
    rw [if_neg hname, hcarried, if_pos rfl, hrestored] at hkept
    omega
  · intro hkeeps
    have hname := keepsForm_iff.mp hkeeps
    have hheld := hcarried (Text.trimmed raw)
    rw [if_pos hname] at hheld
    refine ⟨houtcome (by omega), fun item => Unsigned.ext_val ?_⟩
    rw [hcounts, hcarried item, hheld, hname]
    split
    · next hitem =>
      rw [carried_congr (hname.trans hitem)]
      omega
    · rfl

end

/-- What has been added under a text is taken back under the same text, at whatever time, if the
text keeps its form when it is cleaned; otherwise the trait stays, and so do the items. -/
theorem taken_back_iff (s : Session Colonist) (now later : Tick) (raw count : String)
    (hraw : Token.IsSegment raw.toList) (hcount : Token.IsSegment count.toList)
    (hblank : Text.trimmed raw ≠ "") :
    let d := dispatcher .standard
    let outcomes (done : Dispatched Colonist) := done.report.results.map (·.outcome)
    let added := d.dispatchAt (asking "ADD_TRAIT" [raw]) s now
    let removed := d.dispatchAt (asking "REMOVE_TRAIT" [raw]) added.session later
    let given := d.dispatchAt (asking "GIVE_ITEM" [raw, count]) s now
    let dropped := d.dispatchAt (asking "DROP_ITEM" [raw, count]) given.session later
    (outcomes added = [.success] →
        (outcomes removed = [.success] ∧ removed.session.agent.traits = s.agent.traits ↔
          KeepsForm raw)) ∧
      (outcomes given = [.success] →
        (∀ value, Params.whole? [raw, count] 1 = some value →
          (s.agent.carried (lookupLabel raw)).val + value.val ≤ 4294967295) →
        (outcomes dropped = [.success] ∧
            (∀ item, dropped.session.agent.carried item = s.agent.carried item) ↔
          KeepsForm raw)) := by
  have hparams : ∀ param ∈ [raw, count], Token.IsSegment param.toList :=
    List.forall_mem_cons.mpr ⟨hraw, List.forall_mem_singleton.mpr hcount⟩
  exact ⟨dispatchAt_removeTrait_iff rfl rfl hraw hblank,
    dispatchAt_dropItem_iff rfl rfl hparams hblank⟩

/-- A capital letter is not kept, but makes no difference. -/
theorem taken_back_kind :
    let d := dispatcher .standard
    let s : Session Colonist := ⟨.fresh "ada" "Ada", .empty 24⟩
    let outcomes (done : Dispatched Colonist) := done.report.results.map (·.outcome)
    let added := d.dispatchAt (asking "ADD_TRAIT" [" Kind"]) s 0
    let removed := d.dispatchAt (asking "REMOVE_TRAIT" [" Kind"]) added.session 1
    let given := d.dispatchAt (asking "GIVE_ITEM" [" Kind", "3"]) s 0
    let dropped := d.dispatchAt (asking "DROP_ITEM" [" Kind", "3"]) given.session 1
    (outcomes added = [.success] ∧ added.session.agent.traits = ["kind"]) ∧
      (outcomes removed = [.success] ∧ removed.session.agent.traits = []) ∧
      (outcomes given = [.success] ∧ (given.session.agent.carried "kind").val = 3) ∧
      outcomes dropped = [.success] ∧ ∀ item, dropped.session.agent.carried item = 0 := by
  intro d s outcomes added removed given dropped
  obtain ⟨htrait, hitem⟩ := taken_back_iff s 0 1 " Kind" "3" (by decide) (by decide) (by decide)
  have hform : KeepsForm " Kind" := by decide +kernel
  have hadded : outcomes added = [.success] ∧ added.session.agent.traits = ["kind"] := by
    decide +kernel
  have hgiven : outcomes given = [.success] ∧ (given.session.agent.carried "kind").val = 3 := by
    decide +kernel
  have hroom : ∀ value, Params.whole? [" Kind", "3"] 1 = some value →
      (s.agent.carried (lookupLabel " Kind")).val + value.val ≤ 4294967295 := by
    have hthree : Params.whole? [" Kind", "3"] 1 = some 3 := by decide +kernel
    intro value hvalue
    obtain rfl := Option.some.inj (hthree.symm.trans hvalue)
    decide +kernel
  exact ⟨hadded, (htrait hadded.1).mpr hform, hgiven, (hitem hgiven.1 hroom).mpr hform⟩

/-- The full stop is not kept, but looked for. -/
theorem kind_with_full_stop_stays :
    let d := dispatcher .standard
    let s : Session Colonist := ⟨.fresh "ada" "Ada", .empty 24⟩
    let outcomes (done : Dispatched Colonist) := done.report.results.map (·.outcome)
    let added := d.dispatchAt (asking "ADD_TRAIT" ["Kind."]) s 0
    let removed := d.dispatchAt (asking "REMOVE_TRAIT" ["Kind."]) added.session 0
    let given := d.dispatchAt (asking "GIVE_ITEM" ["Steel.", "3"]) s 0
    let dropped := d.dispatchAt (asking "DROP_ITEM" ["Steel.", "3"]) given.session 0
    outcomes added = [.success] ∧ outcomes removed = [.preconditionFailed] ∧
      removed.session.agent.traits = ["kind"] ∧
      outcomes given = [.success] ∧ outcomes dropped = [.preconditionFailed] ∧
      (dropped.session.agent.carried "steel").val = 3 := by
  decide +kernel

end Standard

end ReplyActions
