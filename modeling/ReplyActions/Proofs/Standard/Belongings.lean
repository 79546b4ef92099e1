import Mathlib.Data.List.Basic
import ReplyActions.Proofs.Dispatch.Moments
import ReplyActions.Proofs.Dispatch.Replay
import ReplyActions.Proofs.Number.Decimal
import ReplyActions.Proofs.Standard.TakingBack

/-!
# What is carried, given and dropped

The result of a gift or of a drop tells what was moved and how many of it. Nothing but gifts and
drops changes what a colonist carries, so in the end there is of everything what there was in the
beginning, with what was given and without what was dropped.
-/

namespace ReplyActions
open Number

/-! ### What results tell -/

/-- The number that a text spells behind some front part. -/
def numberAfter? (front text : String) : Option Nat :=
  (front.toList.isPrefixOf? text.toList).bind natOf?

namespace Result

/-- The number of items that a success of a directive tells of, under a name. -/
def amount? (id verb : String) (r : Result) (item : String) : Option Nat :=
  if r.isSuccess = true ∧ r.directiveId = id then
    numberAfter? (verb ++ ":" ++ item ++ ":") r.result
  else none

def given? (r : Result) (item : String) : Option Nat := r.amount? "GIVE_ITEM" "given" item

def dropped? (r : Result) (item : String) : Option Nat := r.amount? "DROP_ITEM" "dropped" item

end Result

/-- The sum of the amounts that results tell of. -/
def toldIn (amount? : Result → Option Nat) : List Result → Nat
  | [] => 0
  | first :: rest => (amount? first).getD 0 + toldIn amount? rest

def givenIn (results : List Result) (item : String) : Nat := toldIn (·.given? item) results

def droppedIn (results : List Result) (item : String) : Nat := toldIn (·.dropped? item) results

/-- From the count at the start on, no count on the way is greater than there is room for. -/
def CountsFit (start : Nat) (results : List Result) (item : String) : Prop :=
  ∀ k ≤ results.length,
    start + givenIn (results.take k) item ≤ 4294967295 + droppedIn (results.take k) item

instance (start : Nat) (results : List Result) (item : String) :
    Decidable (CountsFit start results item) :=
  inferInstanceAs (Decidable (∀ k ≤ results.length, _ ≤ _))

/-- Before the only mark of a text there is nothing if the text starts with it. -/
theorem eq_nil_of_cons_eq_append_cons {mark : Char} {middle x y : List Char} (hx : mark ∉ x)
    (h : mark :: x = middle ++ mark :: y) : middle = [] := by
  cases middle with
  | nil => rfl
  | cons c middle =>
    have htail : x = middle ++ mark :: y := (List.cons.inj h).2
    exact absurd (htail ▸ List.mem_append_right middle List.mem_cons_self) hx

theorem eq_of_append_cons_eq {mark : Char} {a b x y : List Char} (hx : mark ∉ x) (hy : mark ∉ y)
    (h : a ++ mark :: x = b ++ mark :: y) : a = b := by
  rcases List.append_eq_append_iff.mp h with ⟨middle, rfl, hm⟩ | ⟨middle, rfl, hm⟩
  · rw [eq_nil_of_cons_eq_append_cons hx hm, List.append_nil]
  · rw [eq_nil_of_cons_eq_append_cons hy hm, List.append_nil]

theorem colon_notMem_of_natOf? {digits : List Char} {n : Nat} (h : natOf? digits = some n) :
    ':' ∉ digits := by
  intro hm
  obtain ⟨hnumeral, -⟩ := natOf?_eq_some_iff.mp h
  exact absurd (hnumeral.digits ':' hm) (by decide)

/-- A status tells of one name only, whatever characters names are made of. -/
theorem numberAfter?_status (verb item other : String) (n : Nat) :
    numberAfter? (verb ++ ":" ++ item ++ ":") (verb ++ ":" ++ other ++ ":" ++ natText n) =
      if other = item then some n else none := by
  have hstatus (name : String) (rest : List Char) :
      (verb ++ ":" ++ name ++ ":").toList ++ rest =
        verb.toList ++ ':' :: (name.toList ++ ':' :: rest) := by
    simp only [String.toList_append, List.append_assoc]
    rfl
  have htext : (verb ++ ":" ++ other ++ ":" ++ natText n).toList =
      verb.toList ++ ':' :: (other.toList ++ ':' :: natDigits n) := by
    rw [String.toList_append, natText, String.toList_ofList, hstatus]
  have hdigits := natOf?_natDigits n
  rw [numberAfter?, htext]
  split
  · next h =>
    subst h
    rw [Option.bind_eq_some_iff]
    exact ⟨natDigits n, List.isPrefixOf?_eq_some_iff_append_eq.mpr (hstatus ..), hdigits⟩
  · next h =>
    rw [Option.eq_none_iff_forall_ne_some]
    intro m hm
    obtain ⟨rest, hfront, hrest⟩ := Option.bind_eq_some_iff.mp hm
    have hsplit := List.isPrefixOf?_eq_some_iff_append_eq.mp hfront
    rw [hstatus, List.append_cancel_left_eq, List.cons.injEq] at hsplit
    have hname := eq_of_append_cons_eq (colon_notMem_of_natOf? hrest)
      (colon_notMem_of_natOf? hdigits) hsplit.2
    exact h (String.toList_injective hname.symm)

theorem Result.amount?_succeeded (id verb : String) {i : Invocation} {effect : Effect}
    {other : String} {n : Nat} (hid : i.id = id)
    (hstatus : effect.status = verb ++ ":" ++ other ++ ":" ++ natText n) (item : String) :
    (Result.succeeded i effect).amount? id verb item = if other = item then some n else none := by
  rw [amount?, if_pos ⟨rfl, hid⟩]
  exact (congrArg _ hstatus).trans (numberAfter?_status verb item other n)

theorem Result.amount?_eq_none (id verb : String) {r : Result}
    (h : r.isSuccess = false ∨ r.directiveId ≠ id) (item : String) :
    r.amount? id verb item = none := by
  refine if_neg fun ⟨hsuccess, hid⟩ => ?_
  rcases h with h | h
  · exact Bool.false_ne_true (h.symm.trans hsuccess)
  · exact h hid

/-! ### What a result stands for -/

/-- What became of the belongings of a colonist, and what the result tells of it. -/
structure MovesItems (before after : Colonist) (result : Result) : Prop where
  tells : result.isSuccess = true →
    result.directiveId = "GIVE_ITEM" ∨ result.directiveId = "DROP_ITEM" →
    ∃ item amount, result.given? item = some amount ∨ result.dropped? item = some amount
  gives : ∀ item amount, result.given? item = some amount →
    Text.lower item = item ∧ 1 ≤ amount ∧ amount ≤ 75 ∧
      (after.carried item).val = min ((before.carried item).val + amount) 4294967295
  drops : ∀ item amount, result.dropped? item = some amount →
    Text.lower item = item ∧ 1 ≤ amount ∧ amount ≤ (before.carried item).val ∧
      (after.carried item).val = (before.carried item).val - amount ∧
      (amount = (before.carried item).val → after.inventory.get? item = none)
  leaves : ∀ item, result.given? item = none → result.dropped? item = none →
    after.inventory.get? item = before.inventory.get? item
  keeps : result.isSuccess = false ∨
      result.directiveId ≠ "GIVE_ITEM" ∧ result.directiveId ≠ "DROP_ITEM" →
    after.inventory = before.inventory

/-- Unless something is given or dropped, there is nothing to tell. -/
theorem movesItems_of_kept {before after : Colonist} {result : Result}
    (h : result.isSuccess = false ∨
      result.directiveId ≠ "GIVE_ITEM" ∧ result.directiveId ≠ "DROP_ITEM")
    (hkept : after.inventory = before.inventory) : MovesItems before after result where
  tells hsuccess hid := by
    rcases h with h | ⟨hgive, hdrop⟩
    · exact absurd (h.symm.trans hsuccess) Bool.false_ne_true
    · exact (hid.elim hgive hdrop).elim
  gives item amount htold := by
    have hnone := Result.amount?_eq_none "GIVE_ITEM" "given" (h.imp_right And.left) item
    exact absurd (hnone.symm.trans htold) (Option.some_ne_none amount).symm
  drops item amount htold := by
    have hnone := Result.amount?_eq_none "DROP_ITEM" "dropped" (h.imp_right And.right) item
    exact absurd (hnone.symm.trans htold) (Option.some_ne_none amount).symm
  leaves item _ _ := by rw [hkept]
  keeps _ := hkept

theorem Result.directiveId_of_amount? {id verb item : String} {r : Result} {n : Nat}
    (h : r.amount? id verb item = some n) : r.directiveId = id := by
  rw [amount?] at h
  split at h
  · next htold => exact htold.2
  · contradiction

/-- With room for what is given, a count grows by it, and it shrinks by what is dropped. -/
theorem MovesItems.balance {before after : Colonist} {result : Result}
    (h : MovesItems before after result) {item : String} (hitem : Text.lower item = item)
    (hroom : (before.carried item).val + (result.given? item).getD 0 ≤
      4294967295 + (result.dropped? item).getD 0) :
    (after.carried item).val + (result.dropped? item).getD 0 =
      (before.carried item).val + (result.given? item).getD 0 := by
  cases hgiven : result.given? item with
  | none =>
    cases hdropped : result.dropped? item with
    | none =>
      have hsame := h.leaves item hgiven hdropped
      rw [Colonist.carried, Colonist.carried, hitem, hsame]
    | some amount =>
      obtain ⟨-, -, hheld, hafter, -⟩ := h.drops item amount hdropped
      simp only [Option.getD_some, Option.getD_none]
      omega
  | some amount =>
    have hnone : result.dropped? item = none :=
      Result.amount?_eq_none _ _ (Or.inr (ne_of_eq_of_ne (Result.directiveId_of_amount? hgiven)
        (by decide))) item
    obtain ⟨-, -, -, hafter⟩ := h.gives item amount hgiven
    simp only [hgiven, hnone, Option.getD_some, Option.getD_none] at hroom ⊢
    omega

namespace Standard
open Colonist

variable {c after : Colonist} {params : Params} {context : Context} {effect : Effect}

/-! ### Gifts and drops -/

theorem countAt_le {index : Nat} {name : String} {default max count : Amount}
    (h : countAt params index name default max = .ok count) (hdefault : default.val ≤ max.val) :
    count.val ≤ max.val := by
  cases hgiven : params.whole? index with
  | none =>
    simp only [countAt, hgiven] at h
    exact Except.ok.inj h ▸ hdefault
  | some value => exact ((countAt_eq_ok_iff hgiven).mp h).2.2

theorem lower_mapKey (raw : String) : Text.lower (mapKey raw) = mapKey raw := Text.lower_lower _

theorem giveItem_moves (h : giveItem.execute c params context = (after, .ok effect)) :
    ∃ item amount, effect.status = "given:" ++ item ++ ":" ++ natText amount.val ∧
      Text.lower item = item ∧ 1 ≤ amount.val ∧ amount.val ≤ 75 ∧
      after = c.withInventory (c.inventory.insert item ((c.carried item).plus amount)) := by
  simp only [giveItem] at h
  split at h
  · simp only [Prod.mk.injEq, reduceCtorEq, and_false] at h
  · next text _ =>
    split at h
    · simp only [Prod.mk.injEq, reduceCtorEq, and_false] at h
    · next amount hamount =>
      obtain ⟨hafter, heffect⟩ := Prod.mk.inj h
      obtain rfl := Except.ok.inj heffect
      refine ⟨mapKey text, amount, rfl, lower_mapKey text,
        one_le_countAt hamount (by decide +kernel), countAt_le hamount (by decide +kernel), ?_⟩
      rw [carried, lower_mapKey]
      exact hafter.symm

theorem dropItem_moves (h : dropItem.execute c params context = (after, .ok effect)) :
    ∃ item amount, effect.status = "dropped:" ++ item ++ ":" ++ natText amount ∧
      Text.lower item = item ∧ 1 ≤ amount ∧ amount ≤ (c.carried item).val ∧
      after = c.withInventory (if amount = (c.carried item).val then c.inventory.erase item
        else c.inventory.insert item (Unsigned.saturate ((c.carried item).val - amount))) := by
  simp only [dropItem] at h
  split at h
  · simp only [Prod.mk.injEq, reduceCtorEq, and_false] at h
  · next count _ =>
    split at h
    · simp only [Prod.mk.injEq, reduceCtorEq, and_false] at h
    · next hsome =>
      obtain ⟨hafter, heffect⟩ := Prod.mk.inj h
      obtain rfl := Except.ok.inj heffect
      exact ⟨keyAt params 0, _, rfl, lower_mapKey _, Nat.one_le_iff_ne_zero.mpr hsome,
        Nat.min_le_right .., hafter.symm⟩

theorem movesItems_of_given {i : Invocation} {item : String} {amount : Amount}
    (hid : i.id = "GIVE_ITEM")
    (hstatus : effect.status = "given:" ++ item ++ ":" ++ natText amount.val)
    (hlower : Text.lower item = item) (hone : 1 ≤ amount.val) (hmax : amount.val ≤ 75) :
    MovesItems c (c.withInventory (c.inventory.insert item ((c.carried item).plus amount)))
      (.succeeded i effect) := by
  have hgiven := Result.amount?_succeeded "GIVE_ITEM" "given" hid hstatus
  have hdropped (other : String) : (Result.succeeded i effect).dropped? other = none :=
    Result.amount?_eq_none _ _ (Or.inr (ne_of_eq_of_ne hid (by decide))) other
  constructor
  case tells =>
    intro _ _
    exact ⟨item, amount.val, Or.inl ((hgiven item).trans (if_pos rfl))⟩
  case gives =>
    intro other n htold
    rw [Result.given?, hgiven] at htold
    split at htold
    · next hsame =>
      subst hsame
      obtain rfl := Option.some.inj htold
      refine ⟨hlower, hone, hmax, ?_⟩
      rw [carried_insert, if_pos hlower.symm, Unsigned.val_plus]
    · contradiction
  case drops =>
    intro other n htold
    exact absurd ((hdropped other).symm.trans htold) (Option.some_ne_none n).symm
  case leaves =>
    intro other hnone _
    rw [Result.given?, hgiven] at hnone
    split at hnone
    · contradiction
    · next hother => rw [withInventory, SortedMap.get?_insert, if_neg hother]
  case keeps =>
    rintro (hfailed | ⟨hgive, -⟩)
    · exact absurd hfailed.symm Bool.false_ne_true
    · exact absurd hid hgive

theorem movesItems_of_dropped {i : Invocation} {item : String} {amount : Nat}
    (hid : i.id = "DROP_ITEM")
    (hstatus : effect.status = "dropped:" ++ item ++ ":" ++ natText amount)
    (hlower : Text.lower item = item) (hone : 1 ≤ amount) (hheld : amount ≤ (c.carried item).val) :
    MovesItems c (c.withInventory (if amount = (c.carried item).val then c.inventory.erase item
      else c.inventory.insert item (Unsigned.saturate ((c.carried item).val - amount))))
      (.succeeded i effect) := by
  have hdropped := Result.amount?_succeeded "DROP_ITEM" "dropped" hid hstatus
  have hgiven (other : String) : (Result.succeeded i effect).given? other = none :=
    Result.amount?_eq_none _ _ (Or.inr (ne_of_eq_of_ne hid (by decide))) other
  constructor
  case tells =>
    intro _ _
    exact ⟨item, amount, Or.inr ((hdropped item).trans (if_pos rfl))⟩
  case gives =>
    intro other n htold
    exact absurd ((hgiven other).symm.trans htold) (Option.some_ne_none n).symm
  case drops =>
    intro other n htold
    rw [Result.dropped?, hdropped] at htold
    split at htold
    · next hsame =>
      subst hsame
      obtain rfl := Option.some.inj htold
      refine ⟨hlower, hone, hheld, ?_, fun hall => ?_⟩
      · split
        · next hall =>
          rw [carried_erase, if_pos hlower.symm, hall, Nat.sub_self]
          rfl
        · have hfits := (c.carried item).val_le
          rw [carried_insert, if_pos hlower.symm, Unsigned.val_saturate]
          omega
      · rw [if_pos hall, withInventory, SortedMap.get?_erase, if_pos rfl]
    · contradiction
  case leaves =>
    intro other _ hnone
    rw [Result.dropped?, hdropped] at hnone
    split at hnone
    · contradiction
    · next hother =>
      split
      · rw [withInventory, SortedMap.get?_erase, if_neg hother]
      · rw [withInventory, SortedMap.get?_insert, if_neg hother]
  case keeps =>
    rintro (hfailed | ⟨-, hdrop⟩)
    · exact absurd hfailed.symm Bool.false_ne_true
    · exact absurd hid hdrop

/-- Nothing else works on belongings. -/
theorem inventory_of_succeeds {config : Config} {now : Tick} {s : Session Colonist} {i : Invocation}
    {action : Action Colonist} {admission : Admission}
    (h : Succeeds config now s i action admission after effect)
    (hgive : action.definition.id ≠ "GIVE_ITEM") (hdrop : action.definition.id ≠ "DROP_ITEM") :
    after.inventory = s.agent.inventory := by
  have hothers : ∀ entry ∈ worksOn, Aspect.inventory ∈ entry.2 →
      entry.1.definition.id = "GIVE_ITEM" ∨ entry.1.definition.id = "DROP_ITEM" := by decide
  have hlisted := h.listed
  rw [← map_worksOn] at hlisted
  obtain ⟨entry, hentry, rfl⟩ := List.mem_map.mp hlisted
  have hspared : Aspect.inventory ∉ entry.2 := fun hm =>
    (hothers entry hentry hm).elim hgive hdrop
  exact (h.agreesBut (changesOnly_of_mem_worksOn entry hentry)).aspect hspared

/-! ### Steps and runs -/

theorem step_movesItems (config : Config) (now : Tick) (s : Session Colonist) {i : Invocation}
    (hid : canonicalId i.id = i.id) :
    MovesItems s.agent ((dispatcher config).step now s i).session.agent
      ((dispatcher config).step now s i).result := by
  cases hsuccess : ((dispatcher config).step now s i).result.isSuccess with
  | false =>
    rw [Dispatcher.step_session_of_not_success (dispatcher_isSparing config) hsuccess]
    exact movesItems_of_kept (Or.inl hsuccess) rfl
  | true =>
    obtain ⟨action, admission, after, effect, hdone⟩ := exists_succeeds hsuccess
    have hnamed : action.definition.id = i.id := hdone.named.trans hid
    rw [hdone.session, hdone.result]
    by_cases hgive : i.id = "GIVE_ITEM"
    · have hlisted : giveItem ∈ actions := by simp only [actions, List.mem_cons, true_or, or_true]
      obtain rfl := hdone.eq hlisted hgive
      obtain ⟨item, amount, hstatus, hlower, hone, hmax, hafter⟩ := giveItem_moves hdone.executed
      rw [hafter]
      exact movesItems_of_given hgive hstatus hlower hone hmax
    · by_cases hdrop : i.id = "DROP_ITEM"
      · have hlisted : dropItem ∈ actions := by simp only [actions, List.mem_cons, true_or, or_true]
        obtain rfl := hdone.eq hlisted hdrop
        obtain ⟨item, amount, hstatus, hlower, hone, hheld, hafter⟩ := dropItem_moves hdone.executed
        rw [hafter]
        exact movesItems_of_dropped hdrop hstatus hlower hone hheld
      · rw [← hnamed] at hgive hdrop
        have hkept := inventory_of_succeeds hdone hgive hdrop
        rw [hnamed] at hgive hdrop
        exact movesItems_of_kept (Or.inr ⟨hgive, hdrop⟩) hkept

theorem givenIn_cons (r : Result) (rest : List Result) (item : String) :
    givenIn (r :: rest) item = (r.given? item).getD 0 + givenIn rest item := rfl

theorem droppedIn_cons (r : Result) (rest : List Result) (item : String) :
    droppedIn (r :: rest) item = (r.dropped? item).getD 0 + droppedIn rest item := rfl

/-- What holds of every result holds of a run, as long as no count on the way is too large. -/
theorem balance_of_leads {d : Dispatcher Colonist} {moments : List (Moment Colonist)}
    {first last : Colonist} {results : List Result} {item : String}
    (hleads : d.Leads first moments last)
    (hresults : moments.map (fun m => (d.stepAt m).result) = results)
    (hmoves : ∀ m ∈ moments,
      MovesItems m.before.agent (d.stepAt m).session.agent (d.stepAt m).result)
    (hitem : Text.lower item = item)
    (hroom : CountsFit (first.carried item).val results item) :
    (last.carried item).val + droppedIn results item =
      (first.carried item).val + givenIn results item := by
  induction hleads generalizing results with
  | nil agent =>
    subst hresults
    rfl
  | cons m _ ih =>
    rw [List.map_cons] at hresults
    subst hresults
    have hone := hroom 1 (Nat.le_add_left ..)
    simp only [List.take_succ_cons, List.take_zero, givenIn_cons, droppedIn_cons] at hone
    have hstep := (hmoves m List.mem_cons_self).balance hitem hone
    have hrest := ih rfl (fun other ho => hmoves other (List.mem_cons_of_mem _ ho)) (fun k hk => by
      have hnext := hroom (k + 1) (Nat.succ_le_succ hk)
      simp only [List.take_succ_cons, givenIn_cons, droppedIn_cons] at hnext
      omega)
    simp only [givenIn_cons, droppedIn_cons]
    omega

/-- At every moment of every run: what is given is between 1 and 75 items, what is dropped is
between 1 item and all that are held, an item that runs out is no longer kept, and nothing else
changes what is carried. So in the end there is of every item what there was in the beginning, with
what was given and without what was dropped, unless there were too many of it on the way. -/
theorem items_are_conserved (config : Config) (s : Session Colonist)
    (replies : List (String × Tick)) :
    let d := dispatcher config
    let run := d.dispatchAll s replies
    let results := run.2.flatMap (·.results)
    (∀ m ∈ d.moments s replies,
        MovesItems m.before.agent (d.stepAt m).session.agent (d.stepAt m).result) ∧
      d.Leads s.agent (d.moments s replies) run.1.agent ∧
      (d.moments s replies).map (fun m => (d.stepAt m).result) = results ∧
      ∀ item, Text.lower item = item →
        CountsFit (s.agent.carried item).val results item →
        (run.1.agent.carried item).val + droppedIn results item =
          (s.agent.carried item).val + givenIn results item := by
  have hmoves : ∀ m ∈ (dispatcher config).moments s replies,
      MovesItems m.before.agent ((dispatcher config).stepAt m).session.agent
        ((dispatcher config).stepAt m).result := by
    intro m hm
    rw [Dispatcher.stepAt]
    exact step_movesItems config m.now m.before ((dispatcher config).canonicalId_of_mem_moments hm)
  have hleads := (dispatcher config).leads_moments s replies
  have hresults := (dispatcher config).results_moments s replies
  exact ⟨hmoves, hleads, hresults,
    fun item hitem hroom => balance_of_leads hleads hresults hmoves hitem hroom⟩

/-- Of ten pieces of steel four are dropped, and later all that are left. -/
theorem items_are_conserved_steel :
    let s : Session Colonist := ⟨.fresh "ada" "Ada", .empty 24⟩
    let replies : List (String × Tick) :=
      [("[ACTION:GIVE_ITEM:Steel.:10][ACTION:DROP_ITEM:STEEL:4]", 0),
        ("[ACTION:DROP_ITEM:steel]", 1)]
    let run := (dispatcher .standard).dispatchAll s replies
    let results := run.2.flatMap (·.results)
    Text.lower "steel" = "steel" ∧
      CountsFit (s.agent.carried "steel").val results "steel" ∧
      results.map (fun r => (r.given? "steel", r.dropped? "steel")) =
        [(some 10, none), (none, some 4), (none, some 6)] ∧
      (run.1.agent.carried "steel").val + droppedIn results "steel" =
        (s.agent.carried "steel").val + givenIn results "steel" := by
  intro s replies run results
  have hlower : Text.lower "steel" = "steel" := by decide +kernel
  have hroom : CountsFit (s.agent.carried "steel").val results "steel" := by decide +kernel
  obtain ⟨-, -, -, hbalance⟩ := items_are_conserved .standard s replies
  exact ⟨hlower, hroom, by decide +kernel, hbalance "steel" hlower hroom⟩

end Standard

end ReplyActions
