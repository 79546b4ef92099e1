import ReplyActions.Proofs.Quota.Sweeping

/-!
# Ledgers that look alike

What a sweep would drop makes no difference to a request. So two ledgers are as good as each other
to an agent if a sweep would leave the same of its entries in both, and they remain so with every
grant to the agent, every grant to others, and every sweep of either.
-/

namespace ReplyActions.Quota.Ledger
open Number

variable {ledger a b c : Ledger} {waits : String → Nat} {seen now : Tick} {agent : String}
  {key : Key} {policy : Policy}

/-! ### Entries that last -/

/-- The entries belong to days that have begun, and last as long as their directives have to wait
between grants. -/
structure Lasts (ledger : Ledger) (waits : String → Nat) (seen : Tick) : Prop where
  begun : ∀ key usage, ledger.usage? key = some usage →
    usage.day.val ≤ seen.val / ledger.dayLength.val
  retained : ∀ key usage, ledger.usage? key = some usage →
    waits key.directive ≤ usage.retainFor.val

theorem lasts_empty (dayLength : Tick) (waits : String → Nat) (seen : Tick) :
    (empty dayLength).Lasts waits seen := by
  have hnone : ∀ key, (empty dayLength).usage? key = none := fun _ => rfl
  refine ⟨fun key usage hu => ?_, fun key usage hu => ?_⟩
  · rw [hnone] at hu
    contradiction
  · rw [hnone] at hu
    contradiction

theorem Lasts.later (h : ledger.Lasts waits seen) (hn : seen.val ≤ now.val) :
    ledger.Lasts waits now :=
  ⟨fun key usage hu => Nat.le_trans (h.begun key usage hu) (Nat.div_le_div_right hn), h.retained⟩

theorem Lasts.swept (h : ledger.Lasts waits seen) (now : Tick) :
    (ledger.swept now).Lasts waits seen := by
  have hkept : ∀ key usage, (ledger.swept now).usage? key = some usage →
      ledger.usage? key = some usage := by
    intro key usage hu
    rw [usage?_swept, Option.filter_eq_some_iff] at hu
    exact hu.1
  exact ⟨fun key usage hu => h.begun key usage (hkept key usage hu),
    fun key usage hu => h.retained key usage (hkept key usage hu)⟩

theorem Lasts.record (h : ledger.Lasts waits now) (policy : Policy) (key : Key)
    (hwait : waits key.directive ≤ policy.wait) (magnitude : Option Points) :
    (ledger.record policy key now magnitude).Lasts waits now := by
  refine ⟨fun other usage hu => ?_, fun other usage hu => ?_⟩
  · rw [usage?_record] at hu
    split at hu
    · injection hu with hu
      exact hu ▸ Nat.le_refl _
    · exact h.begun other usage hu
  · rw [usage?_record] at hu
    split at hu
    · next hkey =>
      injection hu with hu
      rw [← hkey, ← hu]
      exact Nat.le_trans hwait (wait_le_retention ledger policy)
    · exact h.retained other usage hu

/-! ### What a sweep would drop -/

/-- What a later sweep keeps, an earlier one would have kept. -/
theorem survives_of_later {usage : Usage} (hday : usage.day.val ≤ seen.val / ledger.dayLength.val)
    (hn : seen.val ≤ now.val) (h : ledger.survives now usage = true) :
    ledger.survives seen usage = true := by
  have hspan : (seen.minus usage.lastInvoked).val ≤ (now.minus usage.lastInvoked).val :=
    Nat.sub_le_sub_right hn usage.lastInvoked.val
  simp only [survives, Bool.or_eq_true, decide_eq_true_eq] at h ⊢
  rcases h with h | h
  · exact Or.inl (Nat.le_trans hspan h)
  · refine Or.inr (Unsigned.ext_val (Nat.le_antisymm hday ?_))
    rw [h]
    exact Nat.div_le_div_right hn

theorem usage?_swept_later (h : ledger.Lasts waits seen) (hn : seen.val ≤ now.val) (key : Key) :
    (ledger.swept now).usage? key =
      ((ledger.swept seen).usage? key).filter (ledger.survives now) := by
  rw [usage?_swept, usage?_swept, Option.filter_filter]
  cases hu : ledger.usage? key with
  | none => rfl
  | some usage =>
    rw [Option.filter_some, Option.filter_some]
    cases hs : ledger.survives now usage with
    | false => rw [Bool.and_false]
    | true => rw [survives_of_later (h.begun key usage hu) hn hs, Bool.and_true]

theorem day_ne_of_not_survives {usage : Usage} (h : ledger.survives now usage = false) :
    usage.day ≠ ledger.dayOf now := by
  simp only [survives, Bool.or_eq_false_iff, decide_eq_false_iff_not] at h
  exact h.2

theorem checkCooldown_of_not_survives {usage : Usage} (h : ledger.survives now usage = false)
    (hwait : policy.wait ≤ usage.retainFor.val) : checkCooldown policy usage now = .ok () := by
  simp only [survives, Bool.or_eq_false_iff, decide_eq_false_iff_not] at h
  simp only [checkCooldown]
  cases hc : policy.cooldown with
  | none => rfl
  | some cooldown =>
    have hval : policy.wait = cooldown.val := by
      simp only [Policy.wait, hc, Option.map_some, Option.getD_some]
    simp only
    rw [if_neg (by omega)]

/-- A request gets the same answer before a sweep as after it. -/
theorem check_swept (h : ledger.Lasts waits now) (hwait : policy.wait ≤ waits key.directive)
    (magnitude : Option Points) :
    (ledger.swept now).check policy key now magnitude =
      ledger.check policy key now magnitude := by
  have hday : (ledger.swept now).dayOf now = ledger.dayOf now := rfl
  simp only [check, usage?_swept, hday]
  cases hu : ledger.usage? key with
  | none => rfl
  | some usage =>
    rw [Option.filter_some]
    cases hs : ledger.survives now usage with
    | true => rfl
    | false =>
      have hpassed := checkCooldown_of_not_survives hs
        (Nat.le_trans hwait (h.retained key usage hu))
      have hother := day_ne_of_not_survives hs
      simp only [Bool.false_eq_true, if_false, hpassed, Usage.countOn, Usage.positiveOn,
        if_neg hother]
      rfl

theorem countersOn_swept (ledger : Ledger) (key : Key) (now : Tick) :
    countersOn ((ledger.swept now).usage? key) (ledger.dayOf now) =
      countersOn (ledger.usage? key) (ledger.dayOf now) := by
  rw [usage?_swept]
  cases hu : ledger.usage? key with
  | none => rfl
  | some usage =>
    rw [Option.filter_some]
    cases hs : ledger.survives now usage with
    | true => rfl
    | false =>
      have hother := day_ne_of_not_survives hs
      simp only [Bool.false_eq_true, if_false, countersOn, Usage.countOn, Usage.positiveOn,
        Usage.netOn, if_neg hother]

theorem granted_swept (ledger : Ledger) (policy : Policy) (key : Key) (now : Tick)
    (magnitude : Option Points) :
    (ledger.swept now).granted policy ((ledger.swept now).usage? key) now magnitude =
      ledger.granted policy (ledger.usage? key) now magnitude := by
  have hday : (ledger.swept now).dayOf now = ledger.dayOf now := rfl
  have hretention : (ledger.swept now).retention policy = ledger.retention policy := rfl
  simp only [granted, hday, hretention, countersOn_swept]

theorem usage?_swept_record (ledger : Ledger) (policy : Policy) (key other : Key) (now : Tick)
    (magnitude : Option Points) :
    ((ledger.record policy key now magnitude).swept now).usage? other =
      if key = other then some (ledger.granted policy (ledger.usage? key) now magnitude)
      else (ledger.swept now).usage? other := by
  have hsame : (ledger.record policy key now magnitude).survives now = ledger.survives now := rfl
  rw [usage?_swept, usage?_record, usage?_swept, hsame]
  split
  · exact Option.filter_some_pos (survives_granted ledger policy _ now magnitude)
  · rfl

/-! ### The view of an agent -/

/-- After a sweep the ledgers would have the same entries for the agent. -/
structure LooksAlike (agent : String) (now : Tick) (a b : Ledger) : Prop where
  dayLength : a.dayLength = b.dayLength
  usage? : ∀ directive,
    (a.swept now).usage? ⟨directive, agent⟩ = (b.swept now).usage? ⟨directive, agent⟩

theorem looksAlike_refl (agent : String) (now : Tick) (ledger : Ledger) :
    LooksAlike agent now ledger ledger :=
  ⟨rfl, fun _ => rfl⟩

theorem LooksAlike.symm (h : LooksAlike agent now a b) : LooksAlike agent now b a :=
  ⟨h.dayLength.symm, fun directive => (h.usage? directive).symm⟩

theorem LooksAlike.trans (h : LooksAlike agent now a b) (h' : LooksAlike agent now b c) :
    LooksAlike agent now a c :=
  ⟨h.dayLength.trans h'.dayLength, fun directive =>
    (h.usage? directive).trans (h'.usage? directive)⟩

theorem LooksAlike.later (h : LooksAlike agent seen a b) (ha : a.Lasts waits seen)
    (hb : b.Lasts waits seen) (hn : seen.val ≤ now.val) : LooksAlike agent now a b := by
  have hday : a.dayOf now = b.dayOf now := by simp only [dayOf, h.dayLength]
  have hsurvives : a.survives now = b.survives now := by
    funext usage
    simp only [survives, hday]
  refine ⟨h.dayLength, fun directive => ?_⟩
  rw [usage?_swept_later ha hn, usage?_swept_later hb hn, h.usage? directive, hsurvives]

theorem looksAlike_swept (agent : String) (now : Tick) (ledger : Ledger) :
    LooksAlike agent now (ledger.swept now) ledger :=
  ⟨rfl, fun _ => by rw [swept_swept]⟩

theorem looksAlike_record (h : key.agent ≠ agent) (magnitude : Option Points) :
    LooksAlike agent now (ledger.record policy key now magnitude) ledger := by
  refine ⟨rfl, fun directive => ?_⟩
  have hne : key ≠ ⟨directive, agent⟩ := fun heq => h (heq ▸ rfl)
  rw [usage?_swept_record, if_neg hne]

theorem LooksAlike.check (h : LooksAlike agent now a b) (ha : a.Lasts waits now)
    (hb : b.Lasts waits now) {directive : String} (hwait : policy.wait ≤ waits directive)
    (magnitude : Option Points) :
    a.check policy ⟨directive, agent⟩ now magnitude =
      b.check policy ⟨directive, agent⟩ now magnitude := by
  have hday : (a.swept now).dayOf now = (b.swept now).dayOf now := by
    simp only [dayOf, swept, h.dayLength]
  rw [← check_swept ha hwait, ← check_swept hb hwait, Ledger.check, Ledger.check,
    h.usage? directive, hday]

theorem LooksAlike.record (h : LooksAlike agent now a b) (policy : Policy) (directive : String)
    (magnitude : Option Points) :
    LooksAlike agent now (a.record policy ⟨directive, agent⟩ now magnitude)
      (b.record policy ⟨directive, agent⟩ now magnitude) := by
  have hgranted : a.granted policy (a.usage? ⟨directive, agent⟩) now magnitude =
      b.granted policy (b.usage? ⟨directive, agent⟩) now magnitude := by
    rw [← granted_swept a, ← granted_swept b, h.usage? directive]
    simp only [granted, dayOf, retention, swept, h.dayLength]
  refine ⟨h.dayLength, fun other => ?_⟩
  rw [usage?_swept_record, usage?_swept_record, hgranted, h.usage? other]

end ReplyActions.Quota.Ledger
