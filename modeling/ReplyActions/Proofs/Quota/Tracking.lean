import ReplyActions.Proofs.Quota.History
import ReplyActions.Proofs.SortedMap

/-!
# What a ledger remembers

An entry of the ledger sums up the grants to its pair as far as they still matter. A pair without
an entry has no grant that matters: the last one is farther back than the cooldown, and lies in an
earlier day. Requests, grants and sweeps keep this up as time goes on.
-/

namespace ReplyActions.Quota
open Number

structure SumsUp (dayLength : Nat) (policy : Policy) (history : List Grant) (usage : Usage) :
    Prop where
  last : history.getLast?.map (·.tick) = some usage.lastInvoked
  day : usage.day.val = usage.lastInvoked.val / dayLength
  count : usage.countToday.val = min (countOnDay dayLength usage.day.val history) 4294967295
  positive : usage.positiveMagnitudeToday.val =
    min (positiveOnDay dayLength usage.day.val history) 2147483647
  retained : policy.wait ≤ usage.retainFor.val

/-- No grant bears on a request from `seen` on. -/
def IsStale (dayLength : Nat) (policy : Policy) (history : List Grant) (seen : Nat) : Prop :=
  ∀ grant ∈ history, grant.tick.val + policy.wait ≤ seen ∧
    grant.tick.val / dayLength < seen / dayLength

/-- The entry, or that there is none, is right about the grants up to `seen`. -/
structure Tracks (dayLength : Nat) (policy : Policy) (history : List Grant)
    (usage : Option Usage) (seen : Nat) : Prop where
  sorted : history.Pairwise fun earlier later => earlier.tick.val ≤ later.tick.val
  past : ∀ grant ∈ history, grant.tick.val ≤ seen
  entry : match usage with
    | some usage => SumsUp dayLength policy history usage
    | none => IsStale dayLength policy history seen

/-! ### The newest grant -/

theorem le_last {history : List Grant} {last : Grant}
    (hs : history.Pairwise fun earlier later => earlier.tick.val ≤ later.tick.val)
    (hl : history.getLast? = some last) : ∀ grant ∈ history, grant.tick.val ≤ last.tick.val := by
  obtain ⟨front, rfl⟩ := List.getLast?_eq_some_iff.mp hl
  intro grant hg
  rcases List.mem_append.mp hg with hg | hg
  · exact (List.pairwise_append.mp hs).2.2 grant hg last (List.mem_singleton_self last)
  · exact List.mem_singleton.mp hg ▸ Nat.le_refl _

variable {dayLength : Nat} {policy : Policy} {history : List Grant} {seen : Nat}

/-- All grants lie at or before the entry's time, on its day or before. -/
theorem SumsUp.le_lastInvoked {usage : Usage} (h : SumsUp dayLength policy history usage)
    (hs : history.Pairwise fun earlier later => earlier.tick.val ≤ later.tick.val) :
    ∀ grant ∈ history, grant.tick.val ≤ usage.lastInvoked.val := by
  obtain ⟨last, hl, ht⟩ := Option.map_eq_some_iff.mp h.last
  rw [← ht]
  exact le_last hs hl

theorem SumsUp.lastInvoked_le {usage : Usage} (h : SumsUp dayLength policy history usage)
    (hp : ∀ grant ∈ history, grant.tick.val ≤ seen) : usage.lastInvoked.val ≤ seen := by
  obtain ⟨last, hl, ht⟩ := Option.map_eq_some_iff.mp h.last
  rw [← ht]
  exact hp last (List.mem_of_getLast? hl)

theorem tracks_nil : Tracks dayLength policy [] none seen :=
  ⟨List.Pairwise.nil, fun _ h => absurd h List.not_mem_nil, fun _ h => absurd h List.not_mem_nil⟩

theorem Tracks.later {usage : Option Usage} (h : Tracks dayLength policy history usage seen)
    {now : Nat} (hn : seen ≤ now) : Tracks dayLength policy history usage now := by
  refine ⟨h.sorted, fun grant hg => Nat.le_trans (h.past grant hg) hn, ?_⟩
  have he := h.entry
  cases usage with
  | some usage => exact he
  | none =>
    intro grant hg
    obtain ⟨hw, hd⟩ := he grant hg
    exact ⟨Nat.le_trans hw hn, Nat.lt_of_lt_of_le hd (Nat.div_le_div_right hn)⟩

/-- The counters of a day are those of the grants, as far as the entry can count. -/
theorem Tracks.counters {usage : Option Usage} {now day : Tick}
    (h : Tracks dayLength policy history usage now.val) (hday : day.val = now.val / dayLength) :
    (Ledger.countersOn usage day).1.val = min (countOnDay dayLength day.val history) 4294967295 ∧
      (Ledger.countersOn usage day).2.1.val =
        min (positiveOnDay dayLength day.val history) 2147483647 := by
  have he := h.entry
  cases usage with
  | none =>
    have hne : ∀ grant ∈ history, grant.tick.val / dayLength ≠ day.val := fun grant hg =>
      hday ▸ Nat.ne_of_lt (he grant hg).2
    rw [countOnDay_eq_zero hne, positiveOnDay_eq_zero hne]
    exact ⟨rfl, rfl⟩
  | some usage =>
    simp only [Ledger.countersOn, Usage.countOn, Usage.positiveOn]
    by_cases hd : usage.day = day
    · rw [if_pos hd, if_pos hd, ← hd]
      exact ⟨he.count, he.positive⟩
    · -- the entry's day is over, and all grants lie in it or before
      have hlt : usage.lastInvoked.val / dayLength < day.val := by
        have hle : usage.lastInvoked.val / dayLength ≤ day.val :=
          hday ▸ Nat.div_le_div_right (he.lastInvoked_le h.past)
        refine Nat.lt_of_le_of_ne hle fun heq => hd (Unsigned.ext_val ?_)
        rw [he.day, heq]
      have hne : ∀ grant ∈ history, grant.tick.val / dayLength ≠ day.val := fun grant hg =>
        Nat.ne_of_lt (Nat.lt_of_le_of_lt
          (Nat.div_le_div_right (he.le_lastInvoked h.sorted grant hg)) hlt)
      rw [if_neg hd, if_neg hd, countOnDay_eq_zero hne, positiveOnDay_eq_zero hne]
      exact ⟨rfl, rfl⟩

/-! ### The answer to a request -/

theorem verdictOf_checkDay {count : Amount} {accumulated : Points} {now : Tick}
    (magnitude : Option Points)
    (hcap : ∀ cap, policy.magnitudeCap = some cap → cap.val < 2147483647)
    (hcount : count.val = min (countOnDay dayLength (now.val / dayLength) history) 4294967295)
    (hsum : ∀ cap, policy.magnitudeCap = some cap →
      accumulated.val = positiveOnDay dayLength (now.val / dayLength) history) :
    verdictOf (do
        Ledger.checkCount policy count
        Ledger.checkMagnitude policy accumulated magnitude) =
      judgeDay dayLength policy history now magnitude := by
  have hmagnitude : verdictOf (Ledger.checkMagnitude policy accumulated magnitude) =
      judgeMagnitude policy (positiveOnDay dayLength (now.val / dayLength) history) magnitude := by
    cases hc : policy.magnitudeCap with
    | none => simp only [Ledger.checkMagnitude, judgeMagnitude, hc, verdictOf]
    | some cap =>
      cases magnitude with
      | none => simp only [Ledger.checkMagnitude, judgeMagnitude, hc, verdictOf]
      | some requested =>
        have hlt := hcap cap hc
        have hlow := accumulated.le_val
        rw [← hsum cap hc]
        have hiff : (0 < requested.val ∧ cap.val < (accumulated.plus requested).val) ↔
            (0 < requested.val ∧ cap.val < accumulated.val + requested.val) := by
          rw [Signed.val_plus]
          omega
        simp only [Ledger.checkMagnitude, judgeMagnitude, hc, hiff]
        split <;> rfl
  cases hd : policy.dailyCap with
  | none =>
    simp only [Ledger.checkCount, judgeDay, hd]
    exact hmagnitude
  | some cap =>
    have hle := cap.val_le
    have hiff : cap.val ≤ count.val ↔
        cap.val ≤ countOnDay dayLength (now.val / dayLength) history := by
      omega
    simp only [Ledger.checkCount, judgeDay, hd, hiff]
    split
    · rfl
    · exact hmagnitude

theorem Tracks.not_waiting {now : Tick} (h : Tracks dayLength policy history none now.val) :
    ¬ ∃ grant ∈ history, now.val - grant.tick.val < policy.wait := by
  rintro ⟨grant, hg, hlt⟩
  have hw := (h.entry grant hg).1
  omega

/-- Of all grants, the newest is the first to deny a request. -/
theorem SumsUp.waiting_iff {usage : Usage} {now : Tick}
    (h : SumsUp dayLength policy history usage)
    (hs : history.Pairwise fun earlier later => earlier.tick.val ≤ later.tick.val) :
    (∃ grant ∈ history, now.val - grant.tick.val < policy.wait) ↔
      now.val - usage.lastInvoked.val < policy.wait := by
  constructor
  · rintro ⟨grant, hg, hlt⟩
    have hle := h.le_lastInvoked hs grant hg
    omega
  · intro hlt
    obtain ⟨last, hl, ht⟩ := Option.map_eq_some_iff.mp h.last
    exact ⟨last, List.mem_of_getLast? hl, by rw [ht]; exact hlt⟩

theorem SumsUp.sinceLast_eq {usage : Usage} (h : SumsUp dayLength policy history usage)
    (now : Tick) : sinceLast history now = now.val - usage.lastInvoked.val := by
  obtain ⟨last, hl, ht⟩ := Option.map_eq_some_iff.mp h.last
  simp only [sinceLast, hl, ht]

theorem verdictOf_check {ledger : Ledger} {key : Key} {now : Tick} (magnitude : Option Points)
    (hcap : ∀ cap, policy.magnitudeCap = some cap → cap.val < 2147483647)
    (ht : Tracks ledger.dayLength.val policy history (ledger.usage? key) now.val)
    (hk : Keeps ledger.dayLength.val policy history) :
    verdictOf (ledger.check policy key now magnitude) =
      judge ledger.dayLength.val policy history now magnitude := by
  have hday : (ledger.dayOf now).val = now.val / ledger.dayLength.val := rfl
  obtain ⟨hcount, hpositive⟩ := ht.counters hday
  have hsum : ∀ cap, policy.magnitudeCap = some cap →
      (Ledger.countersOn (ledger.usage? key) (ledger.dayOf now)).2.1.val =
        positiveOnDay ledger.dayLength.val (now.val / ledger.dayLength.val) history := by
    intro cap hc
    have hle := hk.positive_le cap hc (ledger.dayOf now).val
    have hlt := hcap cap hc
    rw [hpositive, hday]
    rw [hday] at hle
    omega
  have hrest := verdictOf_checkDay magnitude hcap hcount hsum
  cases hu : ledger.usage? key with
  | none =>
    rw [hu] at ht hrest
    simp only [Ledger.check, hu, judge, if_neg ht.not_waiting]
    exact hrest
  | some usage =>
    rw [hu] at ht hrest
    have he : SumsUp ledger.dayLength.val policy history usage := ht.entry
    have hwait : (∃ grant ∈ history, now.val - grant.tick.val < policy.wait) ↔
        now.val - usage.lastInvoked.val < policy.wait := he.waiting_iff ht.sorted
    simp only [judge, hwait, he.sinceLast_eq]
    cases hc : policy.cooldown with
    | none =>
      have hzero : policy.wait = 0 := by
        simp only [Policy.wait, hc, Option.map_none, Option.getD_none]
      rw [if_neg (by omega)]
      simp only [Ledger.check, hu, Ledger.checkCooldown, hc]
      exact hrest
    | some cooldown =>
      have hval : policy.wait = cooldown.val := by
        simp only [Policy.wait, hc, Option.map_some, Option.getD_some]
      simp only [Ledger.check, hu, Ledger.checkCooldown, hc, hval]
      have hsub : (now.minus usage.lastInvoked).val = now.val - usage.lastInvoked.val :=
        Unsigned.val_minus ..
      by_cases hlt : now.val - usage.lastInvoked.val < cooldown.val
      · rw [if_pos hlt, if_pos (hsub ▸ hlt)]
        simp only [verdictOf, bind, Except.bind, Unsigned.val_minus]
      · rw [if_neg hlt, if_neg (hsub ▸ hlt)]
        exact hrest

/-! ### Grants and sweeps -/

theorem wait_le_retention (ledger : Ledger) (policy : Policy) :
    policy.wait ≤ (ledger.retention policy).val := by
  cases hc : policy.cooldown with
  | none =>
    simp only [Policy.wait, hc, Option.map_none, Option.getD_none]
    exact Nat.zero_le _
  | some cooldown =>
    have hle := cooldown.val_le
    simp only [Policy.wait, Ledger.retention, hc, Option.map_some, Option.getD_some]
    split
    · rw [Unsigned.val_twice]
      omega
    · omega

theorem usage?_record (ledger : Ledger) (policy : Policy) (key other : Key) (now : Tick)
    (magnitude : Option Points) :
    (ledger.record policy key now magnitude).usage? other =
      if key = other then some (ledger.granted policy (ledger.usage? key) now magnitude)
      else ledger.usage? other :=
  SortedMap.get?_insert ..

theorem usage?_swept (ledger : Ledger) (now : Tick) (key : Key) :
    (ledger.swept now).usage? key = (ledger.usage? key).filter (ledger.survives now) :=
  SortedMap.get?_filter ..

theorem Tracks.record {ledger : Ledger} {key : Key} {now : Tick} (magnitude : Option Points)
    (h : Tracks ledger.dayLength.val policy history (ledger.usage? key) now.val) :
    Tracks ledger.dayLength.val policy (history ++ [⟨now, magnitude⟩])
      ((ledger.record policy key now magnitude).usage? key) now.val := by
  have hday : (ledger.dayOf now).val = now.val / ledger.dayLength.val := rfl
  obtain ⟨hcount, hpositive⟩ := h.counters hday
  refine ⟨?_, ?_, ?_⟩
  · rw [List.pairwise_append]
    refine ⟨h.sorted, List.pairwise_singleton .., fun grant hg last hl => ?_⟩
    exact List.mem_singleton.mp hl ▸ h.past grant hg
  · intro grant hg
    rcases List.mem_append.mp hg with hg | hg
    · exact h.past grant hg
    · exact List.mem_singleton.mp hg ▸ Nat.le_refl _
  · rw [usage?_record, if_pos rfl]
    refine ⟨by simp [Ledger.granted], rfl, ?_, ?_, wait_le_retention ledger policy⟩
    · have hone : (1 : Amount).val = 1 := rfl
      simp only [Ledger.granted, Unsigned.val_plus, hcount, hone]
      rw [countOnDay_snoc, if_pos hday.symm]
      omega
    · simp only [Ledger.granted]
      rw [positiveOnDay_snoc, if_pos hday.symm]
      have hnonneg := positiveOnDay_nonneg ledger.dayLength.val (ledger.dayOf now).val history
      cases magnitude with
      | none =>
        simp only [Ledger.addPositive, positivePart, hpositive, Int.add_zero]
      | some value =>
        simp only [Ledger.addPositive, positivePart]
        split
        · rw [Signed.val_plus, hpositive]
          omega
        · rw [hpositive]
          omega

/-- A sweep drops an entry only when no grant matters any more. -/
theorem Tracks.swept {ledger : Ledger} {key : Key} {now : Tick}
    (h : Tracks ledger.dayLength.val policy history (ledger.usage? key) now.val) :
    Tracks ledger.dayLength.val policy history ((ledger.swept now).usage? key) now.val := by
  refine ⟨h.sorted, h.past, ?_⟩
  have he := h.entry
  rw [usage?_swept]
  cases hu : ledger.usage? key with
  | none =>
    rw [hu] at he
    exact he
  | some usage =>
    rw [hu] at he
    have he : SumsUp ledger.dayLength.val policy history usage := he
    cases hs : ledger.survives now usage with
    | true => simpa [Option.filter, hs] using he
    | false =>
      simp only [Option.filter, hs]
      simp only [Ledger.survives, Bool.or_eq_false_iff, decide_eq_false_iff_not] at hs
      obtain ⟨hlong, hday⟩ := hs
      have hspan : (now.minus usage.lastInvoked).val = now.val - usage.lastInvoked.val :=
        Unsigned.val_minus ..
      have hretained := he.retained
      have hpast := he.lastInvoked_le h.past
      intro grant hg
      have hle := he.le_lastInvoked h.sorted grant hg
      refine ⟨by omega, ?_⟩
      have hdays : grant.tick.val / ledger.dayLength.val ≤ usage.day.val := by
        rw [he.day]
        exact Nat.div_le_div_right hle
      have hne : usage.day.val ≠ now.val / ledger.dayLength.val := fun heq =>
        hday (Unsigned.ext_val heq)
      have hnow : usage.day.val ≤ now.val / ledger.dayLength.val := by
        rw [he.day]
        exact Nat.div_le_div_right hpast
      omega

end ReplyActions.Quota
