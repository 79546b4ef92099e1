import ReplyActions.Proofs.Quota.Tracking

/-!
# Grants by their times

A cooldown and a daily cap ask only when grants have been given. The times of the grants to one
pair stay within these limits as long as each grant has been checked on the pair's own entry. Whom
else the ledger serves, and how large magnitudes are, does not matter.
-/

namespace ReplyActions.Quota
open Number

structure WithinLimits (dayLength cap cooldown : Nat) (times : List Tick) : Prop where
  count_le : ∀ day, (times.filter fun time => time.val / dayLength = day).length ≤ cap
  apart : times.Pairwise fun earlier later => earlier.val + cooldown ≤ later.val

def Policy.timing (policy : Policy) : Policy := { policy with magnitudeCap := none }

theorem check_timing {ledger : Ledger} {policy : Policy} {key : Key} {now : Tick}
    {magnitude : Option Points} (h : ledger.check policy key now magnitude = .ok ()) :
    ledger.check policy.timing key now magnitude = .ok () := by
  have hcount : ∀ count accumulated,
      (do Ledger.checkCount policy count
          Ledger.checkMagnitude policy accumulated magnitude) = Except.ok () →
      (do Ledger.checkCount policy.timing count
          Ledger.checkMagnitude policy.timing accumulated magnitude) = Except.ok () := by
    intro count accumulated h
    cases hc : Ledger.checkCount policy count with
    | error denial =>
      rw [hc] at h
      contradiction
    | ok room =>
      have hc' : Ledger.checkCount policy.timing count = .ok room := hc
      rw [hc']
      rfl
  simp only [Ledger.check] at h ⊢
  cases hu : ledger.usage? key with
  | none =>
    rw [hu] at h
    exact hcount _ _ h
  | some usage =>
    rw [hu] at h
    cases hw : Ledger.checkCooldown policy usage now with
    | error denial =>
      simp only [hw] at h
      contradiction
    | ok rested =>
      have hw' : Ledger.checkCooldown policy.timing usage now = .ok rested := hw
      simp only [hw, hw'] at h ⊢
      exact hcount _ _ h

/-- The ledger is right about the pair, to which grants were given at the times. -/
structure Accounted (dayLength : Nat) (policy : Policy) (key : Key) (times : List Tick)
    (ledger : Ledger) (seen : Nat) : Prop where
  day : ledger.dayLength.val = dayLength
  history : ∃ history : List Grant, history.map (·.tick) = times ∧
    Tracks dayLength policy.timing history (ledger.usage? key) seen ∧
    Keeps dayLength policy.timing history

namespace Accounted

variable {dayLength : Nat} {policy : Policy} {key : Key} {times : List Tick} {ledger : Ledger}
  {seen : Nat} {now : Tick}

theorem start (policy : Policy) (key : Key) (dayLength : Tick) (seen : Nat) :
    Accounted (Ledger.empty dayLength).dayLength.val policy key [] (.empty dayLength) seen :=
  ⟨rfl, [], rfl, tracks_nil, keeps_nil⟩

theorem later (h : Accounted dayLength policy key times ledger seen) {now : Nat}
    (hn : seen ≤ now) : Accounted dayLength policy key times ledger now := by
  obtain ⟨history, ht, htracks, hkeeps⟩ := h.history
  exact ⟨h.day, history, ht, htracks.later hn, hkeeps⟩

theorem swept (h : Accounted dayLength policy key times ledger now.val) :
    Accounted dayLength policy key times (ledger.swept now) now.val := by
  obtain ⟨history, ht, htracks, hkeeps⟩ := h.history
  refine ⟨h.day, history, ht, ?_, hkeeps⟩
  rw [← h.day] at htracks ⊢
  exact htracks.swept

theorem other {record : Policy} {pair : Key} {magnitude : Option Points} (hne : pair ≠ key)
    (h : Accounted dayLength policy key times ledger now.val) :
    Accounted dayLength policy key times (ledger.record record pair now magnitude) now.val := by
  obtain ⟨history, ht, htracks, hkeeps⟩ := h.history
  refine ⟨h.day, history, ht, ?_, hkeeps⟩
  rw [usage?_record, if_neg hne]
  exact htracks

theorem grant {magnitude : Option Points} (hc : ledger.check policy key now magnitude = .ok ())
    (h : Accounted dayLength policy key times ledger now.val) :
    Accounted dayLength policy key (times ++ [now]) (ledger.record policy key now magnitude)
      now.val := by
  obtain ⟨history, ht, htracks, hkeeps⟩ := h.history
  rw [← h.day] at htracks hkeeps
  have hjudge := verdictOf_check magnitude
    (fun cap hcap => absurd hcap (Option.not_mem_none cap)) htracks hkeeps
  rw [check_timing hc] at hjudge
  refine ⟨h.day, history ++ [⟨now, magnitude⟩], ?_, ?_, ?_⟩
  · rw [List.map_append, ht]
    rfl
  · rw [← h.day]
    exact htracks.record magnitude
  · rw [← h.day]
    exact hkeeps.snoc htracks.past hjudge.symm

theorem withinLimits {cap : Amount} {cooldown : Tick}
    (h : Accounted dayLength policy key times ledger seen)
    (hcap : policy.dailyCap = some cap) (hcooldown : policy.cooldown = some cooldown) :
    WithinLimits dayLength cap.val cooldown.val times := by
  obtain ⟨history, ht, -, hkeeps⟩ := h.history
  have hwait : policy.timing.wait = cooldown.val := by
    simp only [Policy.wait, Policy.timing, hcooldown, Option.map_some, Option.getD_some]
  rw [← ht]
  refine ⟨fun day => ?_, ?_⟩
  · have hle := hkeeps.count_le cap hcap day
    rw [List.filter_map, List.length_map]
    exact hle
  · rw [List.pairwise_map, ← hwait]
    exact hkeeps.apart

end Accounted

end ReplyActions.Quota
