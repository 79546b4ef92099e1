import ReplyActions.Proofs.Quota.Refinement
import ReplyActions.Proofs.Quota.Sweeping

/-!
# The entries of a ledger

A ledger is used in any order, at times that may go back, and every grant may come with a policy of
its own. Whatever is done to it: an entry lies on the day of its last grant and counts at least one
grant on that day, its sums stand in order, and it lasts as the policy of its last grant says.
-/

namespace ReplyActions.Quota
open Number

structure Recording where
  policy : Policy
  request : Request
deriving DecidableEq

inductive Operation where
  | record (recording : Recording)
  | tryAcquire (recording : Recording)
  | sweep (now : Tick)
  | reset

namespace Ledger

def judgement (ledger : Ledger) (recording : Recording) : Except Denial Unit :=
  ledger.check recording.policy recording.request.key recording.request.now
    recording.request.magnitude

/-- The entry that a grant writes. -/
def written (ledger : Ledger) (recording : Recording) : Usage :=
  ledger.granted recording.policy (ledger.usage? recording.request.key) recording.request.now
    recording.request.magnitude

def put (ledger : Ledger) (recording : Recording) : Ledger :=
  ledger.record recording.policy recording.request.key recording.request.now
    recording.request.magnitude

def perform (ledger : Ledger) : Operation → Ledger
  | .record recording => ledger.put recording
  | .tryAcquire recording =>
    (ledger.tryAcquire recording.policy recording.request.key recording.request.now
      recording.request.magnitude).2
  | .sweep now => ledger.swept now
  | .reset => ledger.reset

def performAll (ledger : Ledger) (operations : List Operation) : Ledger :=
  operations.foldl perform ledger

/-- What an operation puts on record. -/
def recorded? (ledger : Ledger) : Operation → Option Recording
  | .record recording => some recording
  | .tryAcquire recording =>
    match ledger.judgement recording with
    | .ok () => some recording
    | .error _ => none
  | .sweep _ => none
  | .reset => none

/-- All that is put on record in a run, from the oldest to the newest. -/
def recordings (ledger : Ledger) : List Operation → List Recording
  | [] => []
  | operation :: rest =>
    (ledger.recorded? operation).toList ++ recordings (ledger.perform operation) rest

end Ledger

def lastFor? (key : Key) (recordings : List Recording) : Option Recording :=
  (recordings.filter fun recording => recording.request.key = key).getLast?

/-- Half of the time for which an entry lasts: the cooldown, or a day if there is none. -/
def Policy.span (policy : Policy) (dayLength : Nat) : Nat :=
  if policy.wait = 0 then dayLength else policy.wait

structure InBalance (positive net : Points) : Prop where
  nonneg : 0 ≤ positive.val
  net_le : net.val ≤ positive.val

/-- An entry as the last grant to its pair leaves it behind. -/
structure LeftBy (dayLength : Nat) (recording : Recording) (usage : Usage) : Prop where
  last : usage.lastInvoked = recording.request.now
  day : usage.day.val = usage.lastInvoked.val / dayLength
  counted : 1 ≤ usage.countToday.val
  balance : InBalance usage.positiveMagnitudeToday usage.netMagnitudeToday
  lasts : usage.retainFor.val = min (2 * recording.policy.span dayLength) 18446744073709551615

/-- Every entry is as the newest recording for its pair leaves it behind. -/
def Ledger.HoldsLast (ledger : Ledger) (recordings : List Recording) : Prop :=
  ∀ key usage, ledger.usage? key = some usage →
    ∃ recording, lastFor? key recordings = some recording ∧
      LeftBy ledger.dayLength.val recording usage

/-! ### The newest recording -/

theorem lastFor?_concat_self (recordings : List Recording) (recording : Recording) :
    lastFor? recording.request.key (recordings ++ [recording]) = some recording := by
  unfold lastFor?
  rw [List.filter_append, List.filter_cons_of_pos (by simp), List.filter_nil,
    List.getLast?_concat]

theorem lastFor?_concat_of_ne {key : Key} {recording : Recording}
    (h : recording.request.key ≠ key) (recordings : List Recording) :
    lastFor? key (recordings ++ [recording]) = lastFor? key recordings := by
  unfold lastFor?
  rw [List.filter_append, List.filter_cons_of_neg (by simpa using h), List.filter_nil,
    List.append_nil]

/-! ### One more grant -/

section

variable {positive net : Points}

theorem inBalance_zero : InBalance 0 0 := by
  constructor <;> decide

/-- Neither sum leaves its range at one end without the other keeping up with it. -/
theorem InBalance.add (h : InBalance positive net) (magnitude : Option Points) :
    InBalance (Ledger.addPositive positive magnitude) (Ledger.addNet net magnitude) := by
  have hnonneg := h.nonneg
  have hle := h.net_le
  cases magnitude with
  | none => exact h
  | some value =>
    unfold Ledger.addPositive Ledger.addNet
    dsimp only
    split
    · constructor
      · rw [Signed.val_plus]
        omega
      · rw [Signed.val_plus, Signed.val_plus]
        omega
    · refine ⟨hnonneg, ?_⟩
      rw [Signed.val_plus]
      omega

theorem inBalance_countersOn {usage : Option Usage}
    (h : ∀ entry, usage = some entry →
      InBalance entry.positiveMagnitudeToday entry.netMagnitudeToday) (day : Tick) :
    InBalance (Ledger.countersOn usage day).2.1 (Ledger.countersOn usage day).2.2 := by
  cases usage with
  | none => exact inBalance_zero
  | some entry =>
    simp only [Ledger.countersOn, Usage.positiveOn, Usage.netOn]
    split
    · exact h entry rfl
    · exact inBalance_zero

end

theorem val_retention (ledger : Ledger) (policy : Policy) :
    (ledger.retention policy).val =
      min (2 * policy.span ledger.dayLength.val) 18446744073709551615 := by
  unfold Ledger.retention Policy.span Policy.wait
  cases policy.cooldown with
  | none => rfl
  | some cooldown =>
    simp only [Option.map_some, Option.getD_some]
    by_cases h : 0 < cooldown.val
    · rw [if_pos h, if_neg (by omega), Unsigned.val_twice]
    · rw [if_neg h, if_pos (by omega), Unsigned.val_twice]

variable {ledger : Ledger} {key : Key} {usage : Usage} {recordings : List Recording}

theorem leftBy_written (recording : Recording)
    (h : ∀ entry, ledger.usage? recording.request.key = some entry →
      InBalance entry.positiveMagnitudeToday entry.netMagnitudeToday) :
    LeftBy ledger.dayLength.val recording (ledger.written recording) where
  last := rfl
  day := rfl
  counted := by
    have hone : (1 : Amount).val = 1 := rfl
    simp only [Ledger.written, Ledger.granted, Unsigned.val_plus, hone]
    omega
  balance := (inBalance_countersOn h (ledger.dayOf recording.request.now)).add _
  lasts := val_retention ledger recording.policy

/-! ### One operation -/

/-- How an entry can have come to be what it is after an operation: a recording for its pair has
written it, or it was there before and nothing has been recorded for its pair. -/
inductive Arises (ledger : Ledger) (operation : Operation) : Key → Usage → Prop
  | written (recording : Recording) (recorded : ledger.recorded? operation = some recording) :
    Arises ledger operation recording.request.key (ledger.written recording)
  | kept {key : Key} {usage : Usage} (before : ledger.usage? key = some usage)
    (others : ∀ recording, ledger.recorded? operation = some recording →
      recording.request.key ≠ key) :
    Arises ledger operation key usage

theorem arises_of_recorded {operation : Operation} {recording : Recording}
    (hsome : ledger.recorded? operation = some recording)
    (h : (ledger.put recording).usage? key = some usage) : Arises ledger operation key usage := by
  rw [Ledger.put, usage?_record] at h
  split at h
  · next hkey =>
    subst hkey
    rw [← Option.some.inj h]
    exact .written recording hsome
  · next hkey =>
    refine .kept h fun other hother => ?_
    obtain rfl := Option.some.inj (hsome.symm.trans hother)
    exact hkey

theorem arises_of_not_recorded {operation : Operation} (hnone : ledger.recorded? operation = none)
    (h : ledger.usage? key = some usage) : Arises ledger operation key usage := by
  refine .kept h fun other hother => ?_
  rw [hnone] at hother
  contradiction

theorem arises_perform {operation : Operation}
    (h : (ledger.perform operation).usage? key = some usage) :
    Arises ledger operation key usage := by
  cases operation with
  | record recording => exact arises_of_recorded rfl h
  | tryAcquire recording =>
    cases hc : ledger.judgement recording with
    | ok passed =>
      rw [Ledger.perform, Ledger.tryAcquire_ok hc] at h
      have hsome : ledger.recorded? (.tryAcquire recording) = some recording := by
        simp only [Ledger.recorded?, hc]
      exact arises_of_recorded hsome h
    | error denial =>
      rw [Ledger.perform, Ledger.tryAcquire_error hc] at h
      have hnone : ledger.recorded? (.tryAcquire recording) = none := by
        simp only [Ledger.recorded?, hc]
      exact arises_of_not_recorded hnone h
  | sweep now =>
    rw [Ledger.perform, usage?_swept, Option.filter_eq_some_iff] at h
    exact arises_of_not_recorded rfl h.1
  | reset => exact absurd h (Option.not_mem_none usage)

theorem dayLength_perform (ledger : Ledger) (operation : Operation) :
    (ledger.perform operation).dayLength = ledger.dayLength := by
  cases operation with
  | record recording => rfl
  | tryAcquire recording =>
    unfold Ledger.perform Ledger.tryAcquire
    dsimp only
    split <;> rfl
  | sweep now => rfl
  | reset => rfl

theorem Ledger.HoldsLast.balance (h : ledger.HoldsLast recordings)
    (hu : ledger.usage? key = some usage) :
    InBalance usage.positiveMagnitudeToday usage.netMagnitudeToday := by
  obtain ⟨recording, -, hleft⟩ := h key usage hu
  exact hleft.balance

theorem Ledger.HoldsLast.perform (h : ledger.HoldsLast recordings) (operation : Operation) :
    (ledger.perform operation).HoldsLast
      (recordings ++ (ledger.recorded? operation).toList) := by
  intro key usage hu
  rw [dayLength_perform]
  cases arises_perform hu with
  | written recording recorded =>
    refine ⟨recording, ?_, leftBy_written recording fun entry hentry => h.balance hentry⟩
    rw [recorded, Option.toList_some, lastFor?_concat_self]
  | kept before others =>
    obtain ⟨recording, hlast, hleft⟩ := h key usage before
    refine ⟨recording, ?_, hleft⟩
    rw [← hlast]
    cases hsome : ledger.recorded? operation with
    | none => rw [Option.toList_none, List.append_nil]
    | some newest => exact lastFor?_concat_of_ne (others newest hsome) recordings

/-! ### A whole run -/

theorem Ledger.HoldsLast.performAll (h : ledger.HoldsLast recordings)
    (operations : List Operation) :
    (ledger.performAll operations).HoldsLast
      (recordings ++ ledger.recordings operations) := by
  induction operations generalizing ledger recordings with
  | nil =>
    rw [Ledger.recordings, List.append_nil]
    exact h
  | cons operation rest ih =>
    rw [Ledger.recordings, ← List.append_assoc]
    exact ih (h.perform operation)

theorem holdsLast_empty (dayLength : Tick) (recordings : List Recording) :
    (Ledger.empty dayLength).HoldsLast recordings :=
  fun _ usage hu => absurd hu (Option.not_mem_none usage)

theorem dayLength_performAll (ledger : Ledger) (operations : List Operation) :
    (ledger.performAll operations).dayLength = ledger.dayLength := by
  induction operations generalizing ledger with
  | nil => rfl
  | cons operation rest ih =>
    apply (ih (ledger.perform operation)).trans
    exact dayLength_perform ledger operation

/-- In every ledger that can be reached, every entry is as the newest recording for its pair leaves
it behind, and of two sweeps at one time the second one removes nothing. -/
theorem entries_are_left_by_last_grant (dayLength : Tick) (operations : List Operation) :
    let ledger := (Ledger.empty dayLength).performAll operations
    (∀ key usage, ledger.usage? key = some usage →
        ∃ recording,
          lastFor? key ((Ledger.empty dayLength).recordings operations) = some recording ∧
            LeftBy (max dayLength.val 1) recording usage) ∧
      ∀ now, (ledger.swept now).swept now = ledger.swept now ∧
        (ledger.swept now).sweptCount now = 0 := by
  intro ledger
  have hday : ledger.dayLength.val = max dayLength.val 1 := by
    rw [dayLength_performAll]
    exact Unsigned.val_larger dayLength 1
  refine ⟨fun key usage hu => ?_, fun now => ⟨Ledger.swept_swept ledger now, ?_⟩⟩
  · rw [← hday]
    exact (holdsLast_empty dayLength []).performAll operations key usage hu
  · rw [Ledger.sweptCount, Ledger.swept_swept, Nat.sub_self]

/-- The time goes back, another policy comes, and a sweep is made in between: the entry is as the
grant at tick 10 leaves it behind, and the denied request and the grant at tick 30 do not show. -/
theorem entries_are_left_by_last_grant_back_in_time :
    let key : Key := ⟨"BOOST", "a"⟩
    let rare : Policy := ⟨some 5, none, none⟩
    let last : Recording := ⟨Policy.unlimited, ⟨key, 10, some (Signed.saturate (-9))⟩⟩
    let operations : List Operation :=
      [.tryAcquire ⟨rare, ⟨key, 30, some 7⟩⟩, .tryAcquire ⟨rare, ⟨key, 32, some 7⟩⟩, .record last,
        .sweep 40]
    ∃ usage, ((Ledger.empty 24).performAll operations).usage? key = some usage ∧
      LeftBy 24 last usage ∧ usage = ⟨10, 0, 1, 0, Signed.saturate (-9), 48⟩ := by
  intro key rare last operations
  have hu : ((Ledger.empty 24).performAll operations).usage? key =
      some ⟨10, 0, 1, 0, Signed.saturate (-9), 48⟩ := by decide +kernel
  obtain ⟨recording, hlast, hleft⟩ := (entries_are_left_by_last_grant 24 operations).1 key _ hu
  have hnewest : lastFor? key ((Ledger.empty 24).recordings operations) = some last := by
    decide +kernel
  obtain rfl := Option.some.inj (hnewest.symm.trans hlast)
  exact ⟨_, hu, hleft, rfl⟩

end ReplyActions.Quota
