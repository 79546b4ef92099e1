import ReplyActions.Quota.Ledger

/-!
# Grants without forgetting

The guards of a policy, said on the complete list of the grants to one pair, from the oldest to the
newest. Nothing is ever dropped from the list, and all sums are exact.
-/

namespace ReplyActions.Quota
open Number

structure Grant where
  tick : Tick
  magnitude : Option Points
deriving DecidableEq

/-- What a request is told, in exact numbers. -/
inductive Verdict where
  | granted
  | cooldown (remaining : Nat)
  | dailyCap (cap : Nat)
  | magnitudeCap (cap accumulated requested : Int)
deriving DecidableEq

def verdictOf : Except Denial Unit → Verdict
  | .ok () => .granted
  | .error (.cooldown remaining) => .cooldown remaining.val
  | .error (.dailyCap cap) => .dailyCap cap.val
  | .error (.magnitudeCap cap accumulated requested) =>
    .magnitudeCap cap.val accumulated.val requested.val

/-- The least distance between two grants; zero if there is no cooldown. -/
def Policy.wait (policy : Policy) : Nat := (policy.cooldown.map (·.val)).getD 0

/-- The magnitude of a request, as far as it is positive. -/
def positivePart (magnitude : Option Points) : Int :=
  match magnitude with
  | some value => max value.val 0
  | none => 0

def onDay (dayLength day : Nat) (history : List Grant) : List Grant :=
  history.filter fun grant => grant.tick.val / dayLength = day

def countOnDay (dayLength day : Nat) (history : List Grant) : Nat :=
  (onDay dayLength day history).length

/-- The exact sum of the positive magnitudes granted on a day. -/
def positiveOnDay (dayLength day : Nat) (history : List Grant) : Int :=
  (onDay dayLength day history).foldl (fun sum grant => sum + positivePart grant.magnitude) 0

def sinceLast (history : List Grant) (now : Tick) : Nat :=
  match history.getLast? with
  | some last => now.val - last.tick.val
  | none => now.val

def judgeMagnitude (policy : Policy) (accumulated : Int) (magnitude : Option Points) : Verdict :=
  match policy.magnitudeCap, magnitude with
  | some cap, some requested =>
    if 0 < requested.val ∧ cap.val < accumulated + requested.val then
      .magnitudeCap cap.val accumulated requested.val
    else .granted
  | _, _ => .granted

def judgeDay (dayLength : Nat) (policy : Policy) (history : List Grant) (now : Tick)
    (magnitude : Option Points) : Verdict :=
  let day := now.val / dayLength
  match policy.dailyCap with
  | some cap =>
    if cap.val ≤ countOnDay dayLength day history then .dailyCap cap.val
    else judgeMagnitude policy (positiveOnDay dayLength day history) magnitude
  | none => judgeMagnitude policy (positiveOnDay dayLength day history) magnitude

def judge (dayLength : Nat) (policy : Policy) (history : List Grant) (now : Tick)
    (magnitude : Option Points) : Verdict :=
  if ∃ grant ∈ history, now.val - grant.tick.val < policy.wait then
    .cooldown (policy.wait - sinceLast history now)
  else judgeDay dayLength policy history now magnitude

/-- The limits of a policy, kept by a list of grants. -/
structure Keeps (dayLength : Nat) (policy : Policy) (history : List Grant) : Prop where
  count_le : ∀ cap, policy.dailyCap = some cap → ∀ day,
    countOnDay dayLength day history ≤ cap.val
  positive_le : ∀ cap, policy.magnitudeCap = some cap → ∀ day,
    positiveOnDay dayLength day history ≤ max cap.val 0
  apart : history.Pairwise fun earlier later =>
    earlier.tick.val + policy.wait ≤ later.tick.val

/-! ### Sums over one more grant -/

theorem positivePart_nonneg (magnitude : Option Points) : 0 ≤ positivePart magnitude := by
  cases magnitude with
  | none => exact Int.le_refl 0
  | some value => exact Int.le_max_right value.val 0

variable (dayLength day : Nat) (history : List Grant) (grant : Grant)

theorem countOnDay_snoc :
    countOnDay dayLength day (history ++ [grant]) =
      countOnDay dayLength day history + if grant.tick.val / dayLength = day then 1 else 0 := by
  simp only [countOnDay, onDay, List.filter_append, List.length_append]
  by_cases h : grant.tick.val / dayLength = day <;> simp [h]

theorem positiveOnDay_snoc :
    positiveOnDay dayLength day (history ++ [grant]) =
      positiveOnDay dayLength day history +
        if grant.tick.val / dayLength = day then positivePart grant.magnitude else 0 := by
  simp only [positiveOnDay, onDay, List.filter_append, List.foldl_append]
  by_cases h : grant.tick.val / dayLength = day <;> simp [h]

theorem positiveOnDay_nonneg : 0 ≤ positiveOnDay dayLength day history := by
  have hsum : ∀ (grants : List Grant) (sum : Int), 0 ≤ sum →
      0 ≤ grants.foldl (fun sum grant => sum + positivePart grant.magnitude) sum := by
    intro grants
    induction grants with
    | nil => exact fun sum hs => hs
    | cons grant rest ih =>
      intro sum hs
      have hp := positivePart_nonneg grant.magnitude
      have hnext : 0 ≤ sum + positivePart grant.magnitude := by omega
      exact ih _ hnext
  exact hsum _ 0 (Int.le_refl 0)

variable {dayLength day history}

theorem onDay_eq_nil (h : ∀ grant ∈ history, grant.tick.val / dayLength ≠ day) :
    onDay dayLength day history = [] := by
  rw [onDay, List.filter_eq_nil_iff]
  intro grant hg
  simp [h grant hg]

theorem countOnDay_eq_zero (h : ∀ grant ∈ history, grant.tick.val / dayLength ≠ day) :
    countOnDay dayLength day history = 0 := by
  rw [countOnDay, onDay_eq_nil h, List.length_nil]

theorem positiveOnDay_eq_zero (h : ∀ grant ∈ history, grant.tick.val / dayLength ≠ day) :
    positiveOnDay dayLength day history = 0 := by
  rw [positiveOnDay, onDay_eq_nil h, List.foldl_nil]

/-! ### Verdicts and limits -/

/-- Verdicts tell answers apart. -/
theorem verdictOf_injective : Function.Injective verdictOf := by
  intro a b h
  rcases a with (_ | _ | _) | _ <;> rcases b with (_ | _ | _) | _ <;>
    simp only [verdictOf, reduceCtorEq] at h
  · rw [Unsigned.ext_val (Verdict.cooldown.inj h)]
  · rw [Unsigned.ext_val (Verdict.dailyCap.inj h)]
  · obtain ⟨hc, ha, hr⟩ := Verdict.magnitudeCap.inj h
    rw [Signed.ext_val hc, Signed.ext_val ha, Signed.ext_val hr]
  · rfl

variable {policy : Policy} {now : Tick} {magnitude : Option Points}

theorem judgeMagnitude_granted {accumulated : Int}
    (h : judgeMagnitude policy accumulated magnitude = .granted) :
    ∀ cap, policy.magnitudeCap = some cap → 0 < positivePart magnitude →
      accumulated + positivePart magnitude ≤ cap.val := by
  intro cap hcap hpos
  cases magnitude with
  | none => exact absurd hpos (Int.lt_irrefl 0)
  | some value =>
    simp only [judgeMagnitude, hcap] at h
    split at h
    · contradiction
    · simp only [positivePart] at hpos ⊢
      omega

theorem judgeDay_granted (h : judgeDay dayLength policy history now magnitude = .granted) :
    (∀ cap, policy.dailyCap = some cap →
      countOnDay dayLength (now.val / dayLength) history < cap.val) ∧
    judgeMagnitude policy (positiveOnDay dayLength (now.val / dayLength) history) magnitude =
      .granted := by
  simp only [judgeDay] at h
  split at h
  · next cap hcap =>
    split at h
    · contradiction
    · next hlt =>
      refine ⟨fun cap' hcap' => ?_, h⟩
      rw [hcap] at hcap'
      injection hcap' with hcap'
      subst hcap'
      exact Nat.lt_of_not_le hlt
  · next hnone =>
    refine ⟨fun cap hcap => ?_, h⟩
    rw [hnone] at hcap
    contradiction

theorem judge_granted (h : judge dayLength policy history now magnitude = .granted) :
    (∀ grant ∈ history, policy.wait ≤ now.val - grant.tick.val) ∧
      judgeDay dayLength policy history now magnitude = .granted := by
  simp only [judge] at h
  split at h
  · contradiction
  · next hwait =>
    exact ⟨fun grant hg => Nat.le_of_not_lt fun hlt => hwait ⟨grant, hg, hlt⟩, h⟩

theorem keeps_nil : Keeps dayLength policy [] where
  count_le _ _ _ := Nat.zero_le _
  positive_le cap _ _ := Int.le_max_right cap.val 0
  apart := List.Pairwise.nil

theorem Keeps.snoc (hk : Keeps dayLength policy history)
    (hnow : ∀ grant ∈ history, grant.tick.val ≤ now.val)
    (h : judge dayLength policy history now magnitude = .granted) :
    Keeps dayLength policy (history ++ [⟨now, magnitude⟩]) := by
  obtain ⟨hwait, hday⟩ := judge_granted h
  obtain ⟨hcount, hmagnitude⟩ := judgeDay_granted hday
  refine ⟨fun cap hcap day => ?_, fun cap hcap day => ?_, ?_⟩
  · rw [countOnDay_snoc]
    split
    · next hd => exact hd ▸ hcount cap hcap
    · exact hk.count_le cap hcap day
  · rw [positiveOnDay_snoc]
    have hle := hk.positive_le cap hcap day
    split
    · next hd =>
      by_cases hpos : 0 < positivePart magnitude
      · have hsum := judgeMagnitude_granted hmagnitude cap hcap hpos
        rw [hd] at hsum
        exact Int.le_trans hsum (Int.le_max_left ..)
      · have hnonneg := positivePart_nonneg magnitude
        simp only
        omega
    · rwa [Int.add_zero]
  · rw [List.pairwise_append]
    refine ⟨hk.apart, List.pairwise_singleton .., ?_⟩
    intro grant hg last hl
    rw [List.mem_singleton] at hl
    subst hl
    have hw := hwait grant hg
    have hn := hnow grant hg
    simp only
    omega

end ReplyActions.Quota
