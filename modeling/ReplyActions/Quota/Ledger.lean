import ReplyActions.Quota.Policy
import ReplyActions.SortedMap

/-!
# The quota ledger

What has been granted so far, for every pair of a directive and an agent: when the last grant was,
and how many grants and how much magnitude fall into its day. Counters of another day read as
zero. Idle entries are swept away in the course of time.
-/

namespace ReplyActions.Quota
open Number

structure Key where
  directive : String
  agent : String
deriving DecidableEq

/-- Pairs are ordered by directive, then by agent. -/
instance : Ord Key := ⟨compareLex (compareOn Key.directive) (compareOn Key.agent)⟩

instance : Std.TransOrd Key :=
  inferInstanceAs (Std.TransCmp (compareLex (compareOn Key.directive) (compareOn Key.agent)))

instance : Std.LawfulEqOrd Key where
  eq_of_compare {a b} h := by
    have h : (compare a.directive b.directive).then (compare a.agent b.agent) = .eq := h
    obtain ⟨hd, ha⟩ := Ordering.then_eq_eq.mp h
    have hd := Std.LawfulEqOrd.eq_of_compare hd
    have ha := Std.LawfulEqOrd.eq_of_compare ha
    cases a
    cases b
    simp only at hd ha
    rw [hd, ha]

structure Usage where
  lastInvoked : Tick
  /-- The day that the counters belong to. -/
  day : Tick
  countToday : Amount
  /-- The sum of the positive magnitudes granted on that day. -/
  positiveMagnitudeToday : Points
  /-- The sum of all magnitudes granted on that day. -/
  netMagnitudeToday : Points
  /-- How long after the last grant the entry survives a sweep. -/
  retainFor : Tick
deriving DecidableEq

structure Ledger where
  dayLength : Tick
  dayLength_pos : 1 ≤ dayLength.val
  lastSweep : Tick
  entries : SortedMap Key Usage
deriving DecidableEq

def dayAtLeastOne (length : Tick) : Tick := length.larger 1

theorem one_le_dayAtLeastOne (length : Tick) : 1 ≤ (dayAtLeastOne length).val := by
  rw [dayAtLeastOne, Unsigned.val_larger]
  exact Nat.le_max_right length.val 1

namespace Usage

def countOn (usage : Usage) (day : Tick) : Amount :=
  if usage.day = day then usage.countToday else 0

def positiveOn (usage : Usage) (day : Tick) : Points :=
  if usage.day = day then usage.positiveMagnitudeToday else 0

def netOn (usage : Usage) (day : Tick) : Points :=
  if usage.day = day then usage.netMagnitudeToday else 0

end Usage

namespace Ledger

def empty (dayLength : Tick) : Ledger :=
  ⟨dayAtLeastOne dayLength, one_le_dayAtLeastOne dayLength, 0, .empty⟩

instance : Inhabited Ledger := ⟨empty 1⟩

/-- The day that a tick falls into. -/
def dayOf (ledger : Ledger) (tick : Tick) : Tick :=
  ⟨tick.val / ledger.dayLength.val,
    Nat.le_trans (Nat.div_le_self tick.val ledger.dayLength.val) tick.val_le⟩

def size (ledger : Ledger) : Nat := ledger.entries.size

def isEmpty (ledger : Ledger) : Bool := ledger.entries.isEmpty

def usage? (ledger : Ledger) (key : Key) : Option Usage := ledger.entries.get? key

/-! ### Guards -/

/-- The cooldown has passed since the last grant. -/
def checkCooldown (policy : Policy) (usage : Usage) (now : Tick) : Except Denial Unit :=
  match policy.cooldown with
  | some cooldown =>
    let elapsed := now.minus usage.lastInvoked
    if elapsed.val < cooldown.val then .error (.cooldown (cooldown.minus elapsed)) else .ok ()
  | none => .ok ()

/-- The day's count leaves room for one more grant. -/
def checkCount (policy : Policy) (count : Amount) : Except Denial Unit :=
  match policy.dailyCap with
  | some cap => if cap.val ≤ count.val then .error (.dailyCap cap) else .ok ()
  | none => .ok ()

/-- The day's budget leaves room for the magnitude. One that is not positive needs none. -/
def checkMagnitude (policy : Policy) (accumulated : Points) (magnitude : Option Points) :
    Except Denial Unit :=
  match policy.magnitudeCap, magnitude with
  | some cap, some requested =>
    if 0 < requested.val ∧ cap.val < (accumulated.plus requested).val then
      .error (.magnitudeCap cap accumulated requested)
    else .ok ()
  | _, _ => .ok ()

/-- The three guards in order, for a pair that is on record or not. Nothing is recorded. -/
def check (ledger : Ledger) (policy : Policy) (key : Key) (now : Tick)
    (magnitude : Option Points) : Except Denial Unit :=
  match ledger.usage? key with
  -- a pair without a grant has no cooldown to wait for
  | none => do
    checkCount policy 0
    checkMagnitude policy 0 magnitude
  | some usage => do
    checkCooldown policy usage now
    checkCount policy (usage.countOn (ledger.dayOf now))
    checkMagnitude policy (usage.positiveOn (ledger.dayOf now)) magnitude

/-! ### Grants -/

/-- How long an entry survives its last grant: twice the cooldown, or two days without one. -/
def retention (ledger : Ledger) (policy : Policy) : Tick :=
  match policy.cooldown with
  | some cooldown => if 0 < cooldown.val then cooldown.twice else ledger.dayLength.twice
  | none => ledger.dayLength.twice

def addPositive (sum : Points) (magnitude : Option Points) : Points :=
  match magnitude with
  | some value => if 0 < value.val then sum.plus value else sum
  | none => sum

def addNet (sum : Points) (magnitude : Option Points) : Points :=
  match magnitude with
  | some value => sum.plus value
  | none => sum

/-- The counters of a pair on a day; zero for a pair that is not on record. -/
def countersOn (usage : Option Usage) (day : Tick) : Amount × Points × Points :=
  match usage with
  | some usage => (usage.countOn day, usage.positiveOn day, usage.netOn day)
  | none => (0, 0, 0)

def granted (ledger : Ledger) (policy : Policy) (usage : Option Usage) (now : Tick)
    (magnitude : Option Points) : Usage :=
  let day := ledger.dayOf now
  let (count, positive, net) := countersOn usage day
  ⟨now, day, count.plus 1, addPositive positive magnitude, addNet net magnitude,
    ledger.retention policy⟩

def record (ledger : Ledger) (policy : Policy) (key : Key) (now : Tick)
    (magnitude : Option Points) : Ledger :=
  { ledger with
    entries := ledger.entries.insert key
      (ledger.granted policy (ledger.usage? key) now magnitude) }

/-- Checks a request and, if it is granted, records it. -/
def tryAcquire (ledger : Ledger) (policy : Policy) (key : Key) (now : Tick)
    (magnitude : Option Points) : Except Denial Unit × Ledger :=
  match ledger.check policy key now magnitude with
  | .ok () => (.ok (), ledger.record policy key now magnitude)
  | .error denial => (.error denial, ledger)

/-! ### Sweeping -/

/-- An entry survives a sweep while its retention lasts or its day does. -/
def survives (ledger : Ledger) (now : Tick) (usage : Usage) : Bool :=
  (now.minus usage.lastInvoked).val ≤ usage.retainFor.val || usage.day = ledger.dayOf now

def swept (ledger : Ledger) (now : Tick) : Ledger :=
  { ledger with
    lastSweep := now
    entries := ledger.entries.filter fun _ usage => ledger.survives now usage }

def sweptCount (ledger : Ledger) (now : Tick) : Nat := ledger.size - (ledger.swept now).size

def reset (ledger : Ledger) : Ledger := { ledger with lastSweep := 0, entries := .empty }

end Ledger

end ReplyActions.Quota
