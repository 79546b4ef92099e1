/-!
# Bounded numbers

Counts, ticks and points have a least and a greatest value. An operation that would leave the
range stops at its end; a number read from outside is refused unless it lies inside.
-/

namespace ReplyActions.Number

/-- A natural number of at most `max`. -/
structure Unsigned (max : Nat) where
  val : Nat
  val_le : val ≤ max
deriving DecidableEq

/-- An integer from `-max - 1` to `max`. -/
structure Signed (max : Nat) where
  val : Int
  le_val : -(max : Int) - 1 ≤ val
  val_le : val ≤ max
deriving DecidableEq

namespace Unsigned

variable {max : Nat}

/-- The number, or the greatest one if it is too large. -/
def saturate (n : Nat) : Unsigned max := ⟨min n max, Nat.min_le_right n max⟩

instance (n : Nat) : OfNat (Unsigned max) n := ⟨saturate n⟩

instance : Inhabited (Unsigned max) := ⟨0⟩

def ofInt? (i : Int) : Option (Unsigned max) :=
  if h : 0 ≤ i ∧ i ≤ max then some ⟨i.toNat, by omega⟩ else none

def plus (a b : Unsigned max) : Unsigned max := saturate (a.val + b.val)

def twice (a : Unsigned max) : Unsigned max := saturate (2 * a.val)

/-- The difference, at least zero. -/
def minus (a b : Unsigned max) : Unsigned max :=
  ⟨a.val - b.val, Nat.le_trans (Nat.sub_le a.val b.val) a.val_le⟩

def larger (a b : Unsigned max) : Unsigned max := if a.val ≤ b.val then b else a

theorem ext_val {a b : Unsigned max} (h : a.val = b.val) : a = b := by
  cases a
  cases b
  simp only at h
  subst h
  rfl

@[simp] theorem val_saturate (n : Nat) : (saturate n : Unsigned max).val = min n max := rfl

@[simp] theorem val_plus (a b : Unsigned max) : (a.plus b).val = min (a.val + b.val) max := rfl

@[simp] theorem val_twice (a : Unsigned max) : a.twice.val = min (2 * a.val) max := rfl

@[simp] theorem val_minus (a b : Unsigned max) : (a.minus b).val = a.val - b.val := rfl

@[simp] theorem val_larger (a b : Unsigned max) : (a.larger b).val = Nat.max a.val b.val := by
  simp only [larger, Nat.max_def]
  split <;> rfl

theorem val_of_ofInt? {i : Int} {a : Unsigned max} (h : ofInt? i = some a) : (a.val : Int) = i := by
  simp only [ofInt?] at h
  split at h
  · injection h with h
    subst h
    simp only
    omega
  · contradiction

theorem ofInt?_val (a : Unsigned max) : ofInt? (a.val : Int) = some a := by
  have h := a.val_le
  simp only [ofInt?]
  split
  · rfl
  · omega

end Unsigned

namespace Signed

variable {max : Nat}

/-- The number, or the nearer end of the range if it lies outside. -/
def saturate (i : Int) : Signed max :=
  ⟨Max.max (-(max : Int) - 1) (min i max), by omega, by omega⟩

instance (n : Nat) : OfNat (Signed max) n := ⟨saturate n⟩

instance : Inhabited (Signed max) := ⟨0⟩

def ofInt? (i : Int) : Option (Signed max) :=
  if h : -(max : Int) - 1 ≤ i ∧ i ≤ max then some ⟨i, h.1, h.2⟩ else none

def plus (a b : Signed max) : Signed max := saturate (a.val + b.val)

/-- The difference, stopped at the ends of the range. -/
def minus (a b : Signed max) : Signed max := saturate (a.val - b.val)

/-- The number moved into the interval from `low` to `high`. -/
def within (low high : Int) (a : Signed max) : Signed max :=
  saturate (Max.max low (min a.val high))

theorem ext_val {a b : Signed max} (h : a.val = b.val) : a = b := by
  cases a
  cases b
  simp only at h
  subst h
  rfl

@[simp] theorem val_saturate (i : Int) :
    (saturate i : Signed max).val = Max.max (-(max : Int) - 1) (min i max) := rfl

@[simp] theorem val_plus (a b : Signed max) :
    (a.plus b).val = Max.max (-(max : Int) - 1) (min (a.val + b.val) max) := rfl

@[simp] theorem val_minus (a b : Signed max) :
    (a.minus b).val = Max.max (-(max : Int) - 1) (min (a.val - b.val) max) := rfl

theorem val_of_ofInt? {i : Int} {a : Signed max} (h : ofInt? i = some a) : a.val = i := by
  simp only [ofInt?] at h
  split at h
  · injection h with h
    subst h
    rfl
  · contradiction

theorem ofInt?_val (a : Signed max) : ofInt? a.val = some a := by
  simp only [ofInt?, a.le_val, a.val_le, and_self, dite_true]

end Signed

/-! ### The ranges in use -/

/-- Game time and spans of it. -/
abbrev Tick := Unsigned 18446744073709551615

abbrev Size := Unsigned 18446744073709551615

abbrev Amount := Unsigned 4294967295

/-- Small grades such as skill levels, severities and work priorities. -/
abbrev Grade := Unsigned 255

/-- Magnitudes, mood offsets, opinions, need levels and scores. -/
abbrev Points := Signed 2147483647

/-- The integers that a parameter can hold. -/
abbrev Whole := Signed 9223372036854775807

end ReplyActions.Number
