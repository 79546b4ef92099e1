import ReplyActions.Number.Bounded

/-!
# Magnitudes and durations

How strong an effect may be, and how long one of a given strength lasts.
-/

namespace ReplyActions
open Number

/-- The greatest absolute value that a limit allows. -/
def magnitudeBound (limit : Points) : Nat := min limit.val.natAbs 2147483647

/-- The value moved into the interval from `-limit` to `limit`. -/
def clampMagnitude (value : Whole) (limit : Points) : Points :=
  let bound : Int := magnitudeBound limit
  Signed.saturate (max (-bound) (min value.val bound))

/-- How long effects last: three spans, and the strengths from which the longer two apply. -/
structure Durations where
  longAt : Points
  mediumAt : Points
  long : Tick
  medium : Tick
  short : Tick
deriving DecidableEq

namespace Durations

def standard : Durations := ⟨20, 10, 72, 48, 24⟩

/-- How long an effect of the given magnitude lasts. Signs do not matter, neither of the magnitude
nor of the strengths that it is compared with. -/
def durationOf (d : Durations) (magnitude : Points) : Tick :=
  if d.longAt.val.natAbs ≤ magnitude.val.natAbs then d.long
  else if d.mediumAt.val.natAbs ≤ magnitude.val.natAbs then d.medium
  else d.short

end Durations

end ReplyActions
