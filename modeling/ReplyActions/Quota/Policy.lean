import ReplyActions.Number.Bounded
import ReplyActions.Number.Decimal

/-!
# Quota policies

Three guards on how often and how strongly a directive can be used: a cooldown, a daily count and
a daily budget of positive magnitude. Each one can be left out.
-/

namespace ReplyActions.Quota
open Number

structure Policy where
  cooldown : Option Tick
  dailyCap : Option Amount
  /-- The greatest sum of positive magnitudes in a day. -/
  magnitudeCap : Option Points
deriving DecidableEq

namespace Policy

def unlimited : Policy := ⟨none, none, none⟩

/-- The policy with the guards that `overrides` sets put in place of its own. -/
def merged (policy overrides : Policy) : Policy :=
  ⟨overrides.cooldown.or policy.cooldown, overrides.dailyCap.or policy.dailyCap,
    overrides.magnitudeCap.or policy.magnitudeCap⟩

def isLimited (policy : Policy) : Bool :=
  policy.cooldown.isSome || policy.dailyCap.isSome || policy.magnitudeCap.isSome

end Policy

inductive Denial where
  | cooldown (remaining : Tick)
  | dailyCap (cap : Amount)
  | magnitudeCap (cap accumulated requested : Points)
deriving DecidableEq

def Denial.message : Denial → String
  | cooldown remaining => "cooldown: " ++ natText remaining.val ++ " tick(s) remaining"
  | dailyCap cap => "daily cap of " ++ natText cap.val ++ " reached"
  | magnitudeCap cap accumulated requested =>
    "magnitude cap: " ++ intText accumulated.val ++ " + " ++ intText requested.val ++
      " exceeds " ++ intText cap.val

end ReplyActions.Quota
