import ReplyActions.Magnitude
import ReplyActions.Quota.Policy
import ReplyActions.Registry
import ReplyActions.Token.Invocation

/-!
# Settings

The settings of a dispatcher: how much is advertised, how time is cut into days, how texts and
magnitudes are limited, which directives are switched off, and which quotas are changed.
-/

namespace ReplyActions
open Number

/-- Limits that directives apply to texts and magnitudes. -/
structure EffectSettings where
  maxTextLength : Size
  magnitudeLimit : Points
  durations : Durations
deriving DecidableEq

def EffectSettings.standard : EffectSettings := ⟨80, 20, Durations.standard⟩

structure Config where
  /-- The number of directives advertised in a category. -/
  perCategoryLimit : Size
  dayLength : Tick
  /-- The least number of ticks between two sweeps of the ledger. -/
  sweepInterval : Tick
  effects : EffectSettings
  /-- The directives that are switched off, by canonical identifier. -/
  disabled : Registry Unit
  quotas : Registry Quota.Policy

inductive ConfigError where
  | noRoomInCategory
  | emptyDay
  /-- A text length that leaves no room for an ellipsis. -/
  | shortTexts
  | noMagnitude
  /-- A medium effect stronger than a long one. -/
  | tiersOutOfOrder
deriving DecidableEq

def ConfigError.message : ConfigError → String
  | noRoomInCategory => "ranking.per_category_limit must be at least 1"
  | emptyDay => "time.day_length must be at least 1 tick"
  | shortTexts => "sanitize.max_text_len must leave room for an ellipsis"
  | noMagnitude => "sanitize.magnitude_limit must be positive"
  | tiersOutOfOrder => "invalid duration tiers: medium_at > long_at"

namespace Config

def standard : Config := ⟨8, 24, 24, EffectSettings.standard, .empty, .empty⟩

instance : Inhabited Config := ⟨standard⟩

def fault? (c : Config) : Option ConfigError :=
  if c.perCategoryLimit.val = 0 then some .noRoomInCategory
  else if c.dayLength.val = 0 then some .emptyDay
  else if c.effects.maxTextLength.val < 4 then some .shortTexts
  else if c.effects.magnitudeLimit.val ≤ 0 then some .noMagnitude
  else if c.effects.durations.longAt.val < c.effects.durations.mediumAt.val then
    some .tiersOutOfOrder
  else none

def isDisabled (c : Config) (id : String) : Bool := (c.disabled.get? (canonicalId id)).isSome

/-- The quota of a directive: its own policy with the guards that the settings change. A policy
without guards counts as none. -/
def quotaFor (c : Config) (id : String) (own : Option Quota.Policy) : Option Quota.Policy :=
  let policy := match own, c.quotas.get? (canonicalId id) with
    | some policy, some overrides => some (policy.merged overrides)
    | none, some overrides => some (Quota.Policy.unlimited.merged overrides)
    | policy, none => policy
  policy.filter Quota.Policy.isLimited

end Config

end ReplyActions
