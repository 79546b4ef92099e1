import ReplyActions.Datum.Fields
import ReplyActions.Quota.Saved
import ReplyActions.Settings.Config
import ReplyActions.Toml.Reader

/-!
# Settings in a document

Settings are written as a TOML document. What is not said in it has its usual value; what is said
has to make sense.
-/

namespace ReplyActions
open Datum

def Durations.ofDatum? (surplus : Bool) (d : Datum) : Option Durations := do
  let f ← d.fields? surplus ["long_at", "medium_at", "long", "medium", "short"]
  let usual := Durations.standard
  return {
    longAt := ← f.withDefault "long_at" usual.longAt toSigned?
    mediumAt := ← f.withDefault "medium_at" usual.mediumAt toSigned?
    long := ← f.withDefault "long" usual.long toUnsigned?
    medium := ← f.withDefault "medium" usual.medium toUnsigned?
    short := ← f.withDefault "short" usual.short toUnsigned? }

def Durations.toDatum (d : Durations) : Datum :=
  .record [("long_at", ofSigned d.longAt), ("medium_at", ofSigned d.mediumAt),
    ("long", ofUnsigned d.long), ("medium", ofUnsigned d.medium), ("short", ofUnsigned d.short)]

def EffectSettings.ofDatum? (surplus : Bool) (d : Datum) : Option EffectSettings := do
  let f ← d.fields? surplus ["max_text_len", "magnitude_limit", "duration_tiers"]
  let usual := EffectSettings.standard
  return {
    maxTextLength := ← f.withDefault "max_text_len" usual.maxTextLength toUnsigned?
    magnitudeLimit := ← f.withDefault "magnitude_limit" usual.magnitudeLimit toSigned?
    durations := ← f.withDefault "duration_tiers" usual.durations (Durations.ofDatum? surplus) }

namespace Config

def rankingOfDatum? (d : Datum) : Option Number.Size := do
  let f ← d.fields? true ["per_category_limit"]
  f.withDefault "per_category_limit" standard.perCategoryLimit toUnsigned?

def timeOfDatum? (d : Datum) : Option (Number.Tick × Number.Tick) := do
  let f ← d.fields? true ["day_length", "sweep_interval"]
  let dayLength ← f.withDefault "day_length" standard.dayLength toUnsigned?
  let sweepInterval ← f.withDefault "sweep_interval" standard.sweepInterval toUnsigned?
  return (dayLength, sweepInterval)

/-- The settings that a document describes, whether or not they make sense. -/
def ofDatum? (d : Datum) : Option Config := do
  let f ← d.fields? true ["ranking", "time", "sanitize", "disabled", "quota"]
  let perCategoryLimit ← f.withDefault "ranking" standard.perCategoryLimit rankingOfDatum?
  let (dayLength, sweepInterval) ←
    f.withDefault "time" (standard.dayLength, standard.sweepInterval) timeOfDatum?
  let effects ← f.withDefault "sanitize" standard.effects (EffectSettings.ofDatum? true)
  let disabled ← f.withDefault "disabled" [] (toList? toText?)
  let quotas ← f.withDefault "quota" [] (toEntries? (Quota.Policy.ofDatum? true))
  return {
    perCategoryLimit, dayLength, sweepInterval, effects
    disabled := .ofList (disabled.map fun id => (canonicalId id, ()))
    quotas := .ofList (quotas.map fun (id, policy) => (canonicalId id, policy)) }

end Config

inductive SettingsError where
  | unreadable
  | fault (error : ConfigError)
deriving DecidableEq

namespace Config

/-- Settings that have been read, if they make sense. -/
def checked (config : Config) : Except SettingsError Config :=
  match config.fault? with
  | some error => .error (.fault error)
  | none => .ok config

def ofDocument (text : String) : Except SettingsError Config :=
  match (Toml.read text).bind ofDatum? with
  | none => .error .unreadable
  | some config => config.checked

end Config

end ReplyActions
