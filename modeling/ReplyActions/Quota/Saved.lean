import ReplyActions.Datum.Fields
import ReplyActions.Json.Printer
import ReplyActions.Json.Reader
import ReplyActions.Quota.Ledger

/-!
# Saved ledgers

A ledger as a JSON document. The entries stand in ascending order of directive and agent; of two
entries for one pair, the later counts when a document is read.
-/

namespace ReplyActions.Quota
open Datum

namespace Policy

def toDatum (p : Policy) : Datum :=
  .record [("cooldown", ofOption ofUnsigned p.cooldown),
    ("daily_cap", ofOption ofUnsigned p.dailyCap),
    ("magnitude_cap", ofOption ofSigned p.magnitudeCap)]

def ofDatum? (surplus : Bool) (d : Datum) : Option Policy := do
  let f ← d.fields? surplus ["cooldown", "daily_cap", "magnitude_cap"]
  return ⟨← f.nullOrMissing "cooldown" toUnsigned?, ← f.nullOrMissing "daily_cap" toUnsigned?,
    ← f.nullOrMissing "magnitude_cap" toSigned?⟩

end Policy

namespace Usage

def toDatum (u : Usage) : Datum :=
  .record [("last_invoked", ofUnsigned u.lastInvoked), ("day", ofUnsigned u.day),
    ("count_today", ofUnsigned u.countToday),
    ("positive_magnitude_today", ofSigned u.positiveMagnitudeToday),
    ("net_magnitude_today", ofSigned u.netMagnitudeToday), ("retain_for", ofUnsigned u.retainFor)]

def ofDatum? (d : Datum) : Option Usage := do
  let f ← d.fields? false ["last_invoked", "day", "count_today", "positive_magnitude_today",
    "net_magnitude_today", "retain_for"]
  return ⟨← f.required "last_invoked" toUnsigned?, ← f.required "day" toUnsigned?,
    ← f.required "count_today" toUnsigned?, ← f.required "positive_magnitude_today" toSigned?,
    ← f.required "net_magnitude_today" toSigned?, ← f.required "retain_for" toUnsigned?⟩

end Usage

def entryToDatum (entry : Key × Usage) : Datum :=
  .record [("directive", .text entry.1.directive), ("agent", .text entry.1.agent),
    ("state", entry.2.toDatum)]

def entryOfDatum? (d : Datum) : Option (Key × Usage) := do
  let f ← d.fields? false ["directive", "agent", "state"]
  return (⟨← f.required "directive" toText?, ← f.required "agent" toText?⟩,
    ← f.required "state" Usage.ofDatum?)

namespace Ledger

def toDatum (ledger : Ledger) : Datum :=
  .record [("day_length", ofUnsigned ledger.dayLength), ("last_sweep", ofUnsigned ledger.lastSweep),
    ("entries", .list (ledger.entries.entries.map entryToDatum))]

def ofDatum? (d : Datum) : Option Ledger := do
  let f ← d.fields? false ["day_length", "last_sweep", "entries"]
  let dayLength ← f.required "day_length" toUnsigned?
  let lastSweep ← f.required "last_sweep" toUnsigned?
  let entries ← f.required "entries" (toList? entryOfDatum?)
  return ⟨dayAtLeastOne dayLength, one_le_dayAtLeastOne dayLength, lastSweep,
    SortedMap.ofList entries⟩

def saved (ledger : Ledger) : String := Json.pretty ledger.toDatum

def ofSaved? (text : String) : Option Ledger := (Json.read text).bind ofDatum?

end Ledger

end ReplyActions.Quota
