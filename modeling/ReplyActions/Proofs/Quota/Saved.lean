import ReplyActions.Proofs.Datum.Fields
import ReplyActions.Proofs.Json.RoundTrip
import ReplyActions.Quota.Saved

/-!
# Saved ledgers lose nothing

The document of a ledger is correct JSON, whatever the identifiers and the counters are, and the
ledger that is read from it is the one that was saved.
-/

namespace ReplyActions.Quota
open Datum

/-! ### Entries -/

theorem Usage.ofDatum?_toDatum (u : Usage) : Usage.ofDatum? u.toDatum = some u := by
  have hfields : Usage.ofDatum? u.toDatum = (do
      return ⟨← toUnsigned? (ofUnsigned u.lastInvoked), ← toUnsigned? (ofUnsigned u.day),
        ← toUnsigned? (ofUnsigned u.countToday), ← toSigned? (ofSigned u.positiveMagnitudeToday),
        ← toSigned? (ofSigned u.netMagnitudeToday), ← toUnsigned? (ofUnsigned u.retainFor)⟩) := rfl
  simp only [hfields, toUnsigned?_ofUnsigned, toSigned?_ofSigned]
  rfl

theorem Usage.isPlain_toDatum (u : Usage) : u.toDatum.IsPlain := by
  simp only [toDatum, isPlain_record, List.forall_mem_cons]
  exact ⟨isPlain_tick _, isPlain_tick _, isPlain_amount _, isPlain_points _, isPlain_points _,
    isPlain_tick _, fun _ h => absurd h List.not_mem_nil⟩

theorem entryOfDatum?_entryToDatum (entry : Key × Usage) :
    entryOfDatum? (entryToDatum entry) = some entry := by
  have hfields : entryOfDatum? (entryToDatum entry) = (do
      return (⟨entry.1.directive, entry.1.agent⟩, ← Usage.ofDatum? entry.2.toDatum)) := rfl
  simp only [hfields, Usage.ofDatum?_toDatum]
  rfl

theorem isPlain_entryToDatum (entry : Key × Usage) : (entryToDatum entry).IsPlain := by
  simp only [entryToDatum, isPlain_record, List.forall_mem_cons]
  exact ⟨trivial, trivial, entry.2.isPlain_toDatum, fun _ h => absurd h List.not_mem_nil⟩

/-! ### Ledgers -/

namespace Ledger

theorem ofDatum?_toDatum (ledger : Ledger) : ofDatum? ledger.toDatum = some ledger := by
  have hfields : ofDatum? ledger.toDatum = (do
      let dayLength ← toUnsigned? (ofUnsigned ledger.dayLength)
      let lastSweep ← toUnsigned? (ofUnsigned ledger.lastSweep)
      let entries ← toList? entryOfDatum? (.list (ledger.entries.entries.map entryToDatum))
      return ⟨dayAtLeastOne dayLength, one_le_dayAtLeastOne dayLength, lastSweep,
        SortedMap.ofList entries⟩) := rfl
  have hday : dayAtLeastOne ledger.dayLength = ledger.dayLength := by
    apply Number.Unsigned.ext_val
    rw [dayAtLeastOne, Number.Unsigned.val_larger]
    exact Nat.max_eq_left ledger.dayLength_pos
  simp only [hfields, toUnsigned?_ofUnsigned, toList?_map entryOfDatum?_entryToDatum,
    Option.bind_eq_bind, Option.bind_some, SortedMap.ofList_entries, hday]
  rfl

theorem isPlain_toDatum (ledger : Ledger) : ledger.toDatum.IsPlain := by
  simp only [toDatum, isPlain_record, List.forall_mem_cons]
  exact ⟨isPlain_tick _, isPlain_tick _, isPlain_map isPlain_entryToDatum _,
    fun _ h => absurd h List.not_mem_nil⟩

/-- White space, escapes and the like do not matter. -/
theorem ofSaved?_of_spells {ledger : Ledger} {text : String}
    (h : Json.SpellsDocument ledger.toDatum text) : ofSaved? text = some ledger := by
  rw [ofSaved?, Json.read_of_spells h, Option.bind_some, ofDatum?_toDatum]

theorem ofSaved?_saved (ledger : Ledger) : ofSaved? ledger.saved = some ledger :=
  ofSaved?_of_spells (Json.spellsDocument_pretty ledger.isPlain_toDatum)

/-- What is saved is a correct document of the ledger, and it is read as the very same ledger: it
decides alike from then on, and is saved as the same text. -/
theorem saved_is_lossless (ledger : Ledger) :
    Json.SpellsDocument ledger.toDatum ledger.saved ∧ ofSaved? ledger.saved = some ledger :=
  ⟨Json.spellsDocument_pretty ledger.isPlain_toDatum, ledger.ofSaved?_saved⟩

end Ledger

end ReplyActions.Quota
