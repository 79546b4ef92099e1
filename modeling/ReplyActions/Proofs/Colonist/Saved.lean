import ReplyActions.Colonist.Saved
import ReplyActions.Proofs.Datum.Fields
import ReplyActions.Proofs.Json.RoundTrip

/-!
# Saved colonists lose nothing

Every part of a colonist is read back from the data it is written as, and all of it is plain.
-/

namespace ReplyActions
open Datum Number

/-! ### Parts -/

theorem Injury.ofDatum?_toDatum (i : Injury) : Injury.ofDatum? i.toDatum = some i := by
  have hfields : Injury.ofDatum? i.toDatum = (do
      return ⟨i.part, i.kind, ← toUnsigned? (ofUnsigned i.severity)⟩) := rfl
  simp only [hfields, toUnsigned?_ofUnsigned]
  rfl

theorem Injury.isPlain_toDatum (i : Injury) : i.toDatum.IsPlain := by
  simp only [toDatum, isPlain_record, List.forall_mem_cons]
  exact ⟨trivial, trivial, isPlain_grade _, fun _ h => absurd h List.not_mem_nil⟩

theorem Thought.ofDatum?_toDatum (t : Thought) : Thought.ofDatum? t.toDatum = some t := by
  have hfields : Thought.ofDatum? t.toDatum = (do
      return ⟨t.label, ← toSigned? (ofSigned t.moodOffset),
        ← toUnsigned? (ofUnsigned t.expiresAt)⟩) := rfl
  simp only [hfields, toUnsigned?_ofUnsigned, toSigned?_ofSigned]
  rfl

theorem Thought.isPlain_toDatum (t : Thought) : t.toDatum.IsPlain := by
  simp only [toDatum, isPlain_record, List.forall_mem_cons]
  exact ⟨trivial, isPlain_points _, isPlain_tick _, fun _ h => absurd h List.not_mem_nil⟩

theorem Skill.ofDatum?_toDatum (s : Skill) : Skill.ofDatum? s.toDatum = some s := by
  have hfields : Skill.ofDatum? s.toDatum = (do
      return ⟨← toUnsigned? (ofUnsigned s.level), ← toUnsigned? (ofUnsigned s.xp)⟩) := rfl
  simp only [hfields, toUnsigned?_ofUnsigned]
  rfl

theorem Skill.isPlain_toDatum (s : Skill) : s.toDatum.IsPlain := by
  simp only [toDatum, isPlain_record, List.forall_mem_cons]
  exact ⟨isPlain_grade _, isPlain_amount _, fun _ h => absurd h List.not_mem_nil⟩

theorem Captivity.ofDatum?_toDatum (c : Captivity) : Captivity.ofDatum? c.toDatum = some c := by
  have hfields : Captivity.ofDatum? c.toDatum = (do
      return ⟨← toSigned? (ofSigned c.resistance), c.recruitable⟩) := rfl
  simp only [hfields, toSigned?_ofSigned]
  rfl

theorem Captivity.isPlain_toDatum (c : Captivity) : c.toDatum.IsPlain := by
  simp only [toDatum, isPlain_record, List.forall_mem_cons]
  exact ⟨isPlain_points _, trivial, fun _ h => absurd h List.not_mem_nil⟩

theorem Inspiration.ofDatum?_toDatum (i : Inspiration) :
    Inspiration.ofDatum? i.toDatum = some i := by
  have hfields : Inspiration.ofDatum? i.toDatum = (do
      return ⟨i.kind, ← toUnsigned? (ofUnsigned i.expiresAt)⟩) := rfl
  simp only [hfields, toUnsigned?_ofUnsigned]
  rfl

theorem Inspiration.isPlain_toDatum (i : Inspiration) : i.toDatum.IsPlain := by
  simp only [toDatum, isPlain_record, List.forall_mem_cons]
  exact ⟨trivial, isPlain_tick _, fun _ h => absurd h List.not_mem_nil⟩

/-! ### Colonists -/

namespace Colonist

theorem ofDatum?_toDatum (c : Colonist) : ofDatum? c.toDatum = some c := by
  have hfields : ofDatum? c.toDatum = (do
      return {
        id := c.id
        name := c.name
        alive := c.alive
        downed := c.downed
        injuries := ← toList? Injury.ofDatum? (.list (c.injuries.map Injury.toDatum))
        missingParts := ← toList? toText? (.list (c.missingParts.map .text))
        baseMood := ← toSigned? (ofSigned c.baseMood)
        thoughts := ← toList? Thought.ofDatum? (.list (c.thoughts.map Thought.toDatum))
        opinions := ← toMap? toSigned? (ofMap ofSigned c.opinions)
        skills := ← toMap? Skill.ofDatum? (ofMap Skill.toDatum c.skills)
        captivity := ← Fields.nullable Captivity.ofDatum? (ofOption Captivity.toDatum c.captivity)
        workPriorities := ← toMap? toUnsigned? (ofMap ofUnsigned c.workPriorities)
        needs := ← toMap? toSigned? (ofMap ofSigned c.needs)
        traits := ← toList? toText? (.list (c.traits.map .text))
        inventory := ← toMap? toUnsigned? (ofMap ofUnsigned c.inventory)
        location := ← Fields.nullable toText? (ofOption .text c.location)
        inspiration := ← Fields.nullable Inspiration.ofDatum?
          (ofOption Inspiration.toDatum c.inspiration) }) := rfl
  have htext : ∀ s, toText? (.text s) = some s := fun _ => rfl
  simp only [hfields, toList?_map Injury.ofDatum?_toDatum, toList?_map htext, toSigned?_ofSigned,
    toList?_map Thought.ofDatum?_toDatum, toMap?_ofMap toSigned?_ofSigned,
    toMap?_ofMap Skill.ofDatum?_toDatum, toMap?_ofMap toUnsigned?_ofUnsigned,
    nullable_ofOption Captivity.ofDatum?_toDatum fun _ => nofun,
    nullable_ofOption htext fun _ => nofun,
    nullable_ofOption Inspiration.ofDatum?_toDatum fun _ => nofun]
  rfl

theorem isPlain_toDatum (c : Colonist) : c.toDatum.IsPlain := by
  have htext : ∀ s, (Datum.text s).IsPlain := fun _ => trivial
  simp only [toDatum, toFields, isPlain_record, List.forall_mem_cons]
  exact ⟨trivial, trivial, trivial, trivial, isPlain_map Injury.isPlain_toDatum _,
    isPlain_map htext _, isPlain_points _, isPlain_map Thought.isPlain_toDatum _,
    isPlain_ofMap isPlain_points _, isPlain_ofMap Skill.isPlain_toDatum _,
    isPlain_ofOption Captivity.isPlain_toDatum _, isPlain_ofMap isPlain_grade _,
    isPlain_ofMap isPlain_points _, isPlain_map htext _, isPlain_ofMap isPlain_amount _,
    isPlain_ofOption htext _, isPlain_ofOption Inspiration.isPlain_toDatum _,
    fun _ h => absurd h List.not_mem_nil⟩

theorem ofSaved?_saved (c : Colonist) : ofSaved? c.saved = some c := by
  rw [ofSaved?, saved, Json.read_pretty c.isPlain_toDatum, Option.bind_some, ofDatum?_toDatum]

end Colonist

end ReplyActions
