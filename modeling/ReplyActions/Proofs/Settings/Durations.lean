import ReplyActions.Settings.Document

/-!
# How long stronger effects last

Of the three spans the long one is always in use; each of the others is if there are strengths for
which it applies. A stronger effect lasts at least as long as a weaker one exactly if the spans in
use are in order, and settings are accepted whether or not they are.
-/

namespace ReplyActions
open Number

namespace Durations

variable (d : Durations)

/-- No effect is over sooner than one that is weaker or just as strong. -/
def StrongerLastsLonger : Prop :=
  ∀ weak strong : Points, weak.val.natAbs ≤ strong.val.natAbs →
    (d.durationOf weak).val ≤ (d.durationOf strong).val

/-- There are strengths for which the medium span applies. -/
def UsesMedium : Prop := d.mediumAt.val.natAbs < d.longAt.val.natAbs

/-- There are strengths for which the short span applies. -/
def UsesShort : Prop := 0 < d.longAt.val.natAbs ∧ 0 < d.mediumAt.val.natAbs

/-- Of two spans in use, the one for stronger effects is not the shorter one. -/
structure InOrder : Prop where
  medium_le_long : d.UsesMedium → d.medium.val ≤ d.long.val
  short_le_medium : d.UsesMedium → d.UsesShort → d.short.val ≤ d.medium.val
  short_le_long : d.UsesShort → d.short.val ≤ d.long.val

/-! ### Which span applies -/

/-- Where a span applies, with the bounds on the strength that it needs. -/
theorem durationOf_cases (p : Points) :
    (d.longAt.val.natAbs ≤ p.val.natAbs ∧ d.durationOf p = d.long) ∨
      (p.val.natAbs < d.longAt.val.natAbs ∧ d.mediumAt.val.natAbs ≤ p.val.natAbs ∧
        d.durationOf p = d.medium) ∨
      (p.val.natAbs < d.longAt.val.natAbs ∧ p.val.natAbs < d.mediumAt.val.natAbs ∧
        d.durationOf p = d.short) := by
  simp only [durationOf]
  split
  · next hlong => exact Or.inl ⟨hlong, rfl⟩
  · next hlong =>
    rw [Nat.not_le] at hlong
    split
    · next hmedium => exact Or.inr (Or.inl ⟨hlong, hmedium, rfl⟩)
    · next hmedium => exact Or.inr (Or.inr ⟨hlong, Nat.not_le.mp hmedium, rfl⟩)

/-- An effect as strong as the threshold lasts for the long span. -/
theorem durationOf_longAt : d.durationOf d.longAt = d.long := if_pos (Nat.le_refl _)

variable {d}

theorem UsesMedium.durationOf_mediumAt (h : d.UsesMedium) : d.durationOf d.mediumAt = d.medium := by
  rw [durationOf, if_neg (Nat.not_le.mpr h), if_pos (Nat.le_refl _)]

theorem UsesShort.durationOf_zero (h : d.UsesShort) : d.durationOf 0 = d.short := by
  have hzero : (0 : Points).val.natAbs = 0 := by decide +kernel
  rw [durationOf, hzero, if_neg (Nat.not_le.mpr h.1), if_neg (Nat.not_le.mpr h.2)]

/-! ### The law and when it holds -/

/-- The thresholds are strengths themselves, so every span in use is seen. -/
theorem StrongerLastsLonger.inOrder (h : d.StrongerLastsLonger) : d.InOrder where
  medium_le_long hmedium := by
    have hspans := h d.mediumAt d.longAt (Nat.le_of_lt hmedium)
    rwa [hmedium.durationOf_mediumAt, durationOf_longAt] at hspans
  short_le_medium hmedium hshort := by
    have hspans := h 0 d.mediumAt (Nat.zero_le _)
    rwa [hshort.durationOf_zero, hmedium.durationOf_mediumAt] at hspans
  short_le_long hshort := by
    have hspans := h 0 d.longAt (Nat.zero_le _)
    rwa [hshort.durationOf_zero, durationOf_longAt] at hspans

theorem InOrder.strongerLastsLonger (h : d.InOrder) : d.StrongerLastsLonger := by
  intro weak strong hle
  have hweak := d.durationOf_cases weak
  rcases d.durationOf_cases strong with ⟨hs, hstrong⟩ | ⟨hs, hs', hstrong⟩ | ⟨hs, hs', hstrong⟩
  -- a span in which an effect falls is in use
  · rw [hstrong]
    rcases hweak with ⟨-, hweak⟩ | ⟨hw, hw', hweak⟩ | ⟨hw, hw', hweak⟩
    · exact Nat.le_of_eq (congrArg Unsigned.val hweak)
    · rw [hweak]
      exact h.medium_le_long (Nat.lt_of_le_of_lt hw' hw)
    · rw [hweak]
      exact h.short_le_long ⟨Nat.zero_lt_of_lt hw, Nat.zero_lt_of_lt hw'⟩
  · rw [hstrong]
    rcases hweak with ⟨hw, -⟩ | ⟨-, -, hweak⟩ | ⟨hw, hw', hweak⟩
    · omega
    · exact Nat.le_of_eq (congrArg Unsigned.val hweak)
    · rw [hweak]
      exact h.short_le_medium (Nat.lt_of_le_of_lt hs' hs)
        ⟨Nat.zero_lt_of_lt hw, Nat.zero_lt_of_lt hw'⟩
  · rw [hstrong]
    rcases hweak with ⟨hw, -⟩ | ⟨-, hw, -⟩ | ⟨-, -, hweak⟩
    · omega
    · omega
    · exact Nat.le_of_eq (congrArg Unsigned.val hweak)

/-- Whatever the signs of the thresholds: stronger effects last at least as long if and only if the
spans in use are in order. -/
theorem strongerLastsLonger_iff (d : Durations) : d.StrongerLastsLonger ↔ d.InOrder :=
  ⟨StrongerLastsLonger.inOrder, InOrder.strongerLastsLonger⟩

/-- These settings make sense as far as they are checked, but the strongest effects are over
first. -/
theorem strong_effects_are_over_first :
    ∃ config, Config.ofDocument "[sanitize.duration_tiers]\nlong = 1" = .ok config ∧
      config.effects.durations.durationOf 9 = 24 ∧ config.effects.durations.durationOf 20 = 1 ∧
      ¬ config.effects.durations.StrongerLastsLonger := by
  cases hread : Config.ofDocument "[sanitize.duration_tiers]\nlong = 1" with
  | error error =>
    have hfine : (Config.ofDocument "[sanitize.duration_tiers]\nlong = 1").isOk = true := by
      decide +kernel
    rw [hread] at hfine
    exact absurd hfine Bool.false_ne_true
  | ok config =>
    have hdurations : (Config.ofDocument "[sanitize.duration_tiers]\nlong = 1").toOption.map
        (·.effects.durations) = some ⟨20, 10, 1, 48, 24⟩ := by decide +kernel
    rw [hread] at hdurations
    have hspans : config.effects.durations = ⟨20, 10, 1, 48, 24⟩ := Option.some.inj hdurations
    refine ⟨config, rfl, ?_⟩
    rw [hspans]
    refine ⟨by decide +kernel, by decide +kernel, fun hlaw => ?_⟩
    have hspans := hlaw 9 20 (by decide +kernel)
    exact absurd hspans (by decide +kernel)

end Durations

end ReplyActions
