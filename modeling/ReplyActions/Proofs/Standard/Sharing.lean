import ReplyActions.Proofs.Dispatch.Sharing
import ReplyActions.Proofs.Standard.Frame

/-!
# Colonists that share a ledger

A colony keeps one ledger. The standard directives are found under their own identifiers and leave
colonists theirs, so what a colonist is granted depends on its own replies alone.
-/

namespace ReplyActions.Standard
open Number Dispatcher

theorem dispatcher_isFair (config : Config) : (dispatcher config).IsFair where
  named _ _ h := (Catalog.lookup_ofList h).2
  keepsIds id handler h agent params context := by
    obtain ⟨action, hm, rfl⟩ := lookup_catalog h
    exact congrArg Person.id (person_execute hm agent params context)

/-- Colonists with different identifiers take turns in any order, with one ledger between them that
begins empty. Each of them ends up as it would by itself with a ledger of its own, and so do its
reports. -/
theorem colonists_do_not_interfere (config : Config) (dayLength : Tick) {ι : Type} [DecidableEq ι]
    (colonists : ι → Colonist) (turns : List (Turn ι))
    (hids : ∀ one other, one ≠ other → (colonists one).id ≠ (colonists other).id)
    (hsorted : turns.Pairwise fun earlier later => earlier.now.val ≤ later.now.val) (who : ι) :
    let d := dispatcher config
    let shared := d.share colonists (.empty dayLength) turns
    let own := d.dispatchAll ⟨colonists who, .empty dayLength⟩ (repliesTo who turns)
    shared.1 who = own.1.agent ∧ reportsOf who shared.2 = own.2 := by
  intro d shared own
  have hlasts := Quota.Ledger.lasts_empty dayLength d.waitOf 0
  have halike : d.Alike 0 ⟨colonists who, .empty dayLength⟩ ⟨colonists who, .empty dayLength⟩ :=
    ⟨rfl, Quota.Ledger.looksAlike_refl _ _ _, hlasts, hlasts⟩
  exact share_eq_dispatchAll (dispatcher_isFair config) halike (fun one hone => hids one who hone)
    (fun turn _ => Nat.zero_le turn.now.val) hsorted

/-- Two colonists ask for the same, each one on two days; the ledger is swept in between. -/
theorem colonists_do_not_interfere_ada_bob :
    let colonists : Bool → Colonist := fun who =>
      if who then .fresh "ada" "Ada" else .fresh "bob" "Bob"
    let turns : List (Turn Bool) := [⟨true, "[ACTION:INSPIRE]", 1⟩, ⟨false, "[ACTION:INSPIRE]", 2⟩,
      ⟨false, "[ACTION:INSPIRE]", 30⟩, ⟨true, "[ACTION:INSPIRE] [ACTION:GIVE_ITEM:bread]", 90⟩]
    (∀ one other, one ≠ other → (colonists one).id ≠ (colonists other).id) ∧
      (turns.Pairwise fun earlier later => earlier.now.val ≤ later.now.val) ∧
      ∀ who,
        let shared := (dispatcher .standard).share colonists (.empty 24) turns
        let own := (dispatcher .standard).dispatchAll ⟨colonists who, .empty 24⟩
          (repliesTo who turns)
        shared.1 who = own.1.agent ∧ reportsOf who shared.2 = own.2 := by
  intro colonists turns
  have hids : ∀ one other, one ≠ other → (colonists one).id ≠ (colonists other).id := by decide
  have hsorted : turns.Pairwise fun earlier later => earlier.now.val ≤ later.now.val := by decide
  exact ⟨hids, hsorted, colonists_do_not_interfere .standard 24 colonists turns hids hsorted⟩

end ReplyActions.Standard
