import ReplyActions.Proofs.Quota.Tracking

/-!
# Sweeping again

A sweep drops nothing that has survived a sweep at the same time, and nothing that has been granted
at that time. So of several sweeps at one time only the first can change the ledger.
-/

namespace ReplyActions.Quota.Ledger
open Number

variable {ledger : Ledger} {now : Tick}

/-- A ledger is determined by its day, its last sweep, and what it has on record for each pair. -/
theorem ext_usage? {a b : Ledger} (hday : a.dayLength = b.dayLength)
    (hsweep : a.lastSweep = b.lastSweep) (h : ∀ key, a.usage? key = b.usage? key) : a = b := by
  have hentries : a.entries = b.entries := SortedMap.ext_get? h
  cases a
  cases b
  simp only at hday hsweep hentries
  subst hday hsweep hentries
  rfl

theorem swept_eq_self_iff : ledger.swept now = ledger ↔
    ledger.lastSweep = now ∧
      ∀ key usage, ledger.usage? key = some usage → ledger.survives now usage = true := by
  constructor
  · intro h
    refine ⟨(congrArg lastSweep h).symm, fun key usage hu => ?_⟩
    have hkept : (ledger.swept now).usage? key = some usage := by rw [h, hu]
    rw [usage?_swept, hu, Option.filter_eq_some_iff] at hkept
    exact hkept.2
  · rintro ⟨hsweep, hkept⟩
    refine ext_usage? rfl hsweep.symm fun key => ?_
    rw [usage?_swept]
    cases hu : ledger.usage? key with
    | none => rfl
    | some usage => exact Option.filter_some_pos (hkept key usage hu)

theorem swept_swept (ledger : Ledger) (now : Tick) :
    (ledger.swept now).swept now = ledger.swept now := by
  refine swept_eq_self_iff.mpr ⟨rfl, fun key usage hu => ?_⟩
  rw [usage?_swept, Option.filter_eq_some_iff] at hu
  exact hu.2

theorem survives_granted (ledger : Ledger) (policy : Policy) (usage : Option Usage) (now : Tick)
    (magnitude : Option Points) :
    ledger.survives now (ledger.granted policy usage now magnitude) = true := by
  simp only [survives, granted, decide_true, Bool.or_true]

theorem swept_record (policy : Policy) (key : Key) (magnitude : Option Points)
    (h : ledger.swept now = ledger) :
    (ledger.record policy key now magnitude).swept now =
      ledger.record policy key now magnitude := by
  obtain ⟨hsweep, hkept⟩ := swept_eq_self_iff.mp h
  refine swept_eq_self_iff.mpr ⟨hsweep, fun other usage hu => ?_⟩
  have hsame : (ledger.record policy key now magnitude).survives now = ledger.survives now := rfl
  rw [hsame]
  rw [usage?_record] at hu
  split at hu
  · injection hu with hu
    rw [← hu]
    exact survives_granted ledger policy _ now magnitude
  · exact hkept other usage hu

end ReplyActions.Quota.Ledger
