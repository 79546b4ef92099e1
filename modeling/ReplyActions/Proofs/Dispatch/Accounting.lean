import ReplyActions.Proofs.Dispatch.Limits
import ReplyActions.Proofs.Dispatch.Outcomes
import ReplyActions.Proofs.Dispatch.Sequence
import ReplyActions.Proofs.Quota.Likeness

/-!
# What a batch leaves on record

The entry of a directive and an agent grows by the successes that a batch reports for them, and by
nothing else. A sweep at the opening may drop the entry before it grows again; the counters of the
day are not lost by this, since an entry of the day survives every sweep.
-/

namespace ReplyActions

namespace Quota.Ledger
open Number

/-- The entry of a pair after grants at a time: it dates from then, and the counters that the pair
had on that day before have the grants added to them, one after the other. -/
structure Accounts (ledger : Ledger) (policy : Policy) (now : Tick) (before : Option Usage)
    (count : Nat) (magnitudes : List Points) (after : Usage) : Prop where
  last : after.lastInvoked = now
  day : after.day = ledger.dayOf now
  count : after.countToday =
    .saturate ((countersOn before (ledger.dayOf now)).1.val + count)
  positive : after.positiveMagnitudeToday =
    (magnitudes.filter (0 < ·.val)).foldl Signed.plus (countersOn before (ledger.dayOf now)).2.1
  net : after.netMagnitudeToday =
    magnitudes.foldl Signed.plus (countersOn before (ledger.dayOf now)).2.2
  retained : after.retainFor = ledger.retention policy

/-- What a pair has on record after one more grant. Only grants under a quota are recorded. -/
def noted (ledger : Ledger) (policy : Option Policy) (now : Tick) (usage : Option Usage)
    (magnitude : Option Points) : Option Usage :=
  match policy with
  | some policy => some (ledger.granted policy usage now magnitude)
  | none => usage

variable {ledger : Ledger} {policy : Policy} {now : Tick}

theorem granted_congr {other : Ledger} (h : ledger.dayLength = other.dayLength) :
    ledger.granted = other.granted := by
  funext policy usage now magnitude
  simp only [granted, dayOf, retention, h]

theorem noted_congr {other : Ledger} (h : ledger.dayLength = other.dayLength) :
    ledger.noted = other.noted := by
  funext policy now usage magnitude
  simp only [noted, granted_congr h]

theorem Accounts.congr {other : Ledger} {a b : Option Usage} {count : Nat}
    {magnitudes : List Points} {after : Usage}
    (h : other.Accounts policy now a count magnitudes after)
    (hday : other.dayLength = ledger.dayLength)
    (hcounters : countersOn a (ledger.dayOf now) = countersOn b (ledger.dayOf now)) :
    ledger.Accounts policy now b count magnitudes after := by
  have hdayOf : other.dayOf = ledger.dayOf := by
    funext tick
    simp only [dayOf, hday]
  have hretention : other.retention = ledger.retention := by
    funext policy
    simp only [retention, hday]
  obtain ⟨hlast, hdate, hcount, hpositive, hnet, hretained⟩ := h
  rw [hdayOf] at hdate hcount hpositive hnet
  rw [hcounters] at hcount hpositive hnet
  rw [hretention] at hretained
  exact ⟨hlast, hdate, hcount, hpositive, hnet, hretained⟩

theorem foldl_noted_none (usage : Option Usage) (magnitudes : List (Option Points)) :
    magnitudes.foldl (ledger.noted none now) usage = usage := by
  induction magnitudes with
  | nil => rfl
  | cons magnitude rest ih => exact ih

theorem countersOn_granted (usage : Option Usage) (magnitude : Option Points) :
    countersOn (some (ledger.granted policy usage now magnitude)) (ledger.dayOf now) =
      ((countersOn usage (ledger.dayOf now)).1.plus 1,
        addPositive (countersOn usage (ledger.dayOf now)).2.1 magnitude,
        addNet (countersOn usage (ledger.dayOf now)).2.2 magnitude) := by
  simp only [granted, countersOn, Usage.countOn, Usage.positiveOn, Usage.netOn, if_true]

theorem countersOn_foldl_noted (ledger : Ledger) (policy : Policy) (now : Tick)
    (usage : Option Usage) (magnitudes : List (Option Points)) :
    let before := countersOn usage (ledger.dayOf now)
    let known := magnitudes.filterMap id
    countersOn (magnitudes.foldl (ledger.noted (some policy) now) usage) (ledger.dayOf now) =
      (.saturate (before.1.val + magnitudes.length),
        (known.filter (0 < ·.val)).foldl Signed.plus before.2.1,
        known.foldl Signed.plus before.2.2) := by
  induction magnitudes generalizing usage with
  | nil =>
    have hle := (countersOn usage (ledger.dayOf now)).1.val_le
    have hsame : Unsigned.saturate ((countersOn usage (ledger.dayOf now)).1.val + 0) =
        (countersOn usage (ledger.dayOf now)).1 :=
      Unsigned.ext_val (Nat.min_eq_left hle)
    simp only [List.foldl_nil, List.length_nil, List.filterMap_nil, List.filter_nil, hsame]
  | cons magnitude rest ih =>
    have hone : ((1 : Amount)).val = 1 := rfl
    have hcount : (Unsigned.saturate (((countersOn usage (ledger.dayOf now)).1.plus 1).val +
        rest.length) : Amount) =
        .saturate ((countersOn usage (ledger.dayOf now)).1.val + (magnitude :: rest).length) := by
      apply Unsigned.ext_val
      simp only [Unsigned.val_saturate, Unsigned.val_plus, List.length_cons, hone]
      omega
    have hnext := ih (some (ledger.granted policy usage now magnitude))
    simp only [countersOn_granted, hcount] at hnext
    simp only [List.foldl_cons, noted] at hnext ⊢
    rw [hnext]
    cases magnitude with
    | none => simp only [List.filterMap_cons, id, addPositive, addNet]
    | some value =>
      by_cases hpositive : 0 < value.val
      · simp only [List.filterMap_cons, id, addPositive, addNet, hpositive, List.filter_cons,
          decide_true, if_true, List.foldl_cons]
      · simp only [List.filterMap_cons, id, addPositive, addNet, hpositive, List.filter_cons,
          decide_false, Bool.false_eq_true, if_false, List.foldl_cons]

theorem accounts_of_foldl_noted (usage : Option Usage) {magnitudes : List (Option Points)}
    (h : magnitudes ≠ []) :
    ∃ after, magnitudes.foldl (ledger.noted (some policy) now) usage = some after ∧
      ledger.Accounts policy now usage magnitudes.length (magnitudes.filterMap id) after := by
  have hcounters := countersOn_foldl_noted ledger policy now usage magnitudes
  obtain ⟨front, final, rfl⟩ := (List.eq_nil_or_concat magnitudes).resolve_left h
  rw [List.concat_eq_append] at hcounters ⊢
  -- the last grant writes the entry, whose counters are those of all grants
  have hlast : (front ++ [final]).foldl (ledger.noted (some policy) now) usage =
      some (ledger.granted policy (front.foldl (ledger.noted (some policy) now) usage) now
        final) := by
    rw [List.foldl_append]
    rfl
  refine ⟨_, hlast, ?_⟩
  rw [hlast] at hcounters
  simp only [countersOn, Usage.countOn, Usage.positiveOn, Usage.netOn, granted, if_true,
    Prod.mk.injEq] at hcounters
  exact ⟨rfl, rfl, hcounters.1, hcounters.2.1, hcounters.2.2, rfl⟩

end Quota.Ledger

namespace Dispatcher
open Number

/-! ### The opening -/

section Opening

variable {α : Type} {d : Dispatcher α} {now : Tick}

theorem usage?_opened (s : Session α) (key : Quota.Key) :
    (d.opened now s).ledger.usage? key = s.ledger.usage? key ∨
      d.isSweepDue s.ledger now = true ∧
        (∃ usage, s.ledger.usage? key = some usage ∧ s.ledger.survives now usage = false) ∧
        (d.opened now s).ledger.usage? key = none := by
  simp only [opened, opening_ledger]
  split
  · next hdue =>
    rw [Quota.usage?_swept]
    cases hu : s.ledger.usage? key with
    | none => exact Or.inl rfl
    | some usage =>
      rw [Option.filter_some]
      cases hs : s.ledger.survives now usage with
      | false => exact Or.inr ⟨hdue, ⟨usage, rfl, hs⟩, rfl⟩
      | true => exact Or.inl rfl
  · exact Or.inl rfl

/-- A sweep at the opening makes no difference to what grants of the day come to. -/
theorem accounts_of_opened {s : Session α} {key : Quota.Key} {policy : Quota.Policy} {count : Nat}
    {magnitudes : List Points} {usage : Quota.Usage}
    (h : (d.opened now s).ledger.Accounts policy now ((d.opened now s).ledger.usage? key) count
      magnitudes usage) :
    s.ledger.Accounts policy now (s.ledger.usage? key) count magnitudes usage := by
  simp only [opened, opening_ledger] at h
  split at h
  · exact h.congr rfl (s.ledger.countersOn_swept key now)
  · exact h

end Opening

variable {α : Type} [Agent α] (d : Dispatcher α)

/-! ### What a success is recorded with -/

/-- The quota in force for a directive; `none` if there is no such directive or its guards are all
left out. -/
def policyOf (id : String) : Option Quota.Policy :=
  match d.catalog.lookup id with
  | none => none
  | some handler =>
    match handler.quota with
    | .crashed _ => none
    | .finished own => d.config.quotaFor handler.definition.id own

/-- The clamped magnitude of an invocation, if its directive declares one. -/
def magnitudeOf (i : Invocation) : Option Points :=
  match d.catalog.lookup i.id with
  | none => none
  | some handler =>
    match handler.magnitude i.params with
    | .crashed _ => none
    | .finished value => value.map (clampMagnitude · d.config.effects.magnitudeLimit)

/-- The pair that a success of the directive counts for. -/
def pairOf (agent : α) (id : String) : Quota.Key := ⟨id, Agent.agentId agent⟩

variable {d} {now : Tick}

theorem admission_eq {s : Session α} {i : Invocation} {handler : Handler α} {admission : Admission}
    (hfound : d.catalog.lookup i.id = some handler)
    (hadmitted : (d.gate s.ledger now).examine handler s.agent i.params =
      .finished (.ok admission)) :
    admission = ⟨d.magnitudeOf i, d.policyOf i.id⟩ := by
  have hadmits : (d.gate s.ledger now).Admits handler s.agent i.params admission :=
    Gate.examine_eq_iff.mp hadmitted
  obtain ⟨value, hvalue, hmagnitude⟩ := hadmits.magnitude
  obtain ⟨own, hown, hpolicy⟩ := hadmits.policy
  obtain ⟨magnitude, policy⟩ := admission
  simp only at hmagnitude hpolicy
  simp only [magnitudeOf, policyOf, hfound, hvalue, hown, hmagnitude, hpolicy]
  rfl

theorem recorded_eq_noted (ledger : Quota.Ledger) (admission : Admission) (id : String) (agent : α)
    (now : Tick) :
    (recorded ledger admission id agent now).usage? (pairOf agent id) =
      ledger.noted admission.policy now (ledger.usage? (pairOf agent id)) admission.magnitude := by
  simp only [recorded, Quota.Ledger.noted, pairOf]
  cases admission.policy with
  | none => rfl
  | some policy =>
    simp only
    rw [Quota.usage?_record, if_pos rfl]

/-! ### Steps -/

/-- The agent has the same identifier after each of the steps. -/
def IsStable (s : Session α) (steps : List (Step α)) : Prop :=
  ∀ step ∈ steps, Agent.agentId step.session.agent = Agent.agentId s.agent

theorem isStable_steps (hkeeps : d.KeepsIds) (now : Tick) (s : Session α)
    (invocations : List Invocation) : IsStable s (d.steps now s invocations) := by
  induction invocations generalizing s with
  | nil => exact fun step hm => absurd hm List.not_mem_nil
  | cons i rest ih =>
    have hfirst := agentId_step hkeeps now s i
    intro step hm
    rcases List.mem_cons.mp hm with rfl | hm
    · exact hfirst
    · exact (ih (d.step now s i).session step hm).trans hfirst

theorem isStable_batch (hkeeps : d.KeepsIds) (now : Tick) (text : String) (s : Session α) :
    IsStable s (d.batch now text s) :=
  isStable_steps hkeeps now (d.opened now s) _

/-- A success adds to the entry of its own pair, and nothing else changes the entry of a pair. -/
theorem usage?_step {s : Session α} {i : Invocation}
    (hid : Agent.agentId (d.step now s i).session.agent = Agent.agentId s.agent)
    (key : Quota.Key) :
    (d.step now s i).session.ledger.usage? key =
      if (d.step now s i).result.isSuccess && pairOf s.agent i.id = key then
        s.ledger.noted (d.policyOf key.directive) now (s.ledger.usage? key) (d.magnitudeOf i)
      else s.ledger.usage? key := by
  have hpair : pairOf (d.step now s i).session.agent i.id = pairOf s.agent i.id := by
    rw [pairOf, pairOf, hid]
  cases hresult : (d.step now s i).result.isSuccess with
  | false =>
    rw [d.step_ledger_of_not_success now hresult]
    rfl
  | true =>
    by_cases hkey : pairOf s.agent i.id = key
    · obtain ⟨handler, admission, agent, effect, hfound, hadmitted, -, hsession, -⟩ :=
        d.step_success now hresult
      subst hkey
      rw [hsession] at hpair ⊢
      rw [← hpair, recorded_eq_noted, admission_eq hfound hadmitted]
      simp only [decide_true, Bool.and_true, if_true, pairOf]
    · have hother := (d.step_ledger_agreesBut now s i).usage? key
        fun he => hkey (hpair.symm.trans he.symm)
      rw [hother]
      simp only [hkey, decide_false, Bool.and_false, Bool.false_eq_true, if_false]

/-- Over the steps, the entry of a pair takes up the successes of the pair, from the first to the
last. -/
theorem usage?_steps {s : Session α} {invocations : List Invocation}
    (hstable : IsStable s (d.steps now s invocations)) (key : Quota.Key) :
    (sessionAfter s (d.steps now s invocations)).ledger.usage? key =
      (((d.succeeding now s invocations).filter (pairOf s.agent ·.id = key)).map
        d.magnitudeOf).foldl (s.ledger.noted (d.policyOf key.directive) now)
          (s.ledger.usage? key) := by
  induction invocations generalizing s with
  | nil => rfl
  | cons i rest ih =>
    obtain ⟨hfirst, hrest⟩ := List.forall_mem_cons.mp hstable
    have hstable' : IsStable (d.step now s i).session (d.steps now (d.step now s i).session rest) :=
      fun step hm => (hrest step hm).trans hfirst.symm
    have hpairs : pairOf (d.step now s i).session.agent = pairOf s.agent := by
      funext id
      rw [pairOf, pairOf, hfirst]
    have hday : (d.step now s i).session.ledger.dayLength = s.ledger.dayLength :=
      (d.step_ledger_agreesBut now s i).dayLength
    simp only [steps, sessionAfter_cons, ih hstable', hpairs, Quota.Ledger.noted_congr hday,
      usage?_step hfirst, succeeding_cons]
    cases (d.step now s i).result.isSuccess with
    | false => simp only [Bool.false_and, Bool.false_eq_true, if_false]
    | true =>
      by_cases hkey : pairOf s.agent i.id = key
      · simp only [hkey, decide_true, Bool.and_true, if_true, List.filter_cons, List.map_cons,
          List.foldl_cons]
      · simp only [hkey, decide_false, Bool.and_false, Bool.false_eq_true, if_false, if_true,
          List.filter_cons]

/-! ### Batches -/

/-- The invocations that have succeeded, by their results. -/
def succeeded (invocations : List Invocation) (results : List Result) : List Invocation :=
  ((invocations.zip results).filter (·.2.isSuccess)).map (·.1)

theorem succeeded_steps (s : Session α) (invocations : List Invocation) :
    succeeded invocations ((d.steps now s invocations).map (·.result)) =
      d.succeeding now s invocations := by
  simp only [succeeded, succeeding, List.zip_map_right, List.filter_map, List.map_map]
  rfl

theorem length_filter_succeeding (p : String → Bool) (s : Session α)
    (invocations : List Invocation) :
    ((d.succeeding now s invocations).filter (p ·.id)).length =
      (((d.steps now s invocations).map (·.result)).filter
        fun r => r.isSuccess && p r.directiveId).length := by
  induction invocations generalizing s with
  | nil => rfl
  | cons i rest ih =>
    simp only [steps, List.map_cons, succeeding_cons, List.filter_cons, d.step_directiveId now s i]
    cases (d.step now s i).result.isSuccess with
    | false => simp only [Bool.false_and, Bool.false_eq_true, if_false, ih]
    | true =>
      cases hp : p i.id with
      | false => simp only [Bool.true_and, Bool.false_eq_true, if_false, if_true, hp, ih,
          List.filter_cons]
      | true => simp only [Bool.true_and, if_true, hp, ih, List.filter_cons, List.length_cons]

/-- After a batch, a pair with a success under a quota has an entry that accounts for all of its
successes. The entry of any other pair is as it was, unless it fell to the sweep at the opening. -/
theorem dispatchAt_accounts (d : Dispatcher α) (text : String) (s : Session α) (now : Tick)
    (hstable : IsStable s (d.batch now text s)) (key : Quota.Key) :
    let done := d.dispatchAt text s now
    let invocations := Invocation.extract text.toList
    let successes := (succeeded invocations done.report.results).filter
      (pairOf s.agent ·.id = key)
    let count := (done.report.results.filter
      fun r => r.isSuccess && pairOf s.agent r.directiveId = key).length
    let before := s.ledger.usage? key
    let after := done.session.ledger.usage? key
    (∀ policy, d.policyOf key.directive = some policy → 0 < count →
        ∃ usage, after = some usage ∧
          s.ledger.Accounts policy now before count (successes.filterMap d.magnitudeOf) usage) ∧
      (d.policyOf key.directive = none ∨ count = 0 →
        after = before ∨
          invocations ≠ [] ∧ d.isSweepDue s.ledger now = true ∧
            (∃ usage, before = some usage ∧ s.ledger.survives now usage = false) ∧
            after = none) := by
  intro done invocations successes count before after
  have hinvocations : (Reply.ofText text).invocations = invocations :=
    Invocation.ofText_invocations text
  by_cases hnil : invocations = []
  · have hresults : done.report.results = [] :=
      dispatchAt_results_of_nil d now (hinvocations.trans hnil)
    have hsession : done.session = s := dispatchAt_session_of_nil d now (hinvocations.trans hnil)
    have hcount : count = 0 := by
      simp only [count, hresults, List.filter_nil, List.length_nil]
    refine ⟨fun policy _ hpos => absurd hpos (by omega), fun _ => Or.inl ?_⟩
    simp only [after, before, hsession]
  · rw [batch, hinvocations] at hstable
    have hresults : done.report.results =
        (d.steps now (d.opened now s) invocations).map (·.result) := by
      simp only [done]
      rw [dispatchAt_results, batch, hinvocations]
    have hsession : done.session =
        sessionAfter (d.opened now s) (d.steps now (d.opened now s) invocations) := by
      simp only [done]
      rw [dispatchAt_session d now (hinvocations.symm ▸ hnil), batch, hinvocations]
    have hsuccesses : successes = (d.succeeding now (d.opened now s) invocations).filter
        (pairOf s.agent ·.id = key) := by
      simp only [successes, hresults, succeeded_steps]
    have hcount : count = (successes.map d.magnitudeOf).length := by
      rw [List.length_map, hsuccesses]
      simp only [count, hresults]
      exact (length_filter_succeeding (fun id => pairOf s.agent id = key) _ _).symm
    have hafter : after = (successes.map d.magnitudeOf).foldl
        ((d.opened now s).ledger.noted (d.policyOf key.directive) now)
          ((d.opened now s).ledger.usage? key) := by
      simp only [after, hsession, hsuccesses]
      exact usage?_steps hstable key
    refine ⟨fun policy hpolicy hpos => ?_, fun hnone => ?_⟩
    · rw [hcount] at hpos ⊢
      rw [hpolicy] at hafter
      obtain ⟨usage, husage, haccounts⟩ := Quota.Ledger.accounts_of_foldl_noted
        ((d.opened now s).ledger.usage? key) (List.ne_nil_of_length_pos hpos)
      rw [List.filterMap_map] at haccounts
      exact ⟨usage, hafter.trans husage, accounts_of_opened haccounts⟩
    · have hopened : after = (d.opened now s).ledger.usage? key := by
        rcases hnone with hpolicy | hzero
        · rw [hafter, hpolicy, Quota.Ledger.foldl_noted_none]
        · rw [hafter, List.length_eq_zero_iff.mp (hcount.symm.trans hzero), List.foldl_nil]
      rcases usage?_opened s key with hsame | ⟨hdue, hdropped, hgone⟩
      · exact Or.inl (hopened.trans hsame)
      · exact Or.inr ⟨hnil, hdue, hdropped, hopened.trans hgone⟩

end Dispatcher

/-- A directive that always succeeds, and counts for as much as it is asked to. -/
def tip : Action Guest where
  definition := ⟨"TIP", .mood, "", .moderate, [⟨"amount", .integer, true⟩], []⟩
  canExecute _ _ := true
  magnitude params := params.whole? 0
  quota := some ⟨none, some 5, none⟩
  execute guest _ _ := (guest, .ok ⟨"tipped", ""⟩)

def tipsOnly : Dispatcher Guest := ⟨.ofList [tip.handler], [], Config.standard⟩

theorem keepsIds_tipsOnly : tipsOnly.KeepsIds := by
  intro id handler h agent params context
  rw [List.mem_singleton.mp (Catalog.lookup_ofList h).1]
  rfl

/-- An entry of another day is swept away, and comes back with the three grants of the batch. -/
theorem Dispatcher.dispatchAt_accounts_tips :
    let s : Session Guest := ⟨⟨"ada"⟩,
      (Quota.Ledger.empty 24).record ⟨none, some 5, none⟩ ⟨"TIP", "ada"⟩ 0 (some 2)⟩
    let text := "[ACTION:TIP:7] [ACTION:TIP:-3] [ACTION:TIP:50]"
    IsStable s (tipsOnly.batch 100 text s) ∧ tipsOnly.isSweepDue s.ledger 100 = true ∧
      ∃ usage, (tipsOnly.dispatchAt text s 100).session.ledger.usage? ⟨"TIP", "ada"⟩ =
          some usage ∧
        usage.lastInvoked = 100 ∧ usage.countToday = 3 ∧ usage.positiveMagnitudeToday = 27 ∧
        usage.netMagnitudeToday = 24 := by
  intro s text
  have hstable := isStable_batch keepsIds_tipsOnly 100 text s
  have hpolicy : tipsOnly.policyOf "TIP" = some ⟨none, some 5, none⟩ := by decide +kernel
  obtain ⟨haccounts, -⟩ := dispatchAt_accounts tipsOnly text s 100 hstable ⟨"TIP", "ada"⟩
  obtain ⟨usage, husage, h⟩ := haccounts _ hpolicy (by decide +kernel)
  refine ⟨hstable, by decide +kernel, usage, husage, h.last, ?_, ?_, ?_⟩
  · rw [h.count]
    decide +kernel
  · rw [h.positive]
    decide +kernel
  · rw [h.net]
    decide +kernel

end ReplyActions
