import ReplyActions.Proofs.Catalog
import ReplyActions.Proofs.Dispatch.Steps
import ReplyActions.Proofs.Quota.Account
import ReplyActions.Proofs.Token.Written

/-!
# Quotas in force

Agents are visited in the course of time, and share a ledger. The gate looks a directive up under
the identifier of its definition as it stands; the dispatcher records a success under the canonical
form. Where the two are the same, a cooldown and a daily cap hold on every run. Where they are not,
the gate never sees a grant.
-/

namespace ReplyActions
open Number

/-- What a directive does leaves the agent its identifier. -/
def Handler.KeepsId {α : Type} [Agent α] (handler : Handler α) : Prop :=
  ∀ agent params context,
    Agent.agentId (handler.execute agent params context).1 = Agent.agentId agent

structure Visit (α : Type) where
  agent : α
  text : String
  now : Tick

namespace Dispatcher

variable {α : Type} [Agent α]

/-- The reports of visits one after the other, which share a ledger. -/
def reports (d : Dispatcher α) (ledger : Quota.Ledger) : List (Visit α) → List (Visit α × Report)
  | [] => []
  | visit :: rest =>
    let done := d.dispatchAt visit.text ⟨visit.agent, ledger⟩ visit.now
    (visit, done.report) :: d.reports done.session.ledger rest

def timesOf (directive : String) (now : Tick) (results : List Result) : List Tick :=
  (results.filter fun r => r.isSuccess && r.directiveId = directive).map fun _ => now

/-- The times at which a directive has succeeded for an agent. -/
def successTimes (directive agent : String) (reports : List (Visit α × Report)) : List Tick :=
  reports.flatMap fun (visit, report) =>
    if Agent.agentId visit.agent = agent then timesOf directive visit.now report.results else []

/-- Every directive in the catalog leaves the agent its identifier. -/
def KeepsIds (d : Dispatcher α) : Prop :=
  ∀ id handler, d.catalog.lookup id = some handler → handler.KeepsId

/-- The handler is the one that is found under its identifier, and the policy is the quota that is
in force for it. -/
structure InForce (d : Dispatcher α) (handler : Handler α) (policy : Quota.Policy) : Prop where
  registered : d.catalog.lookup handler.definition.id = some handler
  quota : ∃ own, handler.quota = .finished own ∧
    d.config.quotaFor handler.definition.id own = some policy

end Dispatcher

/-- Daily cap and cooldown hold for every directive defined with the identifier: in every catalog,
under all settings, for all agents on every run. -/
def QuotaHolds (id : String) : Prop :=
  ∀ (α : Type) [Agent α] (handlers : List (Handler α)) (rules : List (Rule α)) (config : Config)
    (handler : Handler α) (policy : Quota.Policy) (cap : Amount) (cooldown : Tick),
    (∀ h ∈ handlers, h.KeepsId) → handler.definition.id = id →
    Dispatcher.InForce ⟨.ofList handlers, rules, config⟩ handler policy →
    policy.dailyCap = some cap → policy.cooldown = some cooldown →
    ∀ (dayLength : Tick) (visits : List (Visit α)) (agent : String),
      (visits.Pairwise fun earlier later => earlier.now.val ≤ later.now.val) →
      Quota.WithinLimits (Quota.Ledger.empty dayLength).dayLength.val cap.val cooldown.val
        (Dispatcher.successTimes (canonicalId id) agent
          (Dispatcher.reports ⟨.ofList handlers, rules, config⟩ (.empty dayLength) visits))

/-- A token can name the directive. -/
def Nameable (id : String) : Prop :=
  canonicalId id ≠ "" ∧ Token.IsSegment (canonicalId id).toList

namespace Dispatcher

variable {α : Type} [Agent α]

/-! ### An identifier in canonical form -/

section Canonical

variable {d : Dispatcher α} {handler : Handler α} {policy : Quota.Policy} {agent : String}
  {now : Tick} {dayLength : Nat} {times : List Tick}

theorem timesOf_append (directive : String) (now : Tick) (xs ys : List Result) :
    timesOf directive now (xs ++ ys) = timesOf directive now xs ++ timesOf directive now ys := by
  simp only [timesOf, List.filter_append, List.map_append]

theorem timesOf_of_not_success (directive : String) (now : Tick) {r : Result}
    (h : r.isSuccess = false) : timesOf directive now [r] = [] := by
  simp only [timesOf, List.filter_cons, h, Bool.false_and, Bool.false_eq_true, if_false,
    List.filter_nil, List.map_nil]

theorem timesOf_of_success (directive : String) (now : Tick) {r : Result}
    (h : r.isSuccess = true) :
    timesOf directive now [r] = if r.directiveId = directive then [now] else [] := by
  simp only [timesOf, List.filter_cons, h, Bool.true_and, List.filter_nil, decide_eq_true_eq]
  split <;> rfl

theorem agentId_step (hkeeps : d.KeepsIds) (now : Tick) (s : Session α) (i : Invocation) :
    Agent.agentId (d.step now s i).session.agent = Agent.agentId s.agent := by
  rcases d.step_cases now s i with ⟨hs, -⟩ | ⟨found, admission, hl, -, hp⟩
  · rw [hs]
  · have hk := hkeeps i.id found hl s.agent i.params ⟨now, admission.magnitude, d.config.effects⟩
    rw [hp]
    rcases d.perform_cases now s i found admission with ⟨effect, -, hs, -⟩ | ⟨-, hs, -⟩
    · rw [hs]
      exact hk
    · rw [hs]
      exact hk

variable (hforce : d.InForce handler policy)
include hforce

/-- What is recorded for an admitted invocation is a grant to the pair of the directive and the
agent, if it is about them, and leaves the pair alone otherwise. -/
theorem accounted_recorded {s : Session α} {i : Invocation} {found : Handler α}
    {admission : Admission} {after : α} (hl : d.catalog.lookup i.id = some found)
    (ha : (d.gate s.ledger now).examine found s.agent i.params = .finished (.ok admission))
    (hid : Agent.agentId after = Agent.agentId s.agent)
    (h : Quota.Accounted dayLength policy ⟨handler.definition.id, agent⟩ times s.ledger now.val) :
    Quota.Accounted dayLength policy ⟨handler.definition.id, agent⟩
      (times ++ if Agent.agentId s.agent = agent then
        (if i.id = handler.definition.id then [now] else []) else [])
      (recorded s.ledger admission i.id after now) now.val := by
  obtain ⟨own', hown, hadmitted, hcheck⟩ := Gate.examine_ok ha
  simp only [recorded, hid]
  by_cases hpair : i.id = handler.definition.id ∧ Agent.agentId s.agent = agent
  · obtain ⟨hname, hagent⟩ := hpair
    -- the handler found is the one in question, so its policy is in force
    obtain ⟨own, hquota, hpolicy⟩ := hforce.quota
    rw [hname, hforce.registered] at hl
    injection hl with hl
    subst hl
    rw [hquota] at hown
    injection hown with hown
    subst hown
    have hin : admission.policy = some policy := hadmitted.trans hpolicy
    rw [if_pos hagent, if_pos hname, hname, hagent]
    simp only [Gate.checkQuota, hin, hagent] at hcheck
    simp only [hin]
    exact h.grant hcheck
  · have hnone : (if Agent.agentId s.agent = agent then
        (if i.id = handler.definition.id then [now] else []) else []) = [] := by
      split
      · next hagent => exact if_neg fun hname => hpair ⟨hname, hagent⟩
      · rfl
    rw [hnone, List.append_nil]
    cases hp : admission.policy with
    | none => exact h
    | some inForce =>
      refine h.other fun heq => hpair ?_
      injection heq with hname hagent
      exact ⟨hname, hagent⟩

variable (hkeeps : d.KeepsIds)
include hkeeps

theorem accounted_step {s : Session α} (i : Invocation)
    (h : Quota.Accounted dayLength policy ⟨handler.definition.id, agent⟩ times s.ledger now.val) :
    Quota.Accounted dayLength policy ⟨handler.definition.id, agent⟩
      (times ++ if Agent.agentId s.agent = agent then
        timesOf handler.definition.id now [(d.step now s i).result] else [])
      (d.step now s i).session.ledger now.val := by
  cases hr : (d.step now s i).result.isSuccess with
  | false =>
    rw [timesOf_of_not_success _ _ hr, ite_self, List.append_nil,
      d.step_ledger_of_not_success now hr]
    exact h
  | true =>
    obtain ⟨found, admission, after, effect, hl, ha, he, hs, -⟩ := d.step_success now hr
    have hid : Agent.agentId after = Agent.agentId s.agent := by
      have hk := agentId_step hkeeps now s i
      rw [hs] at hk
      exact hk
    rw [timesOf_of_success _ _ hr, d.step_directiveId now s i, hs]
    exact accounted_recorded hforce hl ha hid h

theorem accounted_steps {s : Session α} (invocations : List Invocation)
    (h : Quota.Accounted dayLength policy ⟨handler.definition.id, agent⟩ times s.ledger now.val) :
    Quota.Accounted dayLength policy ⟨handler.definition.id, agent⟩
      (times ++ if Agent.agentId s.agent = agent then
        timesOf handler.definition.id now ((d.steps now s invocations).map (·.result)) else [])
      (sessionAfter s (d.steps now s invocations)).ledger now.val := by
  induction invocations generalizing s times with
  | nil =>
    simp only [steps, List.map_nil, timesOf, List.filter_nil, ite_self, List.append_nil,
      sessionAfter_nil]
    exact h
  | cons i rest ih =>
    have hstep := ih (accounted_step hforce hkeeps i h)
    rw [agentId_step hkeeps] at hstep
    simp only [steps, sessionAfter_cons, List.map_cons]
    have hsplit : timesOf handler.definition.id now ((d.step now s i).result ::
        (d.steps now (d.step now s i).session rest).map (·.result)) =
        timesOf handler.definition.id now [(d.step now s i).result] ++
          timesOf handler.definition.id now
            ((d.steps now (d.step now s i).session rest).map (·.result)) :=
      timesOf_append _ _ [_] _
    rw [hsplit]
    split
    · next hagent =>
      simp only [hagent, if_true, List.append_assoc] at hstep
      exact hstep
    · next hagent =>
      simp only [hagent, if_false, List.append_nil] at hstep ⊢
      exact hstep

theorem accounted_dispatchAt (s : Session α) (text : String)
    (h : Quota.Accounted dayLength policy ⟨handler.definition.id, agent⟩ times s.ledger now.val) :
    Quota.Accounted dayLength policy ⟨handler.definition.id, agent⟩
      (times ++ if Agent.agentId s.agent = agent then
        timesOf handler.definition.id now (d.dispatchAt text s now).report.results else [])
      (d.dispatchAt text s now).session.ledger now.val := by
  rw [dispatchAt_results]
  by_cases hnil : (Reply.ofText text).invocations = []
  · simp only [dispatchAt_session_of_nil d now hnil, batch, hnil, steps, List.map_nil, timesOf,
      List.filter_nil, ite_self, List.append_nil]
    exact h
  · rw [dispatchAt_session d now hnil]
    have hopened : Quota.Accounted dayLength policy ⟨handler.definition.id, agent⟩ times
        (d.opened now s).ledger now.val := by
      simp only [opened, opening]
      split
      · exact h.swept
      · exact h
    exact accounted_steps hforce hkeeps _ hopened

theorem accounted_reports {seen : Nat} {ledger : Quota.Ledger} {visits : List (Visit α)}
    (h : Quota.Accounted dayLength policy ⟨handler.definition.id, agent⟩ times ledger seen)
    (hseen : ∀ visit ∈ visits, seen ≤ visit.now.val)
    (hsorted : visits.Pairwise fun earlier later => earlier.now.val ≤ later.now.val) :
    ∃ after seen, Quota.Accounted dayLength policy ⟨handler.definition.id, agent⟩
      (times ++ successTimes handler.definition.id agent (d.reports ledger visits)) after seen := by
  induction visits generalizing times ledger seen with
  | nil =>
    refine ⟨ledger, seen, ?_⟩
    simp only [reports, successTimes, List.flatMap_nil, List.append_nil]
    exact h
  | cons visit rest ih =>
    have hnow := h.later (hseen visit List.mem_cons_self)
    have hvisit := accounted_dispatchAt hforce hkeeps ⟨visit.agent, ledger⟩ visit.text hnow
    have hrest := ih hvisit (fun later hl => List.rel_of_pairwise_cons hsorted hl) hsorted.of_cons
    simp only [reports, successTimes, List.flatMap_cons] at hrest ⊢
    rw [← List.append_assoc]
    exact hrest

end Canonical

/-! ### An identifier that is not in canonical form -/

end Dispatcher

structure Guest where
  name : String

instance : Agent Guest := ⟨Guest.name⟩

/-- A directive that always succeeds, once in a day and in five ticks as far as its quota goes. -/
def applause (id : String) : Action Guest where
  definition := ⟨id, .mood, "", .moderate, [], []⟩
  canExecute _ _ := true
  quota := some ⟨some 5, some 1, none⟩
  execute guest _ _ := (guest, .ok ⟨"applauded", ""⟩)

def applauseOnly (id : String) : Dispatcher Guest :=
  ⟨.ofList [(applause id).handler], [], Config.standard⟩

theorem lookup_applauseOnly {id name : String} (h : canonicalId id = canonicalId name) :
    (applauseOnly id).catalog.lookup name = some (applause id).handler := by
  rw [applauseOnly, Catalog.ofList, List.foldl_cons, List.foldl_nil, Catalog.lookup_register]
  exact if_pos h

theorem inForce_applauseOnly (id : String) :
    (applauseOnly id).InForce (applause id).handler ⟨some 5, some 1, none⟩ :=
  ⟨lookup_applauseOnly rfl, some ⟨some 5, some 1, none⟩, rfl, rfl⟩

/-- A pair of the identifier as it stands, and the guest, is not on record: the gate opens. -/
theorem examine_applause {ledger : Quota.Ledger} {id : String} {guest : Guest} (now : Tick)
    (h : ledger.usage? ⟨id, guest.name⟩ = none) :
    ((applauseOnly id).gate ledger now).examine (applause id).handler guest [] =
      .finished (.ok ⟨none, some ⟨some 5, some 1, none⟩⟩) := by
  have hquota : Config.standard.quotaFor id (some ⟨some 5, some 1, none⟩) =
      some ⟨some 5, some 1, none⟩ := rfl
  have hcheck : ledger.check ⟨some 5, some 1, none⟩ ⟨id, guest.name⟩ now none = .ok () := by
    simp only [Quota.Ledger.check, h]
    rfl
  have hdisabled : Config.standard.isDisabled id = false := rfl
  have hvalid : (applause id).handler.definition.validate [] = .ok () := rfl
  simp only [Gate.examine, Dispatcher.gate, applauseOnly, hvalid]
  simp only [Action.handler, applause, hdisabled, Bool.false_eq_true, if_false, hquota,
    Option.map_none, Gate.checkQuota, Agent.agentId, hcheck]

theorem step_applause {id : String} (s : Session Guest) {i : Invocation} (now : Tick)
    (hid : canonicalId id = canonicalId i.id) (hp : i.params = [])
    (h : s.ledger.usage? ⟨id, s.agent.name⟩ = none) :
    ((applauseOnly id).step now s i).result = .succeeded i ⟨"applauded", ""⟩ ∧
      ((applauseOnly id).step now s i).session =
        ⟨s.agent, s.ledger.record ⟨some 5, some 1, none⟩ ⟨i.id, s.agent.name⟩ now none⟩ := by
  simp only [Dispatcher.step, lookup_applauseOnly hid, hp, examine_applause now h]
  exact ⟨rfl, rfl⟩

def askedTwice (id : String) : String :=
  Invocation.written [⟨canonicalId id, [], 0, 0⟩, ⟨canonicalId id, [], 0, 0⟩]

theorem invocations_askedTwice {id : String} (h : Nameable id) :
    ∃ first second : Invocation, (Reply.ofText (askedTwice id)).invocations = [first, second] ∧
      first.request = (canonicalId id, []) ∧ second.request = (canonicalId id, []) := by
  have hwritable : Invocation.Writable ⟨canonicalId id, [], 0, 0⟩ :=
    ⟨h.1, canonicalId_canonicalId id, h.2, fun _ hp => absurd hp List.not_mem_nil⟩
  have hall : ∀ i ∈ [(⟨canonicalId id, [], 0, 0⟩ : Invocation), ⟨canonicalId id, [], 0, 0⟩],
      i.Writable := by
    simp [hwritable]
  have hrequests := Invocation.requests_written hall
  obtain ⟨first, rest, hi, hf, hrest⟩ := List.map_eq_cons_iff.mp hrequests
  obtain ⟨second, none, rfl, hs, hn⟩ := List.map_eq_cons_iff.mp hrest
  rw [List.map_eq_nil_iff.mp hn] at hi
  exact ⟨first, second, hi, hf, hs⟩

/-- The gate looks for grants in the wrong place, so both requests succeed. -/
theorem successTimes_askedTwice {id : String} (h : Nameable id) (hne : canonicalId id ≠ id) :
    Dispatcher.successTimes (canonicalId id) ""
      ((applauseOnly id).reports (.empty 24) [⟨⟨""⟩, askedTwice id, 0⟩]) = [0, 0] := by
  obtain ⟨first, second, hi, hf, hs⟩ := invocations_askedTwice h
  obtain ⟨hfid, hfp⟩ := Prod.mk.inj hf
  obtain ⟨hsid, hsp⟩ := Prod.mk.inj hs
  have hfresh : (Quota.Ledger.empty 24).usage? ⟨id, ""⟩ = none := rfl
  have hopened : (applauseOnly id).opened 0 ⟨⟨""⟩, .empty 24⟩ = ⟨⟨""⟩, .empty 24⟩ := rfl
  obtain ⟨hfr, hfs⟩ := step_applause ⟨⟨""⟩, .empty 24⟩ 0
    (by rw [hfid, canonicalId_canonicalId]) hfp hfresh
  -- the grant stands under the canonical form, where nobody looks
  have hstill : ((applauseOnly id).step 0 ⟨⟨""⟩, .empty 24⟩ first).session.ledger.usage?
      ⟨id, ((applauseOnly id).step 0 ⟨⟨""⟩, .empty 24⟩ first).session.agent.name⟩ = none := by
    rw [hfs, Quota.usage?_record, if_neg fun heq => hne (hfid ▸ congrArg Quota.Key.directive heq)]
    rfl
  obtain ⟨hsr, -⟩ := step_applause _ 0 (by rw [hsid, canonicalId_canonicalId]) hsp hstill
  simp only [Dispatcher.reports, Dispatcher.successTimes, List.flatMap_cons, List.flatMap_nil,
    Dispatcher.dispatchAt_results, Dispatcher.batch, hopened, hi, Dispatcher.steps, List.map_cons,
    List.map_nil, hfr, hsr, Dispatcher.timesOf, Result.succeeded, Result.isSuccess, hfid, hsid,
    Agent.agentId, if_true, decide_true, Bool.and_self, List.filter_cons, List.filter_nil,
    List.append_nil]

theorem not_quotaHolds {id : String} (h : Nameable id) (hne : canonicalId id ≠ id) :
    ¬ QuotaHolds id := by
  intro hholds
  have hkeeps : ∀ handler ∈ [(applause id).handler], handler.KeepsId := by
    intro handler hm agent params context
    rw [List.mem_singleton] at hm
    subst hm
    rfl
  have hlimits := hholds Guest [(applause id).handler] [] Config.standard (applause id).handler
    ⟨some 5, some 1, none⟩ 1 5 hkeeps rfl (inForce_applauseOnly id) rfl rfl 24
    [⟨⟨""⟩, askedTwice id, 0⟩] "" (List.pairwise_singleton ..)
  have hcount := hlimits.count_le 0
  have htimes := successTimes_askedTwice h hne
  rw [applauseOnly] at htimes
  rw [htimes] at hcount
  exact absurd hcount (by decide)

/-! ### When quotas hold -/

theorem report_of_mem_reports {α : Type} [Agent α] {d : Dispatcher α} {ledger : Quota.Ledger}
    {visits : List (Visit α)} {visit : Visit α} {report : Report}
    (h : (visit, report) ∈ d.reports ledger visits) :
    ∃ s, report = (d.dispatchAt visit.text s visit.now).report := by
  induction visits generalizing ledger with
  | nil => exact absurd h List.not_mem_nil
  | cons first rest ih =>
    simp only [Dispatcher.reports] at h
    rcases List.mem_cons.mp h with h | h
    · obtain ⟨rfl, rfl⟩ := Prod.mk.inj h
      exact ⟨_, rfl⟩
    · exact ih h

theorem nameable_of_success {α : Type} [Agent α] {d : Dispatcher α} {id agent : String}
    {ledger : Quota.Ledger} {visits : List (Visit α)}
    (h : Dispatcher.successTimes (canonicalId id) agent (d.reports ledger visits) ≠ []) :
    Nameable id := by
  obtain ⟨time, ht⟩ := List.exists_mem_of_ne_nil _ h
  obtain ⟨⟨visit, report⟩, hm, ht⟩ := List.mem_flatMap.mp ht
  obtain ⟨s, rfl⟩ := report_of_mem_reports hm
  simp only at ht
  split at ht
  · obtain ⟨r, hr, -⟩ := List.mem_map.mp ht
    obtain ⟨hr, hid⟩ := List.mem_filter.mp hr
    have hid : r.directiveId = canonicalId id := of_decide_eq_true (Bool.and_eq_true_iff.mp hid).2
    rw [Dispatcher.dispatchAt_results] at hr
    obtain ⟨step, hstep, rfl⟩ := List.mem_map.mp hr
    obtain ⟨i, hi, hname⟩ := d.directiveId_of_mem_steps visit.now hstep
    rw [Invocation.ofText_invocations] at hi
    have hw := Invocation.writable_of_mem_extract hi
    have hsame : i.id = canonicalId id := hname.symm.trans hid
    exact ⟨hsame ▸ hw.named, hsame ▸ hw.id_segment⟩
  · exact absurd ht List.not_mem_nil

/-- Daily cap and cooldown hold exactly for the identifiers that are in canonical form, and for
those that no token can name. -/
theorem quotaHolds_iff (id : String) : QuotaHolds id ↔ canonicalId id = id ∨ ¬ Nameable id := by
  constructor
  · intro h
    by_cases hc : canonicalId id = id
    · exact Or.inl hc
    · exact Or.inr fun hn => not_quotaHolds hn hc h
  · intro h α _ handlers rules config handler policy cap cooldown hstable hid hforce hcap hcooldown
      dayLength visits agent hsorted
    by_cases hempty : Dispatcher.successTimes (canonicalId id) agent
        (Dispatcher.reports ⟨.ofList handlers, rules, config⟩ (.empty dayLength) visits) = []
    · rw [hempty]
      exact ⟨fun _ => Nat.zero_le _, List.Pairwise.nil⟩
    · have hc : canonicalId id = id := h.resolve_right fun hn => hn (nameable_of_success hempty)
      have hkeeps : Dispatcher.KeepsIds ⟨.ofList handlers, rules, config⟩ := fun name found hl =>
        hstable found (Catalog.lookup_ofList hl).1
      obtain ⟨after, seen, haccount⟩ := Dispatcher.accounted_reports hforce hkeeps
        (Quota.Accounted.start policy ⟨handler.definition.id, agent⟩ dayLength 0)
        (fun _ _ => Nat.zero_le _) hsorted
      rw [hid, List.nil_append] at haccount
      rw [hc]
      exact haccount.withinLimits hcap hcooldown

/-- A directive that is defined as `boost` may succeed once a day, and succeeds twice at once. -/
theorem quota_of_boost_fails :
    (applauseOnly "boost").InForce (applause "boost").handler ⟨some 5, some 1, none⟩ ∧
      Dispatcher.successTimes "BOOST" "" ((applauseOnly "boost").reports (.empty 24)
        [⟨⟨""⟩, "[ACTION:BOOST] [ACTION:BOOST]", 0⟩]) = [0, 0] ∧
      ¬ Quota.WithinLimits 24 1 5 [0, 0] ∧ ¬ QuotaHolds "boost" := by
  have hover : ¬ Quota.WithinLimits 24 1 5 [0, 0] := fun h => absurd (h.count_le 0) (by decide)
  refine ⟨inForce_applauseOnly "boost", by decide +kernel, hover, ?_⟩
  have hform : canonicalId "boost" = "BOOST" := by decide +kernel
  exact not_quotaHolds (by rw [Nameable, hform]; decide +kernel) (by rw [hform]; decide)

end ReplyActions
