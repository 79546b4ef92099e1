import Mathlib.Logic.Function.Basic
import ReplyActions.Proofs.Dispatch.Limits
import ReplyActions.Proofs.Dispatch.Sequence
import ReplyActions.Proofs.Quota.Likeness

/-!
# Agents that share a ledger

Agents take turns with one ledger between them. The others sweep it at times of their own, and have
entries of their own on record; neither makes a difference to an agent, which fares as it would
with a ledger to itself.
-/

namespace ReplyActions
open Number

/-- A reply to be carried out on one of several agents at a time. -/
structure Turn (ι : Type) where
  who : ι
  text : String
  now : Tick

namespace Dispatcher

variable {α : Type} [Agent α]

section Turns

variable {ι : Type} [DecidableEq ι]

/-- Turns one after the other: the agents afterwards, and whose reports there are. -/
def share (d : Dispatcher α) (agents : ι → α) (ledger : Quota.Ledger) :
    List (Turn ι) → (ι → α) × List (ι × Report)
  | [] => (agents, [])
  | turn :: rest =>
    let done := d.dispatchAt turn.text ⟨agents turn.who, ledger⟩ turn.now
    let others :=
      d.share (Function.update agents turn.who done.session.agent) done.session.ledger rest
    (others.1, (turn.who, done.report) :: others.2)

/-- The replies for one of the agents, with their times. -/
def repliesTo (who : ι) (turns : List (Turn ι)) : List (String × Tick) :=
  (turns.filter (·.who = who)).map fun turn => (turn.text, turn.now)

def reportsOf (who : ι) (reports : List (ι × Report)) : List Report :=
  (reports.filter (·.1 = who)).map (·.2)

variable {who : ι} {turn : Turn ι} {rest : List (Turn ι)}

theorem repliesTo_cons_self (h : turn.who = who) :
    repliesTo who (turn :: rest) = (turn.text, turn.now) :: repliesTo who rest := by
  simp only [repliesTo, List.filter_cons, h, decide_true, if_true, List.map_cons]

theorem repliesTo_cons_of_ne (h : turn.who ≠ who) :
    repliesTo who (turn :: rest) = repliesTo who rest := by
  simp only [repliesTo, List.filter_cons, h, decide_false, Bool.false_eq_true, if_false]

theorem reportsOf_cons_self {one : ι} {report : Report} {reports : List (ι × Report)}
    (h : one = who) :
    reportsOf who ((one, report) :: reports) = report :: reportsOf who reports := by
  simp only [reportsOf, List.filter_cons, h, decide_true, if_true, List.map_cons]

theorem reportsOf_cons_of_ne {one : ι} {report : Report} {reports : List (ι × Report)}
    (h : one ≠ who) : reportsOf who ((one, report) :: reports) = reportsOf who reports := by
  simp only [reportsOf, List.filter_cons, h, decide_false, Bool.false_eq_true, if_false]

end Turns

/-- The least time between two grants of a directive. -/
def waitOf (d : Dispatcher α) (id : String) : Nat :=
  match d.catalog.lookup id with
  | none => 0
  | some handler =>
    match handler.quota with
    | .crashed _ => 0
    | .finished own => ((d.config.quotaFor handler.definition.id own).map Quota.Policy.wait).getD 0

/-- The directives are found under their own identifiers, and leave the agents theirs. -/
structure IsFair (d : Dispatcher α) : Prop where
  named : ∀ id handler, d.catalog.lookup id = some handler →
    canonicalId handler.definition.id = canonicalId id
  keepsIds : d.KeepsIds

variable {d : Dispatcher α} {now seen : Tick} {s t : Session α} {other : String}

omit [Agent α] in
theorem waitOf_eq {id : String} {handler : Handler α} {own : Option Quota.Policy}
    {policy : Quota.Policy} (hl : d.catalog.lookup id = some handler)
    (hown : handler.quota = .finished own)
    (hpolicy : d.config.quotaFor handler.definition.id own = some policy) :
    d.waitOf id = policy.wait := by
  simp only [waitOf, hl, hown, hpolicy, Option.map_some, Option.getD_some]

/-! ### Entries that last -/

theorem lasts_step (i : Invocation) (h : s.ledger.Lasts d.waitOf now) :
    (d.step now s i).session.ledger.Lasts d.waitOf now := by
  rcases d.step_ledger_cases now s i with hs | ⟨handler, admission, policy, hl, ha, hp, -, hs⟩
  · rw [hs]
    exact h
  · obtain ⟨own, hown, hadmitted, -⟩ := Gate.examine_ok ha
    have hpolicy : d.config.quotaFor handler.definition.id own = some policy := hadmitted ▸ hp
    have hwait : d.waitOf i.id ≤ policy.wait := Nat.le_of_eq (waitOf_eq hl hown hpolicy)
    rw [hs]
    exact h.record policy ⟨i.id, _⟩ hwait admission.magnitude

omit [Agent α] in
theorem lasts_opened (s : Session α) (h : s.ledger.Lasts d.waitOf now) :
    (d.opened now s).ledger.Lasts d.waitOf now := by
  simp only [opened, opening_ledger]
  split
  · exact h.swept now
  · exact h

theorem lasts_dispatchAt (text : String) (h : s.ledger.Lasts d.waitOf now) :
    (d.dispatchAt text s now).session.ledger.Lasts d.waitOf now :=
  dispatchAt_invariant (P := fun s => s.ledger.Lasts d.waitOf now) lasts_opened
    (fun _ i h => lasts_step i h) h text

/-! ### The turn of another agent -/

omit [Agent α] in
theorem looksAlike_opened (agent : String) (s : Session α) :
    Quota.Ledger.LooksAlike agent now (d.opened now s).ledger s.ledger := by
  simp only [opened, opening_ledger]
  split
  · exact Quota.Ledger.looksAlike_swept agent now s.ledger
  · exact Quota.Ledger.looksAlike_refl agent now s.ledger

theorem agentId_dispatchAt (hkeeps : d.KeepsIds) (text : String) (s : Session α) :
    Agent.agentId (d.dispatchAt text s now).session.agent = Agent.agentId s.agent :=
  dispatchAt_invariant (P := fun after => Agent.agentId after.agent = Agent.agentId s.agent)
    (fun _ h => h) (fun after i h => (agentId_step hkeeps now after i).trans h) rfl text

/-- A batch makes no difference to an agent other than its own. -/
theorem looksAlike_dispatchAt (hkeeps : d.KeepsIds) (text : String)
    (hne : Agent.agentId s.agent ≠ other) :
    Quota.Ledger.LooksAlike other now (d.dispatchAt text s now).session.ledger s.ledger := by
  have hboth := dispatchAt_invariant (d := d)
    (P := fun after => Agent.agentId after.agent = Agent.agentId s.agent ∧
      Quota.Ledger.LooksAlike other now after.ledger s.ledger)
    (fun after h => ⟨h.1, (looksAlike_opened other after).trans h.2⟩)
    (fun after i h => ?_) ⟨rfl, Quota.Ledger.looksAlike_refl other now s.ledger⟩ text
  · exact hboth.2
  · have hid := (agentId_step hkeeps now after i).trans h.1
    refine ⟨hid, ?_⟩
    rcases d.step_ledger_cases now after i with hs | ⟨-, admission, policy, -, -, -, -, hs⟩
    · rw [hs]
      exact h.2
    · rw [hs, hid]
      exact (Quota.Ledger.looksAlike_record hne admission.magnitude).trans h.2

/-! ### The agent's own turn -/

/-- The sessions have the same agent, and their ledgers look alike to it. -/
structure Alike (d : Dispatcher α) (now : Tick) (s t : Session α) : Prop where
  agent : s.agent = t.agent
  ledger : Quota.Ledger.LooksAlike (Agent.agentId s.agent) now s.ledger t.ledger
  lastsLeft : s.ledger.Lasts d.waitOf now
  lastsRight : t.ledger.Lasts d.waitOf now

theorem Alike.later (h : d.Alike seen s t) (hn : seen.val ≤ now.val) : d.Alike now s t :=
  ⟨h.agent, h.ledger.later h.lastsLeft h.lastsRight hn, h.lastsLeft.later hn,
    h.lastsRight.later hn⟩

theorem Alike.opened (h : d.Alike now s t) : d.Alike now (d.opened now s) (d.opened now t) :=
  ⟨h.agent, ((looksAlike_opened _ s).trans h.ledger).trans (looksAlike_opened _ t).symm,
    lasts_opened s h.lastsLeft, lasts_opened t h.lastsRight⟩

theorem Alike.other_turn {agent someone : α} {ledger : Quota.Ledger} (hkeeps : d.KeepsIds)
    (h : d.Alike now ⟨agent, ledger⟩ t) (hne : Agent.agentId someone ≠ Agent.agentId agent)
    (text : String) :
    d.Alike now ⟨agent, (d.dispatchAt text ⟨someone, ledger⟩ now).session.ledger⟩ t :=
  ⟨h.agent, (looksAlike_dispatchAt hkeeps text hne).trans h.ledger,
    lasts_dispatchAt text h.lastsLeft, h.lastsRight⟩

theorem looksAlike_recorded {a b : Quota.Ledger} {agent : α}
    (h : Quota.Ledger.LooksAlike (Agent.agentId agent) now a b) (admission : Admission)
    (id : String) :
    Quota.Ledger.LooksAlike (Agent.agentId agent) now (recorded a admission id agent now)
      (recorded b admission id agent now) := by
  simp only [recorded]
  cases admission.policy with
  | none => exact h
  | some policy => exact h.record policy id admission.magnitude

variable (hfair : d.IsFair)
include hfair

theorem examine_alike {a b : Quota.Ledger} {id : String} {handler : Handler α} {agent : α}
    (hl : d.catalog.lookup id = some handler)
    (h : Quota.Ledger.LooksAlike (Agent.agentId agent) now a b) (ha : a.Lasts d.waitOf now)
    (hb : b.Lasts d.waitOf now) (params : Params) :
    (d.gate a now).examine handler agent params = (d.gate b now).examine handler agent params := by
  refine Gate.examine_congr rfl fun own magnitude hown => ?_
  simp only [gate, Gate.checkQuota]
  cases hpolicy : d.config.quotaFor handler.definition.id own with
  | none => rfl
  | some policy =>
    -- the gate asks under the identifier of the definition, which finds the same directive
    have hsame : d.catalog.lookup handler.definition.id = some handler := by
      rw [← hl, Catalog.lookup, Catalog.lookup, hfair.named id handler hl]
    exact h.check ha hb (Nat.le_of_eq (waitOf_eq hsame hown hpolicy).symm) magnitude

theorem step_alike (h : d.Alike now s t) (i : Invocation) :
    (d.step now s i).session.agent = (d.step now t i).session.agent ∧
      Quota.Ledger.LooksAlike (Agent.agentId (d.step now s i).session.agent) now
        (d.step now s i).session.ledger (d.step now t i).session.ledger ∧
      (d.step now s i).result = (d.step now t i).result := by
  obtain ⟨agent, a⟩ := s
  obtain ⟨agent', b⟩ := t
  obtain rfl : agent = agent' := h.agent
  simp only [Dispatcher.step]
  cases hl : d.catalog.lookup i.id with
  | none => exact ⟨rfl, h.ledger, rfl⟩
  | some handler =>
    simp only
    rw [examine_alike hfair hl h.ledger h.lastsLeft h.lastsRight i.params]
    rcases (d.gate b now).examine handler agent i.params with (refusal | admission) | message
    · exact ⟨rfl, h.ledger, rfl⟩
    · have hid := hfair.keepsIds i.id handler hl agent i.params
        ⟨now, admission.magnitude, d.config.effects⟩
      simp only [perform]
      generalize handler.execute agent i.params ⟨now, admission.magnitude, d.config.effects⟩ = done
        at hid ⊢
      have hledger : Quota.Ledger.LooksAlike (Agent.agentId done.1) now a b := by
        rw [hid]
        exact h.ledger
      obtain ⟨after, (failure | effect) | message⟩ := done
      · exact ⟨rfl, hledger, rfl⟩
      · exact ⟨rfl, looksAlike_recorded hledger admission i.id, rfl⟩
      · exact ⟨rfl, hledger, rfl⟩
    · exact ⟨rfl, h.ledger, rfl⟩

theorem Alike.step (h : d.Alike now s t) (i : Invocation) :
    d.Alike now (d.step now s i).session (d.step now t i).session ∧
      (d.step now s i).result = (d.step now t i).result := by
  obtain ⟨hagent, hledger, hresult⟩ := step_alike hfair h i
  exact ⟨⟨hagent, hledger, lasts_step i h.lastsLeft, lasts_step i h.lastsRight⟩, hresult⟩

theorem Alike.steps (h : d.Alike now s t) (invocations : List Invocation) :
    d.Alike now (sessionAfter s (d.steps now s invocations))
        (sessionAfter t (d.steps now t invocations)) ∧
      (d.steps now s invocations).map (·.result) = (d.steps now t invocations).map (·.result) := by
  induction invocations generalizing s t with
  | nil => exact ⟨h, rfl⟩
  | cons i rest ih =>
    obtain ⟨hstep, hresult⟩ := h.step hfair i
    obtain ⟨hafter, hresults⟩ := ih hstep
    simp only [Dispatcher.steps, sessionAfter_cons, List.map_cons, hresult, hresults]
    exact ⟨hafter, True.intro⟩

theorem Alike.dispatchAt (h : d.Alike now s t) (text : String) :
    d.Alike now (d.dispatchAt text s now).session (d.dispatchAt text t now).session ∧
      (d.dispatchAt text s now).report = (d.dispatchAt text t now).report := by
  obtain ⟨hafter, hresults⟩ := h.opened.steps hfair (Reply.ofText text).invocations
  refine ⟨?_, ?_⟩
  · by_cases hnil : (Reply.ofText text).invocations = []
    · rw [dispatchAt_session_of_nil d now hnil, dispatchAt_session_of_nil d now hnil]
      exact h
    · rw [dispatchAt_session d now hnil, dispatchAt_session d now hnil]
      exact hafter
  · rw [dispatchAt_report, dispatchAt_report, batch, batch, hresults]

/-! ### Turns one after the other -/

omit hfair in
theorem agentId_update {ι : Type} [DecidableEq ι] (hkeeps : d.KeepsIds) (agents : ι → α)
    (ledger : Quota.Ledger) (turn : Turn ι) (one : ι) :
    Agent.agentId (Function.update agents turn.who
        (d.dispatchAt turn.text ⟨agents turn.who, ledger⟩ turn.now).session.agent one) =
      Agent.agentId (agents one) := by
  by_cases hone : one = turn.who
  · rw [hone, Function.update_self]
    exact agentId_dispatchAt hkeeps turn.text ⟨agents turn.who, ledger⟩
  · rw [Function.update_of_ne hone]

/-- An agent fares with others as it would by itself. -/
theorem share_eq_dispatchAll {ι : Type} [DecidableEq ι] {who : ι} {agents : ι → α}
    {ledger : Quota.Ledger} {own : Session α} {turns : List (Turn ι)}
    (h : d.Alike seen ⟨agents who, ledger⟩ own)
    (hids : ∀ one, one ≠ who → Agent.agentId (agents one) ≠ Agent.agentId (agents who))
    (hseen : ∀ turn ∈ turns, seen.val ≤ turn.now.val)
    (hsorted : turns.Pairwise fun earlier later => earlier.now.val ≤ later.now.val) :
    (d.share agents ledger turns).1 who = (d.dispatchAll own (repliesTo who turns)).1.agent ∧
      reportsOf who (d.share agents ledger turns).2 =
        (d.dispatchAll own (repliesTo who turns)).2 := by
  induction turns generalizing agents ledger own seen with
  | nil => exact ⟨h.agent, rfl⟩
  | cons turn rest ih =>
    have hnow := h.later (hseen turn List.mem_cons_self)
    have hlater : ∀ later ∈ rest, turn.now.val ≤ later.now.val := fun later hl =>
      List.rel_of_pairwise_cons hsorted hl
    let done := d.dispatchAt turn.text ⟨agents turn.who, ledger⟩ turn.now
    let after := Function.update agents turn.who done.session.agent
    have hids' : ∀ one, one ≠ who → Agent.agentId (after one) ≠ Agent.agentId (after who) := by
      intro one hone
      simp only [after, done]
      rw [agentId_update hfair.keepsIds, agentId_update hfair.keepsIds]
      exact hids one hone
    by_cases hwho : turn.who = who
    · -- the same reply in both runs
      subst hwho
      obtain ⟨halike, hreport⟩ := hnow.dispatchAt hfair turn.text
      have hself : after turn.who = done.session.agent := Function.update_self ..
      have hnext : d.Alike turn.now ⟨after turn.who, done.session.ledger⟩
          (d.dispatchAt turn.text own turn.now).session := by
        rw [hself]
        exact halike
      obtain ⟨hagent, hreports⟩ := ih hnext hids' hlater hsorted.of_cons
      rw [repliesTo_cons_self rfl]
      simp only [share, dispatchAll]
      rw [reportsOf_cons_self rfl]
      exact ⟨hagent, congrArg₂ List.cons hreport hreports⟩
    · -- a reply for someone else, which only the shared run has
      have hself : after who = agents who := Function.update_of_ne (Ne.symm hwho) ..
      have hnext : d.Alike turn.now ⟨after who, done.session.ledger⟩ own := by
        rw [hself]
        exact hnow.other_turn hfair.keepsIds (hids turn.who hwho) turn.text
      obtain ⟨hagent, hreports⟩ := ih hnext hids' hlater hsorted.of_cons
      rw [repliesTo_cons_of_ne hwho]
      simp only [share]
      rw [reportsOf_cons_of_ne hwho]
      exact ⟨hagent, hreports⟩

end Dispatcher

end ReplyActions
