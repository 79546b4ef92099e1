import ReplyActions.Gate

/-!
# What the gate decides

The hooks of a directive are asked one after the other, each one only if nothing has stood in the
way by then. An examination breaks down, refuses or admits, and these are the conditions for each
of the three.
-/

namespace ReplyActions.Gate

variable {α : Type} [Agent α]

section Stages

variable (gate : Gate) (handler : Handler α) (agent : α) (params : Params)

/-- The directive is switched on and the values fit its parameters. -/
structure Reaches : Prop where
  enabled : gate.config.isDisabled handler.definition.id = false
  fits : handler.definition.validate params = .ok ()

/-- The directive's own condition holds as well. -/
structure Consents : Prop extends gate.Reaches handler params where
  condition : handler.canExecute agent params = .finished true

/-- The hooks for magnitude and quota have answered: the values that the quota is checked with. -/
structure Weighs (admission : Admission) : Prop extends gate.Consents handler agent params where
  magnitude : ∃ value, handler.magnitude params = .finished value ∧
    admission.magnitude = value.map (clampMagnitude · gate.config.effects.magnitudeLimit)
  policy : ∃ own, handler.quota = .finished own ∧
    admission.policy = gate.config.quotaFor handler.definition.id own

/-- A hook that is reached breaks down. -/
inductive Breaks : Option String → Prop
  | condition {message : Option String} (reaches : gate.Reaches handler params)
      (crash : handler.canExecute agent params = .crashed message) : Breaks message
  | magnitude {message : Option String} (consents : gate.Consents handler agent params)
      (crash : handler.magnitude params = .crashed message) : Breaks message
  | quota {message : Option String} {value : Option Number.Whole}
      (consents : gate.Consents handler agent params)
      (passed : handler.magnitude params = .finished value)
      (crash : handler.quota = .crashed message) : Breaks message

/-- The first obstacle that an invocation meets. -/
inductive Refuses : Refusal → Prop
  | disabled (off : gate.config.isDisabled handler.definition.id = true) : Refuses .disabled
  | unfit {fault : SchemaError} (enabled : gate.config.isDisabled handler.definition.id = false)
      (misfit : handler.definition.validate params = .error fault) :
      Refuses (.invalidParameters fault)
  | condition (reaches : gate.Reaches handler params)
      (refused : handler.canExecute agent params = .finished false) : Refuses .precondition
  | quota {admission : Admission} {policy : Quota.Policy} {denial : Quota.Denial}
      (weighs : gate.Weighs handler agent params admission)
      (inForce : admission.policy = some policy)
      (denied : gate.ledger.check policy ⟨handler.definition.id, Agent.agentId agent⟩ gate.now
        admission.magnitude = .error denial) : Refuses (.quota denial)

/-- Nothing stands in the way, and the quota in force, if there is one, leaves room. -/
structure Admits (admission : Admission) : Prop
    extends gate.Weighs handler agent params admission where
  room : ∀ policy, admission.policy = some policy →
    gate.ledger.check policy ⟨handler.definition.id, Agent.agentId agent⟩ gate.now
      admission.magnitude = .ok ()

/-- What an examination has to come to. -/
def Decides : Attempt (Except Refusal Admission) → Prop
  | .crashed message => gate.Breaks handler agent params message
  | .finished (.error refusal) => gate.Refuses handler agent params refusal
  | .finished (.ok admission) => gate.Admits handler agent params admission

end Stages

variable {gate : Gate} {handler : Handler α} {agent : α} {params : Params}

theorem checkQuota_eq_ok_iff {policy : Option Quota.Policy} {id : String}
    {magnitude : Option Number.Points} :
    gate.checkQuota policy id agent magnitude = .ok () ↔
      ∀ inForce, policy = some inForce →
        gate.ledger.check inForce ⟨id, Agent.agentId agent⟩ gate.now magnitude = .ok () := by
  cases policy with
  | none => simp only [checkQuota, reduceCtorEq, false_implies, implies_true]
  | some inForce => simp only [checkQuota, Option.some.injEq, forall_eq']

theorem checkQuota_eq_error_iff {policy : Option Quota.Policy} {id : String}
    {magnitude : Option Number.Points} {denial : Quota.Denial} :
    gate.checkQuota policy id agent magnitude = .error denial ↔
      ∃ inForce, policy = some inForce ∧
        gate.ledger.check inForce ⟨id, Agent.agentId agent⟩ gate.now magnitude =
          .error denial := by
  cases policy with
  | none => simp only [checkQuota, reduceCtorEq, false_and, exists_false]
  | some inForce => simp only [checkQuota, Option.some.injEq, exists_eq_left']

/-! ### From the conditions to the decision -/

theorem Weighs.examine {admission : Admission} {room : Except Quota.Denial Unit}
    (h : gate.Weighs handler agent params admission)
    (hroom : gate.checkQuota admission.policy handler.definition.id agent admission.magnitude =
      room) :
    gate.examine handler agent params =
      .finished ((room.mapError Refusal.quota).map fun _ => admission) := by
  obtain ⟨value, hvalue, hmagnitude⟩ := h.magnitude
  obtain ⟨own, hown, hpolicy⟩ := h.policy
  obtain ⟨magnitude, policy⟩ := admission
  simp only at hmagnitude hpolicy hroom
  subst hmagnitude hpolicy
  simp only [Gate.examine, h.enabled, h.fits, h.condition, hvalue, hown, hroom,
    Bool.false_eq_true, if_false]
  cases room with
  | error denial => rfl
  | ok fine => rfl

theorem Breaks.examine {message : Option String}
    (h : gate.Breaks handler agent params message) :
    gate.examine handler agent params = .crashed message := by
  cases h with
  | condition reaches crash =>
    simp only [Gate.examine, reaches.enabled, reaches.fits, crash, Bool.false_eq_true, if_false]
  | magnitude consents crash =>
    simp only [Gate.examine, consents.enabled, consents.fits, consents.condition, crash,
      Bool.false_eq_true, if_false]
  | quota consents passed crash =>
    simp only [Gate.examine, consents.enabled, consents.fits, consents.condition, passed, crash,
      Bool.false_eq_true, if_false]

theorem Refuses.examine {refusal : Refusal} (h : gate.Refuses handler agent params refusal) :
    gate.examine handler agent params = .finished (.error refusal) := by
  cases h with
  | disabled off => simp only [Gate.examine, off, if_true]
  | unfit enabled misfit =>
    simp only [Gate.examine, enabled, misfit, Bool.false_eq_true, if_false]
  | condition reaches refused =>
    simp only [Gate.examine, reaches.enabled, reaches.fits, refused, Bool.false_eq_true, if_false]
  | quota weighs inForce denied =>
    rw [weighs.examine (checkQuota_eq_error_iff.mpr ⟨_, inForce, denied⟩)]
    rfl

theorem Admits.examine {admission : Admission}
    (h : gate.Admits handler agent params admission) :
    gate.examine handler agent params = .finished (.ok admission) := by
  rw [h.toWeighs.examine (checkQuota_eq_ok_iff.mpr h.room)]
  rfl

theorem Decides.examine {decision : Attempt (Except Refusal Admission)}
    (h : gate.Decides handler agent params decision) :
    gate.examine handler agent params = decision := by
  cases decision with
  | crashed message => exact Breaks.examine h
  | finished ruling =>
    cases ruling with
    | error refusal => exact Refuses.examine h
    | ok admission => exact Admits.examine h

/-! ### From the decision to the conditions -/

theorem exists_decides (gate : Gate) (handler : Handler α) (agent : α) (params : Params) :
    ∃ decision, gate.Decides handler agent params decision := by
  cases henabled : gate.config.isDisabled handler.definition.id with
  | true => exact ⟨.finished (.error .disabled), .disabled henabled⟩
  | false =>
    cases hfits : handler.definition.validate params with
    | error fault =>
      exact ⟨.finished (.error (.invalidParameters fault)), .unfit henabled hfits⟩
    | ok fine =>
      have hreaches : gate.Reaches handler params := ⟨henabled, hfits⟩
      cases hcondition : handler.canExecute agent params with
      | crashed message => exact ⟨.crashed message, .condition hreaches hcondition⟩
      | finished holds =>
        cases holds with
        | false => exact ⟨.finished (.error .precondition), .condition hreaches hcondition⟩
        | true =>
          have hconsents : gate.Consents handler agent params := ⟨hreaches, hcondition⟩
          cases hvalue : handler.magnitude params with
          | crashed message => exact ⟨.crashed message, .magnitude hconsents hvalue⟩
          | finished value =>
            cases hown : handler.quota with
            | crashed message => exact ⟨.crashed message, .quota hconsents hvalue hown⟩
            | finished own =>
              let admission : Admission :=
                ⟨value.map (clampMagnitude · gate.config.effects.magnitudeLimit),
                  gate.config.quotaFor handler.definition.id own⟩
              have hweighs : gate.Weighs handler agent params admission :=
                ⟨hconsents, ⟨value, hvalue, rfl⟩, ⟨own, hown, rfl⟩⟩
              cases hroom : gate.checkQuota admission.policy handler.definition.id agent
                  admission.magnitude with
              | error denial =>
                obtain ⟨policy, hpolicy, hdenied⟩ := checkQuota_eq_error_iff.mp hroom
                exact ⟨.finished (.error (.quota denial)), .quota hweighs hpolicy hdenied⟩
              | ok fine =>
                exact ⟨.finished (.ok admission), hweighs, checkQuota_eq_ok_iff.mp hroom⟩

/-- An examination comes to a decision exactly where the conditions for it are met. -/
theorem examine_eq_iff {decision : Attempt (Except Refusal Admission)} :
    gate.examine handler agent params = decision ↔
      gate.Decides handler agent params decision := by
  refine ⟨fun h => ?_, Decides.examine⟩
  obtain ⟨other, ho⟩ := gate.exists_decides handler agent params
  rw [← h, ho.examine]
  exact ho

theorem examine_ok {admission : Admission}
    (h : gate.examine handler agent params = .finished (.ok admission)) :
    ∃ own, handler.quota = .finished own ∧
      admission.policy = gate.config.quotaFor handler.definition.id own ∧
      gate.checkQuota admission.policy handler.definition.id agent admission.magnitude =
        .ok () := by
  have hadmits : gate.Admits handler agent params admission := examine_eq_iff.mp h
  obtain ⟨own, hown, hpolicy⟩ := hadmits.policy
  exact ⟨own, hown, hpolicy, checkQuota_eq_ok_iff.mpr hadmits.room⟩

theorem examine_congr {gate' : Gate} (hconfig : gate.config = gate'.config)
    (hquota : ∀ own magnitude, handler.quota = .finished own →
      gate.checkQuota (gate'.config.quotaFor handler.definition.id own) handler.definition.id agent
          magnitude =
        gate'.checkQuota (gate'.config.quotaFor handler.definition.id own) handler.definition.id
          agent magnitude) :
    gate.examine handler agent params = gate'.examine handler agent params := by
  simp only [examine, hconfig]
  cases hown : handler.quota with
  | crashed message => rfl
  | finished own => simp only [fun magnitude => hquota own magnitude hown]

end ReplyActions.Gate
