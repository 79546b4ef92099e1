import ReplyActions.Proofs.Directive.Reading
import ReplyActions.Proofs.Gate
import ReplyActions.Proofs.Standard.WellFormed

/-!
# What the gate lets through can be carried out

A directive looks its target up twice: in its condition, for the gate, and again when it is carried
out. The two agree as long as texts are cut to the length that the gate takes for granted. So an
admitted directive never finds that its target is not there.
-/

namespace ReplyActions.Standard
open Number Colonist

/-- The parameter of a directive that is a count, and the greatest value stated for it. -/
def greatestCount? : String → Option (String × Nat)
  | "GAIN_XP" => some ("xp", 2000)
  | "SATISFY_NEED" => some ("amount", 100)
  | "GIVE_ITEM" => some ("count", 75)
  | "DROP_ITEM" => some ("count", 4294967295)
  | _ => none

/-- What can come of a directive that has been admitted. -/
inductive Settles (d : Definition) (params : Params) : Except Failure Effect → Prop where
  | success (effect : Effect) : Settles d params (.ok effect)
  | rejected {message : String} (hid : d.id ≠ "REGROW_LIMB") :
    Settles d params (.error (.rejected message))
  | blankText {index : Nat} {name raw : String} {needed : Bool}
    (hspec : d.params[index]? = some ⟨name, .text, needed⟩)
    (hraw : params.text? index = some raw) (hblank : Text.cleaned raw 80 = "") :
    Settles d params (.error (.invalidParameter name
      (Text.quoted raw ++ " is empty after cleanup")))
  | count {name : String} {max : Nat} {value : Whole}
    (hmax : greatestCount? d.id = some (name, max)) (hvalue : params.whole? 1 = some value)
    (houtside : value.val < 1 ∨ max < value.val) :
    Settles d params (.error (.invalidParameter name
      (intText value.val ++ " is outside 1..=" ++ natText max)))
  | priority {value : Whole} (hid : d.id = "SET_WORK_PRIORITY")
    (hvalue : params.whole? 1 = some value) (houtside : value.val < 0 ∨ 4 < value.val) :
    Settles d params (.error (.invalidParameter "priority" "expected 0..=4"))

/-- What the gate has made sure of when a directive is carried out. -/
structure Admitted (action : Action Colonist) (c : Colonist) (params : Params)
    (context : Context) : Prop where
  fits : action.definition.validate params = .ok ()
  condition : action.canExecute c params = true
  magnitude : context.magnitude.isSome = (action.magnitude params).isSome
  length : context.settings.maxTextLength.val = 80

def Agrees (action : Action Colonist) : Prop :=
  ∀ c params context, Admitted action c params context →
    Settles action.definition params (action.execute c params context).2

/-! ### Values -/

variable {d : Definition} {params : Params}

theorem settles_cleanedText {context : Context} {index : Nat} {name raw : String} {needed : Bool}
    {failure : Failure} (h : cleanedText params index name context = .error failure)
    (hlength : context.settings.maxTextLength.val = 80) (hraw : params.text? index = some raw)
    (hspec : d.params[index]? = some ⟨name, .text, needed⟩) :
    Settles d params (.error failure) := by
  simp only [cleanedText, hraw, Option.getD_some, Context.cleaned, hlength] at h
  split at h
  · next hblank =>
    rw [← Except.error.inj h]
    exact .blankText hspec hraw hblank
  · simp only [reduceCtorEq] at h

theorem settles_countAt {name : String} {default max : Amount} {failure : Failure}
    (hmax : greatestCount? d.id = some (name, max.val))
    (h : countAt params 1 name default max = .error failure) :
    Settles d params (.error failure) := by
  unfold countAt at h
  split at h
  · contradiction
  · next value hvalue =>
    split at h
    · next count hcount =>
      split at h
      · contradiction
      · next houtside =>
        have hsame := Unsigned.val_of_ofInt? hcount
        rw [← Except.error.inj h]
        exact .count hmax hvalue (by omega)
    · next hnone =>
      -- what is no amount at all lies outside every range of amounts
      have hfits := max.val_le
      simp only [Unsigned.ofInt?] at hnone
      split at hnone
      · contradiction
      · rw [← Except.error.inj h]
        exact .count hmax hvalue (by omega)

theorem Admitted.exists_text? {action : Action Colonist} {c : Colonist} {context : Context}
    (h : Admitted action c params context) {spec : ParamSpec} {specs : List ParamSpec}
    (hspecs : action.definition.params = spec :: specs) (hrequired : spec.required = true) :
    ∃ value, params.text? 0 = some value :=
  Definition.exists_text?_of_validate h.fits hspecs hrequired

theorem exists_whole?_of_validate (index : Nat) {name : String} (h : d.validate params = .ok ())
    (hspec : d.params[index]? = some (required name .integer)) (hlt : index < d.requiredCount) :
    ∃ value, params.whole? index = some value := by
  have hcount := Definition.requiredCount_le_of_validate h
  have hraw : params[index]? = some params[index] := List.getElem?_eq_getElem (by omega)
  exact Definition.isRead_of_validate h hspec hraw

/-! ### Body -/

theorem settles_healed {c : Colonist} {kept gone : List Injury} (h : gone ≠ []) :
    Settles d params (healed c kept gone).2 := by
  cases gone with
  | nil => contradiction
  | cons first rest => exact .success _

theorem worstInjury?_cons (first : Injury) (rest : List Injury) :
    worstInjury? (first :: rest) ≠ none := by
  simp only [worstInjury?]
  split
  · split
    · simp only [ne_eq, reduceCtorEq, not_false_eq_true]
    · simp only [ne_eq, reduceCtorEq, not_false_eq_true]
  · simp only [ne_eq, reduceCtorEq, not_false_eq_true]

theorem heal_agrees : Agrees heal := by
  intro c params context h
  obtain ⟨⟨-, hinjured⟩, hpart⟩ : (c.alive = true ∧ c.isInjured = true) ∧
      holdsAt params 0 c.hasInjuryOn = true := by
    simpa [heal] using h.condition
  simp only [heal]
  split
  · next part ht =>
    rw [holdsAt_of_text? ht] at hpart
    obtain ⟨injury, hm, hsame⟩ := List.any_eq_true.mp hpart
    exact settles_healed (List.ne_nil_of_mem (List.mem_filter.mpr ⟨hm, hsame⟩))
  · split
    · exact settles_healed (List.cons_ne_nil _ _)
    · next hnone =>
      cases hc : c.injuries with
      | nil => simp [isInjured, hc] at hinjured
      | cons first rest => exact absurd (hc ▸ hnone) (worstInjury?_cons first rest)

theorem restorePart_of_isMissing {c : Colonist} {part : String} (h : c.isMissing part = true) :
    ∃ restored after, c.restorePart part = (some restored, after) := by
  obtain ⟨missing, hm, hsame⟩ := List.any_eq_true.mp h
  simp only [restorePart]
  split
  · next index hindex =>
    obtain ⟨hlt, -⟩ := List.findIdx?_eq_some_iff_getElem.mp hindex
    exact ⟨_, _, by rw [List.getElem?_eq_getElem hlt]⟩
  · next hnone =>
    have hother := List.findIdx?_eq_none_iff.mp hnone missing hm
    rw [hsame] at hother
    contradiction

theorem regrowLimb_agrees : Agrees regrowLimb := by
  intro c params context h
  obtain ⟨raw, hraw⟩ := h.exists_text? rfl rfl
  obtain ⟨-, hmissing⟩ : c.alive = true ∧ c.isMissing (lookupLabel raw) = true := by
    simpa [regrowLimb, holdsAt_of_text? hraw] using h.condition
  simp only [regrowLimb]
  split
  · next failure hfailure => exact settles_cleanedText hfailure h.length hraw rfl
  · next part hpart =>
    have hsame : part = lookupLabel raw := by
      simp only [cleanedText, hraw, Option.getD_some, cleaned_eq_lookupLabel h.length] at hpart
      split at hpart
      · simp only [reduceCtorEq] at hpart
      · exact (Except.ok.inj hpart).symm
    obtain ⟨restored, after, hrestored⟩ := restorePart_of_isMissing hmissing
    rw [hsame, hrestored]
    exact .success _

/-! ### Mind -/

/-- The mood has to be given as an integer, so the gate has a magnitude to pass on. -/
theorem Admitted.magnitude_isSome {c : Colonist} {context : Context}
    (h : Admitted addThought c params context) : context.magnitude.isSome = true := by
  obtain ⟨value, hvalue⟩ := exists_whole?_of_validate 0 h.fits rfl (by decide)
  rw [h.magnitude]
  exact Option.isSome_iff_exists.mpr ⟨value, hvalue⟩

theorem addThought_agrees : Agrees addThought := by
  intro c params context h
  have hmagnitude := h.magnitude_isSome
  simp only [addThought]
  split
  · next hnone =>
    rw [hnone] at hmagnitude
    contradiction
  · split
    · exact .rejected (by decide)
    · split
      · next failure hfailure =>
        unfold thoughtLabel at hfailure
        split at hfailure
        · next hlabel =>
          obtain ⟨raw, hraw⟩ := Option.isSome_iff_exists.mp hlabel
          exact settles_cleanedText hfailure h.length hraw rfl
        · contradiction
      · exact .success _

theorem removeThought_agrees : Agrees removeThought := by
  intro c params context h
  obtain ⟨raw, hraw⟩ := h.exists_text? rfl rfl
  obtain ⟨-, hfound⟩ : (c.alive = true ∧ c.thoughts.isEmpty = false) ∧
      (c.thoughtIndex? (lookupLabel raw)).isSome = true := by
    simpa [removeThought, holdsAt_of_text? hraw] using h.condition
  simp only [removeThought, hraw, Option.getD_some, cleaned_eq_lookupLabel h.length]
  split
  · next hnone =>
    rw [thoughtIndex?, List.findIdx?_isSome] at hfound
    rw [List.find?_eq_none] at hnone
    obtain ⟨thought, hm, hsame⟩ := List.any_eq_true.mp hfound
    exact absurd hsame (hnone thought hm)
  · exact .success _

theorem addTrait_agrees : Agrees addTrait := by
  intro c params context h
  obtain ⟨raw, hraw⟩ := h.exists_text? rfl rfl
  simp only [addTrait]
  split
  · next failure hfailure => exact settles_cleanedText hfailure h.length hraw rfl
  · split
    · exact .rejected (by decide)
    · exact .success _

theorem removeTrait_agrees : Agrees removeTrait := by
  intro c params context h
  obtain ⟨raw, hraw⟩ := h.exists_text? rfl rfl
  obtain ⟨-, hfound⟩ : (c.alive = true ∧ c.traits.isEmpty = false) ∧ c.hasTrait raw = true := by
    simpa [removeTrait, holdsAt_of_text? hraw] using h.condition
  simp only [removeTrait, hraw, Option.getD_some]
  split
  · next hnone =>
    rw [List.find?_eq_none] at hnone
    obtain ⟨known, hm, hsame⟩ := List.any_eq_true.mp hfound
    exact absurd hsame (hnone known hm)
  · exact .success _

theorem inspire_agrees : Agrees inspire := fun _ _ _ _ => .success _

/-! ### Relations -/

theorem changeOpinion_agrees : Agrees changeOpinion := fun _ _ _ _ => .success _

theorem reduceResistance_agrees : Agrees reduceResistance := by
  intro c params context h
  obtain ⟨-, hcaptive⟩ : c.alive = true ∧ c.isCaptive = true := by
    simpa [reduceResistance] using h.condition
  obtain ⟨captivity, hc⟩ := Option.isSome_iff_exists.mp hcaptive
  simp only [reduceResistance, hc]
  exact .success _

theorem recruit_agrees : Agrees recruit := by
  intro c params context h
  obtain ⟨-, hwon⟩ : c.alive = true ∧ isWonOver c = true := by
    simpa [recruit] using h.condition
  unfold isWonOver at hwon
  split at hwon
  · next captivity hc =>
    simp only [recruit, hc]
    exact .success _
  · contradiction

theorem releasePrisoner_agrees : Agrees releasePrisoner := by
  intro c params context h
  obtain ⟨-, hcaptive⟩ : c.alive = true ∧ c.isCaptive = true := by
    simpa [releasePrisoner] using h.condition
  obtain ⟨captivity, hc⟩ := Option.isSome_iff_exists.mp hcaptive
  simp only [releasePrisoner, hc]
  exact .success _

/-! ### Labour -/

theorem gainXp_agrees : Agrees gainXp := by
  intro c params context h
  obtain ⟨raw, hraw⟩ := h.exists_text? rfl rfl
  obtain ⟨-, hknown⟩ : (c.alive = true ∧ c.skills.isEmpty = false) ∧
      c.skills.contains (mapKey raw) = true := by
    simpa [gainXp, holdsAt_of_text? hraw] using h.condition
  obtain ⟨skill, hskill⟩ := Option.isSome_iff_exists.mp hknown
  simp only [gainXp, keyAt_of_text? hraw, hskill]
  split
  · next failure hfailure => exact settles_countAt rfl hfailure
  · split
    · exact .rejected (by decide)
    · exact .success _

theorem outside_of_priorityAt? {index : Nat} {value : Whole}
    (hvalue : params.whole? index = some value) (h : priorityAt? params index = none) :
    value.val < 0 ∨ 4 < value.val := by
  rw [priorityAt?, hvalue, Option.bind_some, Option.filter_eq_none_iff] at h
  by_contra hinside
  have hfits : 0 ≤ value.val ∧ value.val ≤ (255 : Nat) := by omega
  have hgrade : (Unsigned.ofInt? value.val : Option Grade) = some ⟨value.val.toNat, by omega⟩ :=
    dif_pos hfits
  apply h _ hgrade
  rw [decide_eq_true_eq, maxWorkPriority]
  simp only
  omega

theorem setWorkPriority_agrees : Agrees setWorkPriority := by
  intro c params context h
  obtain ⟨value, hvalue⟩ := exists_whole?_of_validate 1 h.fits rfl (by decide)
  simp only [setWorkPriority]
  split
  · next hnone => exact .priority rfl hvalue (outside_of_priorityAt? hvalue hnone)
  · split
    · exact .rejected (by decide)
    · exact .success _

theorem goTo_agrees : Agrees goTo := by
  intro c params context h
  obtain ⟨raw, hraw⟩ := h.exists_text? rfl rfl
  simp only [goTo]
  split
  · next failure hfailure => exact settles_cleanedText hfailure h.length hraw rfl
  · split
    · exact .rejected (by decide)
    · exact .success _

/-! ### Supplies -/

theorem satisfyNeed_agrees : Agrees satisfyNeed := by
  intro c params context h
  obtain ⟨raw, hraw⟩ := h.exists_text? rfl rfl
  obtain ⟨-, htracked⟩ : (c.alive = true ∧ c.needs.isEmpty = false) ∧
      (c.need? raw).isSome = true := by
    simpa [satisfyNeed, holdsAt_of_text? hraw] using h.condition
  rw [need?, ← mapKey_of_text? hraw] at htracked
  obtain ⟨level, hlevel⟩ := Option.isSome_iff_exists.mp htracked
  simp only [satisfyNeed, keyAt_of_text? hraw, hlevel]
  split
  · next failure hfailure => exact settles_countAt rfl hfailure
  · split
    · exact .rejected (by decide)
    · exact .success _

theorem giveItem_agrees : Agrees giveItem := by
  intro c params context h
  obtain ⟨raw, hraw⟩ := h.exists_text? rfl rfl
  simp only [giveItem]
  split
  · next failure hfailure => exact settles_cleanedText hfailure h.length hraw rfl
  · split
    · next failure hfailure => exact settles_countAt rfl hfailure
    · exact .success _

theorem dropItem_agrees : Agrees dropItem := by
  intro c params context h
  obtain ⟨raw, hraw⟩ := h.exists_text? rfl rfl
  obtain ⟨-, hcarried⟩ : (c.alive = true ∧ c.inventory.isEmpty = false) ∧
      0 < (c.carried raw).val := by
    simpa [dropItem, holdsAt_of_text? hraw] using h.condition
  -- the name is looked up in small letters, however often it is put into them
  have hsame : c.carried (keyAt params 0) = c.carried raw := by
    rw [keyAt_of_text? hraw, mapKey_of_text? hraw, carried, Text.lower_lower]
    rfl
  simp only [dropItem, hsame]
  split
  · next failure hfailure => exact settles_countAt rfl hfailure
  · next count hcount =>
    have hone := one_le_countAt hcount hcarried
    split
    · next hzero => omega
    · exact .success _

theorem agrees_of_mem_actions : ∀ action ∈ actions, Agrees action := by
  simp only [actions, List.forall_mem_cons, List.not_mem_nil, false_implies, implies_true, and_true]
  exact ⟨heal_agrees, regrowLimb_agrees, addThought_agrees, removeThought_agrees,
    changeOpinion_agrees, gainXp_agrees, reduceResistance_agrees, recruit_agrees,
    releasePrisoner_agrees, setWorkPriority_agrees, satisfyNeed_agrees, addTrait_agrees,
    removeTrait_agrees, giveItem_agrees, dropItem_agrees, goTo_agrees, inspire_agrees⟩

/-! ### The gate -/

section

variable {config : Config} {ledger : Quota.Ledger} {now : Tick} {c : Colonist}
  {action : Action Colonist} {admission : Admission}

theorem admitted_of_examine (hlength : config.effects.maxTextLength.val = 80)
    (h : ((dispatcher config).gate ledger now).examine action.handler c params =
      .finished (.ok admission)) :
    Admitted action c params ⟨now, admission.magnitude, config.effects⟩ := by
  have hadmits : ((dispatcher config).gate ledger now).Admits action.handler c params admission :=
    Gate.examine_eq_iff.mp h
  obtain ⟨value, hvalue, hmagnitude⟩ := hadmits.magnitude
  have hown : action.magnitude params = value := Attempt.finished.inj hvalue
  exact {
    fits := hadmits.fits
    condition := Attempt.finished.inj hadmits.condition
    magnitude := by rw [hmagnitude, hown, Option.isSome_map]
    length := hlength }

/-- Where texts are cut to eighty characters, a standard directive that the gate admits does not
break down, and what comes of it is one of a few things. A thought comes with its magnitude. -/
theorem admitted_settles (hlength : config.effects.maxTextLength.val = 80) (hm : action ∈ actions)
    (h : ((dispatcher config).gate ledger now).examine action.handler c params =
      .finished (.ok admission)) :
    ∃ after outcome,
      action.handler.execute c params ⟨now, admission.magnitude, config.effects⟩ =
        (after, .finished outcome) ∧
      Settles action.definition params outcome ∧
      (action = addThought → admission.magnitude.isSome = true) := by
  have hadmitted := admitted_of_examine hlength h
  have hsettles := agrees_of_mem_actions action hm c params _ hadmitted
  refine ⟨_, _, rfl, hsettles, ?_⟩
  intro hthought
  subst hthought
  exact hadmitted.magnitude_isSome

/-- A thought is admitted even if cleaning leaves nothing of its label. -/
theorem admitted_settles_thought :
    let ada := Colonist.fresh "ada" "Ada"
    let gate := (dispatcher .standard).gate (.empty 24) 0
    Config.standard.effects.maxTextLength.val = 80 ∧ addThought ∈ actions ∧
      gate.examine addThought.handler ada ["5", "[]"] =
        .finished (.ok ⟨some 5, addThought.quota⟩) ∧
      ∃ after outcome,
        addThought.handler.execute ada ["5", "[]"] ⟨0, some 5, .standard⟩ =
          (after, .finished outcome) ∧
        Settles addThought.definition ["5", "[]"] outcome ∧
        (addThought = addThought → (some 5 : Option Points).isSome = true) := by
  intro ada gate
  have hlength : Config.standard.effects.maxTextLength.val = 80 := by rfl
  have hm : addThought ∈ actions := by simp only [actions, List.mem_cons, true_or, or_true]
  have hadmitted : gate.examine addThought.handler ada ["5", "[]"] =
      .finished (.ok ⟨some 5, addThought.quota⟩) := by rfl
  exact ⟨hlength, hm, hadmitted, admitted_settles hlength hm hadmitted⟩

end

end ReplyActions.Standard
