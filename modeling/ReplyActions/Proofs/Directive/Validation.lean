import ReplyActions.Directive.Definition
import ReplyActions.Proofs.Text.Canonical

/-!
# What fits a schema

Values are judged by their number first and then one by one, each by the kind that is declared at
its position; the first misfit is the one that is named. No kind takes a blank value, so a required
parameter can be read as a text.

Required parameters are counted and not looked up. So the judgement is what the schema says exactly
if no required parameter stands behind one that can be left out.
-/

namespace ReplyActions

theorem Params.trimmed_of_text? {params : Params} {index : Nat} {value : String}
    (h : params.text? index = some value) : Text.trimmed value = value := by
  obtain ⟨hvalue, -⟩ := Option.filter_eq_some_iff.mp h
  obtain ⟨raw, -, rfl⟩ := Option.map_eq_some_iff.mp hvalue
  simp only [Text.trimmed, Text.trim, String.toList_ofList, Text.trimBy_trimBy]

theorem Params.text?_of_getElem? {params : Params} {index : Nat} {raw : String}
    (h : params[index]? = some raw) (hblank : Text.trimmed raw ≠ "") :
    params.text? index = some (Text.trimmed raw) := by
  rw [text?, h, Option.map_some, Option.filter_some, if_pos (decide_eq_true hblank)]

theorem ParamKind.accepts_blank (kind : ParamKind) {raw : String} (h : Text.trimmed raw = "") :
    kind.accepts raw = false := by
  simp only [accepts, h]
  cases kind <;> decide

/-- A single digit is a value of every kind. -/
theorem ParamKind.accepts_one (kind : ParamKind) : kind.accepts "1" = true := by
  cases kind <;> decide +kernel

namespace Definition

/-! ### Values by their positions -/

section

variable {specs : List ParamSpec} {values : List String} {spec : ParamSpec} {value : String}

/-- What stands at a position, if anything does, is of the kind that is declared there. -/
def Fits (specs : List ParamSpec) (values : List String) (position : Nat) : Prop :=
  ∀ spec ∈ specs[position]?, ∀ value ∈ values[position]?, spec.kind.accepts value = true

/-- The first position at which a value is not of its kind, and what is declared there. -/
structure IsFirstMisfit (specs : List ParamSpec) (values : List String) (position : Nat)
    (spec : ParamSpec) : Prop where
  declared : specs[position]? = some spec
  refused : ∃ value, values[position]? = some value ∧ spec.kind.accepts value = false
  earlier : ∀ other < position, Fits specs values other

theorem fits_cons_zero :
    Fits (spec :: specs) (value :: values) 0 ↔ spec.kind.accepts value = true := by
  simp only [Fits, List.getElem?_cons_zero, Option.mem_some_iff, forall_eq']

theorem fits_cons_succ (position : Nat) :
    Fits (spec :: specs) (value :: values) (position + 1) ↔ Fits specs values position := Iff.rfl

theorem isFirstMisfit_cons_zero {other : ParamSpec} :
    IsFirstMisfit (spec :: specs) (value :: values) 0 other ↔
      other = spec ∧ spec.kind.accepts value = false := by
  constructor
  · rintro ⟨hdeclared, ⟨refused, hvalue, hrefused⟩, -⟩
    obtain rfl := Option.some.inj hdeclared
    obtain rfl := Option.some.inj hvalue
    exact ⟨rfl, hrefused⟩
  · rintro ⟨rfl, hrefused⟩
    exact ⟨rfl, ⟨value, rfl, hrefused⟩, fun other h => absurd h (Nat.not_lt_zero other)⟩

theorem isFirstMisfit_cons_succ {position : Nat} {other : ParamSpec} :
    IsFirstMisfit (spec :: specs) (value :: values) (position + 1) other ↔
      spec.kind.accepts value = true ∧ IsFirstMisfit specs values position other := by
  constructor
  · rintro ⟨hdeclared, hrefused, hearlier⟩
    exact ⟨fits_cons_zero.mp (hearlier 0 (Nat.succ_pos position)), hdeclared, hrefused,
      fun place h => hearlier (place + 1) (Nat.succ_lt_succ h)⟩
  · rintro ⟨haccepts, hdeclared, hrefused, hearlier⟩
    refine ⟨hdeclared, hrefused, fun place h => ?_⟩
    cases place with
    | zero => exact fits_cons_zero.mpr haccepts
    | succ place => exact hearlier place (Nat.lt_of_succ_lt_succ h)

theorem firstBadValue?_eq_none_iff (index : Nat) :
    firstBadValue? index specs values = none ↔ ∀ position, Fits specs values position := by
  induction specs generalizing index values with
  | nil => simp [firstBadValue?, Fits]
  | cons spec specs ih =>
    cases values with
    | nil => simp [firstBadValue?, Fits]
    | cons value values =>
      rw [← Nat.and_forall_add_one, fits_cons_zero]
      simp only [fits_cons_succ, ← ih (index + 1), firstBadValue?]
      split
      · next haccepts => simp only [haccepts, true_and]
      · next hrefused => simp only [hrefused, reduceCtorEq, Bool.false_eq_true, false_and]

theorem firstBadValue?_eq_some_iff (index : Nat) {fault : SchemaError} :
    firstBadValue? index specs values = some fault ↔
      ∃ position spec, IsFirstMisfit specs values position spec ∧
        fault = .badValue (index + position) spec.name spec.kind := by
  induction specs generalizing index values with
  | nil =>
    simp only [firstBadValue?, reduceCtorEq, false_iff]
    rintro ⟨position, spec, h, -⟩
    exact absurd h.declared (by simp)
  | cons first specs ih =>
    cases values with
    | nil =>
      simp only [firstBadValue?, reduceCtorEq, false_iff]
      rintro ⟨position, spec, ⟨-, ⟨value, hvalue, -⟩, -⟩, -⟩
      exact absurd hvalue (by simp)
    | cons value values =>
      rw [← Nat.or_exists_add_one]
      simp only [isFirstMisfit_cons_zero, isFirstMisfit_cons_succ, firstBadValue?]
      split
      · next haccepts =>
        rw [ih]
        simp [haccepts, Nat.add_assoc, Nat.add_comm 1]
      · next hrefused =>
        rw [Bool.not_eq_true] at hrefused
        simp [hrefused, eq_comm]

end

/-! ### The judgement -/

variable {d : Definition} {params : Params}

theorem requiredCount_le_length (d : Definition) : d.requiredCount ≤ d.params.length :=
  List.length_filter_le _ _

/-- What a list of values is blamed for: its number before any value, and of the values the first
one that does not fit. -/
inductive Faults (d : Definition) (params : Params) : SchemaError → Prop
  | tooFew (few : params.length < d.requiredCount) :
    Faults d params (.tooFew d.requiredCount params.length)
  | tooMany (many : d.params.length < params.length) :
    Faults d params (.tooMany d.params.length params.length)
  | badValue {position : Nat} {spec : ParamSpec} (enough : d.requiredCount ≤ params.length)
    (room : params.length ≤ d.params.length) (first : IsFirstMisfit d.params params position spec) :
    Faults d params (.badValue position spec.name spec.kind)

theorem validate_eq_ok_iff :
    d.validate params = .ok () ↔ d.requiredCount ≤ params.length ∧
      params.length ≤ d.params.length ∧ ∀ position, Fits d.params params position := by
  rw [← firstBadValue?_eq_none_iff 0]
  simp only [validate]
  split
  · simp only [reduceCtorEq, false_iff]
    omega
  · split
    · simp only [reduceCtorEq, false_iff]
      omega
    · split
      · next hfault => simp only [reduceCtorEq, hfault, and_false]
      · next hnone =>
        simp only [hnone, true_iff, and_true]
        omega

theorem validate_eq_error_iff {fault : SchemaError} :
    d.validate params = .error fault ↔ d.Faults params fault := by
  simp only [validate]
  constructor
  · intro h
    split at h
    · next hfew =>
      rw [← Except.error.inj h]
      exact .tooFew hfew
    · split at h
      · next hmany =>
        rw [← Except.error.inj h]
        exact .tooMany hmany
      · split at h
        · next hfault =>
          obtain ⟨position, spec, hfirst, rfl⟩ := (firstBadValue?_eq_some_iff 0).mp hfault
          rw [← Except.error.inj h, Nat.zero_add]
          exact .badValue (by omega) (by omega) hfirst
        · contradiction
  · intro h
    have hrequired := d.requiredCount_le_length
    cases h with
    | tooFew few => rw [if_pos few]
    | tooMany many => rw [if_neg (by omega), if_pos many]
    | badValue enough room first =>
      have hfault := (firstBadValue?_eq_some_iff 0).mpr ⟨_, _, first, rfl⟩
      rw [if_neg (by omega), if_neg (by omega), hfault, Nat.zero_add]

theorem requiredCount_le_of_validate (h : d.validate params = .ok ()) :
    d.requiredCount ≤ params.length := (validate_eq_ok_iff.mp h).1

theorem accepts_of_validate {position : Nat} {spec : ParamSpec} {value : String}
    (h : d.validate params = .ok ()) (hspec : d.params[position]? = some spec)
    (hvalue : params[position]? = some value) : spec.kind.accepts value = true :=
  (validate_eq_ok_iff.mp h).2.2 position spec hspec value hvalue

theorem trimmed_ne_of_validate {position : Nat} {spec : ParamSpec} {raw : String}
    (h : d.validate params = .ok ()) (hspec : d.params[position]? = some spec)
    (hraw : params[position]? = some raw) : Text.trimmed raw ≠ "" := by
  intro hblank
  have haccepts := accepts_of_validate h hspec hraw
  rw [spec.kind.accepts_blank hblank] at haccepts
  contradiction

/-- The first parameter, if it is required, is there and not blank. -/
theorem exists_text?_of_validate {spec : ParamSpec} {specs : List ParamSpec}
    (h : d.validate params = .ok ()) (hspecs : d.params = spec :: specs)
    (hrequired : spec.required = true) : ∃ value, params.text? 0 = some value := by
  have hcount := requiredCount_le_of_validate h
  cases params with
  | nil => simp [requiredCount, hspecs, hrequired] at hcount
  | cons raw rest =>
    have hspec : d.params[0]? = some spec := by rw [hspecs, List.getElem?_cons_zero]
    have hraw : (raw :: rest)[0]? = some raw := List.getElem?_cons_zero
    exact ⟨_, Params.text?_of_getElem? hraw (trimmed_ne_of_validate h hspec hraw)⟩

/-! ### What the schema says -/

/-- No more values than are declared, one at the position of every required parameter, and each of
the kind that is declared at its position. -/
structure Meets (d : Definition) (params : Params) : Prop where
  room : params.length ≤ d.params.length
  present : ∀ position spec, d.params[position]? = some spec → spec.required = true →
    position < params.length
  fits : ∀ position, Fits d.params params position

/-- No required parameter stands behind one that can be left out. -/
def RequiredFirst (d : Definition) : Prop :=
  d.params.Pairwise fun earlier later => later.required = true → earlier.required = true

instance (d : Definition) : Decidable d.RequiredFirst :=
  inferInstanceAs (Decidable (d.params.Pairwise _))

/-- Where no required parameter stands further on, they are all among the first `n`. -/
theorem filter_take_required {specs : List ParamSpec} {n : Nat}
    (h : ∀ position spec, specs[position]? = some spec → spec.required = true → position < n) :
    (specs.take n).filter (·.required) = specs.filter (·.required) := by
  have hnone : (specs.drop n).filter (·.required) = [] := by
    rw [List.filter_eq_nil_iff]
    intro spec hm hrequired
    obtain ⟨place, hplace⟩ := List.mem_iff_getElem?.mp hm
    rw [List.getElem?_drop] at hplace
    have hlt := h _ spec hplace hrequired
    omega
  calc (specs.take n).filter (·.required)
      = (specs.take n).filter (·.required) ++ (specs.drop n).filter (·.required) := by
        rw [hnone, List.append_nil]
    _ = specs.filter (·.required) := by rw [← List.filter_append, List.take_append_drop]

theorem requiredFirst_iff :
    d.RequiredFirst ↔ ∀ position spec, d.params[position]? = some spec → spec.required = true →
      position < d.requiredCount := by
  rw [RequiredFirst, List.pairwise_iff_getElem]
  constructor
  · intro h position spec hspec hrequired
    obtain ⟨hlt, rfl⟩ := List.getElem?_eq_some_iff.mp hspec
    -- everything up to a required parameter is required
    have hall : ∀ other ∈ d.params.take (position + 1), other.required = true := by
      intro other hm
      obtain ⟨place, hplace, rfl⟩ := List.mem_take_iff_getElem.mp hm
      rcases Nat.lt_or_eq_of_le (Nat.le_of_lt_succ (Nat.lt_of_lt_of_le hplace (Nat.min_le_left ..)))
        with hbefore | rfl
      · exact h place position _ hlt hbefore hrequired
      · exact hrequired
    have hlength : (d.params.take (position + 1)).length = position + 1 :=
      List.length_take_of_le hlt
    calc position < ((d.params.take (position + 1)).filter (·.required)).length := by
          rw [List.filter_eq_self.mpr hall, hlength]
          exact Nat.lt_succ_self position
      _ ≤ d.requiredCount := ((List.take_sublist _ _).filter _).length_le
  · intro h place position hplace hposition hbefore hrequired
    have hlt := h position _ (List.getElem?_eq_getElem hposition) hrequired
    -- as many are required as stand in front of that position, so all of these are
    have hcount : ((d.params.take d.requiredCount).filter (·.required)).length =
        (d.params.take d.requiredCount).length := by
      rw [filter_take_required h, List.length_take_of_le d.requiredCount_le_length]
      rfl
    refine List.length_filter_eq_length_iff.mp hcount _ (List.mem_take_iff_getElem.mpr ?_)
    exact ⟨place, by omega, rfl⟩

theorem Meets.requiredCount_le (h : d.Meets params) : d.requiredCount ≤ params.length := by
  calc d.requiredCount
      = ((d.params.take params.length).filter (·.required)).length := by
        rw [filter_take_required h.present]
        rfl
    _ ≤ (d.params.take params.length).length := List.length_filter_le _ _
    _ ≤ params.length := List.length_take_le _ _

theorem Meets.validate (h : d.Meets params) : d.validate params = .ok () :=
  validate_eq_ok_iff.mpr ⟨h.requiredCount_le, h.room, h.fits⟩

theorem RequiredFirst.meets (hfirst : d.RequiredFirst) (h : d.validate params = .ok ()) :
    d.Meets params := by
  obtain ⟨henough, hroom, hfits⟩ := validate_eq_ok_iff.mp h
  refine ⟨hroom, fun position spec hspec hrequired => ?_, hfits⟩
  exact Nat.lt_of_lt_of_le (requiredFirst_iff.mp hfirst position spec hspec hrequired) henough

/-- As many values as are required, each one good for every kind, pass the judgement. -/
theorem validate_replicate (d : Definition) :
    d.validate (List.replicate d.requiredCount "1") = .ok () := by
  rw [validate_eq_ok_iff, List.length_replicate]
  refine ⟨Nat.le_refl _, d.requiredCount_le_length, fun position spec _ value hvalue => ?_⟩
  rw [List.eq_of_mem_replicate (List.mem_of_getElem? hvalue)]
  exact spec.kind.accepts_one

/-- Values that meet the schema always pass, and a list that does not pass is blamed for its number
or for the first value that does not fit. What passes meets the schema, for every list of values,
exactly if no required parameter stands behind one that can be left out. -/
theorem validate_means_meets_iff (d : Definition) :
    ((∀ params, d.validate params = .ok () ↔ d.Meets params) ↔ d.RequiredFirst) ∧
      (∀ params, d.Meets params → d.validate params = .ok ()) ∧
      ∀ params fault, d.validate params = .error fault ↔ d.Faults params fault := by
  refine ⟨⟨fun h => ?_, fun hfirst params => ?_⟩, fun params h => h.validate,
    fun params fault => validate_eq_error_iff⟩
  · have hmeets := (h _).mp d.validate_replicate
    rw [requiredFirst_iff]
    intro position spec hspec hrequired
    have hlt := hmeets.present position spec hspec hrequired
    rwa [List.length_replicate] at hlt
  · exact ⟨hfirst.meets, Meets.validate⟩

/-- One value is enough for the number, but it stands where a parameter can be left out. -/
theorem value_in_wrong_place :
    let d := Definition.named "greet" .social "" .moderate
      [⟨"tone", .word, false⟩, ⟨"target", .word, true⟩] []
    ¬ (d.validate ["bob"] = .ok () ↔ d.Meets ["bob"]) := by
  intro d h
  have hpasses : d.validate ["bob"] = .ok () := by decide +kernel
  have hlt := (h.mp hpasses).present 1 _ rfl rfl
  exact absurd hlt (by decide)

end Definition

end ReplyActions
