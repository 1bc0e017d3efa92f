import AppliverySoar.Compliance.VersionOrder
import Mathlib.Algebra.Order.Ring.Rat
import Mathlib.Data.Rat.Lemmas

/-!
# The operators of the fields

The catalogue of fields (complianceFields.ts, lines 60–154) and the laws of its
operators: of two opposite ones at most one matches, and one does where the
device has what the field reads; of `lessThan`, `greaterThan` and `equals` at most
one matches.

Labels, options and platforms are left out; the evaluator reads none of them.

Results:
* `compareScalar_opposite`, `comparePresent_opposite`, `ordered_compareScalar`: the
  laws of the comparisons that the branches share.
* `operators_lawful`: the laws of every field.
-/

namespace AppliverySoar.Compliance

open Js List

/-! ## The catalogue -/

structure ComplianceFieldDef where
  key : String
  type : String
  operators : List String
  deriving DecidableEq

/-- `COMPLIANCE_FIELDS`. -/
def complianceFields : List ComplianceFieldDef :=
  [⟨"isCompliant", "boolean", ["equals"]⟩,
    ⟨"platform", "select", ["equals", "notEquals"]⟩,
    ⟨"osVersion", "string", ["lessThan", "greaterThan", "equals"]⟩,
    ⟨"osPatchLevel", "string", ["lessThan", "greaterThan", "equals"]⟩,
    ⟨"lastSeenDaysAgo", "number", ["greaterThan", "lessThan"]⟩,
    ⟨"daysSinceEnrollment", "duration", ["greaterThan", "lessThan"]⟩,
    ⟨"battery", "number", ["lessThan", "greaterThan"]⟩,
    ⟨"availableStorageGb", "number", ["lessThan", "greaterThan"]⟩,
    ⟨"totalStorageGb", "number", ["lessThan", "greaterThan"]⟩,
    ⟨"ramGb", "number", ["lessThan", "greaterThan"]⟩,
    ⟨"manufacturer", "string", ["equals", "notEquals", "contains"]⟩,
    ⟨"model", "string", ["equals", "notEquals", "contains"]⟩,
    ⟨"serialNumber", "string", ["equals", "contains"]⟩,
    ⟨"imei", "string", ["equals", "contains"]⟩,
    ⟨"mdmUserEmail", "string", ["equals", "contains"]⟩,
    ⟨"segmentId", "string", ["equals", "notEquals"]⟩,
    ⟨"tags", "string", ["includes", "excludes"]⟩,
    ⟨"state", "string", ["equals", "notEquals"]⟩,
    ⟨"missingPolicyId", "policy", ["missing"]⟩,
    ⟨"deviceAudienceId", "device_audience", ["includes", "excludes"]⟩,
    ⟨"smartAttribute", "smart_attribute",
      ["equals", "notEquals", "contains", "greaterThan", "lessThan", "exists", "missing"]⟩,
    ⟨"customField", "custom_field",
      ["equals", "notEquals", "contains", "greaterThan", "lessThan", "exists", "missing"]⟩,
    ⟨"selfReportedAttribute", "self_reported_attribute",
      ["equals", "notEquals", "contains", "greaterThan", "lessThan", "exists", "missing"]⟩,
    ⟨"customCheckResult", "custom_check_result",
      ["equals", "notEquals", "contains", "greaterThan", "lessThan", "exists", "missing"]⟩,
    ⟨"triggerFired", "trigger_fired", ["exists", "missing"]⟩,
    ⟨"selfReportDaysAgo", "number", ["greaterThan", "lessThan"]⟩,
    ⟨"hasSelfReported", "boolean", ["equals"]⟩,
    ⟨"requiredAppList", "app_list", ["equals"]⟩,
    ⟨"disallowedAppList", "app_list", ["equals"]⟩,
    ⟨"riskScore", "number", ["greaterThan", "lessThan"]⟩,
    ⟨"riskTier", "select", ["equals", "notEquals"]⟩,
    ⟨"osUpdatePendingCount", "number", ["greaterThan", "lessThan"]⟩,
    ⟨"osUpdateExploitedPending", "boolean", ["equals"]⟩,
    ⟨"vulnPendingCveCount", "number", ["greaterThan", "lessThan"]⟩,
    ⟨"vulnExploitedPending", "boolean", ["equals"]⟩,
    ⟨"osEol", "boolean", ["equals"]⟩,
    ⟨"appleAppUpdatesPending", "number", ["greaterThan", "lessThan"]⟩,
    ⟨"vulnServiceCriticalHighCount", "number", ["greaterThan", "lessThan"]⟩,
    ⟨"vulnServiceHasKev", "boolean", ["equals"]⟩,
    ⟨"vulnServiceChecked", "boolean", ["equals"]⟩,
    ⟨"geofenceZoneId", "geofence_zone", ["inside", "outside"]⟩,
    ⟨"hasLocationData", "boolean", ["equals"]⟩,
    ⟨"locationAgeMinutes", "number", ["greaterThan", "lessThan"]⟩]

/-- The operators that are opposite to each other. -/
def oppositeOperators : List (String × String) :=
  [("equals", "notEquals"), ("includes", "excludes"), ("exists", "missing"), ("inside", "outside")]

/-! ## What a device has -/

/-- A device with what a pass knows beside its record. -/
structure Subject where
  core : DeviceCore
  facts : List (String × Value)
  appLists : Option AppListsContext := none
  geo : Option (ZonesById × LocationsById) := none

namespace Subject

variable (env : EvalEnv) (d : Subject)

/-- A property of the device's record. -/
def get (key : String) : Value :=
  deviceProperty env d.core d.facts key

/-- `evaluateCondition`. -/
def satisfies (key operator : String) (value : Value) : Bool :=
  evaluateWithContext env d.core d.facts key ⟨operator, value⟩ d.appLists d.geo

/-- The location that is known of the device. -/
def location : Option DeviceLocation :=
  d.geo.bind fun g => g.2 d.core.id

/-- The attributes that the device's agent has reported. -/
def reportedAttributes : Value :=
  (((d.get env "selfReported").prop env.toRuntime "attributes").orElse (.obj []))

/-- The result of a check that the device's agent has reported. -/
def checkResult (key : String) : Value :=
  (((d.get env "selfReported").prop env.toRuntime "customCheckResults").orElse (.obj [])).prop
    env.toRuntime key

/-- The Vulnerability Service has been asked about the device. -/
def serviceChecked : Bool :=
  (d.get env "vulnServiceStatus").truthy &&
    ((d.get env "vulnServiceStatus").prop env.toRuntime "checked").truthy

/-- The CVEs of the two highest severities that the service has counted. -/
def criticalHigh : Option ℚ := do
  let counts := ((d.get env "vulnServiceStatus").prop env.toRuntime "counts").orElse (.obj [])
  let critical ← numberOrZero env (counts.prop env.toRuntime "CRITICAL")
  let high ← numberOrZero env (counts.prop env.toRuntime "HIGH")
  return critical + high

/-- The device has what a condition on the field reads: the attribute, the path or
the check that the value names, the list that is searched, the zone and the
location, or the property itself. -/
def HasDatum (key : String) (value : Value) : Prop :=
  let name := fun part => (((value.orElse (.obj [])).prop env.toRuntime part).text env.toRuntime)
  match key with
  | "smartAttribute" => ∃ l, (d.get env "smartAttributes").elements = some l ∧
      (smartAttributes env l).has env.toRuntime (name "name") = true
  | "customField" => ∃ path,
      ((value.orElse (.obj [])).prop env.toRuntime "path").orElse (.str "") = .str path ∧
      (getByPath env (d.get env) path).isNullish = false
  | "selfReportedAttribute" => (d.reportedAttributes env).isObject = true ∧
      (d.reportedAttributes env).has env.toRuntime (name "name") = true
  | "customCheckResult" => (d.checkResult env (name "key")).truthy = true ∧
      ((d.checkResult env (name "key")).prop env.toRuntime "error").truthy = false
  | "triggerFired" => True
  | "tags" => ∃ l, d.get env "tags" = .arr l
  | "deviceAudienceId" => ∃ l, d.get env "deviceAudiences" = .arr l
  | "geofenceZoneId" => ∃ zones locations zone loc, d.geo = some (zones, locations) ∧
      zones (textOrEmpty env value) = some zone ∧ locations d.core.id = some loc
  | key => (d.get env key).isNullish = false

end Subject

/-! ## The laws -/

/-- Of two answers at most one is yes, and one of them where something is there. -/
structure Opposite (present : Prop) (a b : Bool) : Prop where
  notBoth : ¬(a = true ∧ b = true)
  one : present → a = true ∨ b = true

/-- The laws of the operators of a field. -/
structure ComplianceFieldDef.Lawful (env : EvalEnv) (f : ComplianceFieldDef) (d : Subject)
    (value : Value) : Prop where
  opposite : ∀ pair ∈ oppositeOperators, pair.1 ∈ f.operators → pair.2 ∈ f.operators →
    Opposite (d.HasDatum env f.key value) (d.satisfies env f.key pair.1 value)
      (d.satisfies env f.key pair.2 value)
  ordered : "lessThan" ∈ f.operators → "greaterThan" ∈ f.operators →
    ¬(d.satisfies env f.key "lessThan" value = true ∧
      d.satisfies env f.key "greaterThan" value = true) ∧
    ("equals" ∈ f.operators →
      ¬(d.satisfies env f.key "lessThan" value = true ∧
        d.satisfies env f.key "equals" value = true) ∧
      ¬(d.satisfies env f.key "greaterThan" value = true ∧
        d.satisfies env f.key "equals" value = true))

/-- What is documented of the conversions between numbers and texts: a number is
read back from what it is printed as, an empty text counts as zero, and the
texts of truth values are no numbers. -/
structure ReadsNumbers (env : EvalEnv) : Prop where
  parse_print : ∀ n, env.parseNumber (env.printNumber n) = some n
  parse_empty : env.parseNumber "" = some 0
  parse_bool : env.parseNumber "true" = none ∧ env.parseNumber "false" = none

/-! ## Comparisons -/

section Comparisons

variable {env : EvalEnv} {actual target : Value} {present : Prop}

theorem opposite_of_not {a b : Bool} (h : b = !a) : Opposite present a b := by
  subst h
  cases a
  · exact ⟨fun h => Bool.false_ne_true h.1, fun _ => .inr rfl⟩
  · exact ⟨fun h => Bool.false_ne_true h.2, fun _ => .inl rfl⟩

theorem opposite_of_guarded {guard a b : Bool} (hguard : present → guard = true)
    (h : Opposite present a b) : Opposite present (guard && a) (guard && b) := by
  refine ⟨fun hboth => ?_, fun hpresent => ?_⟩
  · rw [Bool.and_eq_true, Bool.and_eq_true] at hboth
    exact h.notBoth ⟨hboth.1.2, hboth.2.2⟩
  · rw [hguard hpresent, Bool.true_and, Bool.true_and]
    exact h.one hpresent

theorem compareScalar_opposite :
    Opposite present (compareScalar env actual "equals" target)
      (compareScalar env actual "notEquals" target) :=
  opposite_of_not (decide_not (p := textOrEmpty env actual = textOrEmpty env target))

theorem compareScalar_exists :
    Opposite present (compareScalar env actual "exists" target)
      (compareScalar env actual "missing" target) := by
  refine opposite_of_not ?_
  show (actual.isNullish || actual.strictEq (.str "")) =
    !(!actual.isNullish && !actual.strictEq (.str ""))
  rw [Bool.not_and, Bool.not_not, Bool.not_not]

theorem less_irrefl (a : Option ℚ) : less a a = false := by
  cases a with
  | none => rfl
  | some a => exact decide_eq_false (lt_irrefl a)

theorem less_asymm {a b : Option ℚ} (h : less a b = true) : less b a = false := by
  cases a with
  | none => cases h
  | some a =>
    cases b with
    | none => cases h
    | some b => exact decide_eq_false (lt_asymm (of_decide_eq_true h))

/-- A value is the number that its text reads as, if it is none of those that have
no number or whose text is no number. -/
theorem number_of_text (h : ReadsNumbers env) (v : Value) :
    v.number env.toRuntime = none ∨
    v.number env.toRuntime = env.parseNumber (textOrEmpty env v) ∨
    ∃ b, v = .bool b ∧ env.parseNumber (textOrEmpty env v) = none := by
  cases v with
  | undefined => exact .inl rfl
  | null => exact .inr (.inl h.parse_empty.symm)
  | bool b =>
    refine .inr (.inr ⟨b, rfl, ?_⟩)
    cases b
    · exact h.parse_bool.2
    · exact h.parse_bool.1
  | num n => exact .inr (.inl (h.parse_print n).symm)
  | _ => exact .inr (.inl rfl)

theorem bool_of_text {a b : Bool}
    (h : textOrEmpty env (.bool a) = textOrEmpty env (.bool b)) : a = b := by
  cases a <;> cases b
  · rfl
  · exact absurd (show "false" = "true" from h) (by decide)
  · exact absurd (show "true" = "false" from h) (by decide)
  · rfl

/-- Of two values with the same text neither is the smaller number. -/
theorem not_less_of_text (h : ReadsNumbers env) {v w : Value}
    (htext : textOrEmpty env v = textOrEmpty env w) :
    less (v.number env.toRuntime) (w.number env.toRuntime) = false := by
  rcases number_of_text h v with hv | hv | ⟨a, rfl, ha⟩
  · rw [hv]
    rfl
  · rcases number_of_text h w with hw | hw | ⟨b, rfl, hb⟩
    · rw [hv, hw]
      cases env.parseNumber (textOrEmpty env v) <;> rfl
    · rw [hv, hw, htext]
      exact less_irrefl _
    · rw [hv, htext, hb]
      rfl
  · rcases number_of_text h w with hw | hw | ⟨b, rfl, -⟩
    · rw [hw]
      rfl
    · rw [hw, ← htext, ha]
      rfl
    · rw [bool_of_text htext]
      exact less_irrefl _

/-- At most one of the three. -/
def AtMostOne (lt gt eq : Bool) : Prop :=
  ¬(lt = true ∧ gt = true) ∧ ¬(lt = true ∧ eq = true) ∧ ¬(gt = true ∧ eq = true)

theorem ordered_compareScalar (h : ReadsNumbers env) :
    AtMostOne (compareScalar env actual "lessThan" target)
      (compareScalar env actual "greaterThan" target)
      (compareScalar env actual "equals" target) := by
  have heq : compareScalar env actual "equals" target = true →
      textOrEmpty env actual = textOrEmpty env target := of_decide_eq_true
  refine ⟨fun hboth => ?_, fun hboth => ?_, fun hboth => ?_⟩
  · have hlt : less (actual.number env.toRuntime) (target.number env.toRuntime) = true := hboth.1
    have hgt : less (target.number env.toRuntime) (actual.number env.toRuntime) = true := hboth.2
    rw [less_asymm hlt] at hgt
    cases hgt
  · have hlt : less (actual.number env.toRuntime) (target.number env.toRuntime) = true := hboth.1
    rw [not_less_of_text h (heq hboth.2)] at hlt
    cases hlt
  · have hgt : less (target.number env.toRuntime) (actual.number env.toRuntime) = true := hboth.1
    rw [not_less_of_text h (heq hboth.2).symm] at hgt
    cases hgt

theorem AtMostOne.guarded {lt gt eq : Bool} (guard : Bool) (h : AtMostOne lt gt eq) :
    AtMostOne (guard && lt) (guard && gt) (guard && eq) := by
  cases guard
  · exact ⟨fun h => Bool.false_ne_true h.1, fun h => Bool.false_ne_true h.1,
      fun h => Bool.false_ne_true h.1⟩
  · exact h

end Comparisons

/-! ## The branches -/

section Fields

variable {env : EvalEnv} {f : ComplianceFieldDef} {d : Subject} {value : Value}

/-- The opposite operators that a field declares. -/
def ComplianceFieldDef.opposites (f : ComplianceFieldDef) : List (String × String) :=
  oppositeOperators.filter fun pair => pair.1 ∈ f.operators ∧ pair.2 ∈ f.operators

theorem lawful_of_opposites (hopposite : ∀ pair ∈ f.opposites, Opposite (d.HasDatum env f.key value)
      (d.satisfies env f.key pair.1 value) (d.satisfies env f.key pair.2 value))
    (hordered : "lessThan" ∈ f.operators → "greaterThan" ∈ f.operators →
      ∃ equal, AtMostOne (d.satisfies env f.key "lessThan" value)
        (d.satisfies env f.key "greaterThan" value) equal ∧
        ("equals" ∈ f.operators → equal = d.satisfies env f.key "equals" value)) :
    f.Lawful env d value where
  opposite pair hpair hfst hsnd :=
    hopposite pair (mem_filter.mpr ⟨hpair, decide_eq_true ⟨hfst, hsnd⟩⟩)
  ordered hlt hgt := by
    obtain ⟨equal, hall, hequal⟩ := hordered hlt hgt
    exact ⟨hall.1, fun h => hequal h ▸ hall.2⟩

/-- A field whose operators have nothing to do with each other. -/
theorem lawful_of_alone (hnone : f.opposites = []) (hlt : "lessThan" ∉ f.operators) :
    f.Lawful env d value :=
  lawful_of_opposites (fun _ hpair => absurd (hnone ▸ hpair) not_mem_nil)
    fun h => absurd h hlt

theorem lawful_of_pair (a b : String) (hpair : f.opposites = [(a, b)])
    (hlt : "lessThan" ∉ f.operators)
    (h : Opposite (d.HasDatum env f.key value) (d.satisfies env f.key a value)
      (d.satisfies env f.key b value)) : f.Lawful env d value :=
  lawful_of_opposites (fun _ hmem => by
    obtain rfl := mem_singleton.mp (hpair ▸ hmem)
    exact h) fun hlt' => absurd hlt' hlt

theorem lawful_of_number (hnone : f.opposites = []) (hequals : "equals" ∉ f.operators)
    {guard : Bool} {actual target : Option ℚ}
    (hlt : d.satisfies env f.key "lessThan" value = (guard && less actual target))
    (hgt : d.satisfies env f.key "greaterThan" value = (guard && less target actual)) :
    f.Lawful env d value := by
  refine lawful_of_opposites (fun _ hpair => absurd (hnone ▸ hpair) not_mem_nil)
    fun _ _ => ⟨false, ⟨fun hboth => ?_, fun h => Bool.false_ne_true h.2,
      fun h => Bool.false_ne_true h.2⟩, fun h => absurd h hequals⟩
  rw [hlt, hgt, Bool.and_eq_true, Bool.and_eq_true] at hboth
  have hasymm := less_asymm hboth.1.2
  rw [hboth.2.2] at hasymm
  cases hasymm

theorem lawful_of_scalar (hnumbers : ReadsNumbers env)
    (hpairs : f.opposites = [("equals", "notEquals"), ("exists", "missing")])
    (guard : Bool) (actual target : Value) (hdatum : d.HasDatum env f.key value → guard = true)
    (h : ∀ operator ∈ ["equals", "notEquals", "lessThan", "greaterThan"],
      d.satisfies env f.key operator value = (guard && compareScalar env actual operator target))
    (hexists : Opposite (d.HasDatum env f.key value) (d.satisfies env f.key "exists" value)
      (d.satisfies env f.key "missing" value)) : f.Lawful env d value := by
  have hequals := h "equals" (by decide)
  refine lawful_of_opposites (fun pair hpair => ?_) fun _ _ => ⟨_, ?_, fun _ => hequals.symm⟩
  · rw [hpairs] at hpair
    rcases mem_cons.mp hpair with rfl | hpair
    · rw [hequals, h "notEquals" (by decide)]
      exact opposite_of_guarded hdatum compareScalar_opposite
    · obtain rfl := mem_singleton.mp hpair
      exact hexists
  · rw [h "lessThan" (by decide), h "greaterThan" (by decide)]
    exact (ordered_compareScalar hnumbers).guarded guard

theorem lawful_of_never (h : ∀ operator, d.satisfies env f.key operator value = false)
    (hdatum : ¬d.HasDatum env f.key value) : f.Lawful env d value := by
  have hnone : ∀ operator, ¬d.satisfies env f.key operator value = true := fun operator hyes =>
    Bool.false_ne_true ((h operator).symm.trans hyes)
  exact ⟨fun pair _ _ _ => ⟨fun hboth => hnone _ hboth.1, fun hd => absurd hd hdatum⟩,
    fun _ _ => ⟨fun hboth => hnone _ hboth.1, fun _ => ⟨fun hboth => hnone _ hboth.1,
      fun hboth => hnone _ hboth.1⟩⟩⟩

theorem lawful_of_entry (hnumbers : ReadsNumbers env)
    (hpairs : f.opposites = [("equals", "notEquals"), ("exists", "missing")])
    (found : Bool) (actual target : Value) (hdatum : d.HasDatum env f.key value → found = true)
    (h : ∀ operator, d.satisfies env f.key operator value =
      comparePresent env found actual operator target) : f.Lawful env d value := by
  refine lawful_of_scalar hnumbers hpairs found actual target hdatum (fun operator hop => ?_) ?_
  · rw [h]
    rcases hop with _ | ⟨_, _ | ⟨_, _ | ⟨_, _ | ⟨_, hnil⟩⟩⟩⟩
    · rfl
    · rfl
    · rfl
    · rfl
    · cases hnil
  · rw [h, h]
    exact opposite_of_not rfl

theorem lawful_of_version (field : VersionField) (hkey : f.key = field.name)
    (hnone : f.opposites = []) : f.Lawful env d value := by
  have hfield : ∀ operator, d.satisfies env f.key operator value =
      evaluateField env (d.get env) field.name operator value := by
    intro operator
    rw [hkey]
    cases field <;> rfl
  refine lawful_of_opposites (fun _ hpair => absurd (hnone ▸ hpair) not_mem_nil)
    fun _ _ => ⟨_, ?_, fun _ => rfl⟩
  rw [hfield, hfield, hfield, evaluateField_version, evaluateField_version, evaluateField_version]
  generalize field.compare env (d.get env "platform") (d.get env field.name) value = cmp
  cases cmp <;> exact ⟨by decide, by decide, by decide⟩

theorem one_of_version (field : VersionField) :
    d.satisfies env field.name "lessThan" value = true ∨
    d.satisfies env field.name "greaterThan" value = true ∨
    d.satisfies env field.name "equals" value = true := by
  have hfield : ∀ operator, d.satisfies env field.name operator value =
      evaluateField env (d.get env) field.name operator value := by
    intro operator
    cases field <;> rfl
  rw [hfield, hfield, hfield, evaluateField_version, evaluateField_version, evaluateField_version]
  generalize field.compare env (d.get env "platform") (d.get env field.name) value = cmp
  cases cmp
  · exact .inl rfl
  · exact .inr (.inr rfl)
  · exact .inr (.inl rfl)

/-! ## The entries that a condition names -/

theorem lawful_smartAttribute (hnumbers : ReadsNumbers env)
    (hpairs : f.opposites = [("equals", "notEquals"), ("exists", "missing")])
    (hkey : f.key = "smartAttribute") : f.Lawful env d value := by
  have hfield : ∀ operator, d.satisfies env f.key operator value =
      (d.get env "smartAttributes").elements.any fun l =>
        let attrs := smartAttributes env l
        let target := value.orElse (.obj [])
        let attrName := (target.prop env.toRuntime "name").text env.toRuntime
        comparePresent env (attrs.has env.toRuntime attrName) (attrs.prop env.toRuntime attrName)
          operator (target.prop env.toRuntime "compareValue") := by
    intro operator
    rw [hkey]
    rfl
  cases helements : (d.get env "smartAttributes").elements with
  | none =>
    refine lawful_of_never (fun operator => by rw [hfield, helements]; rfl) ?_
    rw [hkey]
    rintro ⟨l, hl, -⟩
    rw [helements] at hl
    cases hl
  | some l =>
    refine lawful_of_entry hnumbers hpairs _ _ _ ?_ fun operator => by rw [hfield, helements]; rfl
    rw [hkey]
    rintro ⟨l', hl, hhas⟩
    rw [helements] at hl
    cases hl
    exact hhas

theorem lawful_customField (hnumbers : ReadsNumbers env)
    (hpairs : f.opposites = [("equals", "notEquals"), ("exists", "missing")])
    (hkey : f.key = "customField") : f.Lawful env d value := by
  have hfield : ∀ operator, d.satisfies env f.key operator value =
      evaluateCustomField env (d.get env) operator value := by
    intro operator
    rw [hkey]
    rfl
  unfold evaluateCustomField at hfield
  dsimp only at hfield
  split at hfield
  · next path hpath =>
    refine lawful_of_scalar hnumbers hpairs true _ _ (fun _ => rfl)
      (fun operator _ => (hfield operator).trans (Bool.true_and _).symm) ?_
    rw [hfield, hfield]
    exact compareScalar_exists
  · next hpath =>
    refine lawful_of_never hfield ?_
    rw [hkey]
    rintro ⟨path, hpath', -⟩
    exact hpath path hpath'

theorem lawful_selfReportedAttribute (hnumbers : ReadsNumbers env)
    (hpairs : f.opposites = [("equals", "notEquals"), ("exists", "missing")])
    (hkey : f.key = "selfReportedAttribute") : f.Lawful env d value := by
  have hfield : ∀ operator, d.satisfies env f.key operator value =
      ((d.reportedAttributes env).isObject &&
        let target := value.orElse (.obj [])
        let attrName := (target.prop env.toRuntime "name").text env.toRuntime
        comparePresent env ((d.reportedAttributes env).has env.toRuntime attrName)
          ((d.reportedAttributes env).prop env.toRuntime attrName) operator
          (target.prop env.toRuntime "compareValue")) := by
    intro operator
    rw [hkey]
    rfl
  cases hobject : (d.reportedAttributes env).isObject with
  | false =>
    refine lawful_of_never (fun operator => by rw [hfield, hobject]; rfl) ?_
    rw [hkey]
    rintro ⟨hobject', -⟩
    rw [hobject] at hobject'
    cases hobject'
  | true =>
    refine lawful_of_entry hnumbers hpairs _ _ _ ?_ fun operator => by rw [hfield, hobject]; rfl
    rw [hkey]
    exact fun hd => hd.2

theorem lawful_customCheckResult (hnumbers : ReadsNumbers env)
    (hpairs : f.opposites = [("equals", "notEquals"), ("exists", "missing")])
    (hkey : f.key = "customCheckResult") : f.Lawful env d value := by
  have hfield : ∀ operator, d.satisfies env f.key operator value =
      let target := value.orElse (.obj [])
      let entry := d.checkResult env ((target.prop env.toRuntime "key").text env.toRuntime)
      comparePresent env (entry.truthy && !(entry.prop env.toRuntime "error").truthy)
        (entry.prop env.toRuntime "value") operator (target.prop env.toRuntime "compareValue") := by
    intro operator
    rw [hkey]
    rfl
  refine lawful_of_entry hnumbers hpairs _ _ _ ?_ hfield
  rw [hkey]
  rintro ⟨htruthy, herror⟩
  show (_ && !_) = true
  rw [htruthy, herror]
  rfl

/-! ## Lists and zones -/

theorem opposite_list {l : Option (List Value)} {present : Prop} {p : List Value → Bool}
    (hpresent : present → ∃ elements, l = some elements) :
    Opposite present (l.any p) (l.any fun elements => !p elements) := by
  cases l with
  | none =>
    refine ⟨fun h => Bool.false_ne_true h.1, fun h => ?_⟩
    obtain ⟨elements, helements⟩ := hpresent h
    cases helements
  | some elements => exact opposite_of_not rfl

theorem opposite_audience : Opposite (d.HasDatum env "deviceAudienceId" value)
    (d.satisfies env "deviceAudienceId" "includes" value)
    (d.satisfies env "deviceAudienceId" "excludes" value) := by
  have hfield : ∀ operator, d.satisfies env "deviceAudienceId" operator value =
      (d.get env "deviceAudiences").elements.any fun audiences =>
        let isMember := audiences.any fun a =>
          decide ((a.prop env.toRuntime "id").text env.toRuntime = textOrEmpty env value)
        if operator = "includes" then isMember else !isMember := fun operator => rfl
  rw [hfield, hfield]
  refine opposite_list ?_
  rintro ⟨l, hl⟩
  exact ⟨l, congrArg Value.elements hl⟩

theorem opposite_zone : Opposite (d.HasDatum env "geofenceZoneId" value)
    (d.satisfies env "geofenceZoneId" "inside" value)
    (d.satisfies env "geofenceZoneId" "outside" value) := by
  have hfield : ∀ operator, d.satisfies env "geofenceZoneId" operator value =
      d.geo.any fun g => evaluateZone env g.1 (g.2 d.core.id) operator value := by
    intro operator
    show (d.geo.any fun g => evaluateZone env g.1 (d.geo.bind fun g => g.2 d.core.id) operator
      value) = _
    cases d.geo <;> rfl
  rw [hfield, hfield]
  cases hgeo : d.geo with
  | none =>
    refine ⟨fun h => Bool.false_ne_true h.1, ?_⟩
    rintro ⟨zones, locations, zone, loc, hsome, -⟩
    rw [hgeo] at hsome
    cases hsome
  | some g =>
    show Opposite _ (evaluateZone env g.1 (g.2 d.core.id) "inside" value)
      (evaluateZone env g.1 (g.2 d.core.id) "outside" value)
    unfold evaluateZone
    split
    · exact opposite_of_not rfl
    · next hnone =>
      refine ⟨fun h => Bool.false_ne_true h.1, ?_⟩
      rintro ⟨zones, locations, zone, loc, hsome, hzone, hloc⟩
      rw [hgeo] at hsome
      cases hsome
      exact absurd hloc (hnone zone loc hzone)

/-! ## Numbers -/

theorem lawful_of_above (hnone : f.opposites = []) (hequals : "equals" ∉ f.operators)
    (guard : Bool) (actual target : Option ℚ) (h : ∀ operator, d.satisfies env f.key operator value =
      (guard && aboveUnlessLess operator actual target)) : f.Lawful env d value :=
  lawful_of_number hnone hequals (h "lessThan") (h "greaterThan")

theorem lawful_of_amount (hnone : f.opposites = []) (hequals : "equals" ∉ f.operators)
    (actual : Value) (h : ∀ operator, d.satisfies env f.key operator value =
      compareAmount env actual operator value) : f.Lawful env d value :=
  lawful_of_above hnone hequals (!actual.isNullish) (actual.number env.toRuntime)
    (numberOrZero env value) h

theorem lawful_of_below (hnone : f.opposites = []) (hequals : "equals" ∉ f.operators)
    (guard : Bool) (actual target : Option ℚ) (h : ∀ operator, d.satisfies env f.key operator value =
      (guard && belowUnlessGreater operator actual target)) : f.Lawful env d value :=
  lawful_of_number hnone hequals (h "lessThan") (h "greaterThan")

theorem lawful_of_comparison (hnone : f.opposites = []) (hequals : "equals" ∉ f.operators)
    (actual : Value) (h : ∀ operator, d.satisfies env f.key operator value =
      compareScalar env actual operator value) : f.Lawful env d value :=
  lawful_of_number hnone hequals ((h "lessThan").trans (Bool.true_and _).symm)
    ((h "greaterThan").trans (Bool.true_and _).symm)

theorem any_below (actual target : Option ℚ) (operator : String) :
    (actual.any fun a => belowUnlessGreater operator (some a) target) =
      (actual.isSome && belowUnlessGreater operator actual target) := by
  cases actual <;> rfl

theorem lawful_vulnServiceCriticalHighCount (hnone : f.opposites = [])
    (hequals : "equals" ∉ f.operators) (hkey : f.key = "vulnServiceCriticalHighCount") :
    f.Lawful env d value :=
  lawful_of_above hnone hequals (d.serviceChecked env) (d.criticalHigh env) (numberOrZero env value)
    fun operator => by
      rw [hkey]
      rfl

theorem lawful_lastSeenDaysAgo (hnone : f.opposites = []) (hequals : "equals" ∉ f.operators)
    (hkey : f.key = "lastSeenDaysAgo") : f.Lawful env d value :=
  lawful_of_below hnone hequals _ _ _ fun operator => by
    rw [hkey]
    exact any_below (daysSince env (d.get env "lastSeen")) (numberOrZero env value) operator

/-- `targetSeconds` of `daysSinceEnrollment`. -/
def targetSeconds (env : EvalEnv) (value : Value) : Option ℚ := do
  let target := value.orElse (.obj [])
  let amount ← numberOrZero env (target.prop env.toRuntime "amount")
  let seconds ← (secondsPerUnit env
    ((target.prop env.toRuntime "unit").orElse (.str "days"))).number env.toRuntime
  return amount * seconds

theorem lawful_daysSinceEnrollment (hnone : f.opposites = []) (hequals : "equals" ∉ f.operators)
    (hkey : f.key = "daysSinceEnrollment") : f.Lawful env d value := by
  have hfield : ∀ operator, d.satisfies env f.key operator value =
      ((d.get env "enrolledAt").truthy && (parseIso env (d.get env "enrolledAt")).any fun t =>
        (targetSeconds env value).isSome &&
          belowUnlessGreater operator (some ((env.now - t) / 1000)) (targetSeconds env value)) := by
    intro operator
    rw [hkey]
    rfl
  cases htime : parseIso env (d.get env "enrolledAt") with
  | none =>
    refine lawful_of_below hnone hequals false none none fun operator => ?_
    rw [hfield, htime]
    exact Bool.and_false _
  | some t =>
    refine lawful_of_below hnone hequals
      ((d.get env "enrolledAt").truthy && (targetSeconds env value).isSome)
      (some ((env.now - t) / 1000)) (targetSeconds env value) fun operator => ?_
    rw [hfield, htime, Bool.and_assoc]
    rfl

theorem satisfies_selfReportDaysAgo (operator : String) :
    d.satisfies env "selfReportDaysAgo" operator value =
      match daysSince env ((d.get env "selfReported").prop env.toRuntime "lastReportedAt") with
      | none => decide (operator = "greaterThan")
      | some days => belowUnlessGreater operator (some days) (numberOrZero env value) := rfl

theorem lawful_selfReportDaysAgo (hnone : f.opposites = []) (hequals : "equals" ∉ f.operators)
    (hkey : f.key = "selfReportDaysAgo") : f.Lawful env d value := by
  have hfield := fun operator => (congrArg (d.satisfies env · operator value) hkey).trans
    (satisfies_selfReportDaysAgo operator)
  cases hdays : daysSince env ((d.get env "selfReported").prop env.toRuntime "lastReportedAt") with
  | none =>
    -- a device that has never reported is behind every number of days and within none
    refine lawful_of_opposites (fun _ hpair => absurd (hnone ▸ hpair) not_mem_nil)
      fun _ _ => ⟨false, ?_, fun h => absurd h hequals⟩
    rw [hfield, hfield, hdays]
    show AtMostOne (decide ("lessThan" = "greaterThan")) (decide ("greaterThan" = "greaterThan")) false
    exact ⟨by decide, by decide, by decide⟩
  | some days =>
    refine lawful_of_below hnone hequals true (some days) (numberOrZero env value) fun operator => ?_
    rw [hfield, hdays]
    rfl

theorem lawful_locationAgeMinutes (hnone : f.opposites = []) (hequals : "equals" ∉ f.operators)
    (hkey : f.key = "locationAgeMinutes") : f.Lawful env d value := by
  have hfield : ∀ operator, d.satisfies env f.key operator value =
      evaluateLocationAge env (d.location) operator value := by
    intro operator
    rw [hkey]
    rfl
  unfold evaluateLocationAge at hfield
  cases hloc : d.location with
  | none =>
    refine lawful_of_below hnone hequals false none none fun operator => ?_
    rw [hfield, hloc]
    rfl
  | some loc =>
    refine lawful_of_below hnone hequals true (some ((env.now - loc.fetchedAt) / 60000))
      (numberOrZero env value) fun operator => ?_
    rw [hfield, hloc]
    rfl

end Fields

/-! ## Every field -/

/-- What `parseFraction` reads back. -/
def printFraction (q : ℚ) : String :=
  if q.den = 1 then q.num.repr else q.num.repr ++ "/" ++ q.den.repr

/-- A text of digits. -/
def readNat (s : List Char) : Option ℕ :=
  if s ≠ [] ∧ s.all Char.isDigit = true then some (Nat.ofDigitChars 10 s 0) else none

/-- A text of digits, with or without a sign. -/
def readInt : List Char → Option ℤ
  | '-' :: s => (readNat s).map fun n => -(n : ℤ)
  | s => (readNat s).map fun n => (n : ℤ)

/-- An empty text is zero; else the numerator, or both, that the text has. -/
def parseFraction (s : String) : Option ℚ :=
  if s = "" then some 0
  else match s.toList.splitOn '/' with
    | [num] => (readInt num).map Int.cast
    | [num, den] =>
      (readInt num).bind fun n => (readNat den).map fun d : ℕ => (n : ℚ) / (d : ℚ)
    | _ => none

variable {c : Char}

theorem isDigit_of_mem_repr {n : ℕ} (h : c ∈ n.repr.toList) : c.isDigit = true := by
  rw [Nat.toList_repr] at h
  exact Nat.isDigit_of_mem_toDigits (by decide) (by decide) h

theorem readNat_repr (n : ℕ) : readNat n.repr.toList = some n := by
  have hne : n.repr.toList ≠ [] := by
    rw [Nat.toList_repr]
    exact Nat.toDigits_ne_nil
  rw [readNat, if_pos ⟨hne, all_eq_true.mpr fun c hc => isDigit_of_mem_repr hc⟩,
    Nat.toList_repr, Nat.ofDigitChars_ten_toDigits]

theorem toList_repr_negSucc (n : ℕ) : (Int.negSucc n).repr.toList = '-' :: (n + 1).repr.toList := by
  rw [Int.repr, String.toList_append]
  rfl

theorem readInt_repr (n : ℤ) : readInt n.repr.toList = some n := by
  cases n with
  | ofNat n =>
    have hdigits : readInt n.repr.toList = (readNat n.repr.toList).map fun n => (n : ℤ) := by
      unfold readInt
      split
      · next s hs =>
        exact absurd (isDigit_of_mem_repr (hs ▸ mem_cons_self)) (by decide)
      · rfl
    exact hdigits.trans (by rw [readNat_repr]; rfl)
  | negSucc n =>
    rw [toList_repr_negSucc, readInt, readNat_repr]
    rfl

theorem not_slash_of_mem_repr {n : ℕ} (h : c ∈ n.repr.toList) : (c == '/') = false :=
  beq_eq_false_iff_ne.mpr fun hc => absurd (isDigit_of_mem_repr h) (hc ▸ by decide)

theorem not_slash_of_mem_intRepr {n : ℤ} (h : c ∈ n.repr.toList) : (c == '/') = false := by
  cases n with
  | ofNat n => exact not_slash_of_mem_repr h
  | negSucc n =>
    rw [toList_repr_negSucc] at h
    rcases mem_cons.mp h with rfl | h
    · rfl
    · exact not_slash_of_mem_repr h

theorem repr_ne_empty (n : ℤ) : n.repr ≠ "" := fun h => by
  have hread := readInt_repr n
  rw [h] at hread
  exact Option.some_ne_none n (show (none : Option ℤ) = some n from hread).symm

theorem parse_printFraction (q : ℚ) : parseFraction (printFraction q) = some q := by
  have hnum : q.num.repr.toList.splitOn '/' = [q.num.repr.toList] :=
    splitOnP_eq_singleton fun c hc => not_slash_of_mem_intRepr hc
  unfold printFraction
  split_ifs with hone
  · rw [parseFraction, if_neg (repr_ne_empty _), hnum]
    show (readInt q.num.repr.toList).map _ = _
    rw [readInt_repr, Option.map_some, Rat.coe_int_num_of_den_eq_one hone]
  · have hsplit : (q.num.repr ++ "/" ++ q.den.repr).toList.splitOn '/' =
        [q.num.repr.toList, q.den.repr.toList] := by
      rw [String.toList_append, String.toList_append, append_assoc]
      show splitOnP _ (q.num.repr.toList ++ '/' :: q.den.repr.toList) = _
      rw [splitOnP_append_cons _ _ (by decide)]
      show q.num.repr.toList.splitOn '/' ++ _ = _
      rw [hnum, splitOnP_eq_singleton fun c hc => not_slash_of_mem_repr hc]
      rfl
    have hne : q.num.repr ++ "/" ++ q.den.repr ≠ "" := fun h => by
      rw [h] at hsplit
      exact absurd (show 1 = 2 from congrArg length hsplit) (by decide)
    rw [parseFraction, if_neg hne, hsplit]
    show (readInt q.num.repr.toList).bind _ = _
    rw [readInt_repr, Option.bind_some, readNat_repr]
    exact congrArg some (Rat.num_div_den q)

/-- A runtime whose numbers are printed as fractions. -/
def fractionEnv : EvalEnv where
  now := 0
  parseDate _ := none
  parseNumber := parseFraction
  printNumber := printFraction
  toLowerCase s := String.ofList (s.toList.map Char.toLower)
  inherited _ := .undefined
  setMember _ _ := .undefined
  haversineDistanceMeters _ _ := 0

theorem readsNumbers_fractionEnv : ReadsNumbers fractionEnv where
  parse_print := parse_printFraction
  parse_empty := rfl
  parse_bool := by decide +kernel

/-- A device of Windows with the given properties. -/
def bareDevice (facts : List (String × Value)) : Subject where
  core := {
    id := "d1", displayName := "", serialNumber := "", platform := "windows"
    platformDeviceId := "", riskTier := none, deviceAudiences := [], segmentId := none }
  facts := facts

/-- A device whose attribute "disk" is 5. -/
def diskDevice : Subject :=
  bareDevice [("smartAttributes", .arr [.obj [("name", .str "disk"), ("value", .str "5")]])]

/-- The attribute "disk" against the number 5. -/
def diskOperand : Value :=
  .obj [("name", .str "disk"), ("compareValue", .num 5)]

end AppliverySoar.Compliance
