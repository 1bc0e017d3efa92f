import AppliverySoar.Compliance.Operators

/-!
# Searched texts and missing numbers

The operator `contains` and the numeric operators of `compareScalar` and of
`evaluateCondition` (complianceEvaluate.ts, lines 89–440), for devices with and
without the value that a field reads.

Results:
* `satisfies_contains`: the nine fields search one text in another.
* `satisfies_number_of_lacks`: what a numeric field answers for a device that lacks
  the number.
* `contains_and_missing`: the two together.
* `never_reported_matches`: a device that has never reported.
-/

namespace AppliverySoar.Compliance

open Js

namespace Subject

variable (env : EvalEnv) (d : Subject)

/-! ## What a device has -/

/-- The value that a field with `contains` reads of the device; `none` where the
device has no such attribute or result, or the condition names no path. -/
def textValue (key : String) (value : Value) : Option Value :=
  let target := value.orElse (.obj [])
  let name := fun part => (target.prop env.toRuntime part).text env.toRuntime
  match key with
  | "mdmUserEmail" => some ((d.get env "mdmUser").prop env.toRuntime "email")
  | "smartAttribute" => (d.get env "smartAttributes").elements.bind fun l =>
      if (smartAttributes env l).has env.toRuntime (name "name") then
        some ((smartAttributes env l).prop env.toRuntime (name "name"))
      else none
  | "customField" =>
      match (target.prop env.toRuntime "path").orElse (.str "") with
      | .str path => some (getByPath env (d.get env) path)
      | _ => none
  | "selfReportedAttribute" =>
      if (d.reportedAttributes env).isObject &&
          (d.reportedAttributes env).has env.toRuntime (name "name") then
        some ((d.reportedAttributes env).prop env.toRuntime (name "name"))
      else none
  | "customCheckResult" =>
      let entry := d.checkResult env (name "key")
      if entry.truthy && !(entry.prop env.toRuntime "error").truthy then
        some (entry.prop env.toRuntime "value")
      else none
  | key => some (d.get env key)

/-- What the condition's value is compared by: `compareValue` where the value names
something. -/
def searchValue (key : String) (value : Value) : Value :=
  if key ∈ ["smartAttribute", "customField", "selfReportedAttribute", "customCheckResult"] then
    (value.orElse (.obj [])).prop env.toRuntime "compareValue"
  else value

/-- The device has no number for the field. -/
def LacksNumber (key : String) : Prop :=
  match key with
  | "lastSeenDaysAgo" => daysSince env (d.get env "lastSeen") = none
  | "daysSinceEnrollment" =>
    (d.get env "enrolledAt").truthy = false ∨ parseIso env (d.get env "enrolledAt") = none
  | "selfReportDaysAgo" =>
    daysSince env ((d.get env "selfReported").prop env.toRuntime "lastReportedAt") = none
  | "osUpdatePendingCount" => (pendingCount env (d.get env "osUpdateStatus") true).isNullish = true
  | "vulnPendingCveCount" =>
    (pendingCount env (d.get env "vulnStatus")
      (!((d.get env "vulnStatus").prop env.toRuntime "confidence").strictEq
        (.str "unknown"))).isNullish = true
  | "appleAppUpdatesPending" =>
    (pendingCount env (d.get env "appleAppUpdateStatus") true).isNullish = true
  | "vulnServiceCriticalHighCount" => d.serviceChecked env = false
  | "locationAgeMinutes" => d.location = none
  | key => (d.get env key).isNullish = true

end Subject

/-- The text of a value as it is searched. -/
def searchedText (env : EvalEnv) (v : Value) : String :=
  env.toLowerCase (textOrEmpty env v)

/-- The fields that are numbers. -/
def ComplianceFieldDef.isNumeric (f : ComplianceFieldDef) : Bool :=
  f.type = "number" || f.type = "duration"

/-! ## Texts -/

section Texts

variable {env : EvalEnv} {d : Subject} {value : Value} {f : ComplianceFieldDef}

theorem comparePresent_contains (present : Bool) (actual target : Value) :
    comparePresent env present actual "contains" target =
      (if present then some actual else none).any fun actual =>
        compareScalar env actual "contains" target := by
  cases present <;> rfl

/-- The fields with `contains` compare what the device has, if it has it. -/
theorem satisfies_contains (hf : f ∈ complianceFields) (hcontains : "contains" ∈ f.operators) :
    d.satisfies env f.key "contains" value = (d.textValue env f.key value).any fun actual =>
      includes (searchedText env (Subject.searchValue env f.key value))
        (searchedText env actual) := by
  have hnine : f.key ∈ ["manufacturer", "model", "serialNumber", "imei", "mdmUserEmail",
      "smartAttribute", "customField", "selfReportedAttribute", "customCheckResult"] := by
    revert f
    decide
  obtain ⟨key, type, operators⟩ := f
  dsimp only at hnine ⊢
  rcases hnine with _ | ⟨_, _ | ⟨_, _ | ⟨_, _ | ⟨_, _ | ⟨_, hnine⟩⟩⟩⟩⟩
  · rfl
  · rfl
  · rfl
  · rfl
  · rfl
  rcases hnine with _ | ⟨_, _ | ⟨_, _ | ⟨_, _ | ⟨_, hnil⟩⟩⟩⟩
  · show ((d.get env "smartAttributes").elements.any fun l => comparePresent env _ _ "contains" _) = _
    unfold Subject.textValue
    dsimp only
    cases (d.get env "smartAttributes").elements with
    | none => rfl
    | some l => exact comparePresent_contains _ _ _
  · show evaluateCustomField env (d.get env) "contains" value = _
    have htext : d.textValue env "customField" value =
        match ((value.orElse (.obj [])).prop env.toRuntime "path").orElse (.str "") with
        | .str path => some (getByPath env (d.get env) path)
        | _ => none := rfl
    rw [htext, evaluateCustomField]
    dsimp only
    generalize ((value.orElse (.obj [])).prop env.toRuntime "path").orElse (.str "") = path
    cases path <;> rfl
  · show ((d.reportedAttributes env).isObject && comparePresent env _ _ "contains" _) = _
    unfold Subject.textValue
    dsimp only
    cases (d.reportedAttributes env).isObject with
    | false => rfl
    | true => exact comparePresent_contains _ _ _
  · exact comparePresent_contains _ _ _
  · cases hnil

/-- Where the two texts are the same, or neither contains the other, it does not
matter which one is searched for. -/
theorem contains_iff {actual : Value} (hf : f ∈ complianceFields)
    (hcontains : "contains" ∈ f.operators) (hactual : d.textValue env f.key value = some actual)
    (hsame : searchedText env actual = searchedText env (Subject.searchValue env f.key value) ∨
      includes (searchedText env actual)
        (searchedText env (Subject.searchValue env f.key value)) = false ∧
      includes (searchedText env (Subject.searchValue env f.key value))
        (searchedText env actual) = false) :
    d.satisfies env f.key "contains" value = includes (searchedText env actual)
      (searchedText env (Subject.searchValue env f.key value)) := by
  rw [satisfies_contains hf hcontains, hactual, Option.any_some]
  rcases hsame with hsame | ⟨hleft, hright⟩
  · rw [hsame]
  · rw [hleft, hright]

/-! ## Numbers -/

theorem compareAmount_of_nullish {actual : Value} (h : actual.isNullish = true) (operator : String) :
    compareAmount env actual operator value = false := by
  rw [compareAmount, h]
  rfl

variable {operator : String}

theorem compareScalar_undefined (h : operator ∈ ["greaterThan", "lessThan"]) :
    compareScalar env .undefined operator value = false := by
  rcases h with _ | ⟨_, _ | ⟨_, hnil⟩⟩
  · show less (value.number env.toRuntime) none = false
    cases value.number env.toRuntime <;> rfl
  · rfl
  · cases hnil

theorem eq_undefined {v : Value} (h : v.isNullish = true) (hnull : v.strictEq .null = false) :
    v = .undefined := by
  cases v with
  | undefined => rfl
  | null => exact absurd hnull (by decide)
  | _ => cases h

/-- The numeric fields that `compareScalar` compares. -/
def scalarNumbers : List String := ["totalStorageGb", "ramGb", "riskScore"]

/-- A device that lacks the number of a field does not match it, but for a device
that has never reported. -/
theorem satisfies_number_of_lacks (hf : f ∈ complianceFields)
    (hnumeric : f.isNumeric = true) (hoperator : operator ∈ ["greaterThan", "lessThan"])
    (hlacks : d.LacksNumber env f.key)
    (hscalar : f.key ∈ scalarNumbers → (d.get env f.key).strictEq .null = false) :
    d.satisfies env f.key operator value =
      decide (f.key = "selfReportDaysAgo" ∧ operator = "greaterThan") := by
  have hkeys : f.key ∈ ["lastSeenDaysAgo", "daysSinceEnrollment", "battery", "availableStorageGb",
      "totalStorageGb", "ramGb", "selfReportDaysAgo", "riskScore", "osUpdatePendingCount",
      "vulnPendingCveCount", "appleAppUpdatesPending", "vulnServiceCriticalHighCount",
      "locationAgeMinutes"] := by
    clear hlacks hscalar
    revert f
    decide
  obtain ⟨key, type, operators⟩ := f
  dsimp only at hkeys hlacks hscalar ⊢
  simp only [List.mem_cons, List.not_mem_nil, or_false] at hkeys
  rcases hkeys with rfl | rfl | rfl | rfl | rfl | rfl | rfl | rfl | rfl | rfl | rfl | rfl | rfl
  · show (daysSince env (d.get env "lastSeen")).any _ = _
    rw [show daysSince env (d.get env "lastSeen") = none from hlacks]
    rfl
  · show ((d.get env "enrolledAt").truthy && (parseIso env (d.get env "enrolledAt")).any _) = _
    rcases hlacks with hnone | hnone <;> rw [hnone]
    · rfl
    · exact Bool.and_false _
  · exact compareAmount_of_nullish hlacks operator
  · exact compareAmount_of_nullish hlacks operator
  · show compareScalar env (d.get env "totalStorageGb") operator value = _
    rw [eq_undefined hlacks (hscalar (by decide))]
    exact compareScalar_undefined hoperator
  · show compareScalar env (d.get env "ramGb") operator value = _
    rw [eq_undefined hlacks (hscalar (by decide))]
    exact compareScalar_undefined hoperator
  · rw [satisfies_selfReportDaysAgo, show daysSince env ((d.get env "selfReported").prop env.toRuntime "lastReportedAt") = none
      from hlacks, decide_eq_decide]
    exact ⟨fun h => ⟨rfl, h⟩, fun h => h.2⟩
  · show compareScalar env (d.get env "riskScore") operator value = _
    rw [eq_undefined hlacks (hscalar (by decide))]
    exact compareScalar_undefined hoperator
  · exact compareAmount_of_nullish hlacks operator
  · exact compareAmount_of_nullish hlacks operator
  · exact compareAmount_of_nullish hlacks operator
  · show (d.serviceChecked env && _) = _
    rw [show d.serviceChecked env = false from hlacks]
    rfl
  · show evaluateLocationAge env d.location operator value = _
    rw [show d.location = none from hlacks]
    rfl

end Texts

/-! ## Both -/

/-- A condition with `contains` does not match a device that has no such entry, and,
where the device's text is the searched one or neither contains the other, it
matches exactly if the device's contains the searched one. A numeric condition
does not match a device that lacks the number, but for `greaterThan` on the days
since the last self-report, which matches a device that has never reported. -/
theorem contains_and_missing (env : EvalEnv) (d : Subject) (value : Value) :
    (∀ f ∈ complianceFields, "contains" ∈ f.operators →
      (d.textValue env f.key value = none →
        d.satisfies env f.key "contains" value = false) ∧
      ∀ actual, d.textValue env f.key value = some actual →
        let device := searchedText env actual
        let search := searchedText env (Subject.searchValue env f.key value)
        device = search ∨ includes device search = false ∧ includes search device = false →
        d.satisfies env f.key "contains" value = includes device search) ∧
    ∀ f ∈ complianceFields, f.isNumeric = true → ∀ operator ∈ ["greaterThan", "lessThan"],
      d.LacksNumber env f.key →
      (f.key ∈ scalarNumbers → (d.get env f.key).strictEq .null = false) →
      d.satisfies env f.key operator value =
        decide (f.key = "selfReportDaysAgo" ∧ operator = "greaterThan") := by
  refine ⟨fun f hf hcontains => ⟨fun hnone => ?_, fun actual hactual hsame => ?_⟩, ?_⟩
  · rw [satisfies_contains hf hcontains, hnone]
    rfl
  · exact contains_iff hf hcontains hactual hsame
  · exact fun f hf hnumeric operator hoperator hlacks hscalar =>
      satisfies_number_of_lacks hf hnumeric hoperator hlacks hscalar

/-- A device that has never reported matches "more than 30 days since the last
self-report"; and a "MacBook Pro" is not found by a search for "macbook". -/
theorem never_reported_matches :
    (¬∀ (env : EvalEnv) (d : Subject) (value : Value),
      ∀ f ∈ complianceFields, f.isNumeric = true → ∀ operator ∈ ["greaterThan", "lessThan"],
        d.LacksNumber env f.key → d.satisfies env f.key operator value = false) ∧
    ¬∀ (env : EvalEnv) (d : Subject) (value : Value),
      ∀ f ∈ complianceFields, "contains" ∈ f.operators →
        ∀ actual, d.textValue env f.key value = some actual → actual.isNullish = false →
          d.satisfies env f.key "contains" value = includes (searchedText env actual)
            (searchedText env (Subject.searchValue env f.key value)) := by
  refine ⟨fun hall => ?_, fun hall => ?_⟩
  · have hlacks : (bareDevice []).LacksNumber fractionEnv "selfReportDaysAgo" :=
      show daysSince fractionEnv _ = none from rfl
    have hnever := hall fractionEnv (bareDevice []) (.num 30) complianceFields[25]
      (List.getElem_mem (by decide)) rfl "greaterThan" (by decide) hlacks
    cases hnever
  · have hfound := hall fractionEnv (bareDevice [("model", .str "MacBook Pro")]) (.str "macbook")
      complianceFields[11] (List.getElem_mem (by decide)) (by decide) (.str "MacBook Pro") rfl rfl
    have hmissed : (bareDevice [("model", .str "MacBook Pro")]).satisfies fractionEnv "model"
        "contains" (.str "macbook") = false := by decide +kernel
    have hthere : includes (searchedText fractionEnv (.str "MacBook Pro"))
        (searchedText fractionEnv (.str "macbook")) = true := by decide +kernel
    rw [show complianceFields[11].key = "model" from rfl, hmissed] at hfound
    exact Bool.false_ne_true (hfound.trans hthere)

end AppliverySoar.Compliance
