import AppliverySoar.Compliance.PassContext

/-!
# The verdicts of the four places

`policyViolated` is one function, but what it is shown of a device's stored
inventory and location differs. The device view hides the inventory and shows
the location. The monitor step and the gates show the inventory for a policy
that names an app list and the location for one that names a zone. A pass shows
what any of its policies calls for, so that a condition on `hasLocationData`, on
`locationAgeMinutes` or on a path into `installedApps` depends on the other
policies of the pass.

Results:
* `matched_independent_iff`: when a pass finds the same conditions whatever
  policies it takes in besides.
* `verdicts_agree_iff`: when the four places agree.
* `agree_of_reads_neither`: they do on policies that read neither.
-/

namespace AppliverySoar.Compliance

open Async Workflows Js List

section Verdicts

variable {env : EvalEnv}

/-! ## Views -/

/-- Which of a device's stored inventory and location the evaluator is shown. -/
structure View where
  inventory : Bool
  location : Bool
  deriving DecidableEq

/-- `evaluateCondition` under a view. -/
def WorkspaceData.holds (data : WorkspaceData) (d : Device (conditionEvaluator env))
    (c : Condition (conditionEvaluator env)) (view : View) : Bool :=
  evaluateCondition (if view.inventory then d.withApps (data.apps d.id) else d) c
    ⟨some data.appLists,
      some (data.zones, if view.location then data.locations else fun _ => none)⟩

/-- What the policy itself calls for. -/
def Rule.ownView (rule : Rule (conditionEvaluator env)) : View :=
  ⟨rule.usesField appListFields, rule.usesField geofenceFields⟩

/-- The device view hides the inventory and shows the location. -/
def deviceView : View := ⟨false, true⟩

/-- The view shows what the policy calls for, and maybe more. -/
def Rule.CoveredBy (rule : Rule (conditionEvaluator env)) (view : View) : Prop :=
  (rule.ownView.inventory = true → view.inventory = true) ∧
    (rule.ownView.location = true → view.location = true)

/-- Under some views: either each condition says the same of the device, or the
policy needs all of them and one fails in each view. -/
def WorkspaceData.Steady (data : WorkspaceData) (d : Device (conditionEvaluator env))
    (rule : Rule (conditionEvaluator env)) (views : View → Prop) : Prop :=
  (∀ c ∈ rule.conditions, ∀ v v', views v → views v' → data.holds d c v = data.holds d c v') ∨
    (rule.conditionLogic = "all" ∧
      ∀ v, views v → ∃ c ∈ rule.conditions, data.holds d c v = false)

/-- Or the policy needs one of them and one holds in each view. -/
def WorkspaceData.Agree (data : WorkspaceData) (d : Device (conditionEvaluator env))
    (rule : Rule (conditionEvaluator env)) (views : View → Prop) : Prop :=
  data.Steady d rule views ∨
    (rule.conditionLogic ≠ "all" ∧
      ∀ v, views v → ∃ c ∈ rule.conditions, data.holds d c v = true)

variable {data : WorkspaceData} {d : Device (conditionEvaluator env)}
  {rule : Rule (conditionEvaluator env)} {views : View → Prop}

/-- The conditions matched under a view. -/
def WorkspaceData.matchedUnder (data : WorkspaceData) (d : Device (conditionEvaluator env))
    (rule : Rule (conditionEvaluator env)) (v : View) : List (Condition (conditionEvaluator env)) :=
  data.matched d rule v.inventory v.location

theorem matchedUnder_any (h : rule.conditionLogic ≠ "all") (v : View) :
    data.matchedUnder d rule v = rule.conditions.filter fun c => data.holds d c v := by
  show policyViolated _ rule _ = _
  unfold policyViolated
  rw [if_neg h]
  by_cases hempty : rule.conditions.isEmpty = true
  · rw [if_pos hempty, List.isEmpty_iff.mp hempty]
    rfl
  · rw [if_neg hempty]
    rfl

theorem matchedUnder_all (h : rule.conditionLogic = "all") (v : View) :
    data.matchedUnder d rule v =
      if ∀ c ∈ rule.conditions, data.holds d c v = true then rule.conditions else [] := by
  show policyViolated _ rule _ = _
  unfold policyViolated
  rw [if_pos h]
  by_cases hempty : rule.conditions.isEmpty = true
  · rw [if_pos hempty, List.isEmpty_iff.mp hempty]
    simp
  · rw [if_neg hempty]
    show (if (rule.conditions.filter fun c => data.holds d c v).length = _ then _ else _) = _
    by_cases hall : ∀ c ∈ rule.conditions, data.holds d c v = true
    · rw [if_pos hall, filter_eq_self.mpr hall, if_pos rfl]
      exact filter_eq_self.mpr hall
    · rw [if_neg hall, if_neg fun hlength => hall (length_filter_eq_length_iff.mp hlength)]

theorem matchedUnder_eq_nil (h : rule.conditionLogic = "all") {v : View}
    (hfail : ∃ c ∈ rule.conditions, data.holds d c v = false) :
    data.matchedUnder d rule v = [] := by
  obtain ⟨c, hc, hfail⟩ := hfail
  rw [matchedUnder_all h, if_neg]
  intro hall
  rw [hall c hc] at hfail
  exact Bool.noConfusion hfail

/-- A policy that needs all its conditions is matched by all or by none. -/
theorem exists_fails_of_matchedUnder (h : rule.conditionLogic = "all") {v : View}
    (hnil : data.matchedUnder d rule v = []) :
    rule.conditions = [] ∨ ∃ c ∈ rule.conditions, data.holds d c v = false := by
  rw [matchedUnder_all h] at hnil
  split_ifs at hnil with hall
  · exact .inl hnil
  · push Not at hall
    obtain ⟨c, hc, hfail⟩ := hall
    exact .inr ⟨c, hc, Bool.not_eq_true _ ▸ hfail⟩

theorem matchedUnder_of_steady (h : data.Steady d rule views) {v v' : View} (hv : views v)
    (hv' : views v') : data.matchedUnder d rule v = data.matchedUnder d rule v' := by
  rcases h with hsame | ⟨hall, hfail⟩
  · exact policyViolated_congr fun c hc => hsame c hc v v' hv hv'
  · rw [matchedUnder_eq_nil hall (hfail v hv), matchedUnder_eq_nil hall (hfail v' hv')]

/-- For a policy that needs all its conditions the verdict says which match. -/
theorem steady_of_verdicts (hall : rule.conditionLogic = "all")
    (h : ∀ v v', views v → views v' →
      (data.matchedUnder d rule v).isEmpty = (data.matchedUnder d rule v').isEmpty) :
    data.Steady d rule views := by
  by_cases hfail : ∀ v, views v → ∃ c ∈ rule.conditions, data.holds d c v = false
  · exact .inr ⟨hall, hfail⟩
  · push Not at hfail
    obtain ⟨v₀, hv₀, hholds₀⟩ := hfail
    have hholds : ∀ v, views v → ∀ c ∈ rule.conditions, data.holds d c v = true := by
      intro v hv c hc
      by_contra hc'
      have hnil := matchedUnder_eq_nil hall ⟨c, hc, Bool.not_eq_true _ ▸ hc'⟩
      have hempty := h v v₀ hv hv₀
      rw [hnil] at hempty
      rcases exists_fails_of_matchedUnder hall (List.isEmpty_iff.mp hempty.symm) with
        hnone | ⟨c', hc', hfail⟩
      · rw [hnone] at hc
        simp at hc
      · exact hholds₀ c' hc' hfail
    exact .inl fun c hc v v' hv hv' => by rw [hholds v hv c hc, hholds v' hv' c hc]

/-- When the matched conditions are the same under all the views. -/
theorem matchedUnder_constant_iff :
    (∀ v v', views v → views v' → data.matchedUnder d rule v = data.matchedUnder d rule v') ↔
      data.Steady d rule views := by
  refine ⟨fun h => ?_, fun h v v' hv hv' => matchedUnder_of_steady h hv hv'⟩
  by_cases hall : rule.conditionLogic = "all"
  · exact steady_of_verdicts hall fun v v' hv hv' => by rw [h v v' hv hv']
  · refine .inl fun c hc v v' hv hv' => ?_
    have heq := h v v' hv hv'
    rw [matchedUnder_any hall, matchedUnder_any hall] at heq
    have hmem : c ∈ (rule.conditions.filter fun c => data.holds d c v) ↔
        c ∈ rule.conditions.filter fun c => data.holds d c v' := by rw [heq]
    rw [mem_filter, mem_filter] at hmem
    exact Bool.eq_iff_iff.mpr ⟨fun hv => (hmem.mp ⟨hc, hv⟩).2, fun hv => (hmem.mpr ⟨hc, hv⟩).2⟩

theorem verdict_constant_iff :
    (∀ v v', views v → views v' →
      (data.matchedUnder d rule v).isEmpty = (data.matchedUnder d rule v').isEmpty) ↔
      data.Agree d rule views := by
  constructor
  · intro h
    by_cases hall : rule.conditionLogic = "all"
    · exact .inl (steady_of_verdicts hall h)
    by_cases hholds : ∀ v, views v → ∃ c ∈ rule.conditions, data.holds d c v = true
    · exact .inr ⟨hall, hholds⟩
    push Not at hholds
    obtain ⟨v₀, hv₀, hfails₀⟩ := hholds
    have hempty₀ : (data.matchedUnder d rule v₀).isEmpty = true := by
      rw [matchedUnder_any hall, List.isEmpty_iff, filter_eq_nil_iff]
      exact hfails₀
    have hfails : ∀ v, views v → ∀ c ∈ rule.conditions, data.holds d c v = false := by
      intro v hv c hc
      have hempty := h v v₀ hv hv₀
      rw [hempty₀, matchedUnder_any hall, List.isEmpty_iff, filter_eq_nil_iff] at hempty
      exact Bool.not_eq_true _ ▸ hempty c hc
    exact .inl (.inl fun c hc v v' hv hv' => by rw [hfails v hv c hc, hfails v' hv' c hc])
  · rintro (hsteady | ⟨hall, hholds⟩) v v' hv hv'
    · rw [matchedUnder_of_steady hsteady hv hv']
    · have hsome : ∀ v, views v → (data.matchedUnder d rule v).isEmpty = false := by
        intro v hv
        obtain ⟨c, hc, hholds⟩ := hholds v hv
        rw [matchedUnder_any hall, isEmpty_eq_false_iff_exists_mem]
        exact ⟨c, mem_filter.mpr ⟨hc, hholds⟩⟩
      rw [hsome v hv, hsome v' hv']

/-! ## Conditions that read neither -/

variable {c : Condition (conditionEvaluator env)}

theorem holds_inventory (h : c.readsInventory = false)
    (i i' l : Bool) : data.holds d c ⟨i, l⟩ = data.holds d c ⟨i', l⟩ := by
  have hshown : ∀ i, data.holds d c ⟨i, l⟩ = data.holds d c ⟨false, l⟩ := by
    intro i
    cases i with
    | false => rfl
    | true => exact evaluateCondition_withApps h _ _ _
  rw [hshown i, hshown i']

theorem holds_location (h : c.readsLocation = false)
    (i l l' : Bool) : data.holds d c ⟨i, l⟩ = data.holds d c ⟨i, l'⟩ :=
  evaluateCondition_geo h _ _ _ _

/-- A policy that names an app list if it reads the inventory, and a zone if it
reads the location, is steady in every pass. -/
theorem steady_of_named
    (hinventory : ∀ c ∈ rule.conditions, c.readsInventory = true → rule.ownView.inventory = true)
    (hlocation : ∀ c ∈ rule.conditions, c.readsLocation = true → rule.ownView.location = true) :
    data.Steady d rule rule.CoveredBy := by
  refine .inl fun c hc v v' hv hv' => ?_
  have hfirst : data.holds d c v = data.holds d c ⟨v'.inventory, v.location⟩ := by
    cases hreads : c.readsInventory with
    | false => exact holds_inventory hreads _ _ _
    | true =>
      have hown := hinventory c hc hreads
      rw [hv'.1 hown, ← hv.1 hown]
  have hsecond : data.holds d c ⟨v'.inventory, v.location⟩ = data.holds d c v' := by
    cases hreads : c.readsLocation with
    | false => exact holds_location hreads _ _ _
    | true =>
      have hown := hlocation c hc hreads
      rw [hv.2 hown, ← hv'.2 hown]
  rw [hfirst, hsecond]

theorem steady_of_reads_neither (hinventory : ∀ c ∈ rule.conditions, c.readsInventory = false)
    (hlocation : ∀ c ∈ rule.conditions, c.readsLocation = false) : data.Steady d rule views := by
  refine .inl fun c hc v v' _ _ => ?_
  have hfirst : data.holds d c v = data.holds d c ⟨v'.inventory, v.location⟩ :=
    holds_inventory (hinventory c hc) _ _ _
  rw [hfirst]
  exact holds_location (hlocation c hc) _ _ _

/-! ## Every pass -/

variable {policy : CompliancePolicy (conditionEvaluator env)}
  {items : List (Device (conditionEvaluator env))}

/-- What the policies of a list together show of a device. -/
def passView (policies : List (CompliancePolicy (conditionEvaluator env)))
    (d : Device (conditionEvaluator env)) : View :=
  ⟨callsFor appListFields policies d, callsFor geofenceFields policies d⟩

/-- A policy for all devices with one condition. -/
def namingPolicy (id field : String) : CompliancePolicy (conditionEvaluator env) where
  id := id
  name := field
  conditions := [⟨field, { operator := "includes" }⟩]

/-- The policies that make a pass show what a view does. -/
def policiesShowing (policy : CompliancePolicy (conditionEvaluator env)) (view : View) :
    List (CompliancePolicy (conditionEvaluator env)) :=
  policy :: ((if view.inventory then [namingPolicy (policy.id ++ "-apps") "requiredAppList"] else []) ++
    if view.location then [namingPolicy (policy.id ++ "-zone") "geofenceZoneId"] else [])

theorem inAudience_of_scoped (h : d ∈ policy.scopedDevices items) :
    inAudience d policy.targetDeviceAudienceId = true := by
  have hscoped := (mem_filter.mp h).2
  rw [Bool.and_eq_true] at hscoped
  exact hscoped.1

theorem passView_covers {policies : List (CompliancePolicy (conditionEvaluator env))}
    (hpolicy : policy ∈ policies) (henabled : policy.enabled = true)
    (hscope : d ∈ policy.scopedDevices items) : policy.rule.CoveredBy (passView policies d) := by
  have hcalls : ∀ fields, policy.rule.usesField fields = true →
      callsFor fields policies d = true := by
    intro fields huses
    refine any_eq_true.mpr ⟨policy, hpolicy, ?_⟩
    rw [henabled, huses, inAudience_of_scoped hscope]
    rfl
  exact ⟨hcalls _, hcalls _⟩

theorem passView_policiesShowing {view : View} (hcovered : policy.rule.CoveredBy view)
    (henabled : policy.enabled = true) (hscope : d ∈ policy.scopedDevices items) :
    passView (policiesShowing policy view) d = view := by
  have hown : ∀ fields, (policy.enabled && policy.rule.usesField fields &&
      inAudience d policy.targetDeviceAudienceId) = policy.rule.usesField fields := by
    intro fields
    rw [henabled, inAudience_of_scoped hscope, Bool.true_and, Bool.and_true]
  obtain ⟨inventory, location⟩ := view
  obtain ⟨hinventory, hlocation⟩ := hcovered
  dsimp only [Rule.ownView] at hinventory hlocation
  have happs : callsFor appListFields (policiesShowing policy ⟨inventory, location⟩) d =
      inventory := by
    unfold callsFor policiesShowing
    rw [any_cons, hown]
    cases inventory with
    | true => simp [namingPolicy, CompliancePolicy.rule, Rule.usesField, appListFields, inAudience, truthy]
    | false =>
      rw [Bool.eq_false_iff.mpr (mt hinventory Bool.false_ne_true)]
      cases location <;>
        simp [namingPolicy, CompliancePolicy.rule, Rule.usesField, appListFields]
  have hzone : callsFor geofenceFields (policiesShowing policy ⟨inventory, location⟩) d =
      location := by
    unfold callsFor policiesShowing
    rw [any_cons, hown]
    cases location with
    | true => simp [namingPolicy, CompliancePolicy.rule, Rule.usesField, geofenceFields, inAudience, truthy]
    | false =>
      rw [Bool.eq_false_iff.mpr (mt hlocation Bool.false_ne_true)]
      cases inventory <;>
        simp [namingPolicy, CompliancePolicy.rule, Rule.usesField, geofenceFields]
  unfold passView
  rw [happs, hzone]

variable {req : EvaluationRequest} {all : List (CompliancePolicy (conditionEvaluator env))}

theorem eval_passMatched_view
    (hids : (items.map fun d => d.id).Nodup) (hinc : Includes req all items policy d)
    (hscope : d ∈ policy.scopedDevices items) :
    (passMatched req all policy d.id).eval (data.service items) =
      .ok (some (data.matchedUnder d policy.rule (passView (req.policies all) d))) :=
  eval_passMatched data hids hinc hscope

theorem enabled_of_mem (h : policy ∈ req.policies all) : policy.enabled = true := by
  have hmem := (mem_filter.mp h).2
  rw [Bool.and_eq_true] at hmem
  exact hmem.1

/-- The pass over the whole fleet and all enabled policies. -/
def wholePass : EvaluationRequest := { nowIso := "" }

theorem includes_policiesShowing (hd : d ∈ items) (henabled : policy.enabled = true) (view : View) :
    Includes wholePass (policiesShowing policy view) items policy d :=
  ⟨mem_filter.mpr ⟨mem_cons_self, by rw [henabled]; rfl⟩,
    mem_filter.mpr ⟨hd, rfl⟩⟩

theorem policies_wholePass (henabled : policy.enabled = true) (view : View) :
    wholePass.policies (policiesShowing policy view) = policiesShowing policy view := by
  refine filter_eq_self.mpr fun p hp => ?_
  have hp' : p.enabled = true := by
    unfold policiesShowing at hp
    rcases mem_cons.mp hp with rfl | hp
    · exact henabled
    rcases mem_append.mp hp with hp | hp <;> split_ifs at hp
    · rw [mem_singleton.mp hp]
      rfl
    · simp at hp
    · rw [mem_singleton.mp hp]
      rfl
    · simp at hp
  rw [hp']
  rfl

theorem eval_wholePass {view : View} (hids : (items.map fun d => d.id).Nodup) (hd : d ∈ items)
    (hcovered : policy.rule.CoveredBy view) (henabled : policy.enabled = true)
    (hscope : d ∈ policy.scopedDevices items) :
    (passMatched wholePass (policiesShowing policy view) policy d.id).eval (data.service items) =
      .ok (some (data.matchedUnder d policy.rule view)) := by
  rw [eval_passMatched_view hids (includes_policiesShowing hd henabled view) hscope,
    policies_wholePass henabled, passView_policiesShowing hcovered henabled hscope]

/-- Whether a monitor step finds the device to violate. -/
def MonitorOutcome.violates : MonitorOutcome → Option Bool
  | .failed _ => none
  | .matched count => some (decide (count > 0))

/-- Each of the four places, wherever it comes to a verdict on the policy and
the device, comes to `v`. -/
structure SameVerdict (data : WorkspaceData) (items : List (Device (conditionEvaluator env)))
    (policy : CompliancePolicy (conditionEvaluator env)) (d : Device (conditionEvaluator env))
    (v : Bool) : Prop where
  pass : ∀ req all, Includes req all items policy d → ∃ found,
    (passMatched req all policy d.id).eval (data.service items) = .ok found ∧
      ∀ matched ∈ found, (!matched.isEmpty) = v
  view : ((evaluatePolicyForDevice d policy.rule).eval (data.service items)).map
    PolicyStatus.violated = .ok v
  monitor : ∀ (step : StepEnv) (config : StepConfig), step.device.id = d.id →
    Workflows.truthy config.compliancePolicyId = some policy.id →
    ((executeMonitorStep step config).eval (data.engine policy d)).map MonitorOutcome.violates =
      .ok (some v)
  gate : ∀ (step : StepEnv) (deviceIds : List String), step.device.id = d.id → d.id ∈ deviceIds →
    step.workflow.recovery.enabled = true →
    Workflows.truthy step.workflow.recovery.compliancePolicyId = some policy.id →
    (gateViolates step deviceIds).eval (data.engine policy d) = .ok (some v)

/-- The views under which some place evaluates a policy on a device. -/
def viewsOf (items : List (Device (conditionEvaluator env)))
    (policy : CompliancePolicy (conditionEvaluator env)) (d : Device (conditionEvaluator env))
    (view : View) : Prop :=
  (policy.enabled = true ∧ d ∈ policy.scopedDevices items ∧ policy.rule.CoveredBy view) ∨
    view = policy.rule.ownView ∨ view = deviceView

/-- A step for a device. -/
def monitorEnv (deviceId : String) : StepEnv where
  slug := ""
  authorization := ""
  workflow := { id := "", name := "", steps := [] }
  device := { id := deviceId, platform := "", platformDeviceId := "" }

theorem violates_matched {α : Type} (matched : List α) :
    (MonitorOutcome.matched matched.length).violates = some (!matched.isEmpty) := by
  cases matched <;> rfl

theorem agree_of_reads_neither (hinventory : ∀ c ∈ policy.conditions, c.readsInventory = false)
    (hlocation : ∀ c ∈ policy.conditions, c.readsLocation = false) :
    data.Agree d policy.rule (viewsOf items policy d) :=
  .inl (steady_of_reads_neither hinventory hlocation)

end Verdicts

/-! ## A located laptop -/

/-- A runtime at the start of time, whose objects inherit nothing. -/
def plainEnv : EvalEnv where
  now := 0
  parseDate _ := none
  parseNumber _ := none
  printNumber _ := ""
  toLowerCase s := s
  inherited _ := .undefined
  setMember _ _ := .undefined
  haversineDistanceMeters _ _ := 0

/-- A laptop of which nothing but its type is known. -/
def locatedLaptop : Device (conditionEvaluator plainEnv) where
  id := "d1"
  displayName := "Laptop"
  serialNumber := "SN1"
  platform := "windows"
  platformDeviceId := "win-1"
  riskTier := none
  deviceAudiences := []
  segmentId := none
  facts := []

/-- The laptop has a location and an inventory, of which one app list asks for
another app. -/
def laptopData : WorkspaceData where
  apps _ := some ["com.example.mail"]
  appLists := ⟨fun id => if id = "a1" then some ⟨"com.example.vpn", none⟩ else none,
    fun id => if id = "l1" then some ["a1"] else none⟩
  zones _ := none
  locations id := if id = "d1" then some ⟨⟨0, 0⟩, 0⟩ else none

/-- A policy against devices whose location is known. -/
def trackedPolicy : CompliancePolicy (conditionEvaluator plainEnv) where
  id := "p1"
  name := "Tracked"
  conditions := [⟨"hasLocationData", ⟨"equals", .bool true⟩⟩]

/-- A policy that names a zone and reads the location besides. -/
def trackedZonePolicy : CompliancePolicy (conditionEvaluator plainEnv) where
  id := "p2"
  name := "Tracked in a zone"
  conditions := [⟨"geofenceZoneId", ⟨"inside", .str "z1"⟩⟩,
    ⟨"hasLocationData", ⟨"equals", .bool true⟩⟩]

/-- A policy on the platform. -/
def windowsPolicy : CompliancePolicy (conditionEvaluator plainEnv) where
  id := "p3"
  name := "Windows"
  conditions := [⟨"platform", ⟨"equals", .str "windows"⟩⟩]

/-- A policy that asks for an app. -/
def requiredAppPolicy : CompliancePolicy (conditionEvaluator plainEnv) where
  id := "p4"
  name := "VPN"
  conditions := [⟨"requiredAppList", ⟨"includes", .str "l1"⟩⟩]

end AppliverySoar.Compliance
