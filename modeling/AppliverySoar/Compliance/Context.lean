import AppliverySoar.Async.Eval
import AppliverySoar.Compliance.Conditions
import AppliverySoar.Compliance.Evaluation
import AppliverySoar.Workflows.Steps

/-!
# What a policy is evaluated with

Four places decide whether a device violates a policy: the evaluation pass,
`evaluatePolicyForDevice` (devices.service.ts, lines 624–672),
`executeMonitorStep` (workflowSteps.ts, lines 291–317) and the Recovery gates of
the two engines. Each of them loads the installed apps, the app lists, the zones
and the locations by a rule of its own. Here the last three are run over the
stored data of a workspace.

Results:
* `eval_evaluatePolicyForDevice`: the device view shows the location and hides
  the inventory.
* `eval_executeMonitorStep`, `eval_gateViolates`: the monitor step and the gates
  show what the policy itself calls for.
-/

namespace AppliverySoar.Compliance

open Async Prog Workflows Js List

/-! ## The device view -/

section Places

variable {E : Evaluator}

/-- What `evaluatePolicyForDevice` returns, without the labels. -/
structure PolicyStatus (E : Evaluator) where
  conditionLogic : String
  violated : Bool
  conditions : List (Condition E × Bool)

def evaluatePolicyForDevice (device : Device E) (rule : Rule E) : Service E (PolicyStatus E) := do
  let appLists ← ask .loadAppListsContext
  let zones ← ask .loadGeofenceZonesById
  let locations ← ask (.loadDeviceLocations [device.id])
  let conditions := rule.conditions.map fun c =>
    (c, evaluateCondition device c ⟨some appLists, some (zones, locations)⟩)
  let matchedCount := (conditions.filter Prod.snd).length
  return {
    conditionLogic := rule.conditionLogic
    violated :=
      if conditions.isEmpty then false
      else if rule.conditionLogic = "all" then matchedCount = conditions.length
      else matchedCount > 0
    conditions := conditions }

/-! ## The monitor step and the gates -/

/-- What `executeMonitorStep` comes to by line 317: a result of its own, or the
number of conditions that match. -/
inductive MonitorOutcome
  | failed (detail : String)
  | matched (count : ℕ)
  deriving DecidableEq

/-- Lines 307–309: the installed apps, where the policy names an app list. -/
def attachOwnApps (env : StepEnv) (rule : Rule E) (full : Device E) : Engine E (Device E) :=
  if rule.usesField appListFields then do
    let apps ← Workflows.ask (.readInstalledAppsFromStore env.slug env.device.id)
    return full.withApps apps
  else return full

/-- Lines 313–315: the zones and the location, where the policy names a zone. -/
def loadOwnGeo (env : StepEnv) (rule : Rule E) : Engine E (Option (E.Zones × E.Locations)) :=
  if rule.usesField geofenceFields then do
    let zones ← Workflows.ask (.loadGeofenceZonesById env.slug)
    let locations ← Workflows.ask (.loadDeviceLocations env.slug [env.device.id])
    return some (zones, locations)
  else return none

/-- `executeMonitorStep`, lines 291–317. What follows restores a quarantined
set of policies where none matches, and changes no verdict. -/
def executeMonitorStep (env : StepEnv) (config : StepConfig) : Engine E MonitorOutcome :=
  match truthy config.compliancePolicyId with
  | none => return .failed "No compliance policy selected to monitor against"
  | some policyId => do
    match ← Workflows.ask (.findCompliancePolicy env.slug policyId) with
    | none => return .failed "Linked compliance policy no longer exists"
    | some rule =>
      match ← getFullDevice env with
      | none => return .failed "Could not re-fetch device state to evaluate compliance"
      | some full =>
        let full ← attachOwnApps env rule full
        let appLists ← Workflows.ask (.loadAppListsContext env.slug)
        let geo ← loadOwnGeo env rule
        return .matched (policyViolated full rule ⟨some appLists, geo⟩).length

/-- The gate of a run over the devices `deviceIds`, asked about one of them:
whether it finds the device to violate its policy. Nothing without a gate. -/
def gateViolates (env : StepEnv) (deviceIds : List String) : Engine E (Option Bool) := do
  match ← loadGate env.slug env.workflow deviceIds with
  | none => return none
  | some gate =>
    let recovered ← gateRecovered env gate
    return some !recovered

theorem policyViolated_congr {rule : Rule E} {d d' : Device E} {ctx ctx' : EvalContext E}
    (h : ∀ c ∈ rule.conditions, evaluateCondition d c ctx = evaluateCondition d' c ctx') :
    policyViolated d rule ctx = policyViolated d' rule ctx' := by
  unfold policyViolated
  rw [filter_congr h]

/-- The flag that the device view computes from the single conditions. -/
theorem violated_iff_policyViolated (d : Device E) (rule : Rule E) (ctx : EvalContext E) :
    (if (rule.conditions.map fun c => (c, evaluateCondition d c ctx)).isEmpty then false
      else if rule.conditionLogic = "all" then
        decide (((rule.conditions.map fun c => (c, evaluateCondition d c ctx)).filter
          Prod.snd).length = (rule.conditions.map fun c => (c, evaluateCondition d c ctx)).length)
      else decide (((rule.conditions.map fun c => (c, evaluateCondition d c ctx)).filter
          Prod.snd).length > 0)) = !(policyViolated d rule ctx).isEmpty := by
  have hfilter : ((rule.conditions.map fun c => (c, evaluateCondition d c ctx)).filter
      Prod.snd).length = (rule.conditions.filter fun c => evaluateCondition d c ctx).length := by
    rw [filter_map, length_map]
    rfl
  rw [hfilter, length_map, isEmpty_map]
  unfold policyViolated
  by_cases hempty : rule.conditions.isEmpty = true
  · simp [hempty]
  · have hpos : 0 < rule.conditions.length :=
      length_pos_iff.mpr fun hnil => hempty (List.isEmpty_iff.mpr hnil)
    rw [if_neg hempty, if_neg hempty]
    dsimp only
    generalize hmatched : (rule.conditions.filter fun c => evaluateCondition d c ctx) = matched
    have hsome : decide (matched.length > 0) = !matched.isEmpty := by
      cases matched <;> simp
    split_ifs with hall hlen
    · rw [decide_eq_true hlen, ← hsome, decide_eq_true (hlen ▸ hpos)]
    · rw [decide_eq_false hlen]
      rfl
    · exact hsome

end Places

/-! ## The stored data -/

section Stored

variable {env : EvalEnv}

/-- What is stored for a workspace that evaluations read: the installed apps by
device, the app lists, the zones and the locations. -/
structure WorkspaceData where
  apps : String → Option (List String)
  appLists : AppListsContext
  zones : ZonesById
  locations : LocationsById

/-- `loadDeviceLocations`. -/
def WorkspaceData.locationsOf (data : WorkspaceData) (deviceIds : List String) : LocationsById :=
  fun id => if id ∈ deviceIds then data.locations id else none

/-- The answers to what the services read, over a fleet. -/
def WorkspaceData.service (data : WorkspaceData) (items : List (Device (conditionEvaluator env))) :
    (c : ServiceCall (conditionEvaluator env)) → Except ServiceError (ServiceCall.Answer c)
  | .getDevicesFull _ => .ok items
  | .readInstalledAppsFromStore id => .ok (data.apps id)
  | .loadAppListsContext => .ok data.appLists
  | .loadGeofenceZonesById => .ok data.zones
  | .loadDeviceLocations ids => .ok (data.locationsOf ids)
  | _ => .error (.other "not a read")

/-- The answers to what the engines read, for one policy and one device. -/
def WorkspaceData.engine (data : WorkspaceData) (policy : CompliancePolicy (conditionEvaluator env))
    (d : Device (conditionEvaluator env)) :
    (c : EngineCall) → Except JsError (EngineCall.Answer (conditionEvaluator env) c)
  | .findCompliancePolicy _ id => .ok (if id = policy.id then some policy.rule else none)
  | .getFullDevice _ _ id => .ok (if id = d.id then some d else none)
  | .readInstalledAppsFromStore _ id => .ok (data.apps id)
  | .loadAppListsContext _ => .ok data.appLists
  | .loadGeofenceZonesById _ => .ok data.zones
  | .loadDeviceLocations _ ids => .ok (data.locationsOf ids)
  | _ => .error ⟨"not a read"⟩

/-- The conditions of a rule that match a device when its stored inventory and
its stored location are shown to the evaluator or not. -/
def WorkspaceData.matched (data : WorkspaceData) (d : Device (conditionEvaluator env))
    (rule : Rule (conditionEvaluator env)) (inventory location : Bool) :
    List (Condition (conditionEvaluator env)) :=
  policyViolated (if inventory then d.withApps (data.apps d.id) else d) rule
    ⟨some data.appLists, some (data.zones, if location then data.locations else fun _ => none)⟩

variable (data : WorkspaceData) {d : Device (conditionEvaluator env)}
  {rule : Rule (conditionEvaluator env)} {policy : CompliancePolicy (conditionEvaluator env)}
  {items : List (Device (conditionEvaluator env))}

theorem id_shown (inventory : Bool) :
    (if inventory then d.withApps (data.apps d.id) else d).id = d.id := by
  cases inventory <;> rfl

/-- The locations of some devices show the device's own if it is among them. -/
theorem policyViolated_located (d : Device (conditionEvaluator env))
    (rule : Rule (conditionEvaluator env)) (inventory : Bool) (ids : List String) :
    policyViolated (if inventory then d.withApps (data.apps d.id) else d) rule
        ⟨some data.appLists, some (data.zones, data.locationsOf ids)⟩ =
      data.matched d rule inventory (decide (d.id ∈ ids)) := by
  refine policyViolated_congr fun c _ => evaluateCondition_location c _ _ _ ?_
  rw [id_shown data]
  by_cases h : d.id ∈ ids <;> simp [WorkspaceData.locationsOf, h]

theorem policyViolated_noGeo (d : Device (conditionEvaluator env))
    (rule : Rule (conditionEvaluator env)) (inventory : Bool) :
    policyViolated (if inventory then d.withApps (data.apps d.id) else d) rule
        ⟨some data.appLists, none⟩ = data.matched d rule inventory false :=
  policyViolated_congr fun c _ => evaluateCondition_noGeo c _ _ _ rfl

/-- What the policy itself calls for: the inventory where it names an app list,
the location where it names a zone. -/
def WorkspaceData.ownMatched (data : WorkspaceData) (d : Device (conditionEvaluator env))
    (rule : Rule (conditionEvaluator env)) : List (Condition (conditionEvaluator env)) :=
  data.matched d rule (rule.usesField appListFields) (rule.usesField geofenceFields)

/-- The device view hides the inventory and shows the location. -/
theorem eval_evaluatePolicyForDevice :
    ((evaluatePolicyForDevice d rule).eval (data.service items)).map PolicyStatus.violated =
      .ok (!(data.matched d rule false true).isEmpty) := by
  have hview := policyViolated_located data d rule false [d.id]
  rw [decide_eq_true mem_cons_self] at hview
  rw [← hview]
  exact congrArg Except.ok (violated_iff_policyViolated d rule _)

section Engines

variable {step : StepEnv}

theorem eval_getFullDevice (hdevice : step.device.id = d.id) :
    (getFullDevice step : Engine (conditionEvaluator env) _).eval (data.engine policy d) =
      .ok (some d) := by
  refine Prog.eval_tryCatch ?_ _
  show Except.ok (if step.device.id = d.id then some d else none) = _
  rw [if_pos hdevice]

theorem eval_attachOwnApps (hdevice : step.device.id = d.id) :
    (attachOwnApps step rule d : Engine (conditionEvaluator env) _).eval (data.engine policy d) =
      .ok (if rule.usesField appListFields then d.withApps (data.apps d.id) else d) := by
  unfold attachOwnApps
  split_ifs
  · rw [← hdevice]
    rfl
  · rfl

variable {ids : List String}

/-- Geofencing data that show a location or not say the same of a policy that
names a zone or not. -/
theorem policyViolated_ownGeo (inventory : Bool) (hids : d.id ∈ ids)
    (rule : Rule (conditionEvaluator env)) :
    policyViolated (if inventory then d.withApps (data.apps d.id) else d) rule
        ⟨some data.appLists, if rule.usesField geofenceFields then
          some (data.zones, data.locationsOf ids) else none⟩ =
      data.matched d rule inventory (rule.usesField geofenceFields) := by
  by_cases hgeo : rule.usesField geofenceFields = true
  · rw [hgeo, if_pos rfl, policyViolated_located, decide_eq_true hids]
  · rw [Bool.not_eq_true] at hgeo
    rw [hgeo, if_neg Bool.false_ne_true, policyViolated_noGeo]

theorem eval_executeMonitorStep {config : StepConfig} (hdevice : step.device.id = d.id)
    (hpolicy : truthy config.compliancePolicyId = some policy.id) :
    (executeMonitorStep step config).eval (data.engine policy d) =
      .ok (.matched (data.ownMatched d policy.rule).length) := by
  have hfind : (Workflows.ask (.findCompliancePolicy step.slug policy.id) :
      Engine (conditionEvaluator env) _).eval (data.engine policy d) = .ok (some policy.rule) :=
    congrArg Except.ok (if_pos rfl)
  have hlists : (Workflows.ask (.loadAppListsContext step.slug) :
      Engine (conditionEvaluator env) _).eval (data.engine policy d) = .ok data.appLists := rfl
  have hgeo : (loadOwnGeo step policy.rule : Engine (conditionEvaluator env) _).eval
      (data.engine policy d) = .ok (if policy.rule.usesField geofenceFields then
        some (data.zones, data.locationsOf [step.device.id]) else none) := by
    unfold loadOwnGeo
    split_ifs <;> rfl
  unfold executeMonitorStep
  rw [hpolicy]
  dsimp only
  rw [eval_bind hfind]
  dsimp only
  rw [eval_bind (eval_getFullDevice data hdevice)]
  dsimp only
  rw [eval_bind (eval_attachOwnApps data hdevice), eval_bind hlists, eval_bind hgeo]
  have hmem : d.id ∈ [step.device.id] := by simp [hdevice]
  have hmatched := policyViolated_ownGeo data (policy.rule.usesField appListFields) hmem policy.rule
  rw [Prog.eval_pure, hmatched]
  rfl

theorem eval_gateViolates (hdevice : step.device.id = d.id) (hids : d.id ∈ ids)
    (henabled : step.workflow.recovery.enabled = true)
    (hpolicy : truthy step.workflow.recovery.compliancePolicyId = some policy.id) :
    (gateViolates step ids).eval (data.engine policy d) =
      .ok (some (!(data.ownMatched d policy.rule).isEmpty)) := by
  have hfind : (Workflows.ask (.findCompliancePolicy step.slug policy.id) :
      Engine (conditionEvaluator env) _).eval (data.engine policy d) = .ok (some policy.rule) :=
    congrArg Except.ok (if_pos rfl)
  have hlists : (Workflows.ask (.loadAppListsContext step.slug) :
      Engine (conditionEvaluator env) _).eval (data.engine policy d) = .ok data.appLists := rfl
  have hload : (loadGate step.slug step.workflow ids : Engine (conditionEvaluator env) _).eval
      (data.engine policy d) = .ok (some ⟨policy.rule, ⟨some data.appLists,
        if policy.rule.usesField geofenceFields then some (data.zones, data.locationsOf ids)
        else none⟩⟩) := by
    unfold loadGate
    rw [henabled, hpolicy]
    dsimp only
    rw [eval_bind hfind]
    dsimp only
    rw [eval_bind hlists]
    split_ifs <;> rfl
  have happs : (Workflows.ask (.readInstalledAppsFromStore step.slug step.device.id) :
      Engine (conditionEvaluator env) _).eval (data.engine policy d) = .ok (data.apps d.id) := by
    rw [← hdevice]
    rfl
  have hrecovered : (gateRecovered step ⟨policy.rule, ⟨some data.appLists,
        if policy.rule.usesField geofenceFields then some (data.zones, data.locationsOf ids)
        else none⟩⟩ : Engine (conditionEvaluator env) _).eval (data.engine policy d) =
      .ok (data.ownMatched d policy.rule).isEmpty := by
    unfold WorkspaceData.ownMatched gateRecovered
    rw [← policyViolated_ownGeo data _ hids, eval_bind (eval_getFullDevice data hdevice)]
    dsimp only
    by_cases huses : policy.rule.usesField appListFields = true
    · rw [if_pos huses, if_pos huses, eval_bind happs, Prog.eval_pure]
    · rw [if_neg huses, if_neg huses, Prog.eval_pure]
  unfold gateViolates
  rw [eval_bind hload]
  dsimp only
  rw [eval_bind hrecovered, Prog.eval_pure]

end Engines

end Stored

end AppliverySoar.Compliance
