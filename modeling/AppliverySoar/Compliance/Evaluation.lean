import AppliverySoar.Compliance.Service

/-!
# The evaluation pass

`runComplianceEvaluation` (compliance.service.ts, lines 564–947): it loads
policies, devices and the suppression blob, goes through policies × devices,
launches workflows and opens cases on the way, and at the end saves the blob
and then inserts the violation rows. What the source updates in place while it
goes is `PassState` here.

Texts of audit events and alerts, the actor and the invalidation of the devices
cache are left out. The workers that write the markers are taken one device
after the other.
-/

namespace AppliverySoar.Compliance

open Async Access Workflows

variable {E : Evaluator}

/-! ## What a pass is asked for -/

/-- `onlyDeviceSerial`. -/
inductive DeviceScope
  | fleet
  | serial (s : String)
  | serials (l : List String)
  deriving DecidableEq

/-- The arguments of a pass, and the time at which it reads the clock. -/
structure EvaluationRequest where
  policyIds : Option (List String) := none
  scope : DeviceScope := .fleet
  nowIso : String

/-- `serialFilter.has(d.serialNumber)`, when there is a filter. -/
def DeviceScope.includes (scope : DeviceScope) (serialNumber : String) : Bool :=
  match scope with
  | .fleet => true
  | .serial s => serialNumber = s
  | .serials l => l.contains serialNumber

/-- `!onlyDeviceSerial`; the empty string is false as well. -/
def DeviceScope.stamps : DeviceScope → Bool
  | .fleet => true
  | .serial s => s = ""
  | .serials _ => false

/-- The policies of a pass (line 572). -/
def EvaluationRequest.policies (req : EvaluationRequest) (all : List (CompliancePolicy E)) :
    List (CompliancePolicy E) :=
  all.filter fun p => p.enabled && req.policyIds.all fun ids => ids.contains p.id

/-- The devices that a pass acts on (lines 580–582). -/
def EvaluationRequest.devices (req : EvaluationRequest) (items : List (Device E)) :
    List (Device E) :=
  items.filter fun d => req.scope.includes d.serialNumber

/-! ## Scopes -/

/-- Membership of a policy's Device Audience, when it has one. -/
def inAudience (device : Device E) (audienceId : Option String) : Bool :=
  (truthy audienceId).all fun a => device.deviceAudiences.contains a

/-- `scopedDevices` (lines 661–664). -/
def CompliancePolicy.scopedDevices (p : CompliancePolicy E) (devices : List (Device E)) :
    List (Device E) :=
  devices.filter fun d =>
    inAudience d p.targetDeviceAudienceId && (truthy p.targetPlatform).all fun t => d.platform = t

/-- `appListScopedDeviceIds` (installedApps.service.ts, lines 173–187) and
`geofenceScopedDeviceIds` (geofence.service.ts, lines 146–163), for the
condition fields that each asks for. -/
def scopedDeviceIds (fields : List String) (devices : List (Device E))
    (policies : List (CompliancePolicy E)) : List String :=
  (policies.flatMap fun p =>
    if p.enabled && p.rule.usesField fields then
      (devices.filter fun d => inAudience d p.targetDeviceAudienceId).map fun d => d.id
    else []).eraseDups

/-- `devicesById.get(id).installedApps = apps`; the last device of an id is the
one in the map. -/
def attachInstalledApps (id : String) (apps : E.Apps) : List (Device E) → List (Device E)
  | [] => []
  | d :: ds =>
    if d.id = id ∧ ¬ds.any (·.id = id) then d.withApps apps :: ds
    else d :: attachInstalledApps id apps ds

/-! ## The state of a pass -/

structure EvaluationSummary where
  evaluatedPolicies : ℕ
  devicesChecked : ℕ := 0
  violationsFound : ℕ := 0
  autoFired : ℕ := 0
  queuedForReview : ℕ := 0
  recovered : ℕ := 0
  autoRunSafetyBlocked : ℕ := 0
  deriving DecidableEq

structure MarkerAction where
  deviceId : String
  marker : Marker
  present : Bool
  deriving DecidableEq

/-- What the loops of a pass update. -/
structure PassState (E : Evaluator) where
  state : SuppressionState
  newViolationRows : List (ComplianceViolation E) := []
  caseNotifyEvents : List (String × CaseEvent) := []
  markerActions : List MarkerAction := []
  auditEvents : List AuditEvent := []
  policyAlertEvents : List (String × ℕ × ℕ) := []
  firedWorkflowThisPass : List (String × String) := []
  summary : EvaluationSummary

/-- The counters of one policy. -/
structure PolicyCount where
  autofired : ℕ := 0
  newViolations : ℕ := 0
  recovered : ℕ := 0

/-- What a pass has read before its loops. -/
structure PassContext (E : Evaluator) where
  workflows : List Workflow
  violations : List (ComplianceViolation E)
  ctx : EvalContext E
  nowIso : String

/-! ## The circuit breaker -/

/-- `AUTORUN_CIRCUIT_BREAKER_THRESHOLD`. -/
def autorunCircuitBreakerThreshold : ℕ := 3

/-- `lookupWorkflowRun` (lines 305–311). -/
def lookupWorkflowRun (runId : String) : Service E (Option RunView) :=
  tryCatchThe ServiceError (do
    let run ← ask (.getWorkflowRun runId)
    return some run) fun _ => pure none

/-- `runFullyFailed` (lines 319–323). -/
def runFullyFailed (run : RunView) : Bool :=
  !run.finalStatuses.isEmpty &&
    !run.finalStatuses.any fun s => s = "success" || s = "partial"

/-- The loop of `autorunCircuitBreakerCheck` (lines 326–342), with what it has
checked so far. -/
def autorunCircuitBreakerCheck (policyId : String) (checked : ℕ) :
    List (ComplianceViolation E) → Service E (Option String)
  | [] => pure none
  | v :: vs =>
    if v.policyId ≠ policyId ∨ v.status ≠ .autoFired then
      autorunCircuitBreakerCheck policyId checked vs
    else
      match truthy v.workflowRunId with
      | none => autorunCircuitBreakerCheck policyId checked vs
      | some runId => do
        match ← lookupWorkflowRun runId with
        | none => autorunCircuitBreakerCheck policyId checked vs
        | some run =>
          if run.status = "running" ∨ run.status = "waiting" then
            autorunCircuitBreakerCheck policyId checked vs
          else if !runFullyFailed run then pure none
          else if checked + 1 ≥ autorunCircuitBreakerThreshold then
            pure (some "Last 3 auto-run workflow executions for this policy failed on every targeted device")
          else autorunCircuitBreakerCheck policyId (checked + 1) vs

/-- `resolveAutoRunBatchCap` (lines 56–60). -/
def resolveAutoRunBatchCap (raw : Option ℤ) : Option ℤ :=
  raw.map fun n => if n > 0 then n else 15

/-! ## A policy's plan -/

/-- `RISK_TIER_RANK[tier] ?? fallback`. -/
def riskTierRank (tier : String) (fallback : ℕ) : Lookup :=
  if tier = "low" then .own 0
  else if tier = "medium" then .own 1
  else if tier = "high" then .own 2
  else if tier = "critical" then .own 3
  else if objectPrototype.contains tier then .inherited
  else .own fallback

/-- `a >= b`. -/
def ge : Lookup → Lookup → Bool
  | .own a, .own b => a ≥ b
  | _, _ => false

/-- `workflowsById.get(id) ?? null` for an id that may be missing. -/
def linkedWorkflow (workflows : List Workflow) (id : Option String) : Option Workflow :=
  (truthy id).bind fun i => workflows.reverse.find? fun w => w.id = i

/-- What is resolved once for a policy. -/
structure PolicyPlan (E : Evaluator) where
  policy : CompliancePolicy E
  workflow : Option Workflow
  escalatedWorkflow : Option Workflow
  autorunBlockReason : Option String

/-- Lines 668–691: why `autoRun` may not fire in this pass, and the audit event
of a fresh trip. -/
def autorunBlock (pc : PassContext E) (policy : CompliancePolicy E)
    (workflow escalatedWorkflow : Option Workflow) :
    Service E (Option String × List AuditEvent) := do
  if !(policy.autoRun && workflow.isSome) then return (none, [])
  else if policy.autoRunTripped then
    return (some (orElse policy.autoRunTrippedReason
      "autoRun previously tripped — re-save the policy to re-arm it"), [])
  else if (workflowHasDestructiveStep workflow || workflowHasDestructiveStep escalatedWorkflow) &&
      !policy.autoRunDestructiveAck then
    let offending := if workflowHasDestructiveStep workflow then workflow else escalatedWorkflow
    return (some ("Linked workflow \"" ++ (offending.map Workflow.name).getD "undefined" ++ "\" now contains a destructive action — re-save this policy to acknowledge it before autoRun can fire again"), [])
  else
    match ← autorunCircuitBreakerCheck policy.id 0 pc.violations with
    | none => return (none, [])
    | some reason =>
      ask (.tripAutoRun policy.id reason)
      return (some reason, [policyEvent "autorun_tripped" "critical" policy.id])

/-- Line 725. -/
def PolicyPlan.escalated (plan : PolicyPlan E) (device : Device E) : Bool :=
  plan.escalatedWorkflow.isSome &&
    ge (riskTierRank (device.riskTier.getD "low") 0)
      (riskTierRank (orElse plan.policy.escalatedWorkflowMinRiskTier "high") 2)

def PolicyPlan.effectiveWorkflow (plan : PolicyPlan E) (device : Device E) : Option Workflow :=
  if plan.escalated device then plan.escalatedWorkflow else plan.workflow

/-- `policy.autoRun && workflow`. -/
def PolicyPlan.autoRuns (plan : PolicyPlan E) : Bool :=
  plan.policy.autoRun && plan.workflow.isSome

/-- `autorunBatchCap !== null && policyAutofiredCount >= autorunBatchCap`. -/
def PolicyPlan.capReached (plan : PolicyPlan E) (cnt : PolicyCount) : Bool :=
  match resolveAutoRunBatchCap plan.policy.autoRunBatchCap with
  | none => false
  | some cap => cap ≤ cnt.autofired

/-! ## A newly violating device -/

/-- What the branches of lines 747–842 settle. `fired` is a new entry of
`firedWorkflowThisPass`. -/
structure Decision where
  status : ViolationStatus
  workflowRunId : Option String := none
  fired : Option (String × String) := none

/-- Lines 742–751. -/
def openCase (policy : CompliancePolicy E) (device : Device E) (violationId : String) :
    Service E (Option String × List (String × CaseEvent)) := do
  if policy.openCaseOnViolation then
    let upserted ← ask (.upsertCaseForViolation policy device violationId)
    return (some upserted.1, (upserted.2.map fun e => (upserted.1, e)).toList)
  else return (none, [])

/-- `deviceRef` (lines 788–791). -/
def Device.ref (d : Device E) : DeviceRef :=
  ⟨d.id, some d.displayName, d.platform, d.platformDeviceId⟩

/-- Lines 768–816. -/
def fireWorkflow (st : PassState E) (policy : CompliancePolicy E) (device : Device E)
    (caseId : Option String) (workflow : Workflow) : Service E Decision := do
  let dedupKey := workflow.id ++ ":" ++ device.id
  match truthy (st.firedWorkflowThisPass.lookup dedupKey) with
  | some runId =>
    linkRun caseId runId
    return { status := .autoFired, workflowRunId := some runId }
  | none =>
    match ← launchWorkflowRun (some (policy.id, device.id)) workflow [device.ref] with
    | none => return { status := .workflowUnavailable }
    | some runRecord =>
      linkRun caseId runRecord.id
      return {
        status := .autoFired
        workflowRunId := some runRecord.id
        fired := some (dedupKey, runRecord.id) }

/-- The branch that is taken, and what it adds to `policyAutofiredCount`. -/
def decideStatus (plan : PolicyPlan E) (st : PassState E) (cnt : PolicyCount) (device : Device E)
    (caseId : Option String) : Service E (Decision × ℕ) := do
  if plan.autoRuns && plan.autorunBlockReason.isSome then
    return ({ status := .autorunBlocked }, 0)
  else if plan.autoRuns && plan.capReached cnt then
    return ({ status := .autorunCapped }, 0)
  else
    match (if plan.autoRuns then plan.effectiveWorkflow device else none) with
    | some workflow =>
      let decision ← fireWorkflow st plan.policy device caseId workflow
      return (decision, 1)
    | none => return ({ status := if plan.workflow.isNone then .noWorkflow else .pending }, 0)

/-- The audit event of a decision. -/
def Decision.audit (d : Decision) (deviceId : String) : AuditEvent :=
  match d.status with
  | .autoFired => violationEvent "violation_auto_fired" "warning" deviceId
  | .autorunBlocked | .workflowUnavailable =>
    violationEvent "violation_detected" "critical" deviceId
  | _ => violationEvent "violation_detected" "warning" deviceId

/-- What a decision adds to the summary. -/
def Decision.count (d : Decision) (s : EvaluationSummary) : EvaluationSummary :=
  match d.status with
  | .autorunBlocked | .autorunCapped =>
    { s with
      autoRunSafetyBlocked := s.autoRunSafetyBlocked + 1
      queuedForReview := s.queuedForReview + 1 }
  | .pending => { s with queuedForReview := s.queuedForReview + 1 }
  | .autoFired => if d.fired.isSome then { s with autoFired := s.autoFired + 1 } else s
  | _ => s

/-- The row of a new violation (lines 844–862). -/
def newViolationRow (pc : PassContext E) (plan : PolicyPlan E) (device : Device E)
    (matched : List (Condition E)) (violationId : String) (caseId : Option String)
    (d : Decision) : ComplianceViolation E :=
  let effective := plan.effectiveWorkflow device
  { id := violationId
    policyId := plan.policy.id
    policyName := plan.policy.name
    workflowId := (effective.map Workflow.id).or plan.policy.workflowId
    workflowName := effective.map Workflow.name
    workflowRunId := d.workflowRunId
    escalated := plan.escalated device
    deviceId := device.id
    deviceName := device.displayName
    platform := device.platform
    platformDeviceId := device.platformDeviceId
    matchedConditions := matched
    detectedAt := pc.nowIso
    status := d.status
    severity := orElse plan.policy.severity "medium"
    caseId := caseId }

/-- The markers of a policy as actions on a device. -/
def CompliancePolicy.markerActions (p : CompliancePolicy E) (deviceId : String) (present : Bool) :
    List MarkerAction :=
  p.markers.map fun m => ⟨deviceId, m, present⟩

/-- The key of a policy and a device. -/
def CompliancePolicy.key (p : CompliancePolicy E) (device : Device E) : String :=
  suppressionKey p.id device.id

/-- Lines 717–864: a device that newly violates. -/
def openViolation (pc : PassContext E) (plan : PolicyPlan E) (device : Device E)
    (matched : List (Condition E)) (st : PassState E) (cnt : PolicyCount) :
    Service E (PassState E × PolicyCount) := do
  let violationId ← ask .randomUUID
  let (caseId, caseEvents) ← openCase plan.policy device violationId
  let (d, autofired) ← decideStatus plan st cnt device caseId
  let summary := { st.summary with violationsFound := st.summary.violationsFound + 1 }
  let entry : SuppressionEntry := ⟨violationId, d.status, pc.nowIso⟩
  return (
    { st with
      state := st.state.set (plan.policy.key device) entry
      newViolationRows := st.newViolationRows ++
        [newViolationRow pc plan device matched violationId caseId d]
      caseNotifyEvents := st.caseNotifyEvents ++ caseEvents
      markerActions := st.markerActions ++ plan.policy.markerActions device.id true
      auditEvents := st.auditEvents ++ [d.audit device.id]
      firedWorkflowThisPass := d.fired.toList ++ st.firedWorkflowThisPass
      summary := d.count summary },
    { cnt with
      autofired := cnt.autofired + autofired
      newViolations := cnt.newViolations + 1 })

/-! ## A device that no longer violates -/

/-- Lines 694–712. -/
def recoverDevice (policy : CompliancePolicy E) (device : Device E) (st : PassState E)
    (cnt : PolicyCount) : Service E (PassState E × PolicyCount) := do
  match st.state.get (policy.key device) with
  | none => return (st, cnt)
  | some suppressed =>
    let recovery ←
      ask (.markCaseRecovered suppressed.violationId policy.autoResolveCaseOnRecovery)
    let caseEvents := (recovery.bind fun r => r.2.map fun e => (r.1, e)).toList
    return (
      { st with
        state := st.state.delete (policy.key device)
        caseNotifyEvents := st.caseNotifyEvents ++ caseEvents
        markerActions := st.markerActions ++ policy.markerActions device.id false
        auditEvents := st.auditEvents ++ [violationEvent "violation_recovered" "info" device.id]
        summary := { st.summary with recovered := st.summary.recovered + 1 } },
      { cnt with recovered := cnt.recovered + 1 })

/-! ## The loops -/

/-- The body of the loop over the devices of a policy. -/
def evaluateDevice (pc : PassContext E) (plan : PolicyPlan E) (acc : PassState E × PolicyCount)
    (device : Device E) : Service E (PassState E × PolicyCount) :=
  let matched := policyViolated device plan.policy.rule pc.ctx
  if matched.isEmpty then recoverDevice plan.policy device acc.1 acc.2
  else if (acc.1.state.get (plan.policy.key device)).isSome then pure acc
  else openViolation pc plan device matched acc.1 acc.2

/-- What is resolved for a policy before its devices, with the audit event of a
fresh trip. -/
def planPolicy (pc : PassContext E) (policy : CompliancePolicy E) :
    Service E (PolicyPlan E × List AuditEvent) := do
  let workflow := linkedWorkflow pc.workflows policy.workflowId
  let escalatedWorkflow :=
    if workflow.isSome then linkedWorkflow pc.workflows policy.escalatedWorkflowId else none
  let (autorunBlockReason, tripped) ← autorunBlock pc policy workflow escalatedWorkflow
  return (⟨policy, workflow, escalatedWorkflow, autorunBlockReason⟩, tripped)

/-- What is noted before the devices of a policy. -/
def PassState.enterPolicy (st : PassState E) (tripped : List AuditEvent) (inScope : ℕ) :
    PassState E :=
  let checked := st.summary.devicesChecked + inScope
  { st with
    auditEvents := st.auditEvents ++ tripped
    summary := { st.summary with devicesChecked := checked } }

/-- Lines 867–879. -/
def PassState.leavePolicy (st : PassState E) (policyId : String) (cnt : PolicyCount)
    (inScope : ℕ) : PassState E :=
  let severity := if cnt.newViolations > 0 then "warning" else "info"
  { st with
    auditEvents := st.auditEvents ++ [policyEvent "policy_evaluated" severity policyId]
    policyAlertEvents := st.policyAlertEvents ++
      if cnt.newViolations > 0 then [(policyId, cnt.newViolations, inScope)] else [] }

/-- The body of the loop over the policies. -/
def evaluatePolicy (pc : PassContext E) (devices : List (Device E)) (st : PassState E)
    (policy : CompliancePolicy E) : Service E (PassState E) := do
  let inScope := policy.scopedDevices devices
  let planned ← planPolicy pc policy
  let acc ← inScope.foldlM (evaluateDevice pc planned.1)
    (st.enterPolicy planned.2 inScope.length, {})
  return acc.1.leavePolicy policy.id acc.2 inScope.length

/-! ## The end of a pass -/

/-- `p` for each element. -/
def forEach {α : Type} (l : List α) (p : α → Service E Unit) : Service E Unit :=
  l.foldlM (fun _ a => p a) ()

/-- `actionsByDevice`, device by device in the order in which they first
appear. -/
def byDevice (actions : List MarkerAction) : List MarkerAction :=
  (actions.map MarkerAction.deviceId).eraseDups.flatMap fun id =>
    actions.filter fun a => a.deviceId = id

/-- The marker writes (lines 898–938). -/
def writeMarkers (actions : List MarkerAction) : Service E Unit :=
  if actions.isEmpty then pure ()
  else do
    let orgBase ← ask .resolveOrgBase
    forEach (byDevice actions) fun a =>
      quietly do
        let _ ← ask (.applyMarker orgBase a.deviceId a.marker a.present)
        pure ()

/-- Lines 881–947. -/
def finishPass (req : EvaluationRequest) (policies : List (CompliancePolicy E))
    (st : PassState E) : Service E EvaluationSummary := do
  ask (.saveComplianceState st.state)
  awaitIf (!st.newViolationRows.isEmpty) (ask (.createViolations st.newViolationRows))
  awaitIf (!st.auditEvents.isEmpty) (ask (.recordAuditEvents st.auditEvents))
  forEach st.caseNotifyEvents fun e => quietly (ask (.dispatchCaseEvent e.1 e.2))
  forEach st.policyAlertEvents fun a => quietly (ask (.firePolicyViolationAlert a.1 a.2.1 a.2.2))
  writeMarkers st.markerActions
  awaitIf req.scope.stamps (ask (.stampEvaluated (policies.map CompliancePolicy.id)))
  return st.summary

/-- Lines 605–608. -/
def loadLocations (located : List String) : Service E E.Locations :=
  if located.isEmpty then pure E.noLocations else ask (.loadDeviceLocations located)

/-- What a pass reads about the devices before it loads the blob (lines
583–611). -/
def loadFleet (req : EvaluationRequest) (policies : List (CompliancePolicy E)) :
    Service E (List (Device E) × EvalContext E) := do
  let items ← ask (.getDevicesFull true)
  let selected := req.devices items
  let devices ← (scopedDeviceIds appListFields selected policies).foldlM
    (fun devices id => do
      let apps ← ask (.readInstalledAppsFromStore id)
      return attachInstalledApps id apps devices)
    selected
  let appLists ← ask .loadAppListsContext
  let zones ← ask .loadGeofenceZonesById
  let locations ← loadLocations (scopedDeviceIds geofenceFields devices policies)
  return (devices, ⟨some appLists, some (zones, locations)⟩)

/-- What a pass does with the devices and the context that it has read (lines
613–947). -/
def evaluateFleet (req : EvaluationRequest) (policies : List (CompliancePolicy E))
    (fleet : List (Device E) × EvalContext E) : Service E EvaluationSummary := do
  let workflows ← ask .findWorkflows
  let state ← ask .loadComplianceState
  let violations ← ask .findViolations
  let pc : PassContext E := ⟨workflows, violations, fleet.2, req.nowIso⟩
  let start : PassState E :=
    { state := state, summary := { evaluatedPolicies := policies.length } }
  let st ← policies.foldlM (evaluatePolicy pc fleet.1) start
  finishPass req policies st

def runComplianceEvaluation (req : EvaluationRequest) : Service E EvaluationSummary := do
  let all ← ask .findPolicies
  let policies := req.policies all
  if policies.isEmpty then return { evaluatedPolicies := 0 }
  else
    let fleet ← loadFleet req policies
    evaluateFleet req policies fleet

/-- The answers of a workspace without flagged devices and past violations, for
examples. -/
def firstPassAnswer (policies : List (CompliancePolicy attributeEvaluator))
    (devices : List (Device attributeEvaluator)) (workflows : List Workflow) :
    (c : ServiceCall attributeEvaluator) → Except ServiceError (ServiceCall.Answer c)
  | .findPolicies => .ok policies
  | .getDevicesFull _ => .ok devices
  | .loadAppListsContext => .ok ()
  | .loadGeofenceZonesById => .ok ()
  | .findWorkflows => .ok workflows
  | .loadComplianceState => .ok []
  | .findViolations => .ok []
  | .randomUUID => .ok "v1"
  | .startWorkflowRun .. => .ok ()
  | .saveComplianceState _ => .ok ()
  | .createViolations _ => .ok ()
  | .recordAuditEvents _ => .ok ()
  | .stampEvaluated _ => .ok ()
  | _ => .error (.other "not reached")

end AppliverySoar.Compliance
