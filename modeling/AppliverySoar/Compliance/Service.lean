import AppliverySoar.Async.Logic
import AppliverySoar.Compliance.Types

/-!
# What the compliance service awaits, and its short operations

The signature of the calls that the compliance service and the routes that
start workflows await, `launchWorkflowRun` (workflows.service.ts,
lines 399–442), and the operations of compliance.service.ts that each load,
change and save the suppression blob once: `approveViolationCore`,
`dismissViolationCore` and `deleteCompliancePolicy`.

What the case module, the app and location stores and the Applivery API do is
one call each: it reads and writes tables that this service does not.
-/

namespace AppliverySoar.Compliance

open Async Prog Access Workflows

/-! ## The calls -/

/-- What the case module asks to be told to the integrations. -/
inductive CaseEvent
  | created | reopened | closed
  deriving DecidableEq

/-- A tag or a smart attribute of a device. -/
inductive Marker
  | tag (name : String)
  | smartAttribute (id : String)
  deriving DecidableEq

/-- `AuditEventInput` without its texts. -/
structure AuditEvent where
  category : String
  action : String
  severity : String
  targetType : String
  targetId : String
  deriving DecidableEq

/-- An event about a violation on a device. -/
def violationEvent (action severity deviceId : String) : AuditEvent :=
  ⟨"violation", action, severity, "device", deviceId⟩

/-- An event about a policy. -/
def policyEvent (action severity policyId : String) : AuditEvent :=
  ⟨"policy", action, severity, "policy", policyId⟩

/-- What the services await. `startWorkflowRun` is `void executeWorkflowRun…`:
the engine begins to run beside its caller. Its `pair` is not handed over in
the source: it names, in a trace, the policy and the device that a launch is
for. -/
inductive ServiceCall (E : Evaluator)
  | findPolicies
  | getDevicesFull (refresh : Bool)
  | readInstalledAppsFromStore (deviceId : String)
  | loadAppListsContext
  | loadGeofenceZonesById
  | loadDeviceLocations (deviceIds : List String)
  | findWorkflows
  | loadComplianceState
  | findViolations
  | getWorkflowRun (runId : String)
  | tripAutoRun (policyId reason : String)
  | randomUUID
  | markCaseRecovered (violationId : String) (autoResolve : Bool)
  | upsertCaseForViolation (policy : CompliancePolicy E) (device : Device E) (violationId : String)
  | linkCaseRun (caseId runId : String)
  | addCaseTimelineEntry (caseId kind : String)
  | createWorkflowRun (runId workflowId : String) (total : ℕ)
  | startWorkflowRun (pair : Option (String × String)) (runId : String) (workflow : Workflow)
      (devices : List DeviceRef)
  | durableRunView (runId : String)
  | saveComplianceState (state : SuppressionState)
  | createViolations (rows : List (ComplianceViolation E))
  | recordAuditEvents (events : List AuditEvent)
  | dispatchCaseEvent (caseId : String) (event : CaseEvent)
  | firePolicyViolationAlert (policyId : String) (newViolations deviceCount : ℕ)
  | resolveOrgBase
  | applyMarker (orgBase deviceId : String) (marker : Marker) (present : Bool)
  | stampEvaluated (policyIds : List String)
  | findPolicy (id : String)
  | findViolation (id : String)
  | findWorkflow (id : String)
  | findCase (id : String)
  | updateViolation (id : String) (status : ViolationStatus) (runId : Option String)
  | deleteViolations (policyId : String)
  | deletePolicy (id : String)
  | findWorkflowsIn (ids : List String)
  | updatePolicy (id : String) (payload : PolicyPayload E)

/-- The answers. -/
@[reducible] def ServiceCall.Answer {E : Evaluator} : ServiceCall E → Type
  | .findPolicies => List (CompliancePolicy E)
  | .getDevicesFull _ => List (Device E)
  | .readInstalledAppsFromStore _ => E.Apps
  | .loadAppListsContext => E.AppLists
  | .loadGeofenceZonesById => E.Zones
  | .loadDeviceLocations _ => E.Locations
  | .findWorkflows => List Workflow
  | .loadComplianceState => SuppressionState
  | .findViolations => List (ComplianceViolation E)
  | .getWorkflowRun _ => RunView
  | .tripAutoRun .. => Unit
  | .randomUUID => String
  | .markCaseRecovered .. => Option (String × Option CaseEvent)
  | .upsertCaseForViolation .. => String × Option CaseEvent
  | .linkCaseRun .. => Unit
  | .addCaseTimelineEntry .. => Unit
  | .createWorkflowRun .. => Unit
  | .startWorkflowRun .. => Unit
  | .durableRunView _ => Option RunView
  | .saveComplianceState _ => Unit
  | .createViolations _ => Unit
  | .recordAuditEvents _ => Unit
  | .dispatchCaseEvent .. => Unit
  | .firePolicyViolationAlert .. => Unit
  | .resolveOrgBase => String
  | .applyMarker .. => Bool
  | .stampEvaluated _ => Unit
  | .findPolicy _ => Option (CompliancePolicy E)
  | .findViolation _ => Option (ComplianceViolation E)
  | .findWorkflow _ => Option Workflow
  | .findCase _ => Option CaseRow
  | .updateViolation .. => Unit
  | .deleteViolations _ => Unit
  | .deletePolicy _ => Unit
  | .findWorkflowsIn _ => List Workflow
  | .updatePolicy .. => CompliancePolicy E

/-- The signature of the services' calls. -/
@[reducible] def serviceSig (E : Evaluator) : Sig where
  Call := ServiceCall E
  Ret := ServiceCall.Answer

/-- An `async` function of the services. -/
abbrev Service (E : Evaluator) (α : Type) : Type := Prog (serviceSig E) ServiceError α

/-- A call and its answer. -/
abbrev ServiceEvent (E : Evaluator) : Type := Event (serviceSig E) ServiceError

variable {E : Evaluator}

/-- `await` of one of the calls. -/
def ask (c : ServiceCall E) : Service E (ServiceCall.Answer c) :=
  Prog.call (S := serviceSig E) c

variable {okc : ServiceCall E → Prop}

theorem calls_ask {c : ServiceCall E} (h : okc c) :
    (ask c : Service E _).Calls okc :=
  calls_call h

theorem returns_ask (c : ServiceCall E) (a : ServiceCall.Answer c) :
    (ask c : Service E _).Returns a :=
  returns_call (S := serviceSig E) c a

/-- `throw new HttpError(status, detail)`. -/
def fail {α : Type} (status : ℕ) (detail : String) : Service E α :=
  Prog.ret (.error (.http ⟨status, detail⟩))

/-- `p.catch((e) => console.warn(…))`. -/
def quietly (p : Service E Unit) : Service E Unit :=
  tryCatchThe ServiceError p fun _ => pure ()

/-- `if (…) await p`. -/
def awaitIf (b : Bool) (p : Service E Unit) : Service E Unit :=
  if b then p else pure ()

variable {p : Service E Unit}

theorem calls_quietly (h : p.Calls okc) :
    (quietly p).Calls okc :=
  Calls.tryCatch h fun _ => calls_ret _

theorem calls_awaitIf {b : Bool}
    (h : p.Calls okc) : (awaitIf b p).Calls okc :=
  Calls.ite (fun _ => h) fun _ => calls_ret _

/-! ## Launching a workflow -/

/-- A step that needs the durable engine. -/
def WorkflowStep.waits (s : WorkflowStep) : Bool :=
  s.type = .wait || s.type = .runScriptWait

/-- `launchWorkflowRun` (workflows.service.ts, lines 399–442). -/
def launchWorkflowRun (pair : Option (String × String)) (workflow : Workflow)
    (devices : List DeviceRef) : Service E (Option RunView) := do
  let runId ← ask .randomUUID
  if workflow.steps.any WorkflowStep.waits then
    ask (.createWorkflowRun runId workflow.id devices.length)
    ask (.startWorkflowRun pair runId workflow devices)
    ask (.durableRunView runId)
  else
    ask (.startWorkflowRun pair runId workflow devices)
    return some ⟨runId, "running", []⟩

/-- What is noted on a case, if there is one, once a run is launched (lines
782–785, 810–813 and 1146–1149). -/
def linkRun (caseId : Option String) (runId : String) : Service E Unit :=
  match truthy caseId with
  | none => pure ()
  | some c => do
    ask (.linkCaseRun c runId)
    ask (.addCaseTimelineEntry c "workflow_run_linked")

/-! ## Markers -/

/-- The markers that a policy puts on a violating device (compliance.service.ts,
lines 699–700). -/
def CompliancePolicy.markers (p : CompliancePolicy E) : List Marker :=
  ((truthy p.nonComplianceTag).map Marker.tag).toList ++
    ((truthy p.nonComplianceSmartAttributeId).map Marker.smartAttribute).toList

/-- `removeComplianceMarkersForDevice` (lines 398–418). -/
def removeComplianceMarkersForDevice (policyId deviceId : String) : Service E Unit := do
  match ← ask (.findPolicy policyId) with
  | none => pure ()
  | some policy =>
    if policy.markers.isEmpty then pure ()
    else
      quietly do
        let items ← ask (.getDevicesFull false)
        if items.any fun d => d.id = deviceId then
          let orgBase ← ask .resolveOrgBase
          policy.markers.foldlM
            (fun _ marker => do
              let _ ← ask (.applyMarker orgBase deviceId marker false)
              pure ())
            ()

/-! ## The review queue -/

/-- Load, change and save the blob, if the key is there (lines 1140–1145 and
1195–1200). -/
def setSuppressionStatus (policyId deviceId : String) (status : ViolationStatus) :
    Service E Unit := do
  let state ← ask .loadComplianceState
  let key := suppressionKey policyId deviceId
  awaitIf (state.get key).isSome (ask (.saveComplianceState (state.setStatus key status)))

/-- The device that a violation's workflow is to run on. -/
def ComplianceViolation.deviceRef (v : ComplianceViolation E) : DeviceRef where
  id := v.deviceId
  displayName := some v.deviceName
  platform := v.platform
  platformDeviceId := v.platformDeviceId

/-- The workflow that a violation names (line 1118). -/
def findLinkedWorkflow (workflowId : Option String) : Service E (Option Workflow) :=
  match truthy workflowId with
  | none => pure none
  | some id => ask (.findWorkflow id)

/-- `approveViolationCore` (lines 1113–1164). -/
def approveViolationCore (violationId : String) : Service E Unit := do
  match ← ask (.findViolation violationId) with
  | none => fail 404 "Violation not found"
  | some violation =>
    if violation.status ≠ .pending then
      fail 400 ("Violation already '" ++ violation.status.text ++ "'")
    else
      match ← findLinkedWorkflow violation.workflowId with
      | none => fail 400 "Linked workflow no longer exists"
      | some workflow =>
        match ← launchWorkflowRun (some (violation.policyId, violation.deviceId)) workflow
            [violation.deviceRef] with
        | none => fail 400 "This workflow includes a 'wait' or 'run script and wait for result' step, which requires durable storage (Phase 4b)."
        | some runRecord =>
          ask (.updateViolation violationId .approved (some runRecord.id))
          ask (.recordAuditEvents [violationEvent "violation_approved" "info" violation.deviceId])
          setSuppressionStatus violation.policyId violation.deviceId .approved
          linkRun violation.caseId runRecord.id
          quietly (removeComplianceMarkersForDevice violation.policyId violation.deviceId)

/-- `bulkApproveViolations` (lines 1166–1178): the ids approved and those that
failed. -/
def bulkApproveViolations (violationIds : List String) :
    Service E (List String × List (String × ServiceError)) :=
  violationIds.foldlM
    (fun (approved, failed) vid => do
      match ← (approveViolationCore vid).attempt with
      | .ok () => return (approved ++ [vid], failed)
      | .error e => return (approved, failed ++ [(vid, e)]))
    ([], [])

/-- Lines 1201–1203. -/
def noteDismissed (caseId : Option String) : Service E Unit :=
  match truthy caseId with
  | none => pure ()
  | some c => ask (.addCaseTimelineEntry c "note_added")

/-- `dismissViolationCore` (lines 1181–1217); `authorized` is whether the
request carried an Authorization header. -/
def dismissViolationCore (violationId : String) (authorized : Bool) : Service E Unit := do
  match ← ask (.findViolation violationId) with
  | none => fail 404 "Violation not found"
  | some violation =>
    ask (.updateViolation violationId .dismissed none)
    ask (.recordAuditEvents [violationEvent "violation_dismissed" "info" violation.deviceId])
    setSuppressionStatus violation.policyId violation.deviceId .dismissed
    noteDismissed violation.caseId
    awaitIf authorized
      (quietly (removeComplianceMarkersForDevice violation.policyId violation.deviceId))

/-- `bulkDismissViolations` (lines 1219–1231). -/
def bulkDismissViolations (violationIds : List String) (authorized : Bool) :
    Service E (List String × List (String × ServiceError)) :=
  violationIds.foldlM
    (fun (dismissed, failed) vid => do
      match ← (dismissViolationCore vid authorized).attempt with
      | .ok () => return (dismissed ++ [vid], failed)
      | .error e => return (dismissed, failed ++ [(vid, e)]))
    ([], [])

/-! ## What the parts of these operations call -/

/-- The calls of a launch. -/
def ServiceCall.inLaunch : ServiceCall E → Bool
  | .randomUUID | .createWorkflowRun .. | .startWorkflowRun .. | .durableRunView _ => true
  | _ => false

/-- The calls about workflows, cases, markers and the audit log. -/
def ServiceCall.aside : ServiceCall E → Bool
  | .findWorkflow _ | .linkCaseRun .. | .addCaseTimelineEntry .. | .findPolicy _
  | .getDevicesFull _ | .resolveOrgBase | .applyMarker .. | .recordAuditEvents _ => true
  | _ => false

theorem inLaunch_launchWorkflowRun (pair : Option (String × String)) (w : Workflow)
    (refs : List DeviceRef) :
    (launchWorkflowRun pair w refs : Service E _).Calls fun c => ServiceCall.inLaunch c = true := by
  unfold launchWorkflowRun
  refine Calls.bind (calls_ask rfl) fun _ => Calls.ite (fun _ => ?_) fun _ => ?_
  · exact Calls.bind (calls_ask rfl) fun _ => Calls.bind (calls_ask rfl)
      fun _ => calls_ask rfl
  · exact Calls.bind (calls_ask rfl) fun _ => calls_ret _

theorem aside_removeComplianceMarkersForDevice (policyId deviceId : String) :
    (removeComplianceMarkersForDevice policyId deviceId : Service E Unit).Calls
      fun c => ServiceCall.aside c = true := by
  unfold removeComplianceMarkersForDevice
  refine Calls.bind (calls_ask rfl) fun policy => ?_
  cases policy with
  | none => exact calls_ret _
  | some policy =>
    refine Calls.guard fun _ => calls_quietly ?_
    refine Calls.bind (calls_ask rfl) fun items => Calls.ite (fun _ => ?_)
      fun _ => calls_ret _
    refine Calls.bind (calls_ask rfl) fun orgBase => Calls.foldlM fun _ _ _ => ?_
    exact Calls.bind (calls_ask rfl) fun _ => calls_ret _

theorem aside_linkRun (caseId : Option String) (runId : String) :
    (linkRun caseId runId : Service E Unit).Calls fun c => ServiceCall.aside c = true := by
  unfold linkRun
  split
  · exact calls_ret _
  · exact Calls.bind (calls_ask rfl) fun _ => calls_ask rfl

theorem aside_noteDismissed (caseId : Option String) :
    (noteDismissed caseId : Service E Unit).Calls fun c => ServiceCall.aside c = true := by
  unfold noteDismissed
  split
  · exact calls_ret _
  · exact calls_ask rfl

theorem aside_findLinkedWorkflow (workflowId : Option String) :
    (findLinkedWorkflow workflowId : Service E _).Calls fun c => ServiceCall.aside c = true := by
  unfold findLinkedWorkflow
  split
  · exact calls_ret _
  · exact calls_ask rfl

/-! ## Changing and deleting a policy -/

/-- `assertDestructiveAckIfNeeded` (lines 87–100). -/
def assertDestructiveAckIfNeeded (payload : PolicyPayload E) : Service E Unit :=
  let ids := (truthy payload.workflowId).toList ++ (truthy payload.escalatedWorkflowId).toList
  if !payload.autoRun || ids.isEmpty then pure ()
  else do
    let workflows ← ask (.findWorkflowsIn ids)
    match workflows.find? fun w => workflowHasDestructiveStep (some w) with
    | some workflow =>
      if payload.autoRunDestructiveAck then pure ()
      else
        fail 400 ("Workflow \"" ++ workflow.name ++ "\" contains a destructive action (wipe, unenroll, disable, etc.) — enabling autoRun with it requires explicit acknowledgment.")
    | none => pure ()

/-- `updateCompliancePolicy` (lines 153–229). -/
def updateCompliancePolicy (policyId : String) (payload : PolicyPayload E) :
    Service E (CompliancePolicy E) := do
  match ← ask (.findPolicy policyId) with
  | none => fail 404 "Compliance policy not found"
  | some _ =>
    assertDestructiveAckIfNeeded payload
    let updated ← ask (.updatePolicy policyId payload)
    ask (.recordAuditEvents [policyEvent "policy_updated" "info" policyId])
    return updated

/-- `deleteCompliancePolicy` (lines 232–268). -/
def deleteCompliancePolicy (policyId : String) : Service E Unit := do
  match ← ask (.findPolicy policyId) with
  | none => pure ()
  | some deleted =>
    ask (.deleteViolations policyId)
    let state ← ask .loadComplianceState
    let p := policyPrefix policyId
    awaitIf (state.any fun kv => startsWith kv.1 p) (ask (.saveComplianceState (state.purge p)))
    ask (.deletePolicy policyId)
    ask (.recordAuditEvents [policyEvent "policy_deleted" "warning" deleted.id])

end AppliverySoar.Compliance
