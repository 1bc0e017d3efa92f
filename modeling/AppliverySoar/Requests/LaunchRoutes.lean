import AppliverySoar.Compliance.Service

/-!
# The routes with which a person starts a workflow

Four routes end in `launchWorkflowRun`: `POST /api/workflows/:workflowId/run`
(workflows.controller.ts, lines 132–168), `POST /api/cases/:caseId/run-workflow`
(cases.controller.ts, lines 71–83, and `runWorkflowFromCase`, cases.service.ts,
lines 395–434) and the two approve routes of the review queue
(compliance.controller.ts, lines 299–312). The first two ask
`workflowHasDestructiveStep` about the workflow they are to launch; the other
two launch the workflow that the violation names as it is.

Results:
* `runWorkflow_calls`, `runWorkflowFromCase_calls`: these two launch a
  destructive workflow only for a sender who may.
* `destructive_launch_iff`: which requests launch a destructive workflow only
  for a sender who may.
-/

namespace AppliverySoar.Requests

open Async Prog Access Compliance Workflows

variable {E : Evaluator}

/-! ## Requests -/

/-- What the routes read of who sends a request: whether the `Authorization` and
`X-Workspace-Slug` headers are there, and the access that is cached for the
sender's session and the workspace. -/
structure Sender where
  authorization : Bool
  workspaceSlug : Bool
  access : Option ResolvedAccess

/-- A request to one of the routes. -/
inductive LaunchRequest
  | run (workflowId : String) (devices : List DeviceRef)
  | runFromCase (caseId workflowId : String)
  | approve (violationId : String)
  | bulkApprove (violationIds : List String)

/-- The options of the route's `requirePermission`: `manageWorkflows`, the
cases' `manageGate`, `readCompliance` and `bulkTriage`. -/
def LaunchRequest.gate : LaunchRequest → PermissionOptions
  | .run .. => { area := some .workflows, level := some .manage }
  | .runFromCase .. => { area := some .cases, level := some .manage }
  | .approve _ => { area := some .compliance, level := some .read }
  | .bulkApprove _ =>
    { area := some .compliance, level := some .manage, action := some .canBulkTriage }

/-- The headers without which the route answers 401. Only the case route falls
back to the workspace `global`. -/
def LaunchRequest.credentials (sender : Sender) : LaunchRequest → Bool
  | .runFromCase .. => sender.authorization
  | _ => sender.authorization && sender.workspaceSlug

/-- `access?.isSuperAdmin || access?.role?.riskyActions?.canRunDestructiveWorkflow`. -/
def mayRunDestructive : Option ResolvedAccess → Bool
  | none => false
  | some access => access.isSuperAdmin || roleAllows access.role .canRunDestructiveWorkflow

/-! ## The routes -/

/-- The check that the run route and `runWorkflowFromCase` make before they
launch. -/
def checkDestructive (access : Option ResolvedAccess) (workflow : Workflow) : Service E Unit :=
  if workflowHasDestructiveStep (some workflow) && !mayRunDestructive access then
    fail 403 "This workflow contains a destructive MDM action (wipe/unenroll/etc.) — your role isn't permitted to run destructive workflows."
  else pure ()

/-- The body of the run route, behind its gate. -/
def runWorkflow (access : Option ResolvedAccess) (workflowId : String)
    (devices : List DeviceRef) : Service E Unit := do
  match ← ask (.findWorkflow workflowId) with
  | none => fail 404 "Workflow not found"
  | some workflow =>
    if devices.isEmpty then fail 400 "No target devices provided"
    else
      checkDestructive access workflow
      match ← launchWorkflowRun none workflow devices with
      | none => fail 400 "This workflow includes a 'wait' or 'run script and wait for result' step, which requires durable storage (DATABASE_URL) not configured on this server."
      | some _ =>
        ask (.recordAuditEvents
          [⟨"workflow", "workflow_run_started", "info", "workflow", workflowId⟩])

def runWorkflowFromCase (access : Option ResolvedAccess) (caseId workflowId : String) :
    Service E Unit := do
  match ← ask (.findCase caseId) with
  | none => fail 404 "Case not found"
  | some kase =>
    match truthy kase.deviceId with
    | none => fail 400 "This case has no linked device to target"
    | some deviceId =>
      match ← ask (.findWorkflow workflowId) with
      | none => fail 404 "Workflow not found"
      | some workflow =>
        checkDestructive access workflow
        let items ← ask (.getDevicesFull false)
        match items.find? fun d => d.id = deviceId with
        | none => fail 404 "Linked device was not found in the current fleet (it may have been unenrolled)"
        | some device =>
          match ← launchWorkflowRun none workflow
              [⟨device.id, some device.displayName, device.platform, device.platformDeviceId⟩] with
          | none => fail 400 "This workflow includes a 'wait' or 'run script and wait for result' step, which requires durable storage. Set DATABASE_URL on the server to enable it."
          | some runRecord =>
            ask (.linkCaseRun caseId runRecord.id)
            ask (.addCaseTimelineEntry caseId "workflow_run_linked")
            ask (.recordAuditEvents [⟨"case", "case_workflow_run", "info", "case", caseId⟩])

/-- What a route does once its gate and its headers are passed. -/
def serve (access : Option ResolvedAccess) : LaunchRequest → Service E Unit
  | .run workflowId devices => runWorkflow access workflowId devices
  | .runFromCase caseId workflowId => runWorkflowFromCase access caseId workflowId
  | .approve violationId => approveViolationCore violationId
  | .bulkApprove violationIds => do
    let _ ← bulkApproveViolations violationIds

/-- A request behind `verifyDashboardToken`. -/
def handleLaunch (sender : Sender) (req : LaunchRequest) : Service E Unit :=
  match requirePermission req.gate sender.access with
  | .error e => Prog.ret (.error (.http e))
  | .ok () =>
    if req.credentials sender then serve sender.access req else fail 401 "Missing credentials"

/-- A request that gets past its gate, its headers and an empty selection. -/
def Admitted (sender : Sender) (req : LaunchRequest) : Prop :=
  requirePermission req.gate sender.access = .ok () ∧ req.credentials sender = true ∧
    ∀ ids, req = .bulkApprove ids → ids ≠ []

/-- The routes that look at the workflow they launch. -/
def LaunchRequest.checksWorkflow : LaunchRequest → Bool
  | .run .. | .runFromCase .. => true
  | .approve _ | .bulkApprove _ => false

/-! ## What a launch calls -/

/-- The engine is started on `w`. -/
def Launches (w : Workflow) : ServiceCall E → Prop
  | .startWorkflowRun _ _ workflow _ => workflow = w
  | _ => False

theorem calls_launchWorkflowRun {w workflow : Workflow} (h : workflow ≠ w)
    (pair : Option (String × String)) (devices : List DeviceRef) :
    (launchWorkflowRun pair workflow devices : Service E _).Calls fun c => ¬Launches w c := by
  have hstart : ∀ runId, (ask (.startWorkflowRun pair runId workflow devices) :
      Service E Unit).Calls fun c => ¬Launches w c := fun runId => calls_call h
  unfold launchWorkflowRun
  refine Calls.bind (calls_ask id) fun runId => ?_
  split_ifs
  · refine Calls.bind (calls_ask id) fun _ => ?_
    refine Calls.bind (hstart runId) fun _ => ?_
    exact calls_ask id
  · exact Calls.bind (hstart runId) fun _ => calls_ret _

theorem launchWorkflowRun_reaches (pair : Option (String × String)) (w : Workflow)
    (devices : List DeviceRef) :
    (launchWorkflowRun pair w devices : Service E _).Reaches (Launches w) := by
  have hstart : (ask (.startWorkflowRun pair "run-1" w devices) : Service E Unit).Reaches
      (Launches w) := Prog.reaches_call rfl
  unfold launchWorkflowRun
  refine (returns_ask .randomUUID "run-1").reaches_bind ?_
  split_ifs
  · refine (returns_ask (.createWorkflowRun "run-1" w.id devices.length) ()).reaches_bind ?_
    exact hstart.bind _
  · exact hstart.bind _

/-! ## The routes that check -/

section Checked

variable {access : Option ResolvedAccess} {w : Workflow}
  (hw : workflowHasDestructiveStep (some w) = true) (hmay : mayRunDestructive access = false)
include hw hmay

theorem calls_checkDestructive {workflow : Workflow} {rest : Unit → Service E Unit}
    (hrest : workflow ≠ w → ∀ u, (rest u).Calls fun c => ¬Launches w c) :
    (checkDestructive access workflow >>= rest : Service E Unit).Calls fun c => ¬Launches w c := by
  unfold checkDestructive
  split_ifs with hcheck
  · exact calls_ret _
  · have hne : workflow ≠ w := by
      rintro rfl
      exact hcheck (by simp [hw, hmay])
    exact hrest hne ()

theorem runWorkflow_calls (workflowId : String) (devices : List DeviceRef) :
    (runWorkflow access workflowId devices : Service E Unit).Calls fun c => ¬Launches w c := by
  unfold runWorkflow
  refine Calls.bind (calls_ask id) fun found => ?_
  cases found with
  | none => exact calls_ret _
  | some workflow =>
    dsimp only
    split_ifs
    · exact calls_ret _
    · refine calls_checkDestructive hw hmay fun hne _ => ?_
      refine Calls.bind (calls_launchWorkflowRun hne _ _) fun record => ?_
      cases record with
      | none => exact calls_ret _
      | some _ => exact calls_ask id

theorem runWorkflowFromCase_calls (caseId workflowId : String) :
    (runWorkflowFromCase access caseId workflowId : Service E Unit).Calls
      fun c => ¬Launches w c := by
  unfold runWorkflowFromCase
  refine Calls.bind (calls_ask id) fun kase => ?_
  rcases kase with _ | kase
  · exact calls_ret _
  dsimp only
  split
  · exact calls_ret _
  · refine Calls.bind (calls_ask id) fun found => ?_
    rcases found with _ | workflow
    · exact calls_ret _
    refine calls_checkDestructive hw hmay fun hne _ => ?_
    refine Calls.bind (calls_ask id) fun items => ?_
    split
    · exact calls_ret _
    · refine Calls.bind (calls_launchWorkflowRun hne _ _) fun record => ?_
      rcases record with _ | runRecord
      · exact calls_ret _
      refine Calls.bind (calls_ask id) fun _ => ?_
      refine Calls.bind (calls_ask id) fun _ => ?_
      exact calls_ask id

end Checked

/-! ## The routes that do not -/

/-- A pending violation whose linked workflow is `w`. -/
def pendingViolation (w : Workflow) (violationId : String) : ComplianceViolation E where
  id := violationId
  policyId := "p1"
  policyName := "Encryption"
  workflowId := some (orElse (some w.id) "w")
  workflowName := some w.name
  workflowRunId := none
  escalated := false
  deviceId := "d1"
  deviceName := "Laptop"
  platform := "windows"
  platformDeviceId := "win-1"
  matchedConditions := []
  detectedAt := "2024-01-01T00:00:00.000Z"
  status := .pending
  severity := "high"
  caseId := none

theorem orElse_ne_empty (s : Option String) {fallback : String} (h : fallback ≠ "") :
    orElse s fallback ≠ "" := by
  unfold orElse
  split
  · split_ifs with ht
    · exact h
    · exact ht
  · exact h

/-- Approving a pending violation launches the workflow that it names,
whatever that is. -/
theorem approveViolationCore_reaches (w : Workflow) (violationId : String) :
    (approveViolationCore violationId : Service E Unit).Reaches (Launches w) := by
  have hlinked : truthy (pendingViolation w violationId : ComplianceViolation E).workflowId =
      some (orElse (some w.id) "w") :=
    truthy_eq_some.mpr ⟨rfl, orElse_ne_empty _ (by decide)⟩
  unfold approveViolationCore
  refine (returns_ask (.findViolation violationId)
    (some (pendingViolation w violationId))).reaches_bind ?_
  dsimp only
  rw [if_neg (by simp [pendingViolation]), findLinkedWorkflow, hlinked]
  refine (returns_ask (.findWorkflow _) (some w)).reaches_bind ?_
  exact (launchWorkflowRun_reaches _ w _).bind _

theorem bulkApproveViolations_reaches (w : Workflow) {violationIds : List String}
    (h : violationIds ≠ []) :
    (bulkApproveViolations violationIds : Service E _).Reaches (Launches w) := by
  obtain ⟨vid, rest, rfl⟩ := List.exists_cons_of_ne_nil h
  unfold bulkApproveViolations
  rw [List.foldlM_cons]
  exact ((approveViolationCore_reaches w vid).attempt.bind _).bind _

variable {req : LaunchRequest}

theorem serve_reaches {sender : Sender} (w : Workflow)
    (hreq : req.checksWorkflow = false) (hadm : Admitted sender req) :
    (handleLaunch sender req : Service E Unit).Reaches (Launches w) := by
  unfold handleLaunch
  rw [hadm.1]
  dsimp only
  rw [if_pos hadm.2.1]
  cases req with
  | run _ _ => cases hreq
  | runFromCase _ _ => cases hreq
  | approve violationId => exact approveViolationCore_reaches w violationId
  | bulkApprove violationIds =>
    exact (bulkApproveViolations_reaches w (hadm.2.2 violationIds rfl)).bind _

/-! ## Who can start a destructive workflow -/

theorem handleLaunch_calls_of_not_admitted {sender : Sender}
    (h : ¬Admitted sender req) (P : ServiceCall E → Prop) :
    (handleLaunch sender req : Service E Unit).Calls P := by
  unfold handleLaunch
  split
  · exact calls_ret _
  · next hgate =>
    split_ifs with hcred
    · have hempty : ∃ ids, req = .bulkApprove ids ∧ ids = [] := by
        by_contra hne
        exact h ⟨hgate, hcred, fun ids hids hnil => hne ⟨ids, hids, hnil⟩⟩
      obtain ⟨ids, rfl, rfl⟩ := hempty
      exact calls_ret _
    · exact calls_ret _

/-- **Main theorem**: a request starts a destructive workflow only for a super
admin or a holder of `canRunDestructiveWorkflow`, if and only if its route
checks the workflow, or its sender is one of them, or it is refused. -/
theorem destructive_launch_iff (w : Workflow) (hw : workflowHasDestructiveStep (some w) = true)
    (sender : Sender) (req : LaunchRequest) :
    ((handleLaunch sender req : Service E Unit).Reaches (Launches w) →
        mayRunDestructive sender.access = true) ↔
      req.checksWorkflow = true ∨ mayRunDestructive sender.access = true ∨
        ¬Admitted sender req := by
  constructor
  · intro h
    by_cases hreq : req.checksWorkflow = true
    · exact .inl hreq
    · by_cases hadm : Admitted sender req
      · exact .inr (.inl (h (serve_reaches w (by simpa using hreq) hadm)))
      · exact .inr (.inr hadm)
  · intro h hreach
    by_contra hmay
    rw [Bool.not_eq_true] at hmay
    have hcalls : (handleLaunch sender req : Service E Unit).Calls fun c => ¬Launches w c := by
      rcases h with hreq | hperm | hadm
      · unfold handleLaunch
        split
        · exact calls_ret _
        · split_ifs
          · cases req with
            | run workflowId devices => exact runWorkflow_calls hw hmay workflowId devices
            | runFromCase caseId workflowId =>
              exact runWorkflowFromCase_calls hw hmay caseId workflowId
            | approve _ => cases hreq
            | bulkApprove _ => cases hreq
          · exact calls_ret _
      · rw [hmay] at hperm
        cases hperm
      · exact handleLaunch_calls_of_not_admitted hadm _
    exact hcalls.not_reaches hreach

/-! ## Two roles without the permission -/

/-- A workflow that wipes the device. -/
def wipeWorkflow : Workflow where
  id := "w1"
  name := "Wipe"
  steps := [⟨"s1", .mdmAction, "Wipe", { action := some "wipeDevice" }, none, none⟩]

/-- A role without risky actions. -/
def roleWith (featureAccess : String → Option String) : SoarRoleRecord where
  id := "r1"
  name := "Analyst"
  description := none
  featureAccess := featureAccess
  riskyActions _ := none
  appliveryTagValues := []
  segmentIds := []

/-- A session of someone with a role. -/
def sessionOf (role : SoarRoleRecord) : Sender where
  authorization := true
  workspaceSlug := true
  access := some ⟨true, false, some role, none, none, none⟩

/-- The session of someone who may read compliance and nothing else. -/
def readerSession : Sender :=
  sessionOf (roleWith fun area => if area = "compliance" then some "read" else none)

/-- The session of someone who may manage workflows and nothing else. -/
def operatorSession : Sender :=
  sessionOf (roleWith fun area => if area = "workflows" then some "manage" else none)

/-- The device to wipe. -/
def laptop : DeviceRef :=
  ⟨"d1", some "Laptop", "windows", "win-1"⟩

/-- Someone who may manage workflows, but not run a destructive one, cannot
start the wipe with the run route. -/
theorem operator_cannot_run_wipe :
    requirePermission (LaunchRequest.run "w1" [laptop]).gate operatorSession.access = .ok () ∧
    ¬(handleLaunch operatorSession (.run "w1" [laptop]) :
        Service attributeEvaluator Unit).Reaches (Launches wipeWorkflow) := by
  refine ⟨by decide, fun hreach => ?_⟩
  have hmay := (destructive_launch_iff wipeWorkflow (by decide) operatorSession
    (.run "w1" [laptop])).mpr (.inl rfl) hreach
  revert hmay
  decide

/-- The reader approves a pending violation whose policy is linked to the wipe,
and the wipe is started on the device. -/
theorem reader_starts_wipe :
    workflowHasDestructiveStep (some wipeWorkflow) = true ∧
    mayRunDestructive readerSession.access = false ∧
    requirePermission (LaunchRequest.run "w1" []).gate readerSession.access ≠ .ok () ∧
    ∃ k : Except ServiceError Unit → Service attributeEvaluator Unit,
      (handleLaunch readerSession (.approve "v1")).Steps
        [⟨.findViolation "v1", .ok (some (pendingViolation wipeWorkflow "v1"))⟩,
          ⟨.findWorkflow "w1", .ok (some wipeWorkflow)⟩, ⟨.randomUUID, .ok "run-1"⟩]
        (.await (.startWorkflowRun (some ("p1", "d1")) "run-1" wipeWorkflow [laptop]) k) := by
  refine ⟨by decide, by decide, by decide, ?_⟩
  exact ⟨_, .head (.head (.head (.refl _)))⟩

end AppliverySoar.Requests
