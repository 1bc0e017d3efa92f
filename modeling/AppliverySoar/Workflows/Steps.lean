import AppliverySoar.Workflows.Types

/-!
# What the engines await, and the steps they share

The signature of the calls that the two workflow engines await, and the parts
both engines share: `executeMdmAction` (mdmActionExecutor.ts, lines 68–345) with
the script run it nests for a firewall rule set, the dispatch of a step by its
type, the Recovery gate in front of every step, and `runRecoverySteps`
(workflowSteps.ts, lines 350–405).

A step executor other than `executeMdmAction` is one call here: it reads and
writes tables that the engines do not, and answers `{ ok, detail }` or throws.

Results:
* `executeMdmAction_runScript`: the nested call of `executeMdmAction` does what
  a call of it with the key `runScript` does.
-/

namespace AppliverySoar.Workflows

open Async Compliance

/-! ## Records -/

/-- `{ ok, detail }`. -/
structure StepResult where
  ok : Bool
  detail : String
  deriving DecidableEq

/-- The `detail` of a log entry. The two texts into which the source prints
numbers keep the numbers. -/
inductive Detail where
  | text (s : String)
  | waiting (amount : ℚ) (unit : String) (resumeAt : ℚ)
  | dispatched (timeoutMinutes : ℚ)
  deriving DecidableEq

/-- `StepLogEntry`; `recovery` is `phase === "recovery"`. -/
structure StepLogEntry where
  stepId : Option String
  name : String
  type : String
  ok : Bool
  detail : Detail
  recovery : Bool := false
  deriving DecidableEq

/-- A device's `finalStatus`; `partialSuccess` is stored as `"partial"`. -/
inductive FinalStatus where
  | success
  | partialSuccess
  | failed
  deriving DecidableEq

/-- The status of a `WorkflowRunResult` row. -/
inductive ResultStatus where
  | waiting
  | done
  deriving DecidableEq

/-- `stepKind` of a pending row. -/
inductive StepKind where
  | timer
  | script
  deriving DecidableEq

/-- What `persistPendingStep` writes. -/
structure PendingData where
  runId : String
  deviceSnapshot : DeviceRef
  workflowId : String
  slugKey : String
  nextStepId : String
  log : List StepLogEntry
  resumeAt : ℚ
  stepKind : StepKind := .timer
  onFailureStepId : Option String := none
  pendingToken : Option String := none
  deriving DecidableEq

/-- A `WorkflowPendingStep` row; its id is drawn by the store. -/
structure PendingRow extends PendingData where
  id : ℕ
  claimed : Bool := false
  deriving DecidableEq

/-- The arguments of `executeMdmAction` that name the action. -/
structure MdmRequest where
  slug : String
  device : DeviceRef
  actionKey : Option String
  deploymentModel : Option String
  params : ActionParams
  resumeToken : Option String := none
  deriving DecidableEq

/-- `FirewallRuleSet`, as far as `executeMdmAction` reads it. -/
structure FirewallRuleSet where
  id : String
  name : String
  applyLibraryId : Option String
  restoreLibraryId : Option String
  deriving DecidableEq

/-- The error an awaited call rejects with. -/
structure JsError where
  message : String
  deriving DecidableEq

/-- `DeviceRunResult`: one element of a finished run's `log.results`. -/
structure DeviceRunResult where
  deviceId : String
  deviceName : Option String
  steps : List StepLogEntry
  finalStatus : Option FinalStatus
  deriving DecidableEq

/-- A `WorkflowRun` row. `completed` is `status === "completed"`, the other
status being `"running"`; `doneCount` and `results` are its `log`. -/
structure WorkflowRunRow where
  id : String
  workspaceSlug : String
  workflowId : String
  workflowName : String
  targetDescription : Option String
  completed : Bool
  total : Option ℕ
  doneCount : ℕ := 0
  results : List DeviceRunResult := []
  deriving DecidableEq

/-- A `WorkflowRunResult` row. -/
structure RunResultRow where
  runId : String
  deviceId : String
  deviceName : Option String
  steps : List StepLogEntry
  status : ResultStatus
  finalStatus : Option FinalStatus
  deriving DecidableEq

/-! ## The calls -/

/-- What the engines await. `beginChain` is not a call of the source: it marks
in a trace where `runDeviceStepChain` is entered, and with which step.
`executeMdmAction` marks the entry of that function and is answered with
what its checks say (lines 81–125): nothing, or the result they end in. -/
inductive EngineCall where
  | beginChain (runId deviceId : String) (startStepId : Option String)
  | now
  | randomUUID
  | findGlobalWorkspaceState
  | findCompliancePolicy (slug id : String)
  | loadAppListsContext (slug : String)
  | loadGeofenceZonesById (slug : String)
  | loadDeviceLocations (slug : String) (deviceIds : List String)
  | getAutomationBearer (slug : String)
  | resolveOrgBase (authorization slug : String)
  | getFullDevice (authorization slug deviceId : String)
  | readInstalledAppsFromStore (slug deviceId : String)
  | executeMdmAction (req : MdmRequest)
  | executeRunScript (req : MdmRequest)
  | sendMdmCommand (req : MdmRequest)
  | findFirewallRuleSet (slug id : String)
  | recordFirewallRemediationDispatch (slug deviceId ruleSetId : String) (applying : Bool)
  | executeHttpStep (config : StepConfig) (device : DeviceRef)
  | executeNotificationStep (config : StepConfig) (device : DeviceRef)
  | executePolicyReplaceStep (slug : String) (device : DeviceRef) (config : StepConfig)
  | executePolicyAddStep (slug : String) (device : DeviceRef) (config : StepConfig)
  | executePolicyRestoreStep (slug : String) (device : DeviceRef)
  | executeMonitorStep (slug : String) (device : DeviceRef) (config : StepConfig)
  | createPendingStep (data : PendingData)
  | deletePendingStep (id : ℕ)
  | claimDueSteps (limit : ℕ)
  | deleteByToken (token : String)
  | upsertRunResult (row : RunResultRow)
  | createRun (row : WorkflowRunRow)
  | findRun (runId : String)
  | findRunResults (runId : String)
  | completeRun (runId : String) (doneCount : ℕ) (results : List DeviceRunResult)
  | findWorkflow (slug id : String)
  deriving DecidableEq

/-- The answers. -/
@[reducible] def EngineCall.Answer (E : Evaluator) : EngineCall → Type
  | .beginChain .. => Unit
  | .now => ℚ
  | .randomUUID => String
  | .findGlobalWorkspaceState => Unit
  | .findCompliancePolicy .. => Option (Rule E)
  | .loadAppListsContext .. => E.AppLists
  | .loadGeofenceZonesById .. => E.Zones
  | .loadDeviceLocations .. => E.Locations
  | .getAutomationBearer .. => Option String
  | .resolveOrgBase .. => String
  | .getFullDevice .. => Option (Device E)
  | .readInstalledAppsFromStore .. => E.Apps
  | .executeMdmAction .. => Option StepResult
  | .executeRunScript .. => StepResult
  | .sendMdmCommand .. => StepResult
  | .findFirewallRuleSet .. => Option FirewallRuleSet
  | .recordFirewallRemediationDispatch .. => Unit
  | .executeHttpStep .. => StepResult
  | .executeNotificationStep .. => StepResult
  | .executePolicyReplaceStep .. => StepResult
  | .executePolicyAddStep .. => StepResult
  | .executePolicyRestoreStep .. => StepResult
  | .executeMonitorStep .. => StepResult
  | .createPendingStep .. => Unit
  | .deletePendingStep .. => Unit
  | .claimDueSteps .. => List PendingRow
  | .deleteByToken .. => Option PendingRow
  | .upsertRunResult .. => Unit
  | .createRun .. => Unit
  | .findRun .. => Option WorkflowRunRow
  | .findRunResults .. => List RunResultRow
  | .completeRun .. => Unit
  | .findWorkflow .. => Option Workflow

/-- The signature of the engines' calls. -/
@[reducible] def engineSig (E : Evaluator) : Sig where
  Call := EngineCall
  Ret := EngineCall.Answer E

/-- An `async` function of the engines. -/
abbrev Engine (E : Evaluator) (α : Type) : Type := Prog (engineSig E) JsError α

/-- A call and its answer. -/
abbrev EngineEvent (E : Evaluator) : Type := Event (engineSig E) JsError

variable {E : Evaluator}

/-- `await` of one of the calls. -/
def ask (c : EngineCall) : Engine E (c.Answer E) :=
  Prog.call (S := engineSig E) c

/-! ## `executeMdmAction` -/

/-- `executeMdmAction` for the key `runScript` (lines 81–129). -/
def executeRunScriptAction (req : MdmRequest) : Engine E StepResult := do
  match ← ask (.executeMdmAction req) with
  | some r => return r
  | none =>
    tryCatch (ask (.executeRunScript req)) fun e => return { ok := false, detail := e.message }

/-- The branch of `executeMdmAction` for the two firewall actions (lines
132–149): the rule set's provisioned script is dispatched by a nested
`executeMdmAction` with the key `runScript`. -/
def executeFirewallAction (req : MdmRequest) (applying : Bool) : Engine E StepResult :=
  match truthy req.params.ruleSetId with
  | none => return { ok := false, detail := "No Firewall Rule Set selected" }
  | some ruleSetId => do
    match ← ask (.findFirewallRuleSet req.slug ruleSetId) with
    | none =>
      return { ok := false, detail := "Firewall Rule Set not found — it may have been deleted" }
    | some ruleSet =>
      match truthy (if applying then ruleSet.applyLibraryId else ruleSet.restoreLibraryId) with
      | none =>
        return { ok := false, detail := "'" ++ ruleSet.name ++ "' hasn't finished provisioning its on-device script — try saving it again in the Firewall Policy Library." }
      | some resolvedLibraryId => do
        let r ← executeRunScriptAction
          { req with
            actionKey := some "runScript"
            params := { libraryId := some resolvedLibraryId }
            resumeToken := none }
        if r.ok then
          ask (.recordFirewallRemediationDispatch req.slug req.device.id ruleSet.id applying)
          return { ok := true, detail := (if applying then "Applied" else "Restored device from") ++ " firewall rule set '" ++ ruleSet.name ++ "'" }
        else return { ok := false, detail := r.detail }

/-- `executeMdmAction` (mdmActionExecutor.ts, lines 68–345). -/
def executeMdmAction (req : MdmRequest) : Engine E StepResult :=
  if req.actionKey = some "runScript" then executeRunScriptAction req
  else do
    match ← ask (.executeMdmAction req) with
    | some r => return r
    | none =>
      tryCatch
        (if req.actionKey = some "applyFirewallRuleSet" then executeFirewallAction req true
         else if req.actionKey = some "restoreFirewallRuleSet" then executeFirewallAction req false
         else ask (.sendMdmCommand req))
        fun e => return { ok := false, detail := e.message }

theorem executeMdmAction_runScript {req : MdmRequest} (h : req.actionKey = some "runScript") :
    (executeMdmAction req : Engine E StepResult) = executeRunScriptAction req :=
  if_pos h

/-! ## One step -/

/-- What a step is run with: the workspace, the bearer token, the workflow and
the device. -/
structure StepEnv where
  slug : String
  authorization : String
  workflow : Workflow
  device : DeviceRef

/-- The `executeMdmAction` request of an action step. -/
def StepEnv.mdmRequest (env : StepEnv) (actionKey : Option String) (params : ActionParams)
    (resumeToken : Option String) : MdmRequest :=
  { slug := env.slug
    device := env.device
    actionKey := actionKey
    deploymentModel := env.workflow.targetDeploymentModel
    params := params
    resumeToken := resumeToken }

/-- The dispatch by step type that the two engines and the recovery phase have
in common; `otherwise` is what each of them does with the other types. -/
def executeStep (env : StepEnv) (step : WorkflowStep) (otherwise : Engine E StepResult) :
    Engine E StepResult :=
  match step.type with
  | .mdmAction => executeMdmAction (env.mdmRequest step.config.action step.config.params none)
  | .httpRequest => ask (.executeHttpStep step.config env.device)
  | .notification => ask (.executeNotificationStep step.config env.device)
  | .policyReplace => ask (.executePolicyReplaceStep env.slug env.device step.config)
  | .policyAdd => ask (.executePolicyAddStep env.slug env.device step.config)
  | .policyRestore => ask (.executePolicyRestoreStep env.slug env.device)
  | _ => otherwise

/-- The log entry of an executed step. -/
def WorkflowStep.logEntry (step : WorkflowStep) (r : StepResult) : StepLogEntry :=
  { stepId := some step.id
    name := step.name
    type := step.type.text
    ok := r.ok
    detail := .text r.detail }

/-- Where the chain goes after a step (workflows.service.ts, lines 545–554;
durableEngine.ts, lines 350–361). -/
def nextStepId (steps : List WorkflowStep) (step : WorkflowStep) (currentId : String)
    (ok : Bool) : String :=
  if ok then step.onSuccess.getD (nextInOrder steps currentId) else orElse step.onFailure "end"

/-- The final status of a log. -/
def finalStatus (log : List StepLogEntry) : FinalStatus :=
  if log.all (·.ok) then .success else if log.any (·.ok) then .partialSuccess else .failed

/-! ## The Recovery gate -/

/-- The Recovery gate of a run: the linked policy's rule with the app lists and
the geofencing data it is evaluated with. -/
structure Gate (E : Evaluator) where
  rule : Rule E
  ctx : EvalContext E

/-- The gate of `workflow`, resolved once (workflows.service.ts, lines 463–477;
durableEngine.ts, lines 220–229). -/
def loadGate (slug : String) (workflow : Workflow) (deviceIds : List String) :
    Engine E (Option (Gate E)) :=
  match workflow.recovery.enabled, truthy workflow.recovery.compliancePolicyId with
  | true, some policyId => do
    match ← ask (.findCompliancePolicy slug policyId) with
    | none => return none
    | some rule => do
      let appLists ← ask (.loadAppListsContext slug)
      if rule.usesField geofenceFields then
        let zones ← ask (.loadGeofenceZonesById slug)
        let locations ← ask (.loadDeviceLocations slug deviceIds)
        return some { rule := rule, ctx := { appLists := some appLists, geo := some (zones, locations) } }
      else return some { rule := rule, ctx := { appLists := some appLists, geo := none } }
  | _, _ => return none

/-- `getFullDevice` (workflowSteps.ts, lines 27–34). -/
def getFullDevice (env : StepEnv) : Engine E (Option (Device E)) :=
  tryCatch (ask (.getFullDevice env.authorization env.slug env.device.id)) fun _ => return none

/-- Whether the device no longer violates the gate's policy; `false` when it
cannot be read. -/
def gateRecovered (env : StepEnv) (gate : Gate E) : Engine E Bool := do
  match ← getFullDevice env with
  | none => return false
  | some full =>
    if gate.rule.usesField appListFields then
      let apps ← ask (.readInstalledAppsFromStore env.slug env.device.id)
      return (policyViolated (full.withApps apps) gate.rule gate.ctx).isEmpty
    else return (policyViolated full gate.rule gate.ctx).isEmpty

/-- Phase 1 of `runRecoverySteps` for one log entry: the restore script of an
executed `runScript` action. -/
def reverseScript (env : StepEnv) (out : List StepLogEntry) (entry : StepLogEntry) :
    Engine E (List StepLogEntry) :=
  match entry.stepId.bind (stepsById env.workflow.steps) with
  | none => return out
  | some step =>
    if step.type = .mdmAction ∧ step.config.action = some "runScript" then
      match truthy step.config.params.restoreLibraryId with
      | none => return out
      | some restoreLibraryId => do
        let r ← executeMdmAction
          (env.mdmRequest (some "runScript") { libraryId := some restoreLibraryId } none)
        return out ++ [{ stepId := some step.id
                         name := "Restore script for \"" ++ orElse step.name "Run script" ++ "\""
                         type := "mdm_action", ok := r.ok, detail := .text r.detail
                         recovery := true }]
    else return out

/-- Phase 2 of `runRecoverySteps` for one of `recovery.steps`. -/
def runRecoveryStep (env : StepEnv) (out : List StepLogEntry) (step : WorkflowStep) :
    Engine E (List StepLogEntry) := do
  let r ← executeStep env step
    (return { ok := false, detail := "Unsupported recovery step type '" ++ step.type.text ++ "'" })
  return out ++ [{ step.logEntry r with recovery := true }]

/-- `runRecoverySteps` (workflowSteps.ts, lines 350–405). -/
def runRecoverySteps (env : StepEnv) (executedLog : List StepLogEntry) :
    Engine E (List StepLogEntry) := do
  let out ← executedLog.foldlM (reverseScript env) []
  env.workflow.recovery.steps.foldlM (runRecoveryStep env) out

end AppliverySoar.Workflows
