import AppliverySoar.Automations.Store

/-!
# The unattended launch paths

Four functions start a workflow without a person: the compliance pass
(`runComplianceEvaluation`), `tryCaseAutorun` (caseAutoRun.service.ts, lines
104–157), `receiveAppliveryWebhook` (appliveryWebhookReceive.service.ts, lines
108–258) and `fireTrigger` (triggers.service.ts, lines 144–238). Each reads the
workflow and calls `launchWorkflowRun`. The pair that a launch hands over names
the policy or the rule that it is made for, and the device.
-/

namespace AppliverySoar.Automations

open Async Access Compliance Workflows
open Js (Value Runtime)

variable {E : Evaluator}

/-! ## Texts and devices -/

/-- `s.trim().toLowerCase()`. -/
def canonical (rt : Runtime) (s : String) : String :=
  rt.toLowerCase (String.ofList (Js.trim s.toList))

/-- The reference that the webhooks hand to the engine. -/
def FleetDevice.ref (d : FleetDevice) : DeviceRef :=
  ⟨d.id, some d.displayName, d.platform, d.platformDeviceId⟩

/-- The launch of a workflow for a rule and a device. -/
def launch (workspaceSlug : String) (pair : Option (String × String)) (workflow : StoredWorkflow)
    (devices : List DeviceRef) : Automation E (Option RunView) :=
  within workspaceSlug (launchWorkflowRun pair workflow.toWorkflow devices)

/-! ## Inbound triggers -/

/-- What `resolveTriggerDevice` looks for, when there is something to look for
(lines 113–117). -/
def triggerLookupValue (rt : Runtime) (deviceLookupField : Option String) (body : Value) :
    Option String :=
  (truthy deviceLookupField).bind fun field =>
    let rawValue := body.prop rt field
    if rawValue.isNullish then none else truthy (some (canonical rt (rawValue.text rt)))

/-- `resolveTriggerDevice` (lines 112–125). -/
def resolveTriggerDevice (rt : Runtime) (deviceLookupField : Option String) (body : Value)
    (devices : List FleetDevice) : Option FleetDevice :=
  (triggerLookupValue rt deviceLookupField body).bind fun value =>
    devices.find? fun d =>
      canonical rt d.serialNumber = value || canonical rt d.id = value ||
        canonical rt (d.mdmUserEmail.getD "") = value

structure FireTriggerResult where
  workflowRunId : String
  caseId : Option String
  matchedDevice : Option String

/-- `if (matchedDevice) await p`. -/
def forDevice (device : Option FleetDevice) (p : FleetDevice → Automation E Unit) :
    Automation E Unit :=
  match device with
  | none => pure ()
  | some d => p d

/-- The case of a trigger that opens one (lines 215–221). -/
def openTriggerCase (trigger : Trigger) (runId : String) (device : Option FleetDevice) :
    Automation E (Option String) :=
  if trigger.openCase then do
    let caseId ←
      ask (.openCaseForTrigger trigger.workspaceSlug runId trigger.caseSeverity device)
    return some caseId
  else pure none

/-- What follows the launch (lines 190–237). -/
def settleTrigger (trigger : Trigger) (workflow : StoredWorkflow)
    (matchedDevice : Option FleetDevice) (body : Value) (runRecord : RunView) :
    Automation E FireTriggerResult := do
  let slugKey := trigger.workspaceSlug
  ask (.updateTriggerFired trigger.id)
  forDevice matchedDevice fun d => ask (.upsertTriggerFireState slugKey trigger.id d.id body)
  let caseId ← openTriggerCase trigger runRecord.id matchedDevice
  ask (.recordAuditEvent slugKey ⟨"trigger", "trigger_fired", "info", "workflow", workflow.id⟩)
  forDevice matchedDevice fun d => ask (.triggerEventDrivenReEvaluation slugKey d.serialNumber)
  return ⟨runRecord.id, caseId, matchedDevice.map fun d => d.displayName⟩

/-- The launch and what follows it (lines 185–237). -/
def launchTrigger (trigger : Trigger) (workflow : StoredWorkflow)
    (matchedDevice : Option FleetDevice) (body : Value) : Automation E FireTriggerResult := do
  match ← launch trigger.workspaceSlug none workflow (matchedDevice.toList.map FleetDevice.ref) with
  | none => fail 400 "This workflow includes a 'wait' step, which requires durable storage (DATABASE_URL) not configured on this server."
  | some runRecord => settleTrigger trigger workflow matchedDevice body runRecord

def fireTrigger (rt : Runtime) (triggerId secret : String) (body : Value) :
    Automation E FireTriggerResult := do
  match ← ask (.findTrigger triggerId) with
  | none => fail 404 "Unknown trigger"
  | some trigger =>
    if secret ≠ trigger.secret then fail 401 "Invalid trigger secret"
    else if !trigger.enabled then fail 403 "This trigger is disabled"
    else
      let slugKey := trigger.workspaceSlug
      match ← ask (.findStoredWorkflow slugKey trigger.workflowId) with
      | none => fail 400 "Linked workflow no longer exists"
      | some workflow =>
        match truthy (← ask (.getAutomationBearer slugKey)) with
        | none => fail 503 "No automation credential configured for this workspace — set one in Settings > Workspace Automation so unattended triggers can run workflows."
        | some authorization =>
          let devices ← ask (.getFleet authorization slugKey)
          let matchedDevice := resolveTriggerDevice rt trigger.deviceLookupField body devices
          match matchedDevice, truthy trigger.deviceLookupField with
          | none, some field =>
            ask (.recordAuditEvent slugKey
              ⟨"trigger", "trigger_fired_no_device", "warning", "trigger", triggerId⟩)
            fail 404 ("No device matched on field '" ++ field ++ "'")
          | _, _ => launchTrigger trigger workflow matchedDevice body

/-! ## Case auto-run rules -/

/-- `CASE_SEVERITY_RANK[severity] ?? fallback`. -/
def caseSeverityRank (severity : String) (fallback : ℕ) : Lookup :=
  if severity = "low" then .own 0
  else if severity = "medium" then .own 1
  else if severity = "high" then .own 2
  else if severity = "critical" then .own 3
  else if objectPrototype.contains severity then .inherited
  else .own fallback

/-- The checks of a rule before its workflow is read (lines 113–116). -/
def CaseAutoRunRule.applies (rule : CaseAutoRunRule) (kase : CaseAutorunTarget) : Bool :=
  rule.enabled &&
    !(caseSeverityRank kase.severity 1).lt (caseSeverityRank rule.minSeverity 2) &&
    (rule.mitreTechniques.isEmpty ||
      rule.mitreTechniques.any fun t => kase.mitreTechniques.contains t)

/-- The fires of the last hour (lines 123–127). -/
def CaseAutoRunRule.firesInWindow (rt : Runtime) (rule : CaseAutoRunRule) : List String :=
  rule.recentFires.filter fun ts =>
    match rt.parseDate ts with
    | none => false
    | some t => rt.now - 3600000 ≤ t

/-- `rule.maxFiresPerHour || 10`. -/
def CaseAutoRunRule.maxPerHour (rule : CaseAutoRunRule) : ℤ :=
  if rule.maxFiresPerHour = 0 then 10 else rule.maxFiresPerHour

/-- `l.slice(-n)`. -/
def lastOf {α : Type} (n : ℕ) (l : List α) : List α :=
  l.drop (l.length - n)

/-- What a rule that applies does, for a case with a device (lines 118–154). -/
def runCaseRule (rt : Runtime) (nowIso workspaceSlug authorization : String)
    (kase : CaseAutorunTarget) (deviceId : String) (rule : CaseAutoRunRule) :
    Automation E (Option RunView) := do
  match ← ask (.findStoredWorkflow workspaceSlug rule.workflowId) with
  | none => return none
  | some workflow =>
    if workflowHasDestructiveStep (some workflow.toWorkflow) && !rule.autoRunDestructiveAck then
      return none
    else
      let recentFires := rule.firesInWindow rt
      if rule.maxPerHour ≤ recentFires.length then
        ask (.recordAuditEvent workspaceSlug
          ⟨"case", "case_autorun_rate_limited", "warning", "case", kase.id⟩)
        return none
      else
        let items ← ask (.getFleet authorization workspaceSlug)
        match items.find? fun d => d.id = deviceId with
        | none => return none
        | some device =>
          match ← launch workspaceSlug (some (rule.id, device.id)) workflow [device.ref] with
          | none => return none
          | some runRecord =>
            ask (.updateRecentFires rule.id (lastOf 200 (recentFires ++ [nowIso])))
            ask (.recordAuditEvent workspaceSlug
              ⟨"case", "case_autorun_fired", "info", "case", kase.id⟩)
            return some runRecord

/-- `tryCaseAutorun`: the first rule that applies decides. -/
def tryCaseAutorun (rt : Runtime) (nowIso workspaceSlug : String) (kase : CaseAutorunTarget)
    (authorization : Option String) : Automation E (Option RunView) := do
  match truthy kase.deviceId, truthy authorization with
  | some deviceId, some auth =>
    let rules ← ask (.findCaseAutoRunRules workspaceSlug)
    match rules.find? fun rule => rule.applies kase with
    | none => return none
    | some rule => runCaseRule rt nowIso workspaceSlug auth kase deviceId rule
  | _, _ => return none

/-! ## Applivery's webhook -/

/-- `OS_PREFIXES`, each with what `replace(/_$/, "")` leaves of it. -/
def osPrefixes : List (String × String) :=
  [("apple_", "apple"), ("android_", "android"), ("windows_", "windows"), ("aosp_", "aosp"),
    ("macos_", "macos"), ("ios_", "ios")]

/-- `normalizeAction` (lines 40–46). -/
def normalizeAction (action : String) : Option String × String :=
  let raw := String.ofList (Js.trim action.toList)
  match osPrefixes.find? fun p => startsWith raw p.1 with
  | some p => (some p.2, String.ofList (raw.toList.drop p.1.length))
  | none => (none, raw)

/-- `v` when it is truthy and `typeof v === "object"`. -/
def objectValue : Value → Option Value
  | .obj fields => some (.obj fields)
  | .set l => some (.set l)
  | .arr l => some (.arr l)
  | _ => none

/-- The texts by which a payload may name its device (lines 50–59). -/
def deviceCandidates (rt : Runtime) (body : Value) : List String :=
  let containers := body :: (objectValue (body.prop rt "data")).toList ++
    (objectValue (body.prop rt "device")).toList
  containers.flatMap fun container =>
    (["id", "_id", "deviceId", "serialNumber", "serial", "udid", "platformDeviceId"].map
      fun key => container.prop rt key).filterMap fun v =>
        if v.truthy then some (canonical rt (v.text rt)) else none

/-- `resolveDevice` (lines 49–69). -/
def resolveDevice (rt : Runtime) (body : Value) (devices : List FleetDevice) :
    Option FleetDevice :=
  (deviceCandidates rt body).findSome? fun value =>
    devices.find? fun d =>
      canonical rt d.id = value || canonical rt d.serialNumber = value ||
        canonical rt d.platformDeviceId = value || canonical rt (d.udid.getD "") = value

structure ReceiveAppliveryWebhookResult where
  status : String
  caseId : Option String
  workflowRunId : Option String

/-- `appendEvent` (lines 98–106). -/
def appendEvent (workspaceSlug : String) (event : AppliveryWebhookEventRecord) :
    Automation E Unit := do
  match ← ask (.findWebhookConfig workspaceSlug) with
  | none => pure ()
  | some config =>
    ask (.updateWebhookConfig workspaceSlug ((event :: config.recentEvents).take 50))

/-- The rule of an action, created when it is not there (lines 117–126). -/
def findOrCreateRule (workspaceSlug canonicalKey : String) :
    Automation E AppliveryWebhookRule := do
  match ← ask (.findWebhookRule workspaceSlug canonicalKey) with
  | some rule => return rule
  | none =>
    let rule : AppliveryWebhookRule := { actionKey := canonicalKey }
    ask (.createWebhookRule workspaceSlug rule)
    return rule

/-- The proactive sync of an enrolment (lines 150–160): whether it is
started. -/
def syncEnrolled (workspaceSlug : String) (enrolled : Bool) : Automation E Bool :=
  if enrolled then do
    match truthy (← ask (.getAutomationBearer workspaceSlug)) with
    | none => return false
    | some syncAuth =>
      tryCatchThe ServiceError (ask (.startDeviceSync syncAuth workspaceSlug)) fun _ => pure ()
      return true
  else pure false

/-- The device that a payload names (lines 172–181). -/
def matchDevice (rt : Runtime) (workspaceSlug : String) (body : Value) :
    Option String → Automation E (Option FleetDevice)
  | none => pure none
  | some authorization =>
    tryCatchThe ServiceError (do
      let devices ← ask (.getFleet authorization workspaceSlug)
      return resolveDevice rt body devices) fun _ => pure none

/-- Lines 191–207. -/
def openWebhookCase (workspaceSlug : String) (rule : AppliveryWebhookRule)
    (matchedDevice : Option FleetDevice) : Automation E (Option String) := do
  if rule.openCase then
    let caseId ← ask (.createWebhookCase workspaceSlug (orElse (some rule.caseSeverity) "medium")
      matchedDevice)
    ask (.service workspaceSlug (.addCaseTimelineEntry caseId "created"))
    ask (.dispatchAndAttachCaseEvent workspaceSlug caseId .created)
    return some caseId
  else return none

/-- Lines 209–242: the part of the outcome that the workflow adds, and its
run. -/
def runWebhookWorkflow (workspaceSlug : String) (rule : AppliveryWebhookRule)
    (authorization : Option String) (matchedDevice : Option FleetDevice)
    (caseId : Option String) : Automation E (Option String × Option String) := do
  match rule.runWorkflow, truthy rule.workflowId with
  | true, some workflowId =>
    match ← ask (.findStoredWorkflow workspaceSlug workflowId) with
    | none => return (some "workflow_missing", none)
    | some workflow =>
      if authorization.isNone then return (some "no_automation_credential", none)
      else if workflowHasDestructiveStep (some workflow.toWorkflow) &&
          !rule.autoRunDestructiveAck then
        ask (.recordAuditEvent workspaceSlug
          ⟨"webhook", "applivery_event_workflow_blocked", "critical", "workflow", workflow.id⟩)
        return (some "workflow_blocked_destructive", none)
      else
        let pair := (rule.actionKey, (matchedDevice.map fun d => d.id).getD "")
        match ← launch workspaceSlug (some pair) workflow
            (matchedDevice.toList.map FleetDevice.ref) with
        | none => return (some "workflow_unavailable", none)
        | some runRecord =>
          within workspaceSlug (linkRun caseId runRecord.id)
          return (some "workflow_fired", some runRecord.id)
  | _, _ => return (none, none)

/-- The outcome that is stored with an event. -/
def outcomeText (parts : List String) : String :=
  if parts.isEmpty then "logged" else "+".intercalate parts

/-- What a webhook does once its rule is known (lines 128–257). -/
def handleEvent (rt : Runtime) (nowIso : String) (config : AppliveryWebhookConfig)
    (rawAction : String) (body : Value) (rule : AppliveryWebhookRule) :
    Automation E ReceiveAppliveryWebhookResult := do
  let slug := config.workspaceSlug
  let action := normalizeAction rawAction
  let eventId ← ask .randomUUID
  let event : AppliveryWebhookEventRecord :=
    { id := eventId, receivedAt := nowIso, actionKey := rawAction, canonicalKey := action.2,
      os := action.1 }
  let deviceSyncTriggered ←
    syncEnrolled slug (config.enabled && action.2 = "device_enrolled")
  if !config.enabled || !rule.enabled then
    let outcome := if !config.enabled then "webhook_disabled"
      else if deviceSyncTriggered then "device_sync_triggered" else "logged"
    appendEvent slug { event with outcome := outcome }
    ask (.recordAuditEvent slug ⟨"webhook", "applivery_event_received", "info", "", ""⟩)
    return ⟨outcome, none, none⟩
  else
    let authorization := truthy (← ask (.getAutomationBearer slug))
    let matchedDevice ← matchDevice rt slug body authorization
    let caseId ← openWebhookCase slug rule matchedDevice
    let ran ← runWebhookWorkflow slug rule authorization matchedDevice caseId
    let outcome := outcomeText
      ((if deviceSyncTriggered then ["device_sync_triggered"] else []) ++
        (if caseId.isSome then ["case_opened"] else []) ++ ran.1.toList)
    appendEvent slug { event with
      outcome := outcome
      caseId := caseId
      workflowRunId := ran.2
      deviceId := matchedDevice.map fun d => d.id
      deviceName := matchedDevice.map fun d => d.displayName }
    ask (.recordAuditEvent slug ⟨"webhook", "applivery_event_received", "info",
      if matchedDevice.isSome then "device" else "", (matchedDevice.map fun d => d.id).getD ""⟩)
    return ⟨outcome, caseId, ran.2⟩

def receiveAppliveryWebhook (rt : Runtime) (nowIso secret : String) (body : Value) :
    Automation E ReceiveAppliveryWebhookResult := do
  let configs ← ask .findWebhookConfigs
  match configs.find? fun config => secret = config.secret with
  | none => fail 404 "Unknown webhook secret"
  | some config =>
    let rawAction :=
      (((body.prop rt "action").orElse (body.prop rt "event")).orElse (.str "unknown")).text rt
    let rule ← findOrCreateRule config.workspaceSlug (normalizeAction rawAction).2
    handleEvent rt nowIso config rawAction body rule

/-! ## The four paths -/

/-- A start of one of the paths. -/
inductive LaunchPath (E : Evaluator)
  | compliance (workspaceSlug : String) (req : EvaluationRequest)
  | caseAutorun (nowIso workspaceSlug : String) (kase : CaseAutorunTarget)
      (authorization : Option String)
  | webhook (nowIso secret : String) (body : Value)
  | trigger (triggerId secret : String) (body : Value)

/-- What a path runs; its result is not looked at. -/
def LaunchPath.run (rt : Runtime) : LaunchPath E → Automation E Unit
  | .compliance slug req => do
    let _ ← within slug (runComplianceEvaluation req)
  | .caseAutorun nowIso slug kase authorization => do
    let _ ← tryCaseAutorun rt nowIso slug kase authorization
  | .webhook nowIso secret body => do
    let _ ← receiveAppliveryWebhook rt nowIso secret body
  | .trigger triggerId secret body => do
    let _ ← fireTrigger rt triggerId secret body

end AppliverySoar.Automations
