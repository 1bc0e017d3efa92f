import AppliverySoar.Cases.Types

/-!
# The functions of cases.service.ts

What an administrator does with a case, what the compliance pass and a trigger
do, and the dispatch to the integrations (integrations.service.ts, lines
370–515), call by call.
-/

namespace AppliverySoar.Cases

open Async Access Automations Compliance
  AppliverySoar.Workflows

/-! ## Integrations -/

/-- `caseRank < (CASE_SEVERITY_RANK[integ.minSeverity] ?? 0)`. -/
def Integration.above (integ : Integration) (severity : String) : Bool :=
  (caseSeverityRank severity 1).lt (caseSeverityRank integ.minSeverity 0)

/-- What is noted on an integration after something was sent: `lastFiredAt` and
`fireCount`, or `lastError`. -/
def noteSent (integ : Integration) (sent : Except ServiceError Unit) : CaseProg Unit :=
  match sent with
  | .error _ => ask (.updateIntegration integ.id true)
  | .ok () =>
    tryCatchThe ServiceError (ask (.updateIntegration integ.id false)) fun _ =>
      ask (.updateIntegration integ.id true)

/-- The ticket of an integration is closed (lines 386–406). -/
def closeSync (kase : Case) (integ : Integration) : CaseProg Unit := do
  match kase.externalRefs.find? fun r => r.type = integ.type with
  | none => pure ()
  | some ref =>
    if integ.above kase.severity then pure ()
    else
      let key := if integ.type = .jira then some ref.id else truthy ref.sysId
      match key with
      | none => noteSent integ (.error (.other "No ServiceNow sys_id on record for this ticket (opened before close-sync was added) — close it manually"))
      | some key => do
        let sent ← (ask (.closeTicket integ.id integ.type key)).attempt
        noteSent integ sent

/-- `eventType` of a case event. -/
def eventText : CaseEvent → String
  | .created => "created"
  | .reopened => "reopened"
  | .closed => "closed"

/-- `eventType === "created" || eventType === "reopened"`. -/
def opensCase : CaseEvent → Bool
  | .closed => false
  | _ => true

/-- What an integration is sent that is not a ticket (lines 418–432). -/
def sendEvent (kase : Case) (eventType : CaseEvent) (integ : Integration) : CaseProg Unit :=
  match integ.type with
  | .slack | .teams | .discord =>
    ask (.sendChatNotification integ.id kase.id (eventText eventType))
  | .genericWebhook => ask (.sendGenericWebhook integ.id kase.id (eventText eventType))
  | .pagerduty | .opsgenie =>
    ask (.sendPagingEvent integ.id ("case:" ++ kase.id)
      (if opensCase eventType then .trigger else .resolve))
  | .jira | .servicenow => pure ()

/-- One integration (lines 378–440): the references created so far, with its
own. -/
def dispatchTo (kase : Case) (eventType : CaseEvent) (newRefs : List ExternalRef)
    (integ : Integration) : CaseProg (List ExternalRef) :=
  if !integ.enabled then pure newRefs
  else if !opensCase eventType && integ.type.isTicketing then do
    closeSync kase integ
    return newRefs
  else if !(if opensCase eventType then integ.notifyOnOpen else integ.notifyOnClose) then
    pure newRefs
  else if integ.above kase.severity then pure newRefs
  else if integ.type.isTicketing then do
    match ← (ask (.createTicket integ.id integ.type kase.id)).attempt with
    | .error e =>
      noteSent integ (.error e)
      return newRefs
    | .ok ref =>
      noteSent integ (.ok ())
      return newRefs ++ [ref]
  else do
    let sent ← (sendEvent kase eventType integ).attempt
    noteSent integ sent
    return newRefs

def dispatchCaseIntegrations (workspaceSlug : String) (kase : Case) (eventType : CaseEvent) :
    CaseProg (List ExternalRef) := do
  let integrations ← ask (.findIntegrations workspaceSlug)
  integrations.foldlM (dispatchTo kase eventType) []

/-- `"acknowledge" | "resolve"`. -/
inductive BreachKind
  | acknowledge
  | resolve
  deriving DecidableEq

/-- The kind as the source spells it. -/
def BreachKind.text : BreachKind → String
  | .acknowledge => "acknowledge"
  | .resolve => "resolve"

/-- What an integration is sent of a breach (lines 452–467). -/
def sendBreach (kase : Case) (kind : BreachKind) (integ : Integration) : CaseProg Unit :=
  let eventType := "sla_" ++ kind.text ++ "_breached"
  match integ.type with
  | .slack | .teams | .discord => ask (.sendChatNotification integ.id kase.id eventType)
  | .genericWebhook => ask (.sendGenericWebhook integ.id kase.id eventType)
  | _ => ask (.sendPagingEvent integ.id ("case_sla:" ++ kase.id ++ ":" ++ kind.text) .trigger)

/-- One integration of `dispatchCaseSlaBreach`. -/
def breachTo (kase : Case) (kind : BreachKind) (integ : Integration) : CaseProg Unit :=
  if !integ.enabled || !integ.notifyOnOpen then pure ()
  else if integ.type.isTicketing then pure ()
  else if integ.above kase.severity then pure ()
  else do
    let sent ← (sendBreach kase kind integ).attempt
    noteSent integ sent

def dispatchCaseSlaBreach (workspaceSlug : String) (kase : Case) (kind : BreachKind) :
    CaseProg Unit := do
  let integrations ← ask (.findIntegrations workspaceSlug)
  integrations.foldlM (fun _ integ => breachTo kase kind integ) ()
  ask (.sendAlertEmail workspaceSlug kase.id kind.text)

/-! ## Tickets -/

/-- What a ticket's status is looked up by (lines 491–493). -/
def ExternalRef.lookupKey (ref : ExternalRef) : Option String :=
  if ref.type = .jira then some ref.id else truthy ref.sysId

/-- The reference once its status is known. -/
def ExternalRef.checked (ref : ExternalRef) (status : RemoteTicketStatus) (now : ℕ) :
    ExternalRef :=
  { ref with
    remoteStatus := some status.name
    remoteResolved := status.resolved
    remoteStatusCheckedAt := some now
    remoteStatusError := none }

/-- `String(message).slice(0, 300)` of what was thrown. -/
def errorText : ServiceError → String
  | .http e => String.ofList (e.detail.toList.take 300)
  | .other message => String.ofList (message.toList.take 300)

/-- One reference of `syncCaseTicketRefs`: the references so far and those newly
resolved. -/
def syncRef (types : List IntegrationType) (acc : List ExternalRef × List ExternalRef)
    (ref : ExternalRef) : CaseProg (List ExternalRef × List ExternalRef) :=
  if !ref.type.isTicketing || !types.contains ref.type then pure (acc.1 ++ [ref], acc.2)
  else
    match ref.lookupKey with
    | none => pure (acc.1 ++ [ref], acc.2)
    | some key => do
      match ← (ask (.fetchTicketStatus ref.type key)).attempt with
      | .error e => return (acc.1 ++ [{ ref with remoteStatusError := some (errorText e) }], acc.2)
      | .ok status =>
        let now ← ask .now
        let ref' := ref.checked status now
        return (acc.1 ++ [ref'], acc.2 ++ if status.resolved && !ref.remoteResolved then [ref'] else [])

def syncCaseTicketRefs (refs : List ExternalRef) (types : List IntegrationType) :
    CaseProg (List ExternalRef × List ExternalRef) :=
  refs.foldlM (syncRef types) ([], [])

/-- `integrations.find((i) => i.type === ref.type)?.autoCloseCaseOnRemoteResolve`. -/
def autoCloses (integrations : List Integration) (ref : ExternalRef) : Bool :=
  (integrations.find? fun i => i.type = ref.type).any Integration.autoCloseCaseOnRemoteResolve

/-! ## Cases -/

/-- `findUniqueOrThrow`. -/
def getCaseOrThrow (caseId : String) : CaseProg Case := do
  match ← ask (.getCase caseId) with
  | none => Prog.ret (.error (.other "No Case found"))
  | some kase => return kase

def getCaseSlaSettings (workspaceSlug : String) : CaseProg CaseSlaSettings := do
  let row ← ask (.findSlaSettings workspaceSlug)
  let settings := row.getD {}
  return { settings with thresholds := backfillThresholds settings.thresholds }

/-- `serializeCase`, with the thresholds. -/
def serializeCase (kase : Case) (thresholds : List (String × SlaThreshold)) :
    CaseProg (Case × CaseSlaStatus) := do
  let now ← ask .now
  match caseSlaStatus kase thresholds now with
  | .error e => Prog.ret (.error e)
  | .ok status => return (kase, status)

/-- The case as it is shown after a change. -/
def showCase (workspaceSlug caseId : String) : CaseProg (Case × CaseSlaStatus) := do
  let settings ← getCaseSlaSettings workspaceSlug
  let final ← getCaseOrThrow caseId
  serializeCase final settings.thresholds

def attachExternalRefs (caseId : String) (refs : List ExternalRef) : CaseProg Unit := do
  match ← ask (.getCase caseId) with
  | none => pure ()
  | some kase =>
    ask (.updateCase caseId { externalRefs := some (kase.externalRefs ++ refs) })
    refs.foldlM (fun _ _ => ask (.addTimelineEntry caseId "note_added")) ()

def dispatchAndAttachCaseEvent (workspaceSlug caseId : String) (eventType : CaseEvent) :
    CaseProg Unit := do
  match ← ask (.getCase caseId) with
  | none => pure ()
  | some kase =>
    let refs ← dispatchCaseIntegrations workspaceSlug kase eventType
    if refs.isEmpty then pure () else attachExternalRefs caseId refs

/-- What the functions read of texts. -/
structure TextRuntime where
  isKnownMitreTechnique : String → Bool
  extractIocCandidates : String → List String
  toLowerCase : String → String

/-- One candidate of `autoEnrichCaseFromText`: what has been checked, and what
has been added. -/
def enrichCandidate (rt : TextRuntime) (workspaceSlug caseId : String)
    (acc : List String × List ThreatIntelResult) (iocValue : String) :
    CaseProg (List String × List ThreatIntelResult) :=
  if acc.1.contains (rt.toLowerCase iocValue) then pure acc
  else do
    match ← (ask (.runThreatIntelLookup workspaceSlug iocValue)).attempt with
    | .error _ => return acc
    | .ok results =>
      if results.isEmpty then return acc
      else
        ask (.addTimelineEntry caseId "note_added")
        return (acc.1 ++ [rt.toLowerCase iocValue], acc.2 ++ results)

def autoEnrichCaseFromText (rt : TextRuntime) (workspaceSlug caseId : String)
    (text : Option String) : CaseProg Unit := do
  let candidates := rt.extractIocCandidates (text.getD "")
  if candidates.isEmpty then pure ()
  else
    let providerCount ← ask (.countThreatIntelProviders workspaceSlug)
    if providerCount = 0 then pure ()
    else
      match ← ask (.getCase caseId) with
      | none => pure ()
      | some kase =>
        let checked := kase.threatIntel.map fun r => rt.toLowerCase r.ioc
        let acc ← candidates.foldlM (enrichCandidate rt workspaceSlug caseId) (checked, [])
        if acc.2.isEmpty then pure ()
        else ask (.updateCase caseId { threatIntel := some (kase.threatIntel ++ acc.2) })

structure CaseCreatePayload where
  title : String
  severity : String := "medium"
  deviceId : Option String := none
  deviceName : Option String := none
  notes : Option String := none
  mitreTechniques : List String := []
  deriving DecidableEq

/-- `s.trim()`, if something is left. -/
def trimmed (s : Option String) : Option String :=
  truthy (s.map fun t => String.ofList (Js.trim t.toList))

/-- An event about a case. -/
def caseAudit (action severity caseId : String) : AuditEvent :=
  ⟨"case", action, severity, "case", caseId⟩

/-- What `JSON.stringify(CASE_SEVERITIES)` prints. -/
def severitiesText : String :=
  "[\"low\",\"medium\",\"high\",\"critical\"]"

/-- The rules that run a workflow for a new case (lines 287–299). -/
def autorunCase (workspaceSlug caseId : String) (authorization : Option String) :
    CaseProg Unit :=
  match truthy authorization with
  | none => pure ()
  | some _ =>
    tryCatchThe ServiceError (do
      let kase ← getCaseOrThrow caseId
      match ← ask (.tryCaseAutorun workspaceSlug kase.id) with
      | none => pure ()
      | some runId =>
        ask (.updateCase caseId { pushWorkflowRunId := some runId })
        ask (.addTimelineEntry caseId "workflow_run_linked")) fun _ => pure ()

/-- The first note of a case, if it has one (lines 275–277). -/
def createFirstNote (caseId : String) (notes : Option String) : CaseProg Unit :=
  match trimmed notes with
  | none => pure ()
  | some text => ask (.createNote caseId text)

def createCase (rt : TextRuntime) (workspaceSlug : String) (payload : CaseCreatePayload)
    (authorization : Option String) : CaseProg (Case × CaseSlaStatus) :=
  if !caseSeverities.contains payload.severity then
    fail 400 ("severity must be one of " ++ severitiesText)
  else do
    let created ← ask (.createCase
      { workspaceSlug := workspaceSlug
        title := payload.title
        severity := payload.severity
        source := "manual"
        deviceId := payload.deviceId
        deviceName := payload.deviceName
        mitreTechniques := payload.mitreTechniques.filter rt.isKnownMitreTechnique })
    ask (.addTimelineEntry created.id "created")
    createFirstNote created.id payload.notes
    ask (.recordAuditEvent workspaceSlug (caseAudit "case_created" "info" created.id))
    dispatchAndAttachCaseEvent workspaceSlug created.id .created
    autoEnrichCaseFromText rt workspaceSlug created.id payload.notes
    autorunCase workspaceSlug created.id authorization
    showCase workspaceSlug created.id

/-! ## Updates -/

structure CaseUpdatePayload where
  title : Option String := none
  status : Option String := none
  severity : Option String := none
  assignee : Option String := none
  mitreTechniques : Option (List String) := none
  deriving DecidableEq

namespace CaseUpdatePayload

variable (payload : CaseUpdatePayload) (kase : Case)

/-- The severity, if it changes. -/
def newSeverity : Option String :=
  payload.severity.filter fun severity => severity ≠ kase.severity

/-- The assignee, if it changes. -/
def newAssignee : Option String :=
  payload.assignee.filter fun assignee => some assignee ≠ kase.assignee

/-- The techniques, if they change. -/
def newTechniques (rt : TextRuntime) : Option (List String) :=
  (payload.mitreTechniques.map (List.filter rt.isKnownMitreTechnique)).filter fun cleaned =>
    cleaned ≠ kase.mitreTechniques

/-- The text of the status, if it changes. -/
def newStatusText : Option String :=
  payload.status.filter fun status => status ≠ kase.status.text

/-- The status, if it changes. -/
def newStatus : Option CaseStatus :=
  (payload.newStatusText kase).bind CaseStatus.parse

/-- `nowClosed && !wasClosed`. -/
def closes : Bool :=
  kase.status.isOpen && (payload.newStatus kase).any fun status => !status.isOpen

/-- `!nowClosed && wasClosed`. -/
def reopens : Bool :=
  !kase.status.isOpen && (payload.newStatus kase).any CaseStatus.isOpen

/-- `newAcknowledgedAt`: by the first assignee, by the move to "investigating",
and back again by a reopening. -/
def newAcknowledgedAt (now : ℕ) : Option (Option ℕ) :=
  if payload.reopens kase then some none
  else if kase.acknowledgedAt.isNone &&
      ((payload.newAssignee kase).any (· ≠ "") || payload.newStatus kase = some .investigating) then
    some (some now)
  else none

def notifyEvent : Option CaseEvent :=
  if payload.closes kase then some .closed
  else if payload.reopens kase then some .reopened
  else none

def data (rt : TextRuntime) (now : ℕ) : CaseData where
  title := payload.title.filter fun title => title ≠ kase.title
  severity := payload.newSeverity kase
  assignee := (payload.newAssignee kase).map fun assignee => truthy (some assignee)
  mitreTechniques := payload.newTechniques kase rt
  status := payload.newStatus kase
  closedAt :=
    if payload.closes kase then some (some now)
    else if payload.reopens kase then some none
    else none
  acknowledgedAt := payload.newAcknowledgedAt kase now
  slaClockStartedAt := if payload.reopens kase then some now else none
  slaAckBreachNotifiedAt := if payload.reopens kase then some none else none
  slaResolveBreachNotifiedAt := if payload.reopens kase then some none else none
  updatedAt := some now

end CaseUpdatePayload

/-- `if (value !== undefined) await p`. -/
def forSome {α : Type} (value : Option α) (p : α → CaseProg Unit) : CaseProg Unit :=
  match value with
  | none => pure ()
  | some a => p a

/-- What `JSON.stringify(CASE_STATUSES)` prints. -/
def statusesText : String :=
  "[\"open\",\"investigating\",\"resolved\",\"closed\",\"false_positive\"]"

/-- The checks of `updateCase` and the timeline entries between them (lines
306–341). -/
def checkEdits (rt : TextRuntime) (kase : Case) (payload : CaseUpdatePayload) :
    CaseProg Unit := do
  forSome (payload.newSeverity kase) fun severity =>
    if !caseSeverities.contains severity then
      fail 400 ("severity must be one of " ++ severitiesText)
    else ask (.addTimelineEntry kase.id "severity_changed")
  forSome (payload.newAssignee kase) fun _ => ask (.addTimelineEntry kase.id "assigned")
  forSome (payload.newTechniques kase rt) fun _ => ask (.addTimelineEntry kase.id "note_added")
  forSome (payload.newStatusText kase) fun status =>
    match CaseStatus.parse status with
    | none => fail 400 ("status must be one of " ++ statusesText)
    | some _ => ask (.addTimelineEntry kase.id "status_changed")

/-- The markers of a case that has been closed by hand (lines 380–388). -/
def removeMarkers (workspaceSlug : String) (kase : Case) (event : CaseEvent)
    (authorization : Option String) : CaseProg Unit :=
  match truthy kase.policyId, truthy kase.deviceId, truthy authorization, event with
  | some policyId, some deviceId, some _, .closed =>
    tryCatchThe ServiceError (ask (.removeComplianceMarkers workspaceSlug policyId deviceId))
      fun _ => pure ()
  | _, _, _, _ => pure ()

def updateCase (rt : TextRuntime) (workspaceSlug caseId : String) (payload : CaseUpdatePayload)
    (authorization : Option String) : CaseProg (Case × CaseSlaStatus) := do
  match ← ask (.findCase workspaceSlug caseId) with
  | none => fail 404 "Case not found"
  | some kase =>
    let now ← ask .now
    checkEdits rt kase payload
    ask (.updateCase caseId (payload.data kase rt now))
    ask (.recordAuditEvent workspaceSlug (caseAudit "case_updated" "info" caseId))
    forSome (payload.notifyEvent kase) fun event => do
      dispatchAndAttachCaseEvent workspaceSlug caseId event
      removeMarkers workspaceSlug kase event authorization
    showCase workspaceSlug caseId

structure CaseBulkUpdatePayload where
  caseIds : List String
  status : Option String := none
  assignee : Option String := none
  deriving DecidableEq

/-- One case of `bulkUpdateCases`: the updated ones and the failed ones. -/
def bulkUpdateOne (rt : TextRuntime) (workspaceSlug : String) (payload : CaseBulkUpdatePayload)
    (authorization : Option String) (acc : List String × List (String × String))
    (caseId : String) : CaseProg (List String × List (String × String)) := do
  let edit : CaseUpdatePayload := { status := payload.status, assignee := payload.assignee }
  match ← (updateCase rt workspaceSlug caseId edit authorization).attempt with
  | .ok _ => return (acc.1 ++ [caseId], acc.2)
  | .error (.http e) => return (acc.1, acc.2 ++ [(caseId, e.detail)])
  | .error (.other message) => return (acc.1, acc.2 ++ [(caseId, "Error: " ++ message)])

def bulkUpdateCases (rt : TextRuntime) (workspaceSlug : String) (payload : CaseBulkUpdatePayload)
    (authorization : Option String) : CaseProg (List String × List (String × String)) :=
  if payload.status.isNone && payload.assignee.isNone then
    fail 400 "Provide at least one of status or assignee"
  else payload.caseIds.foldlM (bulkUpdateOne rt workspaceSlug payload authorization) ([], [])

def retryCaseIntegrations (workspaceSlug caseId : String) : CaseProg Case := do
  match ← ask (.findCase workspaceSlug caseId) with
  | none => fail 404 "Case not found"
  | some kase =>
    dispatchAndAttachCaseEvent workspaceSlug caseId
      (if kase.status.isOpen then .created else .closed)
    ask (.updateCase caseId {})
    ask (.recordAuditEvent workspaceSlug (caseAudit "integration_retry" "info" caseId))
    getCaseOrThrow caseId

def addCaseNote (rt : TextRuntime) (workspaceSlug caseId text : String) : CaseProg Case := do
  match trimmed (some text) with
  | none => fail 400 "Note text is required"
  | some note =>
    match ← ask (.findCase workspaceSlug caseId) with
    | none => fail 404 "Case not found"
    | some _ =>
      ask (.createNote caseId note)
      ask (.addTimelineEntry caseId "note_added")
      ask (.updateCase caseId {})
      autoEnrichCaseFromText rt workspaceSlug caseId (some text)
      getCaseOrThrow caseId

def enrichCase (rt : TextRuntime) (workspaceSlug caseId value : String) (forceRefresh : Bool) :
    CaseProg Case := do
  match trimmed (some value) with
  | none => fail 400 "value is required"
  | some iocValue =>
    match ← ask (.findCase workspaceSlug caseId) with
    | none => fail 404 "Case not found"
    | some kase =>
      let providerCount ← ask (.countThreatIntelProviders workspaceSlug)
      if providerCount = 0 then
        fail 400 "No threat intel providers configured yet — add one under Settings > Threat Intel."
      else
        let already := kase.threatIntel.find? fun r =>
          rt.toLowerCase r.ioc = rt.toLowerCase iocValue
        match if forceRefresh then none else already with
        | some r => fail 409 ("'" ++ iocValue ++ "' was already checked on this case (" ++
            r.checkedAt ++ ") — use force refresh to re-check.")
        | none =>
          let results ← ask (.runThreatIntelLookup workspaceSlug iocValue)
          ask (.updateCase caseId { threatIntel := some (kase.threatIntel ++ results) })
          ask (.addTimelineEntry caseId "note_added")
          getCaseOrThrow caseId

/-! ## Ticket status -/

/-- What `syncCaseTicketStatus` writes (lines 465–479): whether it has closed the
case. -/
def settleSync (caseId : String) (kaseNow : Case) (integrations : List Integration)
    (synced : List ExternalRef × List ExternalRef) : CaseProg Bool :=
  match if kaseNow.status.isOpen then synced.2.head? else none with
  | none => do
    ask (.updateCase caseId { externalRefs := some synced.1 })
    return false
  | some ref =>
    if autoCloses integrations ref then do
      let now ← ask .now
      ask (.updateCase caseId
        { status := some .resolved, closedAt := some (some now), externalRefs := some synced.1 })
      ask (.addTimelineEntry caseId "status_changed")
      return true
    else do
      ask (.updateCase caseId { externalRefs := some synced.1 })
      ask (.addTimelineEntry caseId "note_added")
      return false

def syncCaseTicketStatus (workspaceSlug caseId : String) : CaseProg (Case × Bool) := do
  match ← ask (.findCase workspaceSlug caseId) with
  | none => fail 404 "Case not found"
  | some kase =>
    if !(kase.externalRefs.any fun r => r.type.isTicketing) then
      fail 400 "This case has no linked Jira or ServiceNow ticket to sync"
    else
      let integrations ← ask (.findTicketIntegrations workspaceSlug false)
      let synced ← syncCaseTicketRefs kase.externalRefs (integrations.map Integration.type)
      let kaseNow ← getCaseOrThrow caseId
      let autoClosed ← settleSync caseId kaseNow integrations synced
      ask (.recordAuditEvent workspaceSlug (caseAudit "case_ticket_synced" "info" caseId))
      let final ← getCaseOrThrow caseId
      return (final, autoClosed)

/-! ## The compliance pass and triggers -/

structure CasePolicyRef where
  id : String
  name : String
  severity : Option String := none
  mitreTechniques : List String := []
  caseAssignee : Option String := none
  deriving DecidableEq

structure CaseDeviceRef where
  id : String
  displayName : Option String := none
  deriving DecidableEq

/-- What a recurring violation writes (lines 588–597). -/
def reopenData (policy : CasePolicyRef) (violationId : String) (now : ℕ) : CaseData where
  status := some .opened
  closedAt := some none
  updatedAt := some now
  pushViolationId := some violationId
  assignee := some (truthy policy.caseAssignee)
  acknowledgedAt := some ((truthy policy.caseAssignee).map fun _ => now)
  slaClockStartedAt := some now
  slaAckBreachNotifiedAt := some none
  slaResolveBreachNotifiedAt := some none
  mitreTechniques := some policy.mitreTechniques

/-- The case of a first violation (lines 603–614). -/
def violationCase (workspaceSlug : String) (policy : CasePolicyRef) (device : CaseDeviceRef)
    (violationId : String) (now : ℕ) : CaseCreate where
  workspaceSlug := workspaceSlug
  title := device.displayName.getD device.id ++ " — " ++ policy.name
  severity := policy.severity.getD "medium"
  source := "compliance_violation"
  deviceId := some device.id
  deviceName := device.displayName
  policyId := some policy.id
  policyName := some policy.name
  violationIds := [violationId]
  assignee := truthy policy.caseAssignee
  acknowledgedAt := (truthy policy.caseAssignee).map fun _ => now
  slaClockStartedAt := some now
  mitreTechniques := policy.mitreTechniques

def upsertCaseForViolation (workspaceSlug : String) (policy : CasePolicyRef)
    (device : CaseDeviceRef) (violationId : String) : CaseProg (String × Option CaseEvent) := do
  let now ← ask .now
  match ← ask (.findCaseOfPolicy workspaceSlug policy.id device.id true) with
  | some existing =>
    ask (.updateCase existing.id { pushViolationId := some violationId, updatedAt := some now })
    ask (.addTimelineEntry existing.id "violation_linked")
    return (existing.id, none)
  | none =>
    match ← ask (.findCaseOfPolicy workspaceSlug policy.id device.id false) with
    | some closedMatch =>
      ask (.updateCase closedMatch.id (reopenData policy violationId now))
      ask (.addTimelineEntry closedMatch.id "reopened")
      return (closedMatch.id, some .reopened)
    | none =>
      let created ← ask (.createCase (violationCase workspaceSlug policy device violationId now))
      ask (.addTimelineEntry created.id "created")
      return (created.id, some .created)

def markCaseRecovered (workspaceSlug : String) (violationId : Option String)
    (autoResolve : Bool) : CaseProg (Option (String × Option CaseEvent)) :=
  match truthy violationId with
  | none => pure none
  | some violationId => do
    match ← ask (.findOpenCaseOfViolation workspaceSlug violationId) with
    | none => return none
    | some kase =>
      if autoResolve then
        let now ← ask .now
        ask (.updateCase kase.id { status := some .resolved, closedAt := some (some now) })
        ask (.addTimelineEntry kase.id "status_changed")
        return some (kase.id, some .closed)
      else
        ask (.updateCase kase.id {})
        ask (.addTimelineEntry kase.id "device_recovered")
        return some (kase.id, none)

def openCaseForTrigger (workspaceSlug triggerName runId caseSeverity : String)
    (matchedDevice : Option CaseDeviceRef) : CaseProg String := do
  let created ← ask (.createCase
    { workspaceSlug := workspaceSlug
      title := "Trigger: " ++ triggerName ++
        (matchedDevice.map fun d => " — " ++ d.displayName.getD "null").getD ""
      severity := orElse (some caseSeverity) "medium"
      source := "workflow_trigger"
      deviceId := matchedDevice.map CaseDeviceRef.id
      deviceName := matchedDevice.bind CaseDeviceRef.displayName
      workflowRunIds := [runId] })
  ask (.addTimelineEntry created.id "created")
  dispatchAndAttachCaseEvent workspaceSlug created.id .created
  return created.id

end AppliverySoar.Cases
