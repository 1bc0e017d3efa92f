import AppliverySoar.Automations.Paths

/-!
# Cases and what they are told to

The rows of `Case` and `Integration`, what a query creates and updates of a case
(schema.prisma, lines 581–623), and the SLA clocks of a case (cases.service.ts,
lines 38–82). Times are milliseconds.

Texts of timeline entries and audit events are left out, as are the columns of a
case that nothing here reads: who opened it and its segment.
-/

namespace AppliverySoar.Cases

open Async Access Compliance Workflows

/-! ## Statuses and severities -/

/-- `CASE_STATUSES`; `opened` is "open". -/
inductive CaseStatus
  | opened
  | investigating
  | resolved
  | closed
  | falsePositive
  deriving DecidableEq

/-- The status as the source spells it. -/
def CaseStatus.text : CaseStatus → String
  | .opened => "open"
  | .investigating => "investigating"
  | .resolved => "resolved"
  | .closed => "closed"
  | .falsePositive => "false_positive"

/-- `CASE_STATUSES`. -/
def caseStatuses : List CaseStatus :=
  [.opened, .investigating, .resolved, .closed, .falsePositive]

/-- The status that a text names. -/
def CaseStatus.parse (text : String) : Option CaseStatus :=
  caseStatuses.find? fun status => status.text = text

@[simp] theorem CaseStatus.parse_text (status : CaseStatus) :
    CaseStatus.parse status.text = some status := by
  cases status <;> decide

theorem CaseStatus.parse_eq_some {text : String} {status : CaseStatus} :
    CaseStatus.parse text = some status ↔ text = status.text := by
  refine ⟨fun h => ?_, fun h => h ▸ CaseStatus.parse_text status⟩
  unfold CaseStatus.parse at h
  exact (of_decide_eq_true (List.find?_some h :)).symm

/-- `isOpenCaseStatus`. -/
def CaseStatus.isOpen : CaseStatus → Bool
  | .opened | .investigating => true
  | _ => false

/-- `CASE_SEVERITIES`. -/
def caseSeverities : List String :=
  ["low", "medium", "high", "critical"]

/-! ## Rows -/

/-- `INTEGRATION_TYPES`. -/
inductive IntegrationType
  | slack | teams | discord | jira | servicenow | genericWebhook | pagerduty | opsgenie
  deriving DecidableEq

/-- `type === "jira" || type === "servicenow"`. -/
def IntegrationType.isTicketing : IntegrationType → Bool
  | .jira | .servicenow => true
  | _ => false

/-- `type === "pagerduty" || type === "opsgenie"`. -/
def IntegrationType.isPaging : IntegrationType → Bool
  | .pagerduty | .opsgenie => true
  | _ => false

structure ExternalRef where
  type : IntegrationType
  id : String
  url : String
  sysId : Option String := none
  remoteStatus : Option String := none
  remoteResolved : Bool := false
  remoteStatusCheckedAt : Option ℕ := none
  remoteStatusError : Option String := none
  deriving DecidableEq

/-- `ThreatIntelResult`, as far as a case reads it. -/
structure ThreatIntelResult where
  id : String
  ioc : String
  checkedAt : String
  deriving DecidableEq

/-- A `Case` row. -/
structure Case where
  id : String
  workspaceSlug : String
  title : String
  status : CaseStatus := .opened
  severity : String := "medium"
  source : String
  deviceId : Option String := none
  deviceName : Option String := none
  policyId : Option String := none
  policyName : Option String := none
  violationIds : List String := []
  workflowRunIds : List String := []
  assignee : Option String := none
  closedAt : Option ℕ := none
  acknowledgedAt : Option ℕ := none
  slaClockStartedAt : ℕ
  slaAckBreachNotifiedAt : Option ℕ := none
  slaResolveBreachNotifiedAt : Option ℕ := none
  mitreTechniques : List String := []
  threatIntel : List ThreatIntelResult := []
  externalRefs : List ExternalRef := []
  updatedAt : ℕ
  deriving DecidableEq

/-- An `Integration` row. -/
structure Integration where
  id : String
  workspaceSlug : String
  type : IntegrationType
  enabled : Bool := true
  notifyOnOpen : Bool := true
  notifyOnClose : Bool := false
  minSeverity : String := "low"
  autoCloseCaseOnRemoteResolve : Bool := false
  deriving DecidableEq

/-- The `data` of `prisma.case.create`. Without a clock the database takes the
present moment. -/
structure CaseCreate where
  workspaceSlug : String
  title : String
  severity : String
  source : String
  deviceId : Option String := none
  deviceName : Option String := none
  policyId : Option String := none
  policyName : Option String := none
  violationIds : List String := []
  workflowRunIds : List String := []
  assignee : Option String := none
  acknowledgedAt : Option ℕ := none
  slaClockStartedAt : Option ℕ := none
  mitreTechniques : List String := []
  deriving DecidableEq

/-- The row that is created. -/
def CaseCreate.row (data : CaseCreate) (id : String) (now : ℕ) : Case where
  id := id
  workspaceSlug := data.workspaceSlug
  title := data.title
  severity := data.severity
  source := data.source
  deviceId := data.deviceId
  deviceName := data.deviceName
  policyId := data.policyId
  policyName := data.policyName
  violationIds := data.violationIds
  workflowRunIds := data.workflowRunIds
  assignee := data.assignee
  acknowledgedAt := data.acknowledgedAt
  slaClockStartedAt := data.slaClockStartedAt.getD now
  mitreTechniques := data.mitreTechniques
  updatedAt := now

/-- The `data` of `prisma.case.update`: a field that is `none` is left as it is,
and `push` appends. -/
structure CaseData where
  title : Option String := none
  status : Option CaseStatus := none
  severity : Option String := none
  assignee : Option (Option String) := none
  closedAt : Option (Option ℕ) := none
  acknowledgedAt : Option (Option ℕ) := none
  slaClockStartedAt : Option ℕ := none
  slaAckBreachNotifiedAt : Option (Option ℕ) := none
  slaResolveBreachNotifiedAt : Option (Option ℕ) := none
  mitreTechniques : Option (List String) := none
  threatIntel : Option (List ThreatIntelResult) := none
  externalRefs : Option (List ExternalRef) := none
  pushViolationId : Option String := none
  pushWorkflowRunId : Option String := none
  updatedAt : Option ℕ := none
  deriving DecidableEq

/-- The row that is left. -/
def CaseData.apply (data : CaseData) (row : Case) (now : ℕ) : Case :=
  { row with
    title := data.title.getD row.title
    status := data.status.getD row.status
    severity := data.severity.getD row.severity
    assignee := data.assignee.getD row.assignee
    closedAt := data.closedAt.getD row.closedAt
    acknowledgedAt := data.acknowledgedAt.getD row.acknowledgedAt
    slaClockStartedAt := data.slaClockStartedAt.getD row.slaClockStartedAt
    slaAckBreachNotifiedAt := data.slaAckBreachNotifiedAt.getD row.slaAckBreachNotifiedAt
    slaResolveBreachNotifiedAt :=
      data.slaResolveBreachNotifiedAt.getD row.slaResolveBreachNotifiedAt
    mitreTechniques := data.mitreTechniques.getD row.mitreTechniques
    threatIntel := data.threatIntel.getD row.threatIntel
    externalRefs := data.externalRefs.getD row.externalRefs
    violationIds := row.violationIds ++ data.pushViolationId.toList
    workflowRunIds := row.workflowRunIds ++ data.pushWorkflowRunId.toList
    updatedAt := data.updatedAt.getD now }

/-! ## SLA clocks -/

/-- The minutes of a severity. -/
structure SlaThreshold where
  acknowledgeMinutes : ℕ
  resolveMinutes : ℕ
  deriving DecidableEq

/-- `DEFAULT_CASE_SLA_THRESHOLDS`. -/
def defaultCaseSlaThresholds : List (String × SlaThreshold) :=
  [("low", ⟨480, 4320⟩), ("medium", ⟨240, 1440⟩), ("high", ⟨60, 480⟩), ("critical", ⟨15, 240⟩)]

/-- A `CaseSlaSettings` row. -/
structure CaseSlaSettings where
  enabled : Bool := true
  notifyOnBreach : Bool := true
  thresholds : List (String × SlaThreshold) := []
  deriving DecidableEq

def backfillThresholds (thresholds : List (String × SlaThreshold)) :
    List (String × SlaThreshold) :=
  thresholds ++ defaultCaseSlaThresholds.filter fun d => (thresholds.lookup d.1).isNone

/-- `thresholds[severity] ?? DEFAULT_CASE_SLA_THRESHOLDS[severity] ??
DEFAULT_CASE_SLA_THRESHOLDS.medium`. A member of `Object.prototype` is found
before the defaults and has no minutes. -/
def slaOf (thresholds : List (String × SlaThreshold)) (severity : String) : Option SlaThreshold :=
  match thresholds.lookup severity with
  | some sla => some sla
  | none =>
    if objectPrototype.contains severity then none
    else some ((defaultCaseSlaThresholds.lookup severity).getD ⟨240, 1440⟩)

structure CaseSlaStatus where
  ackDueAt : Option ℕ := none
  ackBreached : Bool := false
  resolveDueAt : Option ℕ := none
  resolveBreached : Bool := false
  deriving DecidableEq

/-- One of the two clocks: when it is due and whether that has passed. Without
minutes there is no date to print. -/
def slaClock (runs : Bool) (anchor : ℕ) (minutes : Option ℕ) (now : ℕ) :
    Except ServiceError (Option ℕ × Bool) :=
  if runs then
    match minutes with
    | none => .error (.other "Invalid time value")
    | some minutes => .ok (some (anchor + minutes * 60000), anchor + minutes * 60000 < now)
  else .ok (none, false)

def caseSlaStatus (kase : Case) (thresholds : List (String × SlaThreshold)) (now : ℕ) :
    Except ServiceError CaseSlaStatus := do
  let sla := slaOf thresholds kase.severity
  let anchor := kase.slaClockStartedAt
  let ack ← slaClock kase.acknowledgedAt.isNone anchor (sla.map SlaThreshold.acknowledgeMinutes) now
  let resolve ← slaClock kase.status.isOpen anchor (sla.map SlaThreshold.resolveMinutes) now
  return ⟨ack.1, ack.2, resolve.1, resolve.2⟩

/-! ## Calls -/

/-- `"trigger" | "resolve"`. -/
inductive PagingAction
  | trigger
  | resolve
  deriving DecidableEq

structure RemoteTicketStatus where
  name : String
  resolved : Bool
  deriving DecidableEq

/-- What the functions of the module await. `now` is `Date.now()`, which is not
waited for in the source; `closeTicket` is `transitionJiraIssue` or
`closeServicenowIncident`. -/
inductive CaseCall
  | now
  | findCase (workspaceSlug caseId : String)
  | getCase (caseId : String)
  | findOpenCases (workspaceSlug : String)
  | findCaseOfPolicy (workspaceSlug policyId deviceId : String) (isOpen : Bool)
  | findOpenCaseOfViolation (workspaceSlug violationId : String)
  | createCase (data : CaseCreate)
  | updateCase (caseId : String) (data : CaseData)
  | addTimelineEntry (caseId type : String)
  | createNote (caseId text : String)
  | recordAuditEvent (workspaceSlug : String) (event : AuditEvent)
  | findSlaSettings (workspaceSlug : String)
  | workspacesWithCases
  | workspacesWithIntegrations
  | findIntegrations (workspaceSlug : String)
  | findTicketIntegrations (workspaceSlug : String) (enabledOnly : Bool)
  | updateIntegration (integrationId : String) (failed : Bool)
  | sendChatNotification (integrationId caseId eventType : String)
  | sendGenericWebhook (integrationId caseId eventType : String)
  | sendPagingEvent (integrationId dedupKey : String) (action : PagingAction)
  | createTicket (integrationId : String) (type : IntegrationType) (caseId : String)
  | closeTicket (integrationId : String) (type : IntegrationType) (key : String)
  | fetchTicketStatus (type : IntegrationType) (key : String)
  | sendAlertEmail (workspaceSlug caseId breachKind : String)
  | countThreatIntelProviders (workspaceSlug : String)
  | runThreatIntelLookup (workspaceSlug ioc : String)
  | tryCaseAutorun (workspaceSlug caseId : String)
  | removeComplianceMarkers (workspaceSlug policyId deviceId : String)
  deriving DecidableEq

/-- The answers. -/
@[reducible] def CaseCall.Answer : CaseCall → Type
  | .now => ℕ
  | .findCase .. => Option Case
  | .getCase _ => Option Case
  | .findOpenCases _ => List Case
  | .findCaseOfPolicy .. => Option Case
  | .findOpenCaseOfViolation .. => Option Case
  | .createCase _ => Case
  | .updateCase .. => Unit
  | .addTimelineEntry .. => Unit
  | .createNote .. => Unit
  | .recordAuditEvent .. => Unit
  | .findSlaSettings _ => Option CaseSlaSettings
  | .workspacesWithCases => List String
  | .workspacesWithIntegrations => List String
  | .findIntegrations _ => List Integration
  | .findTicketIntegrations .. => List Integration
  | .updateIntegration .. => Unit
  | .sendChatNotification .. => Unit
  | .sendGenericWebhook .. => Unit
  | .sendPagingEvent .. => Unit
  | .createTicket .. => ExternalRef
  | .closeTicket .. => Unit
  | .fetchTicketStatus .. => RemoteTicketStatus
  | .sendAlertEmail .. => Unit
  | .countThreatIntelProviders _ => ℕ
  | .runThreatIntelLookup .. => List ThreatIntelResult
  | .tryCaseAutorun .. => Option String
  | .removeComplianceMarkers .. => Unit

/-- The signature of the calls. -/
@[reducible] def caseSig : Sig where
  Call := CaseCall
  Ret := CaseCall.Answer

/-- An `async` function of the module. -/
abbrev CaseProg (α : Type) : Type := Prog caseSig ServiceError α

/-- A call and its answer. -/
abbrev CaseMove : Type := Event caseSig ServiceError

/-- `await` of one of the calls. -/
def ask (c : CaseCall) : CaseProg (CaseCall.Answer c) :=
  Prog.call (S := caseSig) c

/-- `throw new HttpError(status, detail)`. -/
def fail {α : Type} (status : ℕ) (detail : String) : CaseProg α :=
  Prog.ret (.error (.http ⟨status, detail⟩))

theorem calls_ask {okc : CaseCall → Prop} {c : CaseCall} (h : okc c) :
    (ask c : CaseProg _).Calls okc :=
  Prog.calls_call h

end AppliverySoar.Cases
