import AppliverySoar.Async.Embed
import AppliverySoar.Compliance.Evaluation
import AppliverySoar.Js.Value

/-!
# What starts a workflow without a person

The rows that the unattended launch paths read, the calls that they await, and
the store that answers them. A path runs while others edit the store: the store
is given as it stands at each call of the path, so that any save may come
between two of them.

Texts of audit events, of timeline entries and of case titles are left out, as
are the columns of a device that only the engine reads.
-/

namespace AppliverySoar.Automations

open Async Access Compliance Workflows
open Js (Value Runtime)

/-! ## Rows -/

/-- A `Workflow` row with the flag that workflows.schemas.ts (line 35) adds to
what the engines read. -/
structure StoredWorkflow extends Workflow where
  allowUnattendedDestructive : Bool := false

/-- A `Trigger` row. -/
structure Trigger where
  id : String
  workspaceSlug : String
  name : String
  workflowId : String
  enabled : Bool := true
  openCase : Bool := false
  caseSeverity : String := "medium"
  deviceLookupField : Option String := none
  secret : String

/-- A `CaseAutoRunRule` row. -/
structure CaseAutoRunRule where
  id : String
  name : String
  enabled : Bool := true
  minSeverity : String := "high"
  mitreTechniques : List String := []
  workflowId : String
  autoRunDestructiveAck : Bool := false
  maxFiresPerHour : ℤ := 10
  recentFires : List String := []

/-- An element of a configuration's `recentEvents`. -/
structure AppliveryWebhookEventRecord where
  id : String
  receivedAt : String
  actionKey : String
  canonicalKey : String
  os : Option String
  outcome : String := "logged"
  deviceId : Option String := none
  deviceName : Option String := none
  caseId : Option String := none
  workflowRunId : Option String := none

/-- An `AppliveryWebhookConfig` row. -/
structure AppliveryWebhookConfig where
  workspaceSlug : String
  enabled : Bool := true
  secret : String
  recentEvents : List AppliveryWebhookEventRecord := []

/-- An `AppliveryWebhookRule` row. -/
structure AppliveryWebhookRule where
  actionKey : String
  enabled : Bool := false
  openCase : Bool := false
  caseSeverity : String := "medium"
  runWorkflow : Bool := false
  workflowId : Option String := none
  autoRunDestructiveAck : Bool := false

/-- `NormalizedDevice`, as far as the webhooks and the case rules read it. -/
structure FleetDevice extends DeviceCore where
  udid : Option String := none
  mdmUserEmail : Option String := none

structure CaseAutorunTarget where
  id : String
  title : String
  deviceId : Option String
  severity : String
  mitreTechniques : List String

/-! ## Calls -/

variable {E : Evaluator}

/-- What the paths await. `service` is a call of the compliance service or of
`launchWorkflowRun` for a workspace; `startDeviceSync` and
`triggerEventDrivenReEvaluation` are not waited for in the source. -/
inductive AutomationCall (E : Evaluator)
  | service (workspaceSlug : String) (c : ServiceCall E)
  | findTrigger (triggerId : String)
  | findStoredWorkflow (workspaceSlug workflowId : String)
  | getAutomationBearer (workspaceSlug : String)
  | getFleet (authorization workspaceSlug : String)
  | startDeviceSync (authorization workspaceSlug : String)
  | recordAuditEvent (workspaceSlug : String) (event : AuditEvent)
  | updateTriggerFired (triggerId : String)
  | upsertTriggerFireState (workspaceSlug triggerId deviceId : String) (lastPayload : Value)
  | openCaseForTrigger (workspaceSlug runId caseSeverity : String) (device : Option FleetDevice)
  | triggerEventDrivenReEvaluation (workspaceSlug serialNumber : String)
  | findCaseAutoRunRules (workspaceSlug : String)
  | updateRecentFires (ruleId : String) (recentFires : List String)
  | findWebhookConfigs
  | findWebhookConfig (workspaceSlug : String)
  | updateWebhookConfig (workspaceSlug : String) (recentEvents : List AppliveryWebhookEventRecord)
  | findWebhookRule (workspaceSlug actionKey : String)
  | createWebhookRule (workspaceSlug : String) (rule : AppliveryWebhookRule)
  | randomUUID
  | createWebhookCase (workspaceSlug caseSeverity : String) (device : Option FleetDevice)
  | dispatchAndAttachCaseEvent (workspaceSlug caseId : String) (event : CaseEvent)

/-- The answers. -/
@[reducible] def AutomationCall.Answer : AutomationCall E → Type
  | .service _ c => ServiceCall.Answer c
  | .findTrigger _ => Option Trigger
  | .findStoredWorkflow .. => Option StoredWorkflow
  | .getAutomationBearer _ => Option String
  | .getFleet .. => List FleetDevice
  | .startDeviceSync .. => Unit
  | .recordAuditEvent .. => Unit
  | .updateTriggerFired _ => Unit
  | .upsertTriggerFireState .. => Unit
  | .openCaseForTrigger .. => String
  | .triggerEventDrivenReEvaluation .. => Unit
  | .findCaseAutoRunRules _ => List CaseAutoRunRule
  | .updateRecentFires .. => Unit
  | .findWebhookConfigs => List AppliveryWebhookConfig
  | .findWebhookConfig _ => Option AppliveryWebhookConfig
  | .updateWebhookConfig .. => Unit
  | .findWebhookRule .. => Option AppliveryWebhookRule
  | .createWebhookRule .. => Unit
  | .randomUUID => String
  | .createWebhookCase .. => String
  | .dispatchAndAttachCaseEvent .. => Unit

/-- The signature of the paths' calls. -/
@[reducible] def automationSig (E : Evaluator) : Sig where
  Call := AutomationCall E
  Ret := AutomationCall.Answer

/-- An `async` function of the launch paths. -/
abbrev Automation (E : Evaluator) (α : Type) : Type := Prog (automationSig E) ServiceError α

/-- `await` of one of the calls. -/
def ask (c : AutomationCall E) : Automation E (AutomationCall.Answer c) :=
  Prog.call (S := automationSig E) c

/-- `throw new HttpError(status, detail)`. -/
def fail {α : Type} (status : ℕ) (detail : String) : Automation E α :=
  Prog.ret (.error (.http ⟨status, detail⟩))

/-- The calls of the compliance service, made for a workspace. -/
def inWorkspace (E : Evaluator) (workspaceSlug : String) :
    SigHom (serviceSig E) (automationSig E) where
  call c := .service workspaceSlug c
  answer _ a := a

/-- A function of the compliance service, called for a workspace. -/
def within {α : Type} (workspaceSlug : String) (p : Service E α) : Automation E α :=
  p.embed (inWorkspace E workspaceSlug)

theorem calls_ask {okc : AutomationCall E → Prop} {c : AutomationCall E} (h : okc c) :
    (ask c : Automation E _).Calls okc :=
  Prog.calls_call h

/-! ## The store -/

/-- What is stored for a workspace and read by its launch paths. -/
structure WorkspaceStore (E : Evaluator) where
  policies : List (CompliancePolicy E) := []
  workflows : List StoredWorkflow := []
  caseAutoRunRules : List CaseAutoRunRule := []
  webhookRules : List AppliveryWebhookRule := []

/-- What is stored. Triggers and webhook configurations are searched across the
workspaces. -/
structure Store (E : Evaluator) where
  workspace : String → WorkspaceStore E
  triggers : List Trigger := []
  webhookConfigs : List AppliveryWebhookConfig := []

/-- `prisma.workflow.findFirst({ where: { workspaceSlug, id } })`. -/
def WorkspaceStore.findWorkflow (ws : WorkspaceStore E) (id : String) : Option StoredWorkflow :=
  ws.workflows.find? fun w => w.id = id

/-- `prisma.trigger.findUnique({ where: { id } })`. -/
def Store.findTrigger (st : Store E) (id : String) : Option Trigger :=
  st.triggers.find? fun t => t.id = id

/-- `prisma.appliveryWebhookRule.findUnique({ where: { workspaceSlug, actionKey } })`. -/
def WorkspaceStore.findWebhookRule (ws : WorkspaceStore E) (actionKey : String) :
    Option AppliveryWebhookRule :=
  ws.webhookRules.find? fun rule => rule.actionKey = actionKey

/-- `a` is what the store answers a read. Whatever else is awaited may be
answered in any way. -/
def Store.Answers (st : Store E) : (c : AutomationCall E) → AutomationCall.Answer c → Prop
  | .service slug .findPolicies, a => a = (st.workspace slug).policies
  | .service slug .findWorkflows, a =>
    a = (st.workspace slug).workflows.map StoredWorkflow.toWorkflow
  | .findTrigger id, a => a = st.findTrigger id
  | .findStoredWorkflow slug id, a => a = (st.workspace slug).findWorkflow id
  | .findCaseAutoRunRules slug, a => a = (st.workspace slug).caseAutoRunRules
  | .findWebhookConfigs, a => a = st.webhookConfigs
  | .findWebhookRule slug actionKey, a => a = (st.workspace slug).findWebhookRule actionKey
  | _, _ => True

/-- The surroundings of one path. The state counts its calls, and `stores n` is
the store when the call with that number is answered; any call may fail. -/
def automationWorld (stores : ℕ → Store E) : World (automationSig E) ServiceError ℕ where
  may n c r := ∀ a, r = .ok a → (stores n).Answers c a
  next n _ _ := n + 1

theorem automationWorld_after (stores : ℕ → Store E) (n : ℕ)
    (es : List (Event (automationSig E) ServiceError)) :
    (automationWorld stores).after n es = n + es.length := by
  induction es generalizing n with
  | nil => rfl
  | cons e es ih =>
    rw [World.after_cons, ih]
    simp only [automationWorld, List.length_cons]
    omega

end AppliverySoar.Automations
