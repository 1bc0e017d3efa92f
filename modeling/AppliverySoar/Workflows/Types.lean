import AppliverySoar.Async.Program
import AppliverySoar.Compliance.Evaluate
import Mathlib.Data.Rat.Defs

/-!
# Workflows, their steps and `workflowHasDestructiveStep`

The records of workflows.schemas.ts as far as the engines read them, the
registry `MDM_ACTIONS` (mdmActions.ts, lines 32–866) reduced to each action's
key and `destructive` flag, and the gate `workflowHasDestructiveStep`
(workflows.service.ts, lines 41–50). Values that the source keeps as JSON
numbers are rationals here, `none` when they are not finite numbers.

Results:
* `workflowHasDestructiveStep_eq_false`: what a workflow that passes the gate
  looks like.
* `stepsById_mem`: a step that is found by its id is a step of the list.
-/

namespace AppliverySoar.Workflows

open Compliance

/-! ## The action registry -/

/-- The keys of `MDM_ACTIONS`, each with its `destructive` flag. -/
def mdmActions : List (String × Bool) :=
  [("syncDevice", false), ("lockDevice", false), ("clearPasscode", true),
   ("rebootDevice", false), ("clearAppData", true), ("shutdownDevice", false),
   ("wipeDevice", true), ("disableDevice", true), ("enableDevice", false),
   ("enableLostMode", true), ("disableLostMode", false), ("playLostModeSound", false),
   ("setTimeZone", false), ("setBluetooth", false), ("setDataRoaming", false),
   ("setVoiceRoaming", false), ("setPersonalHotspot", false),
   ("setSoftwareUpdateCadence", false), ("recoveryLock", false),
   ("unlockUserAccount", false), ("clearRestrictionsPassword", false),
   ("deviceLocation", false), ("scheduleOsUpdate", true), ("setRemoteDesktop", false),
   ("removeProfile", true), ("getActivationLockBypassCode", false),
   ("rotateFileVaultKey", true), ("setBluetoothWindows", false), ("setWifiWindows", true),
   ("setCameraWindows", false), ("setRemovableStorageWindows", true),
   ("customOmaUri", false), ("enableVbsWindows", false),
   ("setCredentialGuardWindows", true), ("mdmUnenrollWindows", true),
   ("autopilotResetWindows", true), ("runScript", true), ("applyFirewallRuleSet", true),
   ("restoreFirewallRuleSet", false), ("deleteDevice", true), ("installApp", false),
   ("uninstallApp", true)]

/-- `MDM_ACTIONS[key]?.destructive`. -/
def destructive (key : String) : Bool :=
  (mdmActions.lookup key).getD false

theorem destructive_runScript : destructive "runScript" = true := by decide

theorem destructive_applyFirewallRuleSet : destructive "applyFirewallRuleSet" = true := by decide

/-! ## Steps and workflows -/

/-- A step's `type`; the schema accepts any string. -/
inductive StepType where
  | mdmAction
  | httpRequest
  | notification
  | policyReplace
  | policyAdd
  | policyRestore
  | monitor
  | wait
  | runScriptWait
  | other (name : String)
  deriving DecidableEq

/-- The string the source stores for a step type. -/
def StepType.text : StepType → String
  | .mdmAction => "mdm_action"
  | .httpRequest => "http_request"
  | .notification => "notification"
  | .policyReplace => "policy_replace"
  | .policyAdd => "policy_add"
  | .policyRestore => "policy_restore"
  | .monitor => "monitor"
  | .wait => "wait"
  | .runScriptWait => "run_script_wait"
  | .other name => name

/-- `config.params` of an action, as far as the engines read it. -/
structure ActionParams where
  libraryId : Option String := none
  restoreLibraryId : Option String := none
  ruleSetId : Option String := none
  deriving DecidableEq

/-- A step's `config`: `action` and `params` of an action, `amount` and `unit`
of a wait, `libraryId` and `timeoutMinutes` of a script wait, the policies
of a monitor or policy step. -/
structure StepConfig where
  action : Option String := none
  params : ActionParams := {}
  amount : Option ℚ := none
  unit : Option String := none
  libraryId : Option String := none
  timeoutMinutes : Option ℚ := none
  policyId : Option String := none
  compliancePolicyId : Option String := none
  deriving DecidableEq

/-- `WorkflowStepPayload`. -/
structure WorkflowStep where
  id : String
  type : StepType
  name : String
  config : StepConfig := {}
  onSuccess : Option String := none
  onFailure : Option String := none
  deriving DecidableEq

/-- `WorkflowRecoveryConfigPayload`. -/
structure RecoveryConfig where
  enabled : Bool := false
  compliancePolicyId : Option String := none
  steps : List WorkflowStep := []
  deriving DecidableEq

/-- `WorkflowRow`. -/
structure Workflow where
  id : String
  name : String
  steps : List WorkflowStep
  recovery : RecoveryConfig := {}
  targetDeploymentModel : Option String := none
  deriving DecidableEq

/-- `WorkflowDeviceRefPayload`, as far as the engines read it. -/
structure DeviceRef where
  id : String
  displayName : Option String := none
  platform : String
  platformDeviceId : String
  deriving DecidableEq

/-! ## JavaScript truthiness of optional strings -/

/-- `s || fallback` for a string that may be null. -/
def orElse (s : Option String) (fallback : String) : String :=
  match s with
  | some t => if t = "" then fallback else t
  | none => fallback

/-- The string itself when it is truthy. -/
def truthy (s : Option String) : Option String :=
  s.filter fun t => t ≠ ""

theorem truthy_eq_some {s : Option String} {t : String} :
    truthy s = some t ↔ s = some t ∧ t ≠ "" := by
  simp [truthy, Option.filter_eq_some_iff]

/-! ## Lookups -/

/-- `new Map(steps.map((s) => [s.id, s])).get(id)`: a later step with the same
id replaces an earlier one. -/
def stepsById (steps : List WorkflowStep) (id : String) : Option WorkflowStep :=
  steps.reverse.find? fun s => s.id = id

/-- `idx + 1 < stepOrder.length ? stepOrder[idx + 1] : "end"` for
`idx = stepOrder.indexOf(id)`: the step after the first one with that id. -/
def nextInOrder (steps : List WorkflowStep) (id : String) : String :=
  ((steps.map (·.id))[(steps.map (·.id)).idxOf id + 1]?).getD "end"

theorem stepsById_mem {steps : List WorkflowStep} {id : String} {s : WorkflowStep}
    (h : stepsById steps id = some s) : s ∈ steps ∧ s.id = id := by
  refine ⟨List.mem_reverse.mp (List.mem_of_find?_eq_some h), ?_⟩
  simpa using List.find?_some h

/-! ## The destructive-step gate -/

/-- `step.type === "mdm_action"` and its action is destructive. -/
def WorkflowStep.destructiveAction (s : WorkflowStep) : Bool :=
  s.type = .mdmAction && (truthy s.config.action).any destructive

/-- `workflowHasDestructiveStep` (workflows.service.ts, lines 41–50). -/
def workflowHasDestructiveStep : Option Workflow → Bool
  | none => false
  | some w => w.steps.any WorkflowStep.destructiveAction

theorem workflowHasDestructiveStep_eq_false {w : Workflow} :
    workflowHasDestructiveStep (some w) = false ↔
      ∀ s ∈ w.steps, s.type = .mdmAction → ∀ key, s.config.action = some key →
        destructive key = false := by
  simp only [workflowHasDestructiveStep, List.any_eq_false, WorkflowStep.destructiveAction]
  refine forall₂_congr fun s _ => ?_
  rcases hact : s.config.action with _ | key
  · simp [truthy]
  · by_cases hkey : key = ""
    · have hempty : destructive "" = false := by decide
      simp [truthy, hkey, hempty]
    · simp [truthy, hkey]

end AppliverySoar.Workflows
