import AppliverySoar.Async.Sequence
import AppliverySoar.Compliance.Types
import AppliverySoar.Devices.ActivePolicies
import AppliverySoar.Workflows.Steps
import Mathlib.Algebra.Order.Ring.Rat

/-!
# Quarantine, extra policies and their undoing

`executePolicyReplaceStep`, `executePolicyAddStep` and
`executePolicyRestoreStep` with `snapshotPoliciesIfNeeded` (workflowSteps.ts) and
`applyDevicePolicies` (devices.service.ts), as programs over the calls they
await. The entries that the three steps pass to `applyDevicePolicies` all have an
id.
-/

namespace AppliverySoar.Workflows

open Async Compliance Devices
open Js (Runtime)

/-! ## Records and calls -/

/-- A step's `config`, as far as the policy steps read it. -/
structure PolicyConfig where
  policyId : Option String
  policyName : Option String := none
  priority : Option String := none

/-- An element of the `policies` of `applyDevicePolicies`. -/
structure PolicyEntry where
  id : String
  priority : Option ℚ := none
  isPrimary : Bool := false

/-- The body that `applyDevicePolicies` sends, with the names of its
properties. -/
structure PolicyBody where
  primaryKey : String
  primaryId : Option String
  assignKey : String
  assignIdKey : String
  assignments : List (String × ℚ)

/-- A `PolicyQuarantineEntry` row. -/
structure PolicyQuarantineEntry where
  platform : String
  policies : List ActivePolicy
  workflowId : Option String

/-- `NormalizedDevice`, as far as the policy steps read it. -/
structure FullDevice where
  platform : String
  activePolicies : List ActivePolicy

/-- A response to `PUT`, with `JSON.stringify` of its body. -/
structure PutAnswer where
  status : ℕ
  text : String

inductive PolicyCall
  | getFullDevice (authorization workspaceSlug deviceId : String)
  | findQuarantineEntry (workspaceSlug deviceId : String)
  | createQuarantineEntry (workspaceSlug deviceId : String) (entry : PolicyQuarantineEntry)
  | deleteQuarantineEntry (workspaceSlug deviceId : String)
  | resolveOrgBase (authorization workspaceSlug : String)
  | putDevice (authorization url : String) (body : PolicyBody)

def policySig : Sig where
  Call := PolicyCall
  Ret
    | .getFullDevice _ _ _ => Option FullDevice
    | .findQuarantineEntry _ _ => Option PolicyQuarantineEntry
    | .createQuarantineEntry _ _ _ => Unit
    | .deleteQuarantineEntry _ _ => Unit
    | .resolveOrgBase _ _ => String
    | .putDevice _ _ _ => PutAnswer

/-- A function that awaits these calls. -/
abbrev Policies (α : Type) := Prog policySig JsError α

abbrev PolicyEvent := Event policySig JsError

def askPolicy (c : PolicyCall) : Policies (policySig.Ret c) :=
  Prog.call (S := policySig) c

/-! ## The stack of a device -/

/-- `primaryIdx`, `primaryId`, `rest`, `assignments` and `body` of
`applyDevicePolicies`. -/
def policyBody (platformPath : String) (policies : List PolicyEntry) : PolicyBody :=
  let primaryIdx := policies.findIdx? PolicyEntry.isPrimary
  let rest := match primaryIdx with
    | some i => policies.eraseIdx i
    | none => policies.tail
  { primaryKey := if platformPath = "windows" then "winPolicyId" else "policyId"
    primaryId := match primaryIdx with
      | some i => policies[i]?.map PolicyEntry.id
      | none => policies.head?.map PolicyEntry.id
    assignKey :=
      if platformPath = "apple" then "admPolicyAssignments"
      else if platformPath = "android" then "emmPolicyAssignments"
      else "winPolicyAssignments"
    assignIdKey :=
      if platformPath = "apple" then "admPolicyId"
      else if platformPath = "android" then "emmPolicyId"
      else "winPolicyId"
    assignments := rest.mapIdx fun i p => (p.id, p.priority.getD (i + 1)) }

def applyDevicePolicies (authorization workspaceSlug platform deviceId : String)
    (policies : List PolicyEntry) : Policies StepResult :=
  match platformPathSegment platform with
  | some platformPath =>
    if platformPath ∈ ["apple", "android", "windows"] then do
      let orgBase : String ← askPolicy (.resolveOrgBase authorization workspaceSlug)
      let res ← askPolicy (.putDevice authorization
        (orgBase ++ "/mdm/" ++ platformPath ++ "/enterprise/devices/" ++ deviceId)
        (policyBody platformPath policies))
      pure (if res.status ≥ 300 then
          ⟨false, "API returned " ++ toString res.status ++ ": " ++
            String.ofList (res.text.toList.take 200)⟩
        else ⟨true, "ok"⟩)
    else pure ⟨false, "Policy stack management isn't wired up for '" ++ platform ++ "' yet"⟩
  | none => pure ⟨false, "Policy stack management isn't wired up for '" ++ platform ++ "' yet"⟩

/-- `p.id` is truthy: the entry with its id. -/
def ActivePolicy.entry (p : ActivePolicy) : Option PolicyEntry :=
  (truthy p.id).map fun id => ⟨id, p.priority, p.isPrimary⟩

/-! ## Steps -/

/-- A snapshot that exists stays. -/
def snapshotPoliciesIfNeeded (workspaceSlug deviceId : String) (deviceFull : FullDevice)
    (workflowId : Option String) : Policies Unit := do
  let existing ← askPolicy (.findQuarantineEntry workspaceSlug deviceId)
  match existing with
  | some _ => pure ()
  | none => askPolicy (.createQuarantineEntry workspaceSlug deviceId
    ⟨deviceFull.platform, deviceFull.activePolicies, workflowId⟩)

/-- `noun` for so many policies. -/
def policyNoun (count : ℕ) : String :=
  if count = 1 then "policy" else "policies"

/-- `deviceFull` after its policies have been snapshotted, or the failure. -/
def readAndSnapshot (authorization workspaceSlug : String) (device : DeviceRef)
    (workflowId : Option String) : Policies (Option FullDevice) := do
  let deviceFull ← askPolicy (.getFullDevice authorization workspaceSlug device.id)
  match deviceFull with
  | none => pure none
  | some deviceFull => do
    snapshotPoliciesIfNeeded workspaceSlug device.id deviceFull workflowId
    pure (some deviceFull)

/-- The end of the replace and add steps: the stack is sent, and a success gets
its own text. -/
def applyStack (authorization workspaceSlug : String) (device : DeviceRef)
    (stack : List PolicyEntry) (success : String) : Policies StepResult := do
  let res ← applyDevicePolicies authorization workspaceSlug device.platform
    device.platformDeviceId stack
  pure (if res.ok then ⟨true, success⟩ else res)

def executePolicyReplaceStep (authorization workspaceSlug : String) (device : DeviceRef)
    (config : PolicyConfig) (workflowId : Option String) : Policies StepResult :=
  match truthy config.policyId with
  | none => pure ⟨false, "No replacement policy selected"⟩
  | some policyId => do
    match ← readAndSnapshot authorization workspaceSlug device workflowId with
    | none => pure ⟨false, "Could not read the device's current policy stack"⟩
    | some deviceFull =>
      let priorCount := deviceFull.activePolicies.length
      applyStack authorization workspaceSlug device [{ id := policyId }]
        ("Quarantined — replaced " ++ toString priorCount ++ " " ++ policyNoun priorCount ++
          " with '" ++ orElse config.policyName policyId ++ "'")

def DEFAULT_PRIORITY_BASELINE : ℚ := 100

def PRIORITY_STEP : ℚ := 10

def PRIORITY_MIN : ℚ := 0

def PRIORITY_MAX : ℚ := 10000

/-- `newPriority`: before all numbered assignments, or behind them. -/
def newPriority (top : Bool) (numberedPriorities : List ℚ) : ℚ :=
  if top then
    max PRIORITY_MIN (numberedPriorities.min?.getD DEFAULT_PRIORITY_BASELINE - PRIORITY_STEP)
  else min PRIORITY_MAX (numberedPriorities.max?.getD DEFAULT_PRIORITY_BASELINE + PRIORITY_STEP)

def executePolicyAddStep (r : Runtime) (authorization workspaceSlug : String)
    (device : DeviceRef) (config : PolicyConfig) (workflowId : Option String) :
    Policies StepResult :=
  match truthy config.policyId with
  | none => pure ⟨false, "No policy selected"⟩
  | some policyId => do
    let top := orElse config.priority "bottom" = "top"
    match ← readAndSnapshot authorization workspaceSlug device workflowId with
    | none => pure ⟨false, "Could not read the device's current policy stack"⟩
    | some deviceFull =>
      let currentValid := deviceFull.activePolicies.filterMap ActivePolicy.entry
      let numberedPriorities := currentValid.filterMap PolicyEntry.priority
      let priority := newPriority top numberedPriorities
      let newStack := currentValid ++ [⟨policyId, some priority, false⟩]
      applyStack authorization workspaceSlug device newStack
        ("Added '" ++ orElse config.policyName policyId ++ "' at priority " ++
          r.printNumber priority ++ " (" ++ (if top then "outranks" else "yields to") ++
          " the " ++ (if numberedPriorities.isEmpty then "device's" else "existing") ++
          " policies, " ++ toString newStack.length ++ " " ++ policyNoun newStack.length ++
          " total)")

def executePolicyRestoreStep (authorization workspaceSlug : String) (device : DeviceRef) :
    Policies StepResult := do
  let snapshot ← askPolicy (.findQuarantineEntry workspaceSlug device.id)
  match snapshot with
  | none => pure ⟨false, "No saved policy snapshot for this device — nothing to restore"⟩
  | some snapshot => do
    let policies := snapshot.policies.filterMap ActivePolicy.entry
    let res ← applyDevicePolicies authorization workspaceSlug device.platform
      device.platformDeviceId policies
    if !res.ok then pure res
    else do
      askPolicy (.deleteQuarantineEntry workspaceSlug device.id)
      pure ⟨true, "Restored " ++ toString policies.length ++ " previous " ++
        policyNoun policies.length⟩

end AppliverySoar.Workflows
