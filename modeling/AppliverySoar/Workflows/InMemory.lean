import AppliverySoar.Workflows.Steps

/-!
# The in-memory engine

`executeWorkflowRun` and its `runForDevice` (workflows.service.ts, lines
441–589), the engine of workflows without a wait. A chain takes at most 50
steps; in front of every step the Recovery gate may end it in the recovery
phase. Nothing in it catches an exception.
-/

namespace AppliverySoar.Workflows

open Async Compliance

variable {E : Evaluator}

/-- `guard < 50`. -/
def chainLimit : ℕ := 50

/-- The step types that only one of the engines runs: here `monitor`, and an
error for the rest. -/
def inMemoryStep (env : StepEnv) (step : WorkflowStep) : Engine E StepResult :=
  match step.type with
  | .monitor => ask (.executeMonitorStep env.slug env.device step.config)
  | .wait | .runScriptWait =>
    return { ok := false, detail := "Wait steps require the durable engine and cannot run here" }
  | t => return { ok := false, detail := "Unknown step type '" ++ t.text ++ "'" }

/-- The `while` loop of `runForDevice` (lines 487–556), with the number of
steps it may still take. -/
def runForDeviceLoop (env : StepEnv) (gate : Option (Gate E)) :
    ℕ → String → List StepLogEntry → Engine E (List StepLogEntry)
  | 0, _, log => return log
  | fuel + 1, currentId, log =>
    if currentId = "" ∨ currentId = "end" then return log
    else
      match stepsById env.workflow.steps currentId with
      | none => return log
      | some step => do
        let recovered ← gate.elim (return false) (gateRecovered env)
        if recovered then
          let recoveryLog ← runRecoverySteps env log
          return log ++ recoveryLog
        else
          let r ← executeStep env step (inMemoryStep env step)
          runForDeviceLoop env gate fuel
            (nextStepId env.workflow.steps step currentId r.ok) (log ++ [step.logEntry r])

/-- `runForDevice` (lines 480–559). -/
def runForDevice (env : StepEnv) (gate : Option (Gate E)) : Engine E DeviceRunResult :=
  match env.workflow.steps with
  | [] =>
    return { deviceId := env.device.id, deviceName := env.device.displayName, steps := []
             finalStatus := some .success }
  | first :: _ => do
    let log ← runForDeviceLoop env gate chainLimit first.id []
    return { deviceId := env.device.id, deviceName := env.device.displayName, steps := log
             finalStatus := some (finalStatus log) }

/-- `executeWorkflowRun` (lines 441–589). The up to twenty workers share only
the list of results; here one worker takes all the devices. -/
def executeWorkflowRun (runId : String) (workflow : Workflow) (devices : List DeviceRef)
    (authorization slug : String) (targetDescription : Option String) : Engine E Unit := do
  ask .findGlobalWorkspaceState
  let gate ← loadGate slug workflow (devices.map (·.id))
  let _ ← ask (.resolveOrgBase authorization slug)
  let results ← devices.foldlM (fun results device => do
    let r ← runForDevice
      { slug := slug, authorization := authorization, workflow := workflow, device := device } gate
    return results ++ [r]) []
  ask (.createRun
    { id := runId, workspaceSlug := slug, workflowId := workflow.id, workflowName := workflow.name
      targetDescription := targetDescription, completed := true, total := some devices.length
      doneCount := results.length, results := results })

end AppliverySoar.Workflows
