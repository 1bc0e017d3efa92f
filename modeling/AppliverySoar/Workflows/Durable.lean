import AppliverySoar.Workflows.InMemory

/-!
# The durable engine

`runDeviceStepChain` with its two parking branches and its `catch`, the timer
resumer `resumeDueWorkflowSteps` and the script-result resumer
`resumeWorkflowPendingStepByToken` (durableEngine.ts, lines 70–558).

The `catch` of `runDeviceStepChain` records the log as it was when the chain
threw. Each part of the chain that may throw is therefore run with `attempt`,
and its failure handed to `recordFailure` with the log at that point.
-/

namespace AppliverySoar.Workflows

open Async Compliance

variable {E : Evaluator}

/-! ## The run's rows -/

/-- `upsertRunResult` (lines 70–76). -/
def upsertRunResult (runId : String) (device : DeviceRef) (log : List StepLogEntry)
    (status : ResultStatus) (final : Option FinalStatus) : Engine E Unit :=
  ask (.upsertRunResult
    { runId := runId, deviceId := device.id, deviceName := device.displayName, steps := log
      status := status, finalStatus := final })

/-- `finalizeRunIfDone` (lines 79–99). -/
def finalizeRunIfDone (runId : String) : Engine E Unit := do
  match ← ask (.findRun runId) with
  | none => return ()
  | some run =>
    if run.completed then return ()
    else
      let results ← ask (.findRunResults runId)
      let doneCount := (results.filter fun r => r.status = .done).length
      match run.total with
      | none => return ()
      | some total =>
        if doneCount ≥ total then
          ask (.completeRun runId doneCount (results.map fun r =>
            { deviceId := r.deviceId, deviceName := r.deviceName, steps := r.steps
              finalStatus := r.finalStatus }))
        else return ()

/-! ## The chain of one device -/

/-- A device chain within a run. -/
structure ChainEnv extends StepEnv where
  runId : String

/-- `DeviceChainResult`: the log and how the chain ended. -/
structure ChainResult where
  log : List StepLogEntry
  status : ResultStatus
  finalStatus : Option FinalStatus

/-- The log entry of a chain that threw (lines 366–367). -/
def engineErrorEntry (e : JsError) : StepLogEntry :=
  let text := "Unexpected error — this device's chain was stopped and marked failed: " ++ e.message
  { stepId := none, name := "Workflow engine error", type := "error", ok := false
    detail := .text (String.ofList (text.toList.take 500)) }

/-- The `catch` of `runDeviceStepChain` (lines 364–371): the failure is logged
and recorded; that the recording itself fails is ignored. -/
def recordFailure (env : ChainEnv) (log : List StepLogEntry) (e : JsError) :
    Engine E ChainResult := do
  let log := log ++ [engineErrorEntry e]
  tryCatch (upsertRunResult env.runId env.device log .done (some .failed)) fun _ => return ()
  tryCatch (finalizeRunIfDone env.runId) fun _ => return ()
  return { log := log, status := .done, finalStatus := some .failed }

/-- The end of the `try` block (lines 359–363). -/
def recordDone (env : ChainEnv) (log : List StepLogEntry) : Engine E ChainResult := do
  let outcome ← (do
    upsertRunResult env.runId env.device log .done (some (finalStatus log))
    finalizeRunIfDone env.runId : Engine E Unit).attempt
  match outcome with
  | .ok () => return { log := log, status := .done, finalStatus := some (finalStatus log) }
  | .error e => recordFailure env log e

/-- `persistPendingStep` and then `upsertRunResult` with `'waiting'`: the end
of both parking branches. -/
def park (env : ChainEnv) (log : List StepLogEntry) (data : PendingData) :
    Engine E ChainResult := do
  let outcome ← (do
    ask (.createPendingStep data)
    upsertRunResult env.runId env.device log .waiting none : Engine E Unit).attempt
  match outcome with
  | .ok () => return { log := log, status := .waiting, finalStatus := none }
  | .error e => recordFailure env log e

/-- The row a parking branch creates. -/
def ChainEnv.pendingData (env : ChainEnv) (log : List StepLogEntry) (next : String)
    (resumeAt : ℚ) : PendingData :=
  { runId := env.runId, deviceSnapshot := env.device, workflowId := env.workflow.id
    slugKey := env.slug, nextStepId := next, log := log, resumeAt := resumeAt }

/-- Seconds per unit of a wait (lines 278–279). -/
def secondsPerUnit (unit : String) : ℚ :=
  if unit = "minutes" then 60 else if unit = "hours" then 3600
  else if unit = "days" then 86400 else 60

/-- `timeoutMinutes`, thirty when it is missing or not positive (lines
293–294). -/
def scriptTimeout (config : StepConfig) : ℚ :=
  match config.timeoutMinutes with
  | some t => if t ≤ 0 then 30 else t
  | none => 30

/-- What the two parking branches and the ordinary steps make of a step: the
chain goes on with a log entry, or it parks. -/
inductive StepOutcome where
  | continue (r : StepResult)
  | park (entry : StepLogEntry) (data : List StepLogEntry → PendingData)

/-- The `wait` branch up to `persistPendingStep` (lines 267–286). -/
def waitStep (env : ChainEnv) (step : WorkflowStep) (currentId : String) :
    Engine E StepOutcome :=
  match step.config.amount with
  | none => return .continue { ok := false, detail := "Invalid wait duration" }
  | some amount =>
    if amount ≤ 0 then return .continue { ok := false, detail := "Invalid wait duration" }
    else do
      let unit := orElse step.config.unit "minutes"
      let start ← ask .now
      let resumeAt := start + amount * secondsPerUnit unit * 1000
      return .park
        { stepId := some step.id, name := step.name, type := step.type.text, ok := true
          detail := .waiting amount unit resumeAt }
        fun log => env.pendingData log (nextStepId env.workflow.steps step currentId true) resumeAt

/-- The `run_script_wait` branch up to `persistPendingStep` (lines 291–321). -/
def runScriptWaitStep (env : ChainEnv) (step : WorkflowStep) (currentId : String) :
    Engine E StepOutcome :=
  match truthy step.config.libraryId with
  | none => return .continue { ok := false, detail := "No script selected from the Library" }
  | some libraryId => do
    let pendingToken ← ask .randomUUID
    let r ← executeMdmAction
      (env.mdmRequest (some "runScript") { libraryId := some libraryId } (some pendingToken))
    if r.ok then
      let start ← ask .now
      let timeoutMinutes := scriptTimeout step.config
      let timeoutAt := start + timeoutMinutes * 60000
      return .park
        { stepId := some step.id, name := step.name, type := step.type.text, ok := true
          detail := .dispatched timeoutMinutes }
        fun log =>
          { env.pendingData log (nextStepId env.workflow.steps step currentId true) timeoutAt with
            stepKind := .script
            onFailureStepId := some (orElse step.onFailure "end")
            pendingToken := some pendingToken }
    else return .continue r

/-- The step types that only one of the engines runs: here `monitor`, and an
error for the rest. -/
def durableStep (env : ChainEnv) (step : WorkflowStep) : Engine E StepResult :=
  match step.type with
  | .monitor => ask (.executeMonitorStep env.slug env.device step.config)
  | t => return { ok := false, detail := "Unknown step type '" ++ t.text ++ "'" }

/-- One step of the durable engine. -/
def runStep (env : ChainEnv) (step : WorkflowStep) (currentId : String) : Engine E StepOutcome :=
  match step.type with
  | .wait => waitStep env step currentId
  | .runScriptWait => runScriptWaitStep env step currentId
  | _ => do
    let r ← executeStep env.toStepEnv step (durableStep env step)
    return .continue r

/-- The `while` loop of `runDeviceStepChain` (lines 242–357) and what follows
it, with the number of steps it may still take. -/
def chainLoop (env : ChainEnv) (gate : Option (Gate E)) :
    ℕ → String → List StepLogEntry → Engine E ChainResult
  | 0, _, log => recordDone env log
  | fuel + 1, currentId, log =>
    if currentId = "" ∨ currentId = "end" then recordDone env log
    else
      match stepsById env.workflow.steps currentId with
      | none => recordDone env log
      | some step => do
        match ← (gate.elim (return false) (gateRecovered env.toStepEnv)).attempt with
        | .error e => recordFailure env log e
        | .ok true =>
          match ← (runRecoverySteps env.toStepEnv log).attempt with
          | .error e => recordFailure env log e
          | .ok recoveryLog => recordDone env (log ++ recoveryLog)
        | .ok false =>
          match ← (runStep env step currentId).attempt with
          | .error e => recordFailure env log e
          | .ok (.park entry data) => park env (log ++ [entry]) (data (log ++ [entry]))
          | .ok (.continue r) =>
            chainLoop env gate fuel (nextStepId env.workflow.steps step currentId r.ok)
              (log ++ [step.logEntry r])

/-- The `try` block in front of the loop (lines 210–239): the gate and the
bearer token the chain goes on with. -/
def prepareChain (env : ChainEnv) (startStepId : Option String) :
    Engine E (Option (Gate E) × String) := do
  ask .findGlobalWorkspaceState
  let gate ← loadGate env.slug env.workflow [env.device.id]
  let authorization ←
    if (truthy startStepId).isSome then do
      let automationBearer ← ask (.getAutomationBearer env.slug)
      pure (orElse automationBearer env.authorization)
    else pure env.authorization
  let _ ← ask (.resolveOrgBase authorization env.slug)
  return (gate, authorization)

/-- `runDeviceStepChain` (lines 166–372). -/
def runDeviceStepChain (env : ChainEnv) (startStepId : Option String)
    (existingLog : List StepLogEntry) : Engine E ChainResult := do
  ask (.beginChain env.runId env.device.id startStepId)
  match env.workflow.steps with
  | [] =>
    upsertRunResult env.runId env.device [] .done (some .success)
    finalizeRunIfDone env.runId
    return { log := [], status := .done, finalStatus := some .success }
  | first :: _ =>
    match ← (prepareChain env startStepId).attempt with
    | .error e => recordFailure env existingLog e
    | .ok (gate, authorization) =>
      chainLoop { env with authorization := authorization } gate (chainLimit - existingLog.length)
        (orElse startStepId first.id) existingLog

/-! ## The resumers -/

/-- The log entry of a resume that finds no workflow, or no credential. -/
def resumeEntry (type detail : String) : StepLogEntry :=
  { stepId := none, name := "Resume", type := type, ok := false, detail := .text detail }

/-- Record that a parked device cannot be resumed. -/
def recordBlocked (row : PendingData) (log : List StepLogEntry) : Engine E Unit := do
  upsertRunResult row.runId row.deviceSnapshot log .done (some .failed)
  finalizeRunIfDone row.runId

/-- The device chain that a pending row continues. -/
def chainOf (row : PendingData) (workflow : Workflow) (authorization : String) : ChainEnv :=
  { slug := row.slugKey, authorization := authorization, workflow := workflow
    device := row.deviceSnapshot, runId := row.runId }

/-- The detail of a resume without its workflow. -/
def noWorkflowDetail : String := "Linked workflow no longer exists"

/-- The detail of a resume without a credential. -/
def noCredentialDetail : String :=
  "No automation credential is configured for this workspace — cannot resume without one. Configure one from Settings."

/-- `resumeOne` (lines 450–494): the timer path. The lookups stand outside its
`try`; the row is deleted when the chain has run. The tick's cache of
workflows is left out: a cached lookup answers what the lookup did. -/
def resumeOne (row : PendingRow) : Engine E Unit := do
  let isScript := row.stepKind = .script
  let target := if isScript then orElse row.onFailureStepId "end" else row.nextStepId
  let stepLabel := if isScript then "run_script_wait" else "wait"
  let authorization := orElse (← ask (.getAutomationBearer row.slugKey)) ""
  let workflow? ← ask (.findWorkflow row.slugKey row.workflowId)
  tryCatch
    (match workflow? with
      | none => recordBlocked row.toPendingData (row.log ++ [resumeEntry stepLabel noWorkflowDetail])
      | some workflow =>
        if authorization = "" then
          recordBlocked row.toPendingData (row.log ++ [resumeEntry stepLabel noCredentialDetail])
        else do
          let log := if isScript then
              row.log ++ [{ stepId := none, name := "Script result", type := stepLabel, ok := false
                            detail := .text "No script result received before the timeout — following the failure branch" }]
            else row.log
          let _ ← runDeviceStepChain (chainOf row.toPendingData workflow authorization)
            (some target) log)
    fun _ => return ()
  tryCatch (ask (.deletePendingStep row.id)) fun _ => return ()

/-- `resumeWorkflowPendingStepByToken` (lines 517–558) after the `DELETE` has
returned a row. -/
def resumeByToken (row : PendingRow) (outcomeOk : Bool) (extraDetail : String) :
    Engine E Unit := do
  let target := if outcomeOk then row.nextStepId else orElse row.onFailureStepId "end"
  let detail := orElse extraDetail (if outcomeOk then "Script completed successfully — resuming"
    else "Script failed — following the failure branch")
  let log := row.log ++ [{ stepId := none, name := "Script result", type := "run_script_wait"
                           ok := outcomeOk, detail := .text detail }]
  match ← ask (.findWorkflow row.slugKey row.workflowId) with
  | none =>
    recordBlocked row.toPendingData (log ++ [resumeEntry "run_script_wait" noWorkflowDetail])
  | some workflow =>
    let authorization := orElse (← ask (.getAutomationBearer row.slugKey)) ""
    if authorization = "" then
      recordBlocked row.toPendingData (log ++ [resumeEntry "run_script_wait" noCredentialDetail])
    else
      tryCatch
        (do
          let _ ← runDeviceStepChain (chainOf row.toPendingData workflow authorization)
            (some target) log)
        fun _ => return ()

/-- `resumeWorkflowPendingStepByToken` (lines 517–558): the script result. -/
def resumeWorkflowPendingStepByToken (token : Option String) (outcomeOk : Bool)
    (extraDetail : String) : Engine E Unit :=
  match truthy token with
  | none => return ()
  | some token => do
    match ← ask (.deleteByToken token) with
    | none => return ()
    | some row => resumeByToken row outcomeOk extraDetail

/-- `resumeDueWorkflowSteps` (lines 421–506) up to `Promise.all`: the `UPDATE`
that claims the due rows. `resumeOne` is then started for each of them. -/
def resumeDueWorkflowSteps (limit : ℕ) : Engine E Unit := do
  let _ ← ask (.claimDueSteps limit)
  return ()

end AppliverySoar.Workflows
