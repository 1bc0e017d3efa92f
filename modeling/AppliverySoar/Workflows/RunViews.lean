import AppliverySoar.Access.Rbac
import AppliverySoar.Workflows.World

/-!
# What is shown of a run

A run is shown from one of three places: the map of the runs that this process
executes in memory, the open rows of the durable engine, or the `log` of a
finished row (workflows.service.ts, lines 335–380 and 593–600, and
durableEngine.ts, lines 123–148). Times, and the order by them, are left out.
-/

namespace AppliverySoar.Workflows

/-- The status of a run in memory. -/
inductive ActiveStatus where
  | running
  | completed
  deriving DecidableEq

structure ActiveRun where
  id : String
  workspaceSlug : String
  workflowId : String
  workflowName : String
  status : ActiveStatus
  total : ℕ
  completed : ℕ
  results : List DeviceRunResult
  targetDescription : Option String
  deriving DecidableEq

/-- A device's result in a view; only an open durable run has its status. -/
structure ViewResult where
  result : DeviceRunResult
  status : Option ResultStatus := none
  deriving DecidableEq

structure PublicRunView where
  id : String
  workflowId : String
  workflowName : String
  status : String
  total : ℕ
  completed : ℕ
  results : List ViewResult
  targetDescription : Option String
  deriving DecidableEq

def publicRunView (run : ActiveRun) : PublicRunView where
  id := run.id
  workflowId := run.workflowId
  workflowName := run.workflowName
  status := match run.status with
    | .running => "running"
    | .completed => "completed"
  total := run.total
  completed := run.completed
  results := run.results.map fun r => { result := r }
  targetDescription := run.targetDescription

def rowToPublicRun (row : WorkflowRunRow) : PublicRunView where
  id := row.id
  workflowId := row.workflowId
  workflowName := row.workflowName
  status := if row.completed then "completed" else "running"
  total := row.total.getD 0
  completed := row.doneCount
  results := row.results.map fun r => { result := r }
  targetDescription := row.targetDescription

/-- The status of an open durable run. -/
def openStatus (run : WorkflowRunRow) (rows : List RunResultRow) : String :=
  let completed := (rows.filter fun r => r.status = .done).length
  if run.completed then "completed"
  else if rows.any fun r => r.status = .waiting then "waiting"
  else if run.total.any fun total => total ≠ 0 && completed ≥ total then "completed"
  else "running"

/-- `runView` and `durableViewToPublicRun`. -/
def runView (run : WorkflowRunRow) (rows : List RunResultRow) : PublicRunView where
  id := run.id
  workflowId := run.workflowId
  workflowName := run.workflowName
  status := openStatus run rows
  total := run.total.getD 0
  completed := (rows.filter fun r => r.status = .done).length
  results := rows.map fun r =>
    { result := { deviceId := r.deviceId, deviceName := r.deviceName, steps := r.steps
                  finalStatus := r.finalStatus }
      status := some r.status }
  targetDescription := run.targetDescription

end AppliverySoar.Workflows
