import AppliverySoar.Workflows.Finalize

/-!
# A durable run over its tables

The table `WorkflowRun` beside those of the chains, and the system of
everything that works for a run: the chains of its devices, the resumers, and
the finalization at the end of `executeWorkflowRunDurable` (durableEngine.ts,
lines 382–402). Its pool of twenty workers is not modelled: all chains run
side by side, which allows every order in which the pool can run them.

Results:
* `meets_runTask`: what an operation does to the tables on its own.
-/

namespace AppliverySoar.Workflows

open Async Compliance

variable {E : Evaluator}

/-! ## The tables -/

/-- The tables of the chains, and the runs. -/
structure RunStore extends EngineStore where
  runs : List WorkflowRunRow

/-- `workflowRun.findUnique({ where: { id } })`. -/
def RunStore.run (s : RunStore) (runId : String) : Option WorkflowRunRow :=
  s.runs.find? fun run => run.id = runId

/-- The `update` of `finalizeRunIfDone`. -/
def completeRow (runId : String) (count : ℕ) (results : List DeviceRunResult)
    (run : WorkflowRunRow) : WorkflowRunRow :=
  if run.id = runId then { run with completed := true, doneCount := count, results := results }
  else run

/-- What an answered call leaves in the tables. -/
def RunStore.next (s : RunStore) (c : EngineCall) (r : Except JsError (c.Answer E)) : RunStore :=
  { toEngineStore := s.toEngineStore.next c r
    runs :=
      match c, r with
      | .createRun row, .ok _ => row :: s.runs
      | .completeRun runId count results, .ok _ => s.runs.map (completeRow runId count results)
      | _, _ => s.runs }

/-- The answers a call may get: the id of a run is unique. -/
def RunStore.may (s : RunStore) (c : EngineCall) (r : Except JsError (c.Answer E)) : Prop :=
  s.toEngineStore.may c r ∧
    match c, r with
    | .createRun row, .ok _ => ∀ run ∈ s.runs, run.id ≠ row.id
    | .findRun runId, .ok run? => run? = s.run runId
    | _, _ => True

/-! ## The operations -/

/-- An operation of the durable engine, or the finalization at the end of
`executeWorkflowRunDurable`. -/
inductive RunTask where
  | engine (task : EngineTask)
  | settle (runId : String)

def RunTask.body (E : Evaluator) : RunTask → Engine E Unit
  | .engine task => task.body E
  | .settle runId => finalizeRunIfDone runId

/-- Everything that works for runs, over the tables. -/
def runSystem (E : Evaluator) : System (engineSig E) JsError RunStore RunTask where
  world := { may := fun s c r => s.may c r, next := fun s c r => s.next c r }
  body := RunTask.body E
  starts c r := (resumesOf c r).map .engine

/-- A label of that system. -/
abbrev RunLabel (E : Evaluator) : Type := Label (engineSig E) JsError RunTask

/-- The run and the device that an operation works for, once it knows them. -/
def RunTask.key (task : RunTask) (log : List (EngineEvent E)) : Option ChainKey :=
  match task with
  | .engine task => taskKey task log
  | .settle _ => none

/-- What an operation has in hand when it starts. -/
def RunTask.finStart : RunTask → FinPhase
  | .engine _ => .idle
  | .settle runId => .recorded runId

/-- How far an operation is with a finalization. -/
def RunTask.fin (task : RunTask) (log : List (EngineEvent E)) : FinPhase :=
  (finWorld E).after task.finStart log

theorem fin_snoc (task : RunTask) (log : List (EngineEvent E)) (e : EngineEvent E) :
    task.fin (log ++ [e]) = (task.fin log).after e.call e.answer :=
  World.after_append _ _ log [e]

/-- The calls of an operation on the tables of the chains. -/
def RunCall (task : RunTask) (log : List (EngineEvent E)) (c : EngineCall) : Prop :=
  match task with
  | .engine task => TaskCall task log c
  | .settle _ => Quiet c

/-- How an operation ends: it knew no device, or its chain has come to its end,
or a lookup before it has rejected. -/
def RunEnd (task : RunTask) (log : List (EngineEvent E)) : Prop :=
  task.key log = none ∨ ChainEnd log ∨ LookupRejected log

theorem meets_runTask (task : RunTask) :
    (task.body E).Meets (World.log _ _) (RunCall task) [] fun _ log => RunEnd task log := by
  cases task with
  | engine task => exact meets_task_end task
  | settle runId =>
    have hcalls := (Prog.ensures_iff_meets (fun _ => True) _ []).mp
      (quiet_finalizeRunIfDone (E := E) runId)
    exact hcalls.mono fun _ _ _ => .inl rfl

theorem meets_runTask_fin (task : RunTask) :
    (task.body E).Meets (World.log _ _) (fun log c => FinCall (task.fin log) c) []
      fun _ log => task.fin log = .idle := by
  have hphase : (task.body E).Meets (finWorld E) FinCall task.finStart Settled := by
    cases task with
    | engine task => exact meets_fin_body task
    | settle runId => exact meets_fin_finalize (.inr rfl)
  exact Prog.Meets.on_log (finWorld E) (fun _ _ _ => trivial) [] hphase

end AppliverySoar.Workflows
