import AppliverySoar.Async.Pool
import AppliverySoar.Workflows.ChainPhase
import Mathlib.Data.List.Nodup

/-!
# The durable engine over its tables

The tables `WorkflowPendingStep` and `WorkflowRunResult` with what each call
does to them, and the system of the durable engine's operations: device chains,
ticks of the resumer with the resumes they start, and script results.

A call that rejects leaves the tables as they are. What the world does not
store (devices, policies, workflows, credentials) answers anything.

Results:
* `next_error`: a rejected call leaves the tables as they are.
-/

namespace AppliverySoar.Workflows

open Async Compliance List

/-! ## The tables -/

/-- The two tables; `nextId` is the id of the next pending row. -/
structure EngineStore where
  pending : List PendingRow
  results : List RunResultRow
  nextId : ℕ

/-- `upsert` on the unique `(runId, deviceId)`. -/
def upsertResult (row : RunResultRow) (rows : List RunResultRow) : List RunResultRow :=
  row :: rows.filter fun r => ¬(r.runId = row.runId ∧ r.deviceId = row.deviceId)

/-- `SET "claimedAt" = now()` on the rows with these ids. -/
def claimRows (ids : List ℕ) (rows : List PendingRow) : List PendingRow :=
  rows.map fun r => if r.id ∈ ids then { r with claimed := true } else r

variable {E : Evaluator}

/-- What an answered call leaves in the tables. -/
def EngineStore.next (s : EngineStore) :
    (c : EngineCall) → Except JsError (c.Answer E) → EngineStore
  | .createPendingStep data, .ok _ =>
    { s with pending := s.pending ++ [{ toPendingData := data, id := s.nextId }]
             nextId := s.nextId + 1 }
  | .deletePendingStep id, .ok _ => { s with pending := s.pending.filter fun r => r.id ≠ id }
  | .claimDueSteps _, .ok rows => { s with pending := claimRows (rows.map (·.id)) s.pending }
  | .deleteByToken token, .ok _ =>
    { s with pending := s.pending.filter fun r => r.pendingToken ≠ some token }
  | .upsertRunResult row, .ok _ => { s with results := upsertResult row s.results }
  | _, _ => s

/-- The answers a call may get. The `UPDATE` of a tick returns unclaimed rows,
no more than its limit, none of them twice; the `DELETE` by token returns
the row with the token, which is unique; what reads neither the clock nor a
table cannot reject. -/
def EngineStore.may (s : EngineStore) : (c : EngineCall) → Except JsError (c.Answer E) → Prop
  | .beginChain .., .error _ => False
  | .now, .error _ => False
  | .randomUUID, .error _ => False
  | .createPendingStep data, .ok _ =>
    ∀ token, data.pendingToken = some token → ∀ r ∈ s.pending, r.pendingToken ≠ some token
  | .claimDueSteps limit, .ok rows =>
    rows.Nodup ∧ rows.length ≤ limit ∧ ∀ r ∈ rows, r ∈ s.pending ∧ r.claimed = false
  | .deleteByToken token, .ok row? =>
    row? = s.pending.find? fun r => r.pendingToken = some token
  | .findRunResults runId, .ok rows => rows = s.results.filter fun r => r.runId = runId
  | _, _ => True

/-- The durable engine's surroundings. -/
def engineWorld (E : Evaluator) : World (engineSig E) JsError EngineStore where
  may s c r := s.may c r
  next s c r := s.next c r

/-! ## The operations -/

/-- A device chain of a fresh run, a tick of the resumer, the resume of a row
that a tick has claimed, and a script result. -/
inductive EngineTask where
  | chain (env : ChainEnv)
  | tick (limit : ℕ)
  | resume (row : PendingRow)
  | scriptResult (token : Option String) (outcomeOk : Bool) (extraDetail : String)

/-- What a task runs. -/
def EngineTask.body (E : Evaluator) : EngineTask → Engine E Unit
  | .chain env => do
    let _ ← runDeviceStepChain env none []
    return ()
  | .tick limit => resumeDueWorkflowSteps limit
  | .resume row => resumeOne row
  | .scriptResult token outcomeOk extraDetail =>
    resumeWorkflowPendingStepByToken token outcomeOk extraDetail

/-- `rows.map(resumeOne)`: a tick starts a resume for each row it has claimed. -/
def resumesOf : (c : EngineCall) → Except JsError (c.Answer E) → List EngineTask
  | .claimDueSteps _, .ok rows => rows.map .resume
  | _, _ => []

/-- The durable engine's operations over its tables. -/
def engineSystem (E : Evaluator) : System (engineSig E) JsError EngineStore EngineTask where
  world := engineWorld E
  body := EngineTask.body E
  starts := resumesOf

/-- A task that something outside the engine starts. -/
def EngineTask.Entry : EngineTask → Prop
  | .resume _ => False
  | _ => True

/-- The row that a `DELETE` by token took, if the event is one. -/
def deletedRow (e : EngineEvent E) : Option PendingRow :=
  match e with
  | ⟨.deleteByToken _, .ok row?⟩ => row?
  | _ => none

/-- The row that a thread resumes: the one its tick claimed for it, or the one
its `DELETE` took. -/
def resumedRow (task : EngineTask) (log : List (EngineEvent E)) : Option PendingRow :=
  match task with
  | .resume row => some row
  | .scriptResult .. => log.findSome? deletedRow
  | _ => none

/-! ## Frame lemmas -/

theorem mem_claimRows {ids : List ℕ} {rows : List PendingRow} {r : PendingRow} :
    r ∈ claimRows ids rows ↔
      ∃ r₀ ∈ rows, r = if r₀.id ∈ ids then { r₀ with claimed := true } else r₀ := by
  simp only [claimRows, mem_map]
  exact exists_congr fun r₀ => and_congr_right fun _ => eq_comm

theorem mem_upsertResult {row r : RunResultRow} {rows : List RunResultRow} :
    r ∈ upsertResult row rows ↔ r = row ∨ (r ∈ rows ∧ r.key ≠ row.key) := by
  simp only [upsertResult, mem_cons, mem_filter, decide_eq_true_eq, RunResultRow.key, ne_eq,
    Prod.mk.injEq]

theorem map_id_claimRows (ids : List ℕ) (rows : List PendingRow) :
    (claimRows ids rows).map (·.id) = rows.map (·.id) := by
  simp only [claimRows, map_map]
  refine map_congr_left fun r _ => ?_
  by_cases h : r.id ∈ ids <;> simp [h]

theorem next_error (s : EngineStore) (c : EngineCall) (e : JsError) :
    s.next (E := E) c (.error e) = s := by
  cases c <;> rfl

theorem pending_quiet (s : EngineStore) {c : EngineCall} (h : Quiet c)
    (r : Except JsError (c.Answer E)) : (s.next c r).pending = s.pending := by
  cases c <;> first | (cases r <;> rfl) | cases h

/-! ## Surroundings to play schedules in -/

/-- A workflow that waits for a script and then notifies. -/
def waitForScript : Workflow where
  id := "w1"
  name := "Wait for script"
  steps :=
    [{ id := "s1", type := .runScriptWait, name := "Script"
       config := { libraryId := some "lib1" } },
     { id := "s2", type := .notification, name := "Notify" }]

/-- One way to answer every call: the only workflow is `w`, a bearer token is
configured, scripts are dispatched and notifications sent, a tick claims one
row, and what else the tables do not answer rejects. -/
def EngineStore.answer (w : Workflow) (s : EngineStore) :
    (c : EngineCall) → Except JsError (c.Answer E)
  | .beginChain .. | .upsertRunResult _ | .deletePendingStep _ | .findGlobalWorkspaceState =>
    .ok ()
  | .now => .ok 0
  | .randomUUID => .ok "token1"
  | .executeMdmAction _ => .ok none
  | .executeRunScript _ | .executeNotificationStep .. => .ok { ok := true, detail := "" }
  | .createPendingStep data =>
    if ∃ r ∈ s.pending, r.pendingToken = data.pendingToken ∧ data.pendingToken.isSome then
      .error { message := "Unique constraint failed" }
    else .ok ()
  | .claimDueSteps limit => .ok ((s.pending.find? fun r => !r.claimed).toList.take limit)
  | .deleteByToken token => .ok (s.pending.find? fun r => r.pendingToken = some token)
  | .findRunResults runId => .ok (s.results.filter fun r => r.runId = runId)
  | .findRun _ => .ok none
  | .findWorkflow .. => .ok (some w)
  | .getAutomationBearer _ => .ok (some "bearer")
  | .resolveOrgBase .. => .ok ""
  | _ => .error { message := "unavailable" }

theorem may_answer (w : Workflow) (s : EngineStore) (c : EngineCall) :
    s.may (E := E) c (s.answer w c) := by
  cases c
  case createPendingStep data =>
    simp only [EngineStore.answer]
    split_ifs with h
    · trivial
    · intro token htoken r hr heq
      exact h ⟨r, hr, heq.trans htoken.symm, by simp [htoken]⟩
  case claimDueSteps limit =>
    simp only [EngineStore.answer]
    refine ⟨Nodup.sublist (take_sublist _ _) ?_, length_take_le _ _, ?_⟩
    · cases s.pending.find? fun r => !r.claimed <;> simp
    · intro r hr
      have hfind := Option.mem_toList.mp (mem_of_mem_take hr)
      exact ⟨mem_of_find?_eq_some hfind, by simpa using find?_some hfind⟩
  case deleteByToken token => exact rfl
  case findRunResults runId => exact rfl
  all_goals trivial

end AppliverySoar.Workflows
