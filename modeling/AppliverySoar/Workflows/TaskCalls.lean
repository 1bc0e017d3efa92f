import AppliverySoar.Workflows.ResumeOnce

/-!
# What each operation of the durable engine records

`ChainPhase` for whole operations: a fresh chain, the resume of a claimed row
and a script result each work for one run and device, and make the calls on the
two tables in the order of the phases.

Results:
* `meets_task`: the calls of each operation, and how it ends.
-/

namespace AppliverySoar.Workflows

open Async Compliance

variable {E : Evaluator} {task : EngineTask} {log : List (EngineEvent E)} {k : ChainKey}

/-! ## The key of an operation -/

/-- The run and the device that an operation works for, once it knows them. -/
def taskKey (task : EngineTask) (log : List (EngineEvent E)) : Option ChainKey :=
  match task with
  | .chain env => some env.key
  | _ => (resumedRow task log).map fun row => row.key

theorem taskKey_of_prefix_eq {log log' : List (EngineEvent E)}
    (h : taskKey task log = some k) (hpre : log <+: log') : taskKey task log' = some k := by
  cases task with
  | chain env => exact h
  | tick limit => cases h
  | resume row => exact h
  | scriptResult token ok detail =>
    obtain ⟨row, hrow, hkey⟩ := Option.map_eq_some_iff.mp h
    exact Option.map_eq_some_iff.mpr ⟨row, resumedRow_prefix hrow hpre, hkey⟩

/-- The calls of an operation on the two tables, and when it makes them. -/
def TaskCall (task : EngineTask) (log : List (EngineEvent E)) : EngineCall → Prop
  | .claimDueSteps _ => ∃ limit, task = .tick limit
  | .deleteByToken _ => log = [] ∧ ∃ token ok detail, task = .scriptResult token ok detail
  | .deletePendingStep id => ChainEnd log ∧ ∃ row, task = .resume row ∧ row.id = id
  | .createPendingStep data =>
    ∃ k, taskKey task log = some k ∧ ChainCall k log (.createPendingStep data)
  | .upsertRunResult row =>
    ∃ k, taskKey task log = some k ∧ ChainCall k log (.upsertRunResult row)
  | _ => True

/-- A lookup that a resume makes before it enters its chain. -/
def EngineCall.looksUp : EngineCall → Bool
  | .findWorkflow .. | .getAutomationBearer _ => true
  | _ => false

/-- A resume has ended with a lookup that rejected. -/
def LookupRejected (log : List (EngineEvent E)) : Prop :=
  ∃ pre c e, log = pre ++ [⟨c, .error e⟩] ∧ c.looksUp = true ∧ NoBegin pre

/-- How an operation ends. -/
def TaskEnd (task : EngineTask) (log : List (EngineEvent E)) : Prop :=
  taskKey task log = none ∨ ChainEnd log ∨ (∃ row, task = .resume row) ∨
    ((∃ token ok detail, task = .scriptResult token ok detail) ∧ LookupRejected log)

theorem taskCall_of_chainCall
    {c : EngineCall} (hkey : taskKey task log = some k) (h : ChainCall k log c) :
    TaskCall task log c := by
  cases c
  case createPendingStep data => exact ⟨k, hkey, h⟩
  case upsertRunResult row => exact ⟨k, hkey, h⟩
  case deletePendingStep id => exact h.elim
  case claimDueSteps limit => exact h.elim
  case deleteByToken token => exact h.elim
  all_goals trivial

section Parts

variable {α : Type} {task : EngineTask} {k : ChainKey} {log : List (EngineEvent E)}

theorem meets_of_chain {p : Engine E α} {Q : Except JsError α → List (EngineEvent E) → Prop}
    (hkey : taskKey task log = some k) (h : p.Meets (World.log _ _) (ChainCall k) log Q) :
    p.Meets (World.log _ _) (TaskCall task) log fun r log' => Q r log' ∧ log <+: log' :=
  h.extends_ok.weaken fun _ _ hok => taskCall_of_chainCall (taskKey_of_prefix_eq hkey hok.2) hok.1

/-- A resume is known to work for `k` and has not entered its chain. -/
structure Resuming (task : EngineTask) (k : ChainKey) (log : List (EngineEvent E)) : Prop where
  key : taskKey task log = some k
  phase : phaseOf log = .running
  noBegin : NoBegin log

theorem meets_lookup {c : EngineCall} (hc : c.looksUp = true) (h : Resuming task k log) :
    (ask c : Engine E _).Meets (World.log _ _) (TaskCall task) log
      (post (fun _ log' => Resuming task k log') fun _ log' => LookupRejected log') := by
  have hquiet : Quiet c := by cases c <;> first | rfl | cases hc
  have hinner : Inner c := by cases c <;> first | rfl | cases hc
  refine ⟨taskCall_of_chainCall h.key (chainCall_of_quiet hquiet), fun r _ => ?_⟩
  cases r with
  | ok a =>
    refine ⟨taskKey_of_prefix_eq h.key (List.prefix_append _ _), ?_, ?_⟩
    · exact (phaseOf_quiet log hquiet _).trans h.phase
    · intro e he
      rcases List.mem_append.mp he with he | he
      · exact h.noBegin e he
      · rw [List.mem_singleton.mp he]
        exact hinner
  | error e => exact ⟨log, c, e, rfl, hc, h.noBegin⟩

theorem meets_recordBlocked_end (row : PendingData) (entries : List StepLogEntry)
    (hlog : phaseOf log = .running) :
    (recordBlocked row entries : Engine E Unit).Meets (World.log _ _) (ChainCall row.key) log
      fun _ log' => ChainEnd log' := by
  unfold recordBlocked
  refine Prog.Meets.bind (R := fun _ log' => ChainEnd log') ?_ fun _ log' hend => ?_
  · exact (meets_upsert_done rfl rfl (.inl hlog)).mono fun r _ h => by cases r <;> exact h
  · exact meets_quiet_end (quiet_finalizeRunIfDone row.runId) hend

theorem meets_continue (row : PendingData) (workflow : Workflow) (auth : String)
    (target : String) (entries : List StepLogEntry) (h : Resuming task row.key log) :
    (do
      let _ ← runDeviceStepChain (chainOf row workflow auth) (some target) entries
      return () : Engine E Unit).Meets (World.log _ _) (TaskCall task) log
        fun _ log' => ChainEnd log' := by
  refine Prog.Meets.bind (R := fun _ log' => ChainEnd log') ?_ fun _ _ hend => hend
  have hchain := meets_runDeviceStepChain (E := E) (chainOf row workflow auth)
    (some target) entries h.phase
  refine (meets_of_chain h.key hchain).mono fun r log' hr => ?_
  cases r with
  | ok a => exact hr.1
  | error e => exact hr.1

theorem meets_blocked (row : PendingData) (entries : List StepLogEntry)
    (h : Resuming task row.key log) :
    (recordBlocked row entries : Engine E Unit).Meets (World.log _ _) (TaskCall task) log
      fun _ log' => ChainEnd log' :=
  (meets_of_chain h.key (meets_recordBlocked_end row entries h.phase)).mono fun _ _ hr => hr.1

/-- `try` around a part that comes to the end of the chain. -/
theorem meets_try_end {p : Engine E Unit}
    (h : p.Meets (World.log _ _) (TaskCall task) log fun _ log' => ChainEnd log') :
    (tryCatch p fun _ => return () : Engine E Unit).Meets (World.log _ _) (TaskCall task) log
      fun _ log' => ChainEnd log' :=
  Prog.Meets.tryCatch (E := fun _ log' => ChainEnd log')
    (h.mono fun r _ hr => by cases r <;> exact hr) fun _ _ hr => hr

end Parts

/-! ## The operations -/

theorem meets_resumeOne_task (row : PendingRow) :
    (resumeOne row : Engine E Unit).Meets (World.log _ _) (TaskCall (.resume row)) []
      fun _ log' => ChainEnd log' ∨ LookupRejected log' := by
  have hstart : Resuming (E := E) (.resume row) row.key [] := ⟨rfl, rfl, by simp [NoBegin]⟩
  unfold resumeOne
  refine Prog.Meets.bind (R := fun _ log => Resuming (.resume row) row.key log) ?_
    fun bearer log h => ?_
  · exact (meets_lookup rfl hstart).mono fun r log' hr => by cases r <;> [exact .inr hr; exact hr]
  refine Prog.Meets.bind (R := fun _ log => Resuming (.resume row) row.key log) ?_
    fun workflow? log h => ?_
  · exact (meets_lookup rfl h).mono fun r log' hr => by cases r <;> [exact .inr hr; exact hr]
  refine Prog.Meets.bind (R := fun _ log => ChainEnd log) ?_ fun _ log h => ?_
  · refine Prog.Meets.mono (meets_try_end ?_) fun r log' hr => by
      cases r <;> [exact .inl hr; exact hr]
    cases workflow? with
    | none => exact meets_blocked _ _ h
    | some workflow =>
      dsimp only
      by_cases hauth : orElse bearer "" = ""
      · rw [if_pos hauth]
        exact meets_blocked _ _ h
      · rw [if_neg hauth]
        exact meets_continue _ _ _ _ _ h
  · have hdelete : ∀ r, ChainEnd (log ++ [⟨.deletePendingStep row.id, r⟩] : List (EngineEvent E)) :=
      fun r => h.mono (by cases r <;> exact phaseOf_snoc _ _) (List.prefix_append _ _)
    refine Prog.Meets.tryCatch (E := fun _ log' => ChainEnd log') ?_ fun _ _ hend => .inl hend
    refine ⟨⟨h, row, rfl, rfl⟩, fun r _ => ?_⟩
    cases r with
    | ok u => exact .inl (hdelete _)
    | error e => exact hdelete _

theorem meets_resumeByToken_task (row : PendingRow) (outcomeOk : Bool)
    (detail : String) (h : Resuming task row.key log)
    (htask : ∃ token ok detail, task = .scriptResult token ok detail) :
    (resumeByToken row outcomeOk detail : Engine E Unit).Meets (World.log _ _) (TaskCall task) log
      fun _ log' => TaskEnd task log' := by
  have hchain : ∀ log : List (EngineEvent E), ChainEnd log → TaskEnd task log := fun _ hend =>
    .inr (.inl hend)
  have hlookup : ∀ log : List (EngineEvent E), LookupRejected log → TaskEnd task log :=
    fun _ hrejected => .inr (.inr (.inr ⟨htask, hrejected⟩))
  unfold resumeByToken
  refine Prog.Meets.bind (R := fun _ log => Resuming task row.key log) ?_ fun workflow? log h => ?_
  · exact (meets_lookup rfl h).mono fun r log' hr => by cases r <;> [exact hlookup _ hr; exact hr]
  cases workflow? with
  | none => exact (meets_blocked _ _ h).mono fun _ _ => hchain _
  | some workflow =>
    refine Prog.Meets.bind (R := fun _ log => Resuming task row.key log) ?_ fun bearer log h => ?_
    · exact (meets_lookup rfl h).mono fun r log' hr => by
        cases r <;> [exact hlookup _ hr; exact hr]
    dsimp only
    by_cases hauth : orElse bearer "" = ""
    · rw [if_pos hauth]
      exact (meets_blocked _ _ h).mono fun _ _ => hchain _
    · rw [if_neg hauth]
      exact (meets_try_end (meets_continue _ _ _ _ _ h)).mono fun _ _ => hchain _

/-- **Main theorem on the operations**: whatever its calls are answered, each
operation makes its calls on the two tables for its own run and device and
in the order of the phases, and ends as `TaskEnd` says. -/
theorem meets_task (task : EngineTask) :
    (task.body E).Meets (World.log _ _) (TaskCall task) [] fun _ log' => TaskEnd task log' := by
  cases task with
  | chain env =>
    refine Prog.Meets.bind (R := fun _ log' => ChainEnd log') ?_ fun _ _ hend => .inr (.inl hend)
    refine (meets_of_chain rfl (meets_runDeviceStepChain env none [] rfl)).mono fun r log' hr => ?_
    cases r with
    | ok a => exact hr.1
    | error e => exact .inr (.inl hr.1)
  | tick limit =>
    have hend : ∀ log : List (EngineEvent E), TaskEnd (.tick limit) log := fun _ => .inl rfl
    refine ⟨⟨limit, rfl⟩, fun r _ => ?_⟩
    cases r with
    | ok rows => exact hend _
    | error e => exact hend _
  | resume row =>
    exact (meets_resumeOne_task row).mono fun _ _ _ => .inr (.inr (.inl ⟨row, rfl⟩))
  | scriptResult token ok detail =>
    show (resumeWorkflowPendingStepByToken token ok detail : Engine E Unit).Meets _ _ _ _
    unfold resumeWorkflowPendingStepByToken
    split
    · exact .inl rfl
    · refine ⟨⟨rfl, token, ok, detail, rfl⟩, fun r _ => ?_⟩
      rcases r with e | row?
      · exact .inl rfl
      · cases row? with
        | none => exact .inl rfl
        | some row =>
          refine meets_resumeByToken_task row ok detail ⟨rfl, rfl, ?_⟩ ⟨token, ok, detail, rfl⟩
          intro e he
          rw [List.mem_singleton.mp he]
          rfl

/-- An operation that ends knew no device, or its chain has come to its end, or a
lookup before it has rejected. -/
theorem meets_task_end (task : EngineTask) :
    (task.body E).Meets (World.log _ _) (TaskCall task) [] fun _ log' =>
      taskKey task log' = none ∨ ChainEnd log' ∨ LookupRejected log' := by
  have hmono : (∀ row, task ≠ .resume row) → (task.body E).Meets (World.log _ _) (TaskCall task) []
      fun _ log' => taskKey task log' = none ∨ ChainEnd log' ∨ LookupRejected log' := fun htask =>
    (meets_task task).mono fun _ log' h => by
      rcases h with hnone | hend | ⟨row, hrow⟩ | ⟨-, hlookup⟩
      · exact .inl hnone
      · exact .inr (.inl hend)
      · exact absurd hrow (htask row)
      · exact .inr (.inr hlookup)
  cases task with
  | resume row => exact (meets_resumeOne_task row).mono fun _ _ h => .inr h
  | _ => exact hmono nofun

end AppliverySoar.Workflows
