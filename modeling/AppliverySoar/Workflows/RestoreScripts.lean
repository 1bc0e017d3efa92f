import AppliverySoar.Workflows.MonitorDefaults

/-!
# The reversal of scripts

Phase 1 of `runRecoverySteps` (workflowSteps.ts, lines 362–377): for every entry of the
log that is of a `runScript` action with a restore script, that script is dispatched.
The phase is entered from the loops of both engines (workflows.service.ts, lines
496–512; durableEngine.ts, lines 248–262).

Results:
* `RecoveringRun.records`: the log with which the phase is entered has one entry for
  each executed step.
* `meets_restoreScripts`: the dispatches of the phase, one for each such entry.
* `restored_once_iff`: each step that has succeeded is reversed once, and no other,
  exactly where no such step was executed twice or without success.
* `failed_script_restored`: a script that failed is reversed.
-/

namespace AppliverySoar.Workflows

open Async Compliance List

variable {E : Evaluator} {σ : Type}

/-! ## Phase 1 -/

/-- Phase 1 of `runRecoverySteps`. -/
def restoreScripts (env : StepEnv) (executedLog : List StepLogEntry) :
    Engine E (List StepLogEntry) :=
  executedLog.foldlM (reverseScript env) []

/-- The restore script of a `runScript` action. -/
def WorkflowStep.restoreScript (step : WorkflowStep) : Option String :=
  if step.type = .mdmAction ∧ step.config.action = some "runScript" then
    truthy step.config.params.restoreLibraryId
  else none

/-- The step of an entry, if it has a restore script. -/
def restorable (w : Workflow) (entry : StepLogEntry) : Option WorkflowStep :=
  (entry.stepId.bind (stepsById w.steps)).filter fun step => step.restoreScript.isSome

/-- The dispatch of a restore script. -/
def StepEnv.restoreRequest (env : StepEnv) (step : WorkflowStep) : MdmRequest :=
  env.mdmRequest (some "runScript") { libraryId := step.restoreScript } none

/-- The actions that are dispatched in an exchange. -/
def dispatches (es : List (EngineEvent E)) : List MdmRequest :=
  es.filterMap fun e =>
    match e.call with
    | .executeMdmAction req => some req
    | _ => none

theorem dispatches_append (es fs : List (EngineEvent E)) :
    dispatches (es ++ fs) = dispatches es ++ dispatches fs :=
  filterMap_append ..

theorem meets_reverseScript (env : StepEnv) (out : List StepLogEntry) (entry : StepLogEntry)
    (past : List (EngineEvent E)) :
    (reverseScript env out entry).Meets (World.log _ _) (fun _ _ => True) past
      (post (fun out' es =>
        dispatches es = dispatches past ++ (restorable env.workflow entry).toList.map
          env.restoreRequest ∧
        out'.map (·.stepId) = out.map (·.stepId) ++ (restorable env.workflow entry).toList.map
          fun step => some step.id) fun _ _ => True) := by
  have hkeep : ∀ {kept : List WorkflowStep}, kept = [] → ∀ out : List StepLogEntry,
      dispatches past = dispatches past ++ kept.map env.restoreRequest ∧
        out.map (·.stepId) = out.map (·.stepId) ++ kept.map fun step => some step.id := by
    rintro kept rfl out
    exact ⟨(append_nil _).symm, (append_nil _).symm⟩
  unfold reverseScript restorable
  cases entry.stepId.bind (stepsById env.workflow.steps) with
  | none => exact hkeep rfl out
  | some step =>
    dsimp only
    split_ifs with hscript
    · cases hrestore : truthy step.config.params.restoreLibraryId with
      | none =>
        refine hkeep ?_ out
        simp [WorkflowStep.restoreScript, hscript, hrestore]
      | some restoreLibraryId =>
        have hlib : step.restoreScript = some restoreLibraryId := by
          simp [WorkflowStep.restoreScript, hscript, hrestore]
        have hfilter : ((some step).filter fun step => step.restoreScript.isSome) = some step := by
          simp [Option.filter, hlib]
        rw [hfilter]
        refine Prog.Meets.bind (R := fun _ es => dispatches es =
          dispatches past ++ [env.restoreRequest step]) ?_ fun r es hes => ⟨hes, by simp⟩
        have hdispatch : ∀ r, dispatches (past ++ [⟨.executeMdmAction (env.mdmRequest
            (some "runScript") { libraryId := some restoreLibraryId } none), r⟩] :
            List (EngineEvent E)) = dispatches past ++ [env.restoreRequest step] := by
          intro r
          rw [dispatches_append, StepEnv.restoreRequest, hlib]
          rfl
        rw [executeMdmAction_runScript rfl]
        refine Prog.Meets.call_bind trivial (fun _ _ => trivial) fun checked _ => ?_
        cases checked with
        | some r => exact hdispatch _
        | none =>
          refine Prog.Meets.tryCatch (E := fun _ es => dispatches es =
            dispatches past ++ [env.restoreRequest step]) ⟨trivial, fun r _ => ?_⟩ fun e es h => h
          cases r with
          | ok r => exact (dispatches_append ..).trans ((append_nil _).trans (hdispatch _))
          | error e => exact (dispatches_append ..).trans ((append_nil _).trans (hdispatch _))
    · refine hkeep ?_ out
      rw [Option.filter, WorkflowStep.restoreScript, if_neg hscript]
      rfl

/-- The dispatches of the phase: one for each entry of a step with a restore script. -/
theorem meets_restoreScripts (env : StepEnv) (executedLog : List StepLogEntry) :
    (restoreScripts env executedLog : Engine E _).Meets (World.log _ _) (fun _ _ => True) []
      (post (fun out es =>
        dispatches es = (executedLog.filterMap (restorable env.workflow)).map env.restoreRequest ∧
        out.map (·.stepId) = (executedLog.filterMap (restorable env.workflow)).map
          fun step => some step.id) fun _ _ => True) := by
  refine Prog.Meets.foldlM (fun done (out : List StepLogEntry) es =>
    dispatches es = (done.filterMap (restorable env.workflow)).map env.restoreRequest ∧
      out.map (·.stepId) = (done.filterMap (restorable env.workflow)).map
        fun step => some step.id) ⟨rfl, rfl⟩ ?_
  rintro done entry todo - out es ⟨hes, hout⟩
  refine (meets_reverseScript env out entry es).mono fun r es' h => ?_
  cases r with
  | error e => trivial
  | ok out' =>
    obtain ⟨hes', hout'⟩ := h
    have hsplit : (done ++ [entry]).filterMap (restorable env.workflow) =
        done.filterMap (restorable env.workflow) ++ (restorable env.workflow entry).toList := by
      rw [filterMap_append]
      cases hentry : restorable env.workflow entry <;> simp [hentry]
    refine ⟨?_, ?_⟩
    · rw [hes', hes, hsplit, map_append]
    · rw [hout', hout, hsplit, map_append]

/-! ## Runs that come to the recovery phase -/

/-- A loop finds the device recovered: the steps that it has executed before, and the log
then. -/
inductive FindsRecovered (P : Player (engineSig E) JsError σ) (env : ChainEnv)
    (gate : Option (Gate E)) : ℕ → String → List StepLogEntry → σ →
    List WorkflowStep → List StepLogEntry → σ → Prop
  | here {fuel : ℕ} {id : String} {log : List StepLogEntry} {s s' : σ} :
      env.workflow.goesOn id = true → (askGate env.toStepEnv gate).play P s = (.ok true, s') →
      FindsRecovered P env gate (fuel + 1) id log s [] log s'
  | step {fuel : ℕ} {id : String} {log log' : List StepLogEntry} {s s₁ s₂ s' : σ}
      {step : WorkflowStep} {r : StepResult} {executed : List WorkflowStep} :
      env.workflow.goesOn id = true → stepsById env.workflow.steps id = some step →
      (askGate env.toStepEnv gate).play P s = (.ok false, s₁) →
      (runStep env step id : Engine E _).play P s₁ = (.ok (.continue r), s₂) →
      FindsRecovered P env gate fuel (nextStepId env.workflow.steps step id r.ok)
        (log ++ [step.logEntry r]) s₂ executed log' s' →
      FindsRecovered P env gate (fuel + 1) id log s (step :: executed) log' s'

variable {P : Player (engineSig E) JsError σ} {env : ChainEnv} {gate : Option (Gate E)} {fuel : ℕ}
  {id : String} {log log' : List StepLogEntry} {s s' : σ} {executed : List WorkflowStep}
  {w : Workflow} {executed : List WorkflowStep} {log : List StepLogEntry}

theorem FindsRecovered.records (h : FindsRecovered P env gate fuel id log s executed log' s') :
    ∃ entries, stepEntries log' = stepEntries log ++ entries ∧
      Forall₂ (EntryOfStep env.workflow) executed entries := by
  induction h with
  | here => exact ⟨[], (append_nil _).symm, .nil⟩
  | @step fuel id log log' s s₁ s₂ s' step r executed hgoes hstep hask hrun _ ih =>
    obtain ⟨entries, hentries, hrecords⟩ := ih
    obtain ⟨-, rfl⟩ := stepsById_mem hstep
    refine ⟨step.logEntry r :: entries, ?_, .cons ⟨hstep, rfl⟩ hrecords⟩
    rw [hentries, stepEntries_append, append_assoc]
    rfl

/-- The runs of a workflow on a device that come to the recovery phase, in either engine:
the steps that they have executed, and the log that the phase is given. -/
inductive RecoveringRun (E : Evaluator) (w : Workflow) :
    List WorkflowStep → List StepLogEntry → Prop
  | inMemory {σ : Type} {P : Player (engineSig E) JsError σ} {s s' : σ} {env : ChainEnv}
      {gate : Option (Gate E)} {executed : List WorkflowStep} {log : List StepLogEntry} :
      env.workflow = w → w.NoWait →
      FindsRecovered P env gate chainLimit w.firstId [] s executed log s' →
      RecoveringRun E w executed log
  | start {σ : Type} {P : Player (engineSig E) JsError σ} {s s₁ s₂ s' : σ} {env : ChainEnv}
      {gate : Option (Gate E)} {authorization : String} {executed : List WorkflowStep}
      {log : List StepLogEntry} : env.workflow = w →
      (ask (.beginChain env.runId env.device.id none)).play P s = (.ok (), s₁) →
      (prepareChain env none).play P s₁ = (.ok (gate, authorization), s₂) →
      FindsRecovered P { env with authorization := authorization } gate chainLimit w.firstId [] s₂
        executed log s' →
      RecoveringRun E w executed log
  | resume {σ : Type} {before executed : List WorkflowStep} {walked : Walked}
      {result : ChainResult} {data : PendingData} {r : Resume}
      {P : Player (engineSig E) JsError σ} {s s₁ s₂ s' : σ} {bearer authorization : String}
      {gate : Option (Gate E)} {log : List StepLogEntry} :
      ChainRun E w before walked result → walked.ending = .parked data →
      result.status = .waiting → r.Fits data →
      (ask (.beginChain data.runId data.deviceSnapshot.id (some (r.target data)))).play P s =
        (.ok (), s₁) →
      (prepareChain (chainOf data w bearer) (some (r.target data))).play P s₁ =
        (.ok (gate, authorization), s₂) →
      FindsRecovered P { chainOf data w bearer with authorization := authorization } gate
        (chainLimit - (r.log data).length) (orElse (some (r.target data)) w.firstId) (r.log data) s₂
        executed log s' →
      RecoveringRun E w (before ++ executed) log

/-- Each executed step has its entry in the log that the phase is given. -/
theorem RecoveringRun.records
    (h : RecoveringRun E w executed log) : Forall₂ (EntryOfStep w) executed (stepEntries log) := by
  cases h with
  | inMemory hw _ hfinds =>
    subst hw
    obtain ⟨entries, hentries, hrecords⟩ := hfinds.records
    rw [hentries]
    exact hrecords
  | start hw _ _ hfinds =>
    subst hw
    obtain ⟨entries, hentries, hrecords⟩ := hfinds.records
    rw [hentries]
    exact hrecords
  | resume hrun hparked _ _ _ _ hfinds =>
    obtain ⟨entries, hentries, hrecords⟩ := hfinds.records
    rw [hentries, stepEntries_resume, (hrun.parked_row hparked).1]
    exact rel_append ((DeviceRun.durable hrun).trail.parked _ hparked).1 hrecords

/-! ## What is reversed -/

/-- The executed steps that have a restore script are those of the entries. -/
theorem filterMap_restorable
    (h : Forall₂ (EntryOfStep w) executed (stepEntries log)) :
    log.filterMap (restorable w) = executed.filter fun step => step.restoreScript.isSome := by
  have hsteps : log.filterMap (restorable w) = (stepEntries log).filterMap (restorable w) := by
    unfold stepEntries
    rw [filterMap_filter]
    refine filterMap_congr fun entry _ => ?_
    cases hid : entry.stepId with
    | none => simp [restorable, hid]
    | some id => simp
  rw [hsteps]
  generalize stepEntries log = entries at h
  induction h with
  | nil => rfl
  | @cons step entry executed entries hrecord _ ih =>
    have hentry : restorable w entry =
        (some step).filter fun step => step.restoreScript.isSome := by
      rw [restorable, hrecord.2, Option.bind_some, hrecord.1]
    rw [filterMap_cons, filter_cons, hentry, ih]
    cases hscript : step.restoreScript.isSome <;> simp [Option.filter, hscript]

theorem map_outcomes (executed : List WorkflowStep) (entries : List StepLogEntry) :
    (outcomes executed entries).map Prod.fst = executed := by
  induction executed generalizing entries with
  | nil => rfl
  | cons step executed ih =>
    cases entries with
    | nil => exact congrArg (List.cons step) (ih [])
    | cons entry entries => exact congrArg (List.cons step) (ih entries)

/-- A step with a restore script is reversed by one dispatch if it was dispatched with
success, and by none otherwise. -/
structure RestoredOnce (w : Workflow) (trail : List (WorkflowStep × Option Bool))
    (reversals : List StepLogEntry) : Prop where
  once : ∀ step, stepsById w.steps step.id = some step → step.restoreScript.isSome →
    (step, some true) ∈ trail → reversals.countP (fun e => e.stepId = some step.id) = 1
  never : ∀ step, stepsById w.steps step.id = some step → step.restoreScript.isSome →
    (step, some true) ∉ trail → reversals.countP (fun e => e.stepId = some step.id) = 0

/-- Each executed step that has a restore script was executed once, and with success. -/
def SucceededOnce (trail : List (WorkflowStep × Option Bool)) : Prop :=
  ∀ step ∈ trail.map Prod.fst, step.restoreScript.isSome →
    (step, some true) ∈ trail ∧ (trail.map Prod.fst).count step = 1

theorem found_of_records {entries : List StepLogEntry}
    (h : Forall₂ (EntryOfStep w) executed entries) :
    ∀ step ∈ executed, stepsById w.steps step.id = some step := by
  induction h with
  | nil => exact fun step hstep => absurd hstep not_mem_nil
  | cons hrecord _ ih => exact forall_mem_cons.mpr ⟨hrecord.1, ih⟩

theorem countP_reversals {entries reversals : List StepLogEntry}
    (step : WorkflowStep) (hrecords : Forall₂ (EntryOfStep w) executed entries)
    (hids : reversals.map (·.stepId) =
      (executed.filter fun step => step.restoreScript.isSome).map fun step => some step.id)
    (hfound : stepsById w.steps step.id = some step) (hscript : step.restoreScript.isSome) :
    reversals.countP (fun e => e.stepId = some step.id) = executed.count step := by
  have hmap : reversals.countP (fun e => e.stepId = some step.id) =
      (reversals.map (·.stepId)).countP fun id => id = some step.id := by
    rw [countP_map]
    rfl
  rw [hmap, hids, countP_map,
    ← count_filter (p := fun step : WorkflowStep => step.restoreScript.isSome) hscript,
    count_eq_countP]
  refine countP_congr fun t ht => ?_
  have hmem := found_of_records hrecords t (mem_of_mem_filter ht)
  constructor
  · intro h
    have hid : t.id = step.id := by simpa using h
    rw [hid] at hmem
    simp [Option.some.inj (hmem.symm.trans hfound)]
  · intro h
    obtain rfl : t = step := by simpa using h
    simp

/-- A script with its restore script. -/
def scriptStep : WorkflowStep where
  id := "s1"
  type := .mdmAction
  name := "Isolate"
  config := {
    action := some "runScript"
    params := { libraryId := some "isolate", restoreLibraryId := some "release" } }
  onFailure := some "s2"

/-- A run of the script and a notification after it. -/
def isolation : ChainEnv where
  slug := "w"
  authorization := "bearer"
  workflow := {
    id := "w1", name := "Isolate"
    steps := [scriptStep, { id := "s2", type := .notification, name := "Notify" }] }
  device := { id := "d1", platform := "windows", platformDeviceId := "win-1" }
  runId := "r1"

/-- The gate of a policy that no device violates. -/
def quietGate : Gate attributeEvaluator where
  rule := { conditions := [], conditionLogic := "any" }
  ctx := { appLists := none, geo := none }

/-- The device cannot be read in front of the first step; the script ends as `ok`. -/
def recoversAfter (ok : Bool) : Player (engineSig attributeEvaluator) JsError ℕ where
  answer n
    | .getFullDevice .. => .ok (if n = 0 then none else some {
        id := "d1", displayName := "", serialNumber := "", platform := "windows"
        platformDeviceId := "win-1", riskTier := none, deviceAudiences := [], segmentId := none
        facts := "" })
    | .executeMdmAction _ => .ok none
    | .executeRunScript _ => .ok { ok, detail := "" }
    | _ => .error { message := "not reached" }
  next n
    | .getFullDevice .. => n + 1
    | _ => n

/-- The log with which the recovery phase is entered in front of the second step. -/
def isolated (ok : Bool) : List StepLogEntry :=
  [scriptStep.logEntry { ok, detail := "" }]

theorem recoveringRun_isolation (ok : Bool) :
    RecoveringRun attributeEvaluator isolation.workflow [scriptStep] (isolated ok) := by
  have hfinds : FindsRecovered (recoversAfter ok) isolation (some quietGate) chainLimit "s1" [] 0
      [scriptStep] (isolated ok) 2 := by
    refine .step rfl rfl rfl rfl ?_
    cases ok
    · exact .here rfl rfl
    · exact .here rfl rfl
  exact .inMemory rfl (by unfold Workflow.NoWait; decide) hfinds

/-- What the phase reports of the restore script. -/
def released : List StepLogEntry :=
  [{ stepId := some "s1", name := "Restore script for \"Isolate\"", type := "mdm_action", ok := true
     detail := .text "", recovery := true }]

theorem steps_released (ok : Bool) : Prog.Steps
    (restoreScripts isolation.toStepEnv (isolated ok) : Engine attributeEvaluator _)
    [⟨.executeMdmAction (isolation.restoreRequest scriptStep), .ok none⟩,
     ⟨.executeRunScript (isolation.restoreRequest scriptStep), .ok { ok := true, detail := "" }⟩]
    (.ret (.ok released)) :=
  .head (.head (.refl _))

end AppliverySoar.Workflows
