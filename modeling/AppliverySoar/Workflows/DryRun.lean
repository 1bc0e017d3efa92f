import AppliverySoar.Async.Logic
import AppliverySoar.Lists.DistinctPrefix
import AppliverySoar.Workflows.InMemory

/-!
# The dry run of a workflow

`dryRunWorkflow` (workflows.service.ts, lines 213–320) and what the in-memory engine
does when every step succeeds. The texts that describe a step are those of a
parameter; it throws for a `config` that is not of the form that it reads.

Results:
* `ids_runForDevice`: a run in which every step succeeds follows `successPath`.
* `returns_runForDevice`: there is such a run.
* `dryRunLoop_eq`: the preview is what `successPath` has before its first repetition.
* `dryRun_previews`: the two together.
-/

namespace AppliverySoar.Workflows

open Async Prog Compliance AppliverySoar.Lists List

variable {E : Evaluator}

/-! ## The preview -/

structure DryRunStepPreview where
  stepId : String
  name : String
  type : String
  summary : String
  onSuccessStepId : String
  onSuccessLabel : String
  onFailureStepId : String
  onFailureLabel : String
  deriving DecidableEq

/-- An element of `recoverySteps`. -/
structure RecoveryStepPreview where
  stepId : String
  name : String
  type : String
  summary : String
  deriving DecidableEq

/-- What is read of the device, apart from the templates. -/
structure DryRunDevice where
  id : String
  displayName : Option String
  deriving DecidableEq

structure DryRunResult where
  workflowId : String
  workflowName : String
  device : DryRunDevice
  steps : List DryRunStepPreview
  recoverySteps : Option (List RecoveryStepPreview)
  note : String
  deriving DecidableEq

/-- `SAMPLE_DRY_RUN_DEVICE`. -/
def sampleDryRunDevice : DryRunDevice where
  id := "sample-device"
  displayName := some "Sample Device"

def targetLabel (steps : List WorkflowStep) (stepId : String) : String :=
  if stepId = "" ∨ stepId = "end" then "End"
  else orElse ((stepsById steps stepId).map (·.name)) stepId

/-- The `while` loop (lines 285–305), with the number of steps it may still take. -/
def dryRunLoop (describeStep : WorkflowStep → Except JsError String) (steps : List WorkflowStep) :
    ℕ → String → List String → Except JsError (List DryRunStepPreview)
  | 0, _, _ => return []
  | fuel + 1, currentId, visited =>
    if currentId = "" ∨ currentId = "end" then return []
    else
      match stepsById steps currentId with
      | none => return []
      | some step =>
        if currentId ∈ visited then return []
        else do
          let resolvedSuccess := step.onSuccess.getD (nextInOrder steps currentId)
          let onFailure := orElse step.onFailure "end"
          let summary ← describeStep step
          let rest ← dryRunLoop describeStep steps fuel resolvedSuccess (currentId :: visited)
          return { stepId := step.id, name := step.name, type := step.type.text, summary
                   onSuccessStepId := resolvedSuccess
                   onSuccessLabel := targetLabel steps resolvedSuccess
                   onFailureStepId := onFailure
                   onFailureLabel := targetLabel steps onFailure } :: rest

/-- The preview of a step of the recovery phase. -/
def recoveryStepPreview (describeStep : WorkflowStep → Except JsError String)
    (s : WorkflowStep) : Except JsError RecoveryStepPreview := do
  let summary ← describeStep s
  return { stepId := s.id, name := s.name, type := s.type.text, summary }

def recoveryPreview (describeStep : WorkflowStep → Except JsError String)
    (recoveryCfg : RecoveryConfig) : Except JsError (Option (List RecoveryStepPreview)) :=
  if recoveryCfg.enabled then
    some <$> recoveryCfg.steps.mapM (recoveryStepPreview describeStep)
  else return none

def dryRunWorkflow (describeStep : WorkflowStep → Except JsError String) (workflow : Workflow)
    (deviceDict : Option DryRunDevice) : Except JsError DryRunResult := do
  let preview ← dryRunLoop describeStep workflow.steps 50
    ((workflow.steps.head?.map (·.id)).getD "end") []
  let recoverySteps ← recoveryPreview describeStep workflow.recovery
  return { workflowId := workflow.id, workflowName := workflow.name
           device := deviceDict.getD sampleDryRunDevice
           steps := preview
           recoverySteps
           note := "Dry run — no real actions were executed. Each step assumes it succeeds; onFailure targets are shown for reference only." }

/-! ## The path of success -/

/-- The ids of the steps that are executed from `currentId` on when each succeeds. -/
def successPath (steps : List WorkflowStep) : ℕ → String → List String
  | 0, _ => []
  | fuel + 1, currentId =>
    if currentId = "" ∨ currentId = "end" then []
    else
      match stepsById steps currentId with
      | none => []
      | some step => currentId :: successPath steps fuel (nextStepId steps step currentId true)

theorem length_successPath (steps : List WorkflowStep) (fuel : ℕ) (currentId : String) :
    (successPath steps fuel currentId).length ≤ fuel := by
  induction fuel generalizing currentId with
  | zero => exact Nat.le_refl 0
  | succ fuel ih =>
    unfold successPath
    split_ifs
    · exact Nat.zero_le _
    · split
      · exact Nat.zero_le _
      · exact Nat.succ_le_succ (ih _)

/-- The loop of the engine follows it as long as the steps succeed. -/
theorem ensures_runForDeviceLoop (env : StepEnv) (fuel : ℕ) (currentId : String)
    (log : List StepLogEntry) :
    (runForDeviceLoop env none fuel currentId log : Engine E _).Ensures (fun _ => True)
      fun out => ∃ entries, out = log ++ entries ∧ (entries.all (·.ok) = true →
        entries.map (·.stepId) = (successPath env.workflow.steps fuel currentId).map some) := by
  induction fuel generalizing currentId log with
  | zero => exact ⟨[], (append_nil _).symm, fun _ => rfl⟩
  | succ fuel ih =>
    unfold runForDeviceLoop successPath
    split_ifs with hend
    · exact ⟨[], (append_nil _).symm, fun _ => rfl⟩
    · cases hstep : stepsById env.workflow.steps currentId with
      | none => exact ⟨[], (append_nil _).symm, fun _ => rfl⟩
      | some step =>
        show (executeStep env step (inMemoryStep env step) >>= fun r =>
          runForDeviceLoop env none fuel (nextStepId env.workflow.steps step currentId r.ok)
            (log ++ [step.logEntry r]) : Engine E _).Ensures _ _
        refine Ensures.bind (calls_true _) fun r _ => ?_
        refine (ih _ _).mono fun out es hout => ?_
        cases out with
        | error e => trivial
        | ok out =>
          obtain ⟨entries, rfl, hentries⟩ := hout
          refine ⟨step.logEntry r :: entries, by simp, fun hall => ?_⟩
          rw [all_cons, Bool.and_eq_true] at hall
          have hok : r.ok = true := hall.1
          rw [hok] at hentries
          rw [map_cons, hentries hall.2, map_cons, ← (stepsById_mem hstep).2]
          rfl

theorem ids_runForDevice {env : StepEnv} {result : DeviceRunResult}
    (hrun : (runForDevice env none : Engine E _).Returns result)
    (hok : result.steps.all (·.ok) = true) :
    result.steps.map (·.stepId) = (successPath env.workflow.steps chainLimit
      ((env.workflow.steps.head?.map (·.id)).getD "end")).map some := by
  obtain ⟨es, hsteps⟩ := hrun
  have hresult : (runForDevice env none : Engine E _).Ensures (fun _ => True) fun result =>
      result.steps.all (·.ok) = true →
        result.steps.map (·.stepId) = (successPath env.workflow.steps chainLimit
          ((env.workflow.steps.head?.map (·.id)).getD "end")).map some := by
    unfold runForDevice
    cases hlist : env.workflow.steps with
    | nil => exact fun _ => rfl
    | cons first rest =>
      have hloop := ensures_runForDeviceLoop (E := E) env chainLimit first.id []
      rw [hlist] at hloop
      refine Ensures.bind hloop fun log ⟨entries, hlog, hentries⟩ => ?_
      rw [nil_append] at hlog
      subst hlog
      exact hentries
  exact Meets.post_of_steps hresult hsteps (World.log_accepts _ _) hok

/-- The in-memory engine runs steps of this type. -/
def StepType.inMemory : StepType → Bool
  | .wait | .runScriptWait | .other _ => false
  | _ => true

theorem returns_executeStep (env : StepEnv) {step : WorkflowStep} (h : step.type.inMemory = true) :
    (executeStep env step (inMemoryStep env step) : Engine E _).Returns ⟨true, ""⟩ := by
  have hask : ∀ (c : EngineCall) (r : c.Answer E), (ask c : Engine E _).Returns r :=
    fun c r => returns_call (S := engineSig E) c r
  unfold executeStep
  split
  · unfold executeMdmAction executeRunScriptAction
    split_ifs
    all_goals exact (hask (.executeMdmAction _) (some ⟨true, ""⟩)).bind (returns_ret _)
  · exact hask _ _
  · exact hask _ _
  · exact hask _ _
  · exact hask _ _
  · exact hask _ _
  · next hmdm hhttp hnotification hreplace hadd hrestore =>
    unfold inMemoryStep
    cases htype : step.type with
    | monitor => exact hask _ _
    | mdmAction => exact absurd htype hmdm
    | httpRequest => exact absurd htype hhttp
    | notification => exact absurd htype hnotification
    | policyReplace => exact absurd htype hreplace
    | policyAdd => exact absurd htype hadd
    | policyRestore => exact absurd htype hrestore
    | wait => rw [htype] at h; cases h
    | runScriptWait => rw [htype] at h; cases h
    | other name => rw [htype] at h; cases h

/-- If the engine runs the types of all the steps, then they can all succeed. -/
theorem returns_runForDevice (env : StepEnv)
    (h : ∀ s ∈ env.workflow.steps, s.type.inMemory = true) :
    ∃ result, (runForDevice env none : Engine E _).Returns result ∧
      result.steps.all (·.ok) = true := by
  have hloop : ∀ fuel currentId log, log.all StepLogEntry.ok = true → ∃ out,
      (runForDeviceLoop env none fuel currentId log : Engine E _).Returns out ∧
        out.all StepLogEntry.ok = true := by
    intro fuel
    induction fuel with
    | zero => exact fun currentId log hlog => ⟨log, returns_ret _, hlog⟩
    | succ fuel ih =>
      intro currentId log hlog
      unfold runForDeviceLoop
      split_ifs
      · exact ⟨log, returns_ret _, hlog⟩
      · cases hstep : stepsById env.workflow.steps currentId with
        | none => exact ⟨log, returns_ret _, hlog⟩
        | some step =>
          obtain ⟨out, hout, hall⟩ := ih (nextStepId env.workflow.steps step currentId true)
            (log ++ [step.logEntry ⟨true, ""⟩]) (by simpa [WorkflowStep.logEntry] using hlog)
          exact ⟨out, (returns_executeStep env (h step (stepsById_mem hstep).1)).bind hout, hall⟩
  unfold runForDevice
  cases hlist : env.workflow.steps with
  | nil => exact ⟨_, returns_ret _, rfl⟩
  | cons first rest =>
    obtain ⟨out, hout, hall⟩ := hloop chainLimit first.id [] rfl
    exact ⟨_, hout.bind (returns_ret _), hall⟩

/-! ## The walk of the preview -/

/-- The preview is what the path has before its first repetition; only the description
of a step fails. -/
theorem dryRunLoop_eq (describeStep : WorkflowStep → Except JsError String)
    (steps : List WorkflowStep) (fuel : ℕ) (currentId : String) (visited : List String) :
    match dryRunLoop describeStep steps fuel currentId visited with
    | .ok preview =>
      preview.map (·.stepId) = distinctPrefix visited (successPath steps fuel currentId)
    | .error e => ∃ s ∈ steps, describeStep s = .error e := by
  induction fuel generalizing currentId visited with
  | zero => rfl
  | succ fuel ih =>
    unfold dryRunLoop successPath
    by_cases hend : currentId = "" ∨ currentId = "end"
    · rw [if_pos hend, if_pos hend]
      rfl
    · rw [if_neg hend, if_neg hend]
      cases hstep : stepsById steps currentId with
      | none => rfl
      | some step =>
        obtain ⟨hmem, hid⟩ := stepsById_mem hstep
        dsimp only
        by_cases hvisited : currentId ∈ visited
        · rw [if_pos hvisited, distinctPrefix_cons_of_mem hvisited]
          rfl
        · rw [if_neg hvisited, distinctPrefix_cons_of_not_mem hvisited]
          cases hdescribe : describeStep step with
          | error e => exact ⟨step, hmem, hdescribe⟩
          | ok summary =>
            have hrest := ih (step.onSuccess.getD (nextInOrder steps currentId))
              (currentId :: visited)
            cases hloop : dryRunLoop describeStep steps fuel
                (step.onSuccess.getD (nextInOrder steps currentId)) (currentId :: visited) with
            | error e =>
              rw [hloop] at hrest
              exact hrest
            | ok rest =>
              rw [hloop] at hrest
              exact congrArg₂ List.cons hid hrest

theorem recoveryPreview_error {describeStep : WorkflowStep → Except JsError String}
    {recoveryCfg : RecoveryConfig} {e : JsError}
    (h : recoveryPreview describeStep recoveryCfg = .error e) :
    ∃ s ∈ recoveryCfg.steps, describeStep s = .error e := by
  have hmap : ∀ steps : List WorkflowStep,
      steps.mapM (recoveryStepPreview describeStep) = .error e →
        ∃ s ∈ steps, describeStep s = .error e := by
    intro steps
    induction steps with
    | nil => intro h; cases h
    | cons s steps ih =>
      intro h
      rw [mapM_cons] at h
      cases hs : describeStep s with
      | error e' =>
        rw [show recoveryStepPreview describeStep s = .error e' by
          rw [recoveryStepPreview, hs]; rfl] at h
        cases h
        exact ⟨s, mem_cons_self, hs⟩
      | ok summary =>
        cases hrest : steps.mapM (recoveryStepPreview describeStep) with
        | error e' =>
          rw [hrest, recoveryStepPreview, hs] at h
          cases h
          obtain ⟨s', hmem, hs'⟩ := ih hrest
          exact ⟨s', mem_cons_of_mem s hmem, hs'⟩
        | ok previews =>
          rw [hrest, recoveryStepPreview, hs] at h
          cases h
  unfold recoveryPreview at h
  split_ifs at h
  · cases hrecovery : recoveryCfg.steps.mapM (recoveryStepPreview describeStep) with
    | ok previews =>
      rw [hrecovery] at h
      cases h
    | error e' =>
      rw [hrecovery] at h
      cases h
      exact hmap _ hrecovery
  · cases h

/-- The dry run previews the steps up to the first that comes again; it fails only where
the description of a step does. -/
theorem dryRun_previews (env : StepEnv) (describeStep : WorkflowStep → Except JsError String)
    (deviceDict : Option DryRunDevice) (result : DeviceRunResult)
    (hrun : (runForDevice env none : Engine E _).Returns result)
    (hok : result.steps.all (·.ok) = true) :
    ∃ ids, result.steps.map (·.stepId) = ids.map some ∧
      match dryRunWorkflow describeStep env.workflow deviceDict with
      | .ok preview => LongestDistinct 50 (preview.steps.map (·.stepId)) ids
      | .error e => ∃ s ∈ env.workflow.steps ++ env.workflow.recovery.steps,
          describeStep s = .error e := by
  refine ⟨_, ids_runForDevice hrun hok, ?_⟩
  have hloop := dryRunLoop_eq describeStep env.workflow.steps 50
    ((env.workflow.steps.head?.map (·.id)).getD "end") []
  have hlongest := longestDistinct_distinctPrefix (length_successPath env.workflow.steps chainLimit
    ((env.workflow.steps.head?.map (·.id)).getD "end"))
  unfold dryRunWorkflow
  cases hpreview : dryRunLoop describeStep env.workflow.steps 50
      ((env.workflow.steps.head?.map (·.id)).getD "end") [] with
  | error e =>
    rw [hpreview] at hloop
    obtain ⟨s, hs, he⟩ := hloop
    exact ⟨s, mem_append_left _ hs, he⟩
  | ok preview =>
    rw [hpreview] at hloop
    cases hrecovery : recoveryPreview describeStep env.workflow.recovery with
    | ok recoverySteps =>
      have hsteps : preview.map (·.stepId) = _ := hloop
      show LongestDistinct 50 (preview.map (·.stepId)) _
      rw [hsteps]
      exact hlongest
    | error e =>
      obtain ⟨s, hs, he⟩ := recoveryPreview_error hrecovery
      exact ⟨s, mem_append_right _ hs, he⟩

/-- Two steps, the second of which goes back to the first. -/
def roundTrip : StepEnv where
  slug := "w1"
  authorization := ""
  workflow := {
    id := "f1", name := "", steps := [
      { id := "a", type := .notification, name := "" },
      { id := "b", type := .notification, name := "", onSuccess := some "a" }] }
  device := { id := "d1", platform := "apple", platformDeviceId := "" }

theorem dryRun_previews_roundTrip : ∃ result,
    (runForDevice roundTrip none : Engine attributeEvaluator _).Returns result ∧
      ∃ ids, result.steps.map (·.stepId) = ids.map some ∧
        match dryRunWorkflow (fun _ => .ok "") roundTrip.workflow none with
        | .ok preview => LongestDistinct 50 (preview.steps.map (·.stepId)) ids
        | .error e => ∃ s ∈ roundTrip.workflow.steps ++ roundTrip.workflow.recovery.steps,
            (.ok "" : Except JsError String) = .error e := by
  obtain ⟨result, hrun, hok⟩ := returns_runForDevice (E := attributeEvaluator) roundTrip (by decide)
  exact ⟨result, hrun, dryRun_previews roundTrip (fun _ => .ok "") none result hrun hok⟩

end AppliverySoar.Workflows
