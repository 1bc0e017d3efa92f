import AppliverySoar.Async.Play
import AppliverySoar.Workflows.Durable

/-!
# The two engines take the same steps

`runForDevice` (workflows.service.ts, lines 480–559) and `runDeviceStepChain`
(durableEngine.ts, lines 166–372) are two loops over the same steps. Here both
are played against one assignment of outcomes to step executions and of answers
to the Recovery gate.

Results:
* `chainLoop_of_runForDeviceLoop`: the loops go through the same log.
* `chain_of_runForDevice`: so do the chains, and they end with one status.
-/

namespace AppliverySoar.Workflows

open Async Prog Compliance

variable {E : Evaluator} {σ : Type}

/-- What an engine reads before its steps, and what the durable one records. -/
def EngineCall.bookkeeping : EngineCall → Bool
  | .beginChain .. | .findGlobalWorkspaceState | .findCompliancePolicy .. | .loadAppListsContext _
  | .loadGeofenceZonesById _ | .loadDeviceLocations .. | .resolveOrgBase .. | .upsertRunResult _
  | .findRun _ | .findRunResults _ | .completeRun .. => true
  | _ => false

/-- An assignment of outcomes to the executions of steps and of answers to the
gate, each of which may depend on all that were executed before. Bookkeeping
succeeds and changes no outcome. -/
structure Assignment (E : Evaluator) (σ : Type) extends Player (engineSig E) JsError σ where
  bookkeeping_ok : ∀ s c, c.bookkeeping = true → ∃ a, answer s c = .ok a
  bookkeeping_next : ∀ s c, c.bookkeeping = true → next s c = s

/-- The workflow has no step that parks. -/
def Workflow.NoWait (w : Workflow) : Prop :=
  ∀ step ∈ w.steps, step.type ≠ .wait ∧ step.type ≠ .runScriptWait

/-- The question that an engine puts to its gate in front of a step. -/
def askGate (env : StepEnv) (gate : Option (Gate E)) : Engine E Bool :=
  gate.elim (return false) (gateRecovered env)

/-- Two gates that the assignment answers alike. -/
def SameGate (A : Assignment E σ) (env : StepEnv) (gate gate' : Option (Gate E)) : Prop :=
  ∀ s, (askGate env gate).play A.toPlayer s = (askGate env gate').play A.toPlayer s

variable {A : Assignment E σ} {env : ChainEnv} {s s' : σ}

/-! ## Bookkeeping -/

theorem play_bookkeeping (A : Assignment E σ) (c : EngineCall) (h : c.bookkeeping = true) (s : σ) :
    ∃ a, (ask c : Engine E _).play A.toPlayer s = (.ok a, s) := by
  obtain ⟨a, ha⟩ := A.bookkeeping_ok s c h
  exact ⟨a, Prod.ext ha (A.bookkeeping_next s c h)⟩

theorem play_finalizeRunIfDone (runId : String) (s : σ) :
    (finalizeRunIfDone runId : Engine E _).play A.toPlayer s = (.ok (), s) := by
  obtain ⟨run, hrun⟩ := play_bookkeeping A (.findRun runId) rfl s
  unfold finalizeRunIfDone
  rw [play_bind_ok hrun]
  cases run with
  | none => rfl
  | some run =>
    dsimp only
    split_ifs with hcompleted
    · rfl
    obtain ⟨results, hresults⟩ := play_bookkeeping A (.findRunResults runId) rfl s
    rw [play_bind_ok hresults]
    cases run.total with
    | none => rfl
    | some total =>
      dsimp only
      split_ifs with hdone
      · exact (play_bookkeeping A (.completeRun ..) rfl s).choose_spec
      · rfl

theorem play_upsertRunResult (device : DeviceRef) (runId : String) (log : List StepLogEntry)
    (status : ResultStatus) (final : Option FinalStatus) (s : σ) :
    (upsertRunResult runId device log status final : Engine E _).play A.toPlayer s = (.ok (), s) :=
  (play_bookkeeping A (.upsertRunResult _) rfl s).choose_spec

theorem play_recordDone (log : List StepLogEntry) :
    (recordDone env log : Engine E _).play A.toPlayer s =
      (.ok { log := log, status := .done, finalStatus := some (finalStatus log) }, s) := by
  have hrecord : (do
      upsertRunResult env.runId env.device log .done (some (finalStatus log))
      finalizeRunIfDone env.runId : Engine E Unit).play A.toPlayer s = (.ok (), s) := by
    rw [play_bind_ok (play_upsertRunResult _ _ _ _ _ s), play_finalizeRunIfDone]
  unfold recordDone
  rw [play_bind_ok (play_attempt hrecord)]
  rfl

/-! ## The loops -/

variable {step : WorkflowStep}

theorem executeStep_otherwise (env : ChainEnv)
    (h : step.type ≠ .wait ∧ step.type ≠ .runScriptWait) :
    (executeStep env.toStepEnv step (inMemoryStep env.toStepEnv step) : Engine E _) =
      executeStep env.toStepEnv step (durableStep env step) := by
  unfold executeStep inMemoryStep durableStep
  cases htype : step.type <;> first | rfl | exact absurd htype h.1 | exact absurd htype h.2

theorem play_runStep (h : step.type ≠ .wait ∧ step.type ≠ .runScriptWait)
    (currentId : String) {r : StepResult}
    (hr : (executeStep env.toStepEnv step (inMemoryStep env.toStepEnv step) :
      Engine E _).play A.toPlayer s = (.ok r, s')) :
    (runStep env step currentId : Engine E _).play A.toPlayer s = (.ok (.continue r), s') := by
  rw [executeStep_otherwise env h] at hr
  have hstep : (runStep env step currentId : Engine E _) = (do
      let r ← executeStep env.toStepEnv step (durableStep env step)
      return .continue r) := by
    unfold runStep
    cases htype : step.type <;> first | rfl | exact absurd htype h.1 | exact absurd htype h.2
  rw [hstep, play_bind_ok hr]
  rfl

/-- The loop of the durable engine ends with the log of the other one. -/
theorem chainLoop_of_runForDeviceLoop {gate gate' : Option (Gate E)} (hwait : env.workflow.NoWait)
    (hgate : SameGate A env.toStepEnv gate gate') {fuel : ℕ} {currentId : String}
    {log out : List StepLogEntry}
    (h : (runForDeviceLoop env.toStepEnv gate fuel currentId log).play A.toPlayer s =
      (.ok out, s')) :
    (chainLoop env gate' fuel currentId log).play A.toPlayer s =
      (.ok { log := out, status := .done, finalStatus := some (finalStatus out) }, s') := by
  have hend : ∀ {log : List StepLogEntry} {s : σ},
      ((Except.ok log, s) : Except JsError _ × σ) = (.ok out, s') →
      (recordDone env log : Engine E _).play A.toPlayer s =
        (.ok { log := out, status := .done, finalStatus := some (finalStatus out) }, s') := by
    rintro log s ⟨⟩
    exact play_recordDone _
  induction fuel generalizing currentId log s with
  | zero => exact hend h
  | succ fuel ih =>
    unfold runForDeviceLoop at h
    unfold chainLoop
    by_cases hstop : currentId = "" ∨ currentId = "end"
    · rw [if_pos hstop] at h ⊢
      exact hend h
    rw [if_neg hstop] at h ⊢
    cases hstep : stepsById env.workflow.steps currentId with
    | none =>
      rw [hstep] at h
      exact hend h
    | some step =>
      rw [hstep] at h
      dsimp only at h ⊢
      have hnowait := hwait step (stepsById_mem hstep).1
      obtain ⟨recovered, s₁, hasked, h⟩ := Prog.play_bind_inv h
      have hasked' : (askGate env.toStepEnv gate').play A.toPlayer s = (.ok recovered, s₁) :=
        hgate s ▸ hasked
      show (((askGate env.toStepEnv gate').attempt >>= _)).play A.toPlayer s = _
      rw [play_bind_ok (play_attempt hasked')]
      cases recovered with
      | true =>
        obtain ⟨recoveryLog, s₂, hrecovery, h⟩ := Prog.play_bind_inv h
        dsimp only
        rw [play_bind_ok (play_attempt hrecovery)]
        exact hend h
      | false =>
        obtain ⟨r, s₂, hr, h⟩ := Prog.play_bind_inv h
        dsimp only
        rw [play_bind_ok (play_attempt (play_runStep hnowait currentId hr))]
        exact ih h

/-! ## The chains -/

theorem play_loadGate (slug : String) (workflow : Workflow) (ids : List String) (s : σ) :
    ∃ gate, (loadGate slug workflow ids : Engine E _).play A.toPlayer s = (.ok gate, s) := by
  unfold loadGate
  split
  · next policyId _ _ =>
    obtain ⟨rule, hrule⟩ := play_bookkeeping A (.findCompliancePolicy slug policyId) rfl s
    rw [play_bind_ok hrule]
    cases rule with
    | none => exact ⟨none, rfl⟩
    | some rule =>
      obtain ⟨appLists, happs⟩ := play_bookkeeping A (.loadAppListsContext slug) rfl s
      obtain ⟨zones, hzones⟩ := play_bookkeeping A (.loadGeofenceZonesById slug) rfl s
      obtain ⟨locations, hlocations⟩ := play_bookkeeping A (.loadDeviceLocations slug ids) rfl s
      dsimp only
      rw [play_bind_ok happs]
      split_ifs
      · rw [play_bind_ok hzones, play_bind_ok hlocations]
        exact ⟨_, rfl⟩
      · exact ⟨_, rfl⟩
  · exact ⟨none, rfl⟩

theorem play_prepareChain {gate : Option (Gate E)}
    (hload : (loadGate env.slug env.workflow [env.device.id]).play A.toPlayer s = (.ok gate, s)) :
    (prepareChain env none).play A.toPlayer s = (.ok (gate, env.authorization), s) := by
  obtain ⟨u, hstate⟩ := play_bookkeeping A .findGlobalWorkspaceState rfl s
  obtain ⟨base, hbase⟩ := play_bookkeeping A (.resolveOrgBase env.authorization env.slug) rfl s
  unfold prepareChain
  rw [play_bind_ok hstate, play_bind_ok hload]
  show ((ask (.resolveOrgBase env.authorization env.slug) >>= _ : Engine E _)).play A.toPlayer s = _
  rw [play_bind_ok hbase]
  rfl

/-- For a workflow that never waits, and one assignment of outcomes under which
nothing throws, the durable chain of a device ends with the log and the
final status of the in-memory one. -/
theorem chain_of_runForDevice (A : Assignment E σ) (env : ChainEnv) (hwait : env.workflow.NoWait)
    {gate gate' : Option (Gate E)} {s : σ}
    (hload : ((loadGate env.slug env.workflow [env.device.id]).play A.toPlayer s).1 = .ok gate')
    (hgate : SameGate A env.toStepEnv gate gate') {r : DeviceRunResult}
    (hrun : ((runForDevice env.toStepEnv gate).play A.toPlayer s).1 = .ok r) :
    ((runDeviceStepChain env none [] : Engine E _).play A.toPlayer s).1 =
      .ok { log := r.steps, status := .done, finalStatus := r.finalStatus } := by
  obtain ⟨u, hbegin⟩ := play_bookkeeping A (.beginChain env.runId env.device.id none) rfl s
  obtain ⟨loaded, hloaded⟩ := play_loadGate (A := A) env.slug env.workflow [env.device.id] s
  rw [hloaded] at hload
  obtain rfl := Except.ok.inj hload
  unfold runForDevice at hrun
  unfold runDeviceStepChain
  rw [play_bind_ok hbegin]
  cases hsteps : env.workflow.steps with
  | nil =>
    rw [hsteps] at hrun
    obtain rfl := Except.ok.inj hrun
    dsimp only
    rw [play_bind_ok (play_upsertRunResult _ _ _ _ _ s),
      play_bind_ok (play_finalizeRunIfDone _ s)]
    rfl
  | cons first rest =>
    rw [hsteps] at hrun
    dsimp only at hrun ⊢
    rw [play_bind_ok (play_attempt (play_prepareChain hloaded))]
    obtain ⟨out, s', hlog, hr⟩ := Prog.play_bind_inv (Prod.ext hrun rfl)
    obtain rfl := Except.ok.inj (Prod.mk.inj hr).1
    exact congrArg Prod.fst (chainLoop_of_runForDeviceLoop hwait hgate hlog)

/-! ## A failing and a succeeding step -/

/-- The first step execution fails and every later one succeeds. -/
def failsFirst : Assignment attributeEvaluator ℕ where
  answer n
    | .beginChain .. | .findGlobalWorkspaceState | .upsertRunResult _ | .completeRun .. => .ok ()
    | .findCompliancePolicy .. => .ok none
    | .loadAppListsContext _ | .loadGeofenceZonesById _ | .loadDeviceLocations .. => .ok ()
    | .resolveOrgBase .. => .ok ""
    | .findRun _ => .ok none
    | .findRunResults _ => .ok []
    | .executeHttpStep .. | .executeNotificationStep .. =>
      .ok { ok := n ≠ 0, detail := if n = 0 then "HTTP 500" else "HTTP 200" }
    | _ => .error { message := "not reached" }
  next n c := if c.bookkeeping then n else n + 1
  bookkeeping_ok n c h := by cases c <;> first | exact ⟨_, rfl⟩ | cases h
  bookkeeping_next n c h := if_pos h

/-- A workflow that calls a service and notifies if that fails. -/
def callThenNotify : Workflow where
  id := "w1"
  name := "Call"
  steps :=
    [{ id := "s1", type := .httpRequest, name := "Call", onFailure := some "s2" },
     { id := "s2", type := .notification, name := "Notify" }]

/-- A chain of that workflow. -/
def callEnv : ChainEnv where
  slug := "w"
  authorization := "bearer"
  workflow := callThenNotify
  device := { id := "d1", platform := "windows", platformDeviceId := "win-1" }
  runId := "r1"

theorem chain_of_runForDevice_call :
    ((runDeviceStepChain callEnv none [] : Engine attributeEvaluator _).play
      failsFirst.toPlayer 0).1 =
      .ok { log := [{ stepId := some "s1", name := "Call", type := "http_request", ok := false
                      detail := .text "HTTP 500" },
                    { stepId := some "s2", name := "Notify", type := "notification", ok := true
                      detail := .text "HTTP 200" }]
            status := .done, finalStatus := some .partialSuccess } :=
  chain_of_runForDevice failsFirst callEnv (by unfold Workflow.NoWait; decide) rfl
    (show SameGate failsFirst callEnv.toStepEnv none none from fun _ => rfl)
    (r := { deviceId := "d1", deviceName := none, finalStatus := some .partialSuccess
            steps := _ }) rfl

end AppliverySoar.Workflows
