import AppliverySoar.Async.Logic
import AppliverySoar.Workflows.EngineEquivalence

/-!
# The walk of a chain

What the loop of `runDeviceStepChain` (durableEngine.ts, lines 242–357) comes to
against a player: the steps that it executes, the log with which it stops, and
why it stops there. A chain that is resumed goes on with a walk of its own.

Results:
* `play_chainLoop`: the loop does what its walk says.
* `walks_walk`: one case for each way in which a walk goes on or stops.
-/

namespace AppliverySoar.Workflows

open Async Prog Compliance

variable {E : Evaluator} {σ : Type}

/-! ## Walks -/

/-- Why the loop of a chain stops: there is no step to go on with, the budget is
used up in front of one, the device has recovered, the chain parks, or
something throws. -/
inductive Ending where
  | ended
  | budget
  | recovered
  | parked (data : PendingData)
  | threw (e : JsError)

/-- The steps a loop executes, the log with which it stops, and why. -/
structure Walked where
  executed : List WorkflowStep
  log : List StepLogEntry
  ending : Ending

/-- The loop would go on with this target. -/
def Workflow.goesOn (w : Workflow) (id : String) : Bool :=
  id ≠ "" && id ≠ "end" && (stepsById w.steps id).isSome

/-- The loop of a chain against a player. -/
def walk (P : Player (engineSig E) JsError σ) (env : ChainEnv) (gate : Option (Gate E)) :
    ℕ → String → List StepLogEntry → σ → Walked × σ
  | 0, currentId, log, s =>
    (⟨[], log, if env.workflow.goesOn currentId then .budget else .ended⟩, s)
  | fuel + 1, currentId, log, s =>
    if currentId = "" ∨ currentId = "end" then (⟨[], log, .ended⟩, s)
    else
      match stepsById env.workflow.steps currentId with
      | none => (⟨[], log, .ended⟩, s)
      | some step =>
        match (askGate env.toStepEnv gate).play P s with
        | (.error e, s) => (⟨[], log, .threw e⟩, s)
        | (.ok true, s) =>
          match (runRecoverySteps env.toStepEnv log : Engine E _).play P s with
          | (.error e, s) => (⟨[], log, .threw e⟩, s)
          | (.ok recoveryLog, s) => (⟨[], log ++ recoveryLog, .recovered⟩, s)
        | (.ok false, s) =>
          match (runStep env step currentId : Engine E _).play P s with
          | (.error e, s) => (⟨[step], log, .threw e⟩, s)
          | (.ok (.park entry data), s) =>
            (⟨[step], log ++ [entry], .parked (data (log ++ [entry]))⟩, s)
          | (.ok (.continue r), s) =>
            let rest := walk P env gate fuel (nextStepId env.workflow.steps step currentId r.ok)
              (log ++ [step.logEntry r]) s
            ({ rest.1 with executed := step :: rest.1.executed }, rest.2)

/-- What a chain does when its loop has stopped. -/
def finish (env : ChainEnv) (w : Walked) : Engine E ChainResult :=
  match w.ending with
  | .parked data => park env w.log data
  | .threw e => recordFailure env w.log e
  | _ => recordDone env w.log

theorem play_chainLoop (P : Player (engineSig E) JsError σ) (env : ChainEnv)
    (gate : Option (Gate E)) (fuel : ℕ) (currentId : String) (log : List StepLogEntry) (s : σ) :
    (chainLoop env gate fuel currentId log).play P s =
      (finish env (walk P env gate fuel currentId log s).1).play P
        (walk P env gate fuel currentId log s).2 := by
  induction fuel generalizing currentId log s with
  | zero =>
    unfold chainLoop walk
    cases env.workflow.goesOn currentId <;> rfl
  | succ fuel ih =>
    unfold chainLoop walk
    by_cases hstop : currentId = "" ∨ currentId = "end"
    · rw [if_pos hstop, if_pos hstop]
      rfl
    rw [if_neg hstop, if_neg hstop]
    cases hstep : stepsById env.workflow.steps currentId with
    | none => rfl
    | some step =>
      dsimp only
      show (((askGate env.toStepEnv gate).attempt >>= _)).play P s = _
      rcases hask : (askGate env.toStepEnv gate).play P s with ⟨_ | _ | _, s₁⟩
      · rw [play_bind_ok (play_attempt hask)]
        rfl
      · rw [play_bind_ok (play_attempt hask)]
        dsimp only
        rcases hrun : (runStep env step currentId : Engine E _).play P s₁ with ⟨_ | r | _, s₂⟩
        · rw [play_bind_ok (play_attempt hrun)]
          rfl
        · rw [play_bind_ok (play_attempt hrun)]
          exact ih _ _ _
        · rw [play_bind_ok (play_attempt hrun)]
          rfl
      · rw [play_bind_ok (play_attempt hask)]
        dsimp only
        rcases hrec : (runRecoverySteps env.toStepEnv log : Engine E _).play P s₁ with ⟨_ | _, s₂⟩
        · rw [play_bind_ok (play_attempt hrec)]
          rfl
        · rw [play_bind_ok (play_attempt hrec)]
          rfl

/-! ## Chains -/

/-- The first step of a workflow, where a chain starts. -/
def Workflow.firstId (w : Workflow) : String :=
  ((w.steps.head?).map fun step => step.id).getD "end"

/-- The walk of `runDeviceStepChain`. -/
def walkChain (P : Player (engineSig E) JsError σ) (env : ChainEnv) (startStepId : Option String)
    (existingLog : List StepLogEntry) (s : σ) : Walked × σ :=
  let s := P.next s (.beginChain env.runId env.device.id startStepId)
  if env.workflow.steps.isEmpty then (⟨[], [], .ended⟩, s)
  else
    match (prepareChain env startStepId : Engine E _).play P s with
    | (.error e, s) => (⟨[], existingLog, .threw e⟩, s)
    | (.ok (gate, authorization), s) =>
      walk P { env with authorization := authorization } gate (chainLimit - existingLog.length)
        (orElse startStepId env.workflow.firstId) existingLog s

/-! ## What a step can come to -/

theorem ensures_play {α : Type} {okc : EngineCall → Prop} {R : α → Prop} {p : Engine E α}
    (h : p.Ensures okc R) {P : Player (engineSig E) JsError σ} {s s' : σ} {a : α}
    (hplay : p.play P s = (.ok a, s')) : R a := by
  unfold Ensures at h
  generalize ([] : List (EngineEvent E)) = es at h
  induction p generalizing s es with
  | ret r =>
    obtain ⟨rfl, -⟩ := Prod.mk.inj hplay
    exact h
  | await c k ih => exact ih _ hplay _ (h.2 _ trivial)

/-- The step ends its part of the chain when it succeeds. -/
def WorkflowStep.parks (step : WorkflowStep) : Bool :=
  step.type = .wait || step.type = .runScriptWait

/-- The step is of a known type, and a wait has a duration or a script. -/
def WorkflowStep.canSucceed (step : WorkflowStep) : Bool :=
  match step.type with
  | .other _ => false
  | .wait => step.config.amount.any fun amount => !decide (amount ≤ 0)
  | .runScriptWait => (truthy step.config.libraryId).isSome
  | _ => true

/-- What is said of a step's outcome: only a step that can succeed does, and the
row of a step that parks holds the log and leads to the next step. -/
def OutcomeOf (env : ChainEnv) (step : WorkflowStep) (currentId : String) : StepOutcome → Prop
  | .continue r => r.ok = true → step.parks = false ∧ step.canSucceed = true
  | .park entry data =>
    entry.ok = true ∧ step.parks = true ∧ step.canSucceed = true ∧ ∀ log,
      (data log).log = log ∧
      (data log).nextStepId = nextStepId env.workflow.steps step currentId true ∧
      ((data log).stepKind = .script ↔ step.type = .runScriptWait) ∧
      ((data log).pendingToken.isSome ↔ step.type = .runScriptWait)

variable {step : WorkflowStep}

theorem outcome_waitStep (h : step.type = .wait) (env : ChainEnv)
    (currentId : String) :
    (waitStep env step currentId : Engine E _).Ensures (fun _ => True)
      (OutcomeOf env step currentId) := by
  unfold waitStep
  split
  · exact fun hok => absurd hok Bool.false_ne_true
  · next amount hamount =>
    split_ifs with hpos
    · exact fun hok => absurd hok Bool.false_ne_true
    · refine Ensures.bind (calls_call trivial) fun start _ => ?_
      refine ⟨rfl, by simp [WorkflowStep.parks, h], ?_, fun log => ⟨rfl, rfl, ?_, ?_⟩⟩
      · simp [WorkflowStep.canSucceed, h, hamount, hpos]
      · simp [ChainEnv.pendingData, h]
      · simp [ChainEnv.pendingData, h]

theorem outcome_runScriptWaitStep (h : step.type = .runScriptWait)
    (env : ChainEnv) (currentId : String) :
    (runScriptWaitStep env step currentId : Engine E _).Ensures (fun _ => True)
      (OutcomeOf env step currentId) := by
  unfold runScriptWaitStep
  split
  · exact fun hok => absurd hok Bool.false_ne_true
  · next libraryId hlibrary =>
    refine Ensures.bind (calls_call trivial) fun token _ => ?_
    refine Ensures.bind (calls_true _) fun r _ => ?_
    split_ifs with hok
    · refine Ensures.bind (calls_call trivial) fun start _ => ?_
      refine ⟨rfl, by simp [WorkflowStep.parks, h], ?_, fun log => ⟨rfl, rfl, ?_, ?_⟩⟩
      · simp [WorkflowStep.canSucceed, h, hlibrary]
      · simp [h]
      · simp [h]
    · exact fun hok' => absurd hok' hok

theorem outcome_runStep (env : ChainEnv) (step : WorkflowStep) (currentId : String) :
    (runStep env step currentId : Engine E _).Ensures (fun _ => True)
      (OutcomeOf env step currentId) := by
  unfold runStep
  split
  · next htype => exact outcome_waitStep htype env currentId
  · next htype => exact outcome_runScriptWaitStep htype env currentId
  · next hwait hscript =>
    have hparks : step.parks = false := by
      unfold WorkflowStep.parks
      rw [decide_eq_false (fun h => hwait h), decide_eq_false (fun h => hscript h)]
      rfl
    have hresult : (executeStep env.toStepEnv step (durableStep env step) : Engine E _).Ensures
        (fun _ => True) fun r => r.ok = true → step.canSucceed = true := by
      unfold executeStep durableStep WorkflowStep.canSucceed
      cases htype : step.type with
      | wait => exact absurd htype hwait
      | runScriptWait => exact absurd htype hscript
      | other name => exact fun hok => absurd hok Bool.false_ne_true
      | _ => exact Prog.ensures_of_forall (fun _ _ => rfl) _
    exact Ensures.bind hresult fun r hr => fun hok => ⟨hparks, hr hok⟩

/-! ## One case for each way to go on or to stop -/

/-- The walks over a workflow, whatever the steps come to. -/
inductive Walks (w : Workflow) : ℕ → String → List StepLogEntry → Walked → Prop
  | ended {fuel : ℕ} {id : String} {log : List StepLogEntry} :
      Walks w fuel id log ⟨[], log, .ended⟩
  | budget {id : String} {log : List StepLogEntry} :
      w.goesOn id = true → Walks w 0 id log ⟨[], log, .budget⟩
  | recovered {fuel : ℕ} {id : String} {log recoveryLog : List StepLogEntry} :
      Walks w (fuel + 1) id log ⟨[], log ++ recoveryLog, .recovered⟩
  | threw {fuel : ℕ} {id : String} {log : List StepLogEntry} {executed : List WorkflowStep}
      {e : JsError} : executed.length ≤ 1 → Walks w (fuel + 1) id log ⟨executed, log, .threw e⟩
  | parked {fuel : ℕ} {id : String} {log : List StepLogEntry} {env : ChainEnv} {step : WorkflowStep}
      {entry : StepLogEntry} {data : List StepLogEntry → PendingData} :
      w.goesOn id = true → stepsById w.steps id = some step → env.workflow = w →
      OutcomeOf env step id (.park entry data) →
      Walks w (fuel + 1) id log ⟨[step], log ++ [entry], .parked (data (log ++ [entry]))⟩
  | step {fuel : ℕ} {id : String} {log : List StepLogEntry} {step : WorkflowStep} {r : StepResult}
      {rest : Walked} :
      w.goesOn id = true → stepsById w.steps id = some step →
      (r.ok = true → step.parks = false ∧ step.canSucceed = true) →
      Walks w fuel (nextStepId w.steps step id r.ok) (log ++ [step.logEntry r]) rest →
      Walks w (fuel + 1) id log { rest with executed := step :: rest.executed }

theorem walks_walk (P : Player (engineSig E) JsError σ) (env : ChainEnv)
    (gate : Option (Gate E)) (fuel : ℕ) (currentId : String) (log : List StepLogEntry) (s : σ) :
    Walks env.workflow fuel currentId log (walk P env gate fuel currentId log s).1 := by
  induction fuel generalizing currentId log s with
  | zero =>
    unfold walk
    cases hreal : env.workflow.goesOn currentId with
    | true => exact .budget hreal
    | false => exact .ended
  | succ fuel ih =>
    unfold walk
    by_cases hstop : currentId = "" ∨ currentId = "end"
    · rw [if_pos hstop]
      exact .ended
    rw [if_neg hstop]
    cases hstep : stepsById env.workflow.steps currentId with
    | none => exact .ended
    | some step =>
      have hreal : env.workflow.goesOn currentId = true := by
        push Not at hstop
        simp [Workflow.goesOn, hstop, hstep]
      dsimp only
      rcases (askGate env.toStepEnv gate).play P s with ⟨_ | _ | _, s₁⟩
      · exact .threw (Nat.zero_le 1)
      · dsimp only
        rcases hrun : (runStep env step currentId : Engine E _).play P s₁ with ⟨_ | r | _, s₂⟩
        · exact .threw (Nat.le_refl 1)
        · exact .step hreal hstep (ensures_play (outcome_runStep env step currentId) hrun) (ih _ _ _)
        · exact .parked hreal hstep rfl (ensures_play (outcome_runStep env step currentId) hrun)
      · dsimp only
        rcases (runRecoverySteps env.toStepEnv log : Engine E _).play P s₁ with ⟨_ | _, s₂⟩
        · exact .threw (Nat.zero_le 1)
        · exact .recovered

end AppliverySoar.Workflows
