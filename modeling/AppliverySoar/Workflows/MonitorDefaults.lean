import AppliverySoar.Workflows.ChainBudget
import Mathlib.Data.List.Chain

/-!
# Where a monitor step leads by default

Both engines compute the target of a step that names none in the same way for all types
(workflows.service.ts, lines 545–554; durableEngine.ts, lines 350–361), while
`executeMonitorStep` (workflowSteps.ts, lines 279–284) says of its own step that it stops
when the device is compliant again and goes on when it is not.

Results:
* `DeviceRun.trail`: each executed step is where the one before it leads.
* `monitor_defaults`: a run keeps to the defaults of its monitor steps if none of them
  has an outcome whose default differs.
* `escalation_inverted`: a chain that stops while the device violates.
-/

namespace AppliverySoar.Workflows

open Async Prog Compliance List Option

variable {E : Evaluator} {σ : Type}

/-! ## The in-memory engine -/

/-- The runs of a workflow on a device, in either engine: the steps that are executed,
and how the last loop stopped. -/
inductive DeviceRun (E : Evaluator) (w : Workflow) : List WorkflowStep → Walked → Prop
  | inMemory {σ : Type} {P : Player (engineSig E) JsError σ} {s : σ} {env : ChainEnv}
      {gate : Option (Gate E)} : env.workflow = w → w.NoWait →
      DeviceRun E w (walk P env gate chainLimit w.firstId [] s).1.executed
        (walk P env gate chainLimit w.firstId [] s).1
  | durable {executed : List WorkflowStep} {walked : Walked} {result : ChainResult} :
      ChainRun E w executed walked result → DeviceRun E w executed walked

/-! ## Outcomes -/

/-- The entries of the steps in a log: the ones of a resume have no `stepId`. -/
def stepEntries (log : List StepLogEntry) : List StepLogEntry :=
  log.filter fun entry => entry.stepId.isSome

/-- The executed steps, each with its outcome: none of a step that has thrown. What is
logged after them is of the recovery phase. -/
def outcomes : List WorkflowStep → List StepLogEntry → List (WorkflowStep × Option Bool)
  | [], _ => []
  | step :: executed, [] => (step, none) :: outcomes executed []
  | step :: executed, entry :: entries => (step, some entry.ok) :: outcomes executed entries

variable {executed : List WorkflowStep}

theorem outcomes_append {entries : List StepLogEntry}
    (h : entries.length = executed.length) (executed' : List WorkflowStep)
    (entries' : List StepLogEntry) : outcomes (executed ++ executed') (entries ++ entries') =
      outcomes executed entries ++ outcomes executed' entries' := by
  induction executed generalizing entries with
  | nil =>
    rw [length_eq_zero_iff.mp h]
    rfl
  | cons step executed ih =>
    cases entries with
    | nil => cases h
    | cons entry entries => exact congrArg (List.cons _) (ih (Nat.succ.inj h))

theorem stepEntries_append (log log' : List StepLogEntry) :
    stepEntries (log ++ log') = stepEntries log ++ stepEntries log' :=
  filter_append ..

theorem stepEntries_resume (data : PendingData) (r : Resume) :
    stepEntries (r.log data) = stepEntries data.log := by
  cases r with
  | timer =>
    unfold Resume.log
    split_ifs
    · rw [stepEntries_append]
      exact append_nil _
    · rfl
  | script outcomeOk extraDetail =>
    rw [Resume.log, stepEntries_append]
    exact append_nil _

/-! ## Trails -/

/-- The second step is where the first one leads. The target of a step that parks is
stored in its row. -/
def LeadsTo (w : Workflow) (x y : WorkflowStep × Option Bool) : Prop :=
  w.goesOn y.1.id = true ∧ ∃ ok, x.2 = some ok ∧
    (x.1.parks = false → y.1.id = nextStepId w.steps x.1 x.1.id ok)

/-- Nothing follows the step because it leads to no step. -/
def LeadsNowhere (w : Workflow) (x : WorkflowStep × Option Bool) : Prop :=
  ∃ ok, x.2 = some ok ∧
    (x.1.parks = false → w.goesOn (nextStepId w.steps x.1 x.1.id ok) = false)

/-- The steps of a loop in front of `id`. -/
structure Trail (w : Workflow) (id : String) (walked : Walked)
    (trail : List (WorkflowStep × Option Bool)) : Prop where
  first : ∀ x ∈ trail.head?, x.1.id = id ∧ w.goesOn id = true
  follows : trail.IsChain (LeadsTo w)
  ended : walked.ending = .ended → (trail = [] → w.goesOn id = false) ∧
    ∀ x ∈ trail.getLast?, LeadsNowhere w x
  parked : ∀ data, walked.ending = .parked data → ∃ x ∈ trail.getLast?,
    x.1.parks = true ∧ x.2 = some true

/-- The entry is of the step, which is found by its id. -/
def EntryOfStep (w : Workflow) (step : WorkflowStep) (entry : StepLogEntry) : Prop :=
  stepsById w.steps step.id = some step ∧ entry.stepId = some step.id

/-- What a loop adds to the log, and the steps that it executes. -/
structure Logged (w : Workflow) (id : String) (log : List StepLogEntry) (walked : Walked) :
    Prop where
  added : ∃ entries, walked.log = log ++ entries ∧
    Trail w id walked (outcomes walked.executed (stepEntries entries)) ∧
    ∀ data, walked.ending = .parked data →
      List.Forall₂ (EntryOfStep w) walked.executed (stepEntries entries)

variable {w : Workflow} {id : String} {walked : Walked}

theorem trail_nil (hended : walked.ending = .ended → w.goesOn id = false)
    (hparked : ∀ data, walked.ending ≠ .parked data) : Trail w id walked [] where
  first x hx := by cases hx
  follows := .nil
  ended h := ⟨fun _ => hended h, fun x hx => by cases hx⟩
  parked data h := absurd h (hparked data)

variable {step : WorkflowStep} (P : Player (engineSig E) JsError σ)

theorem Trail.cons {ok : Bool} {rest : Walked}
    {trail : List (WorkflowStep × Option Bool)} (hid : w.goesOn step.id = true)
    (h : Trail w (nextStepId w.steps step step.id ok) rest trail) :
    Trail w step.id { rest with executed := step :: rest.executed } ((step, some ok) :: trail) where
  first x hx := by
    obtain rfl := mem_some_iff.mp hx
    exact ⟨rfl, hid⟩
  follows := by
    refine isChain_cons.mpr ⟨fun y hy => ?_, h.follows⟩
    obtain ⟨hy, hgoes⟩ := h.first y hy
    exact ⟨hy ▸ hgoes, ok, rfl, fun _ => hy⟩
  ended hended := by
    obtain ⟨hnil, hlast⟩ := h.ended hended
    refine ⟨fun hcons => (cons_ne_nil _ _ hcons).elim, fun x hx => ?_⟩
    cases trail with
    | nil =>
      obtain rfl := mem_some_iff.mp hx
      exact ⟨ok, rfl, fun _ => hnil rfl⟩
    | cons y trail => exact hlast x hx
  parked data hdata := by
    obtain ⟨x, hx, hparks⟩ := h.parked data hdata
    cases trail with
    | nil => cases hx
    | cons y trail => exact ⟨x, hx, hparks⟩

theorem entry_runStep (env : ChainEnv) (step : WorkflowStep) (currentId : String) :
    (runStep env step currentId : Engine E _).Ensures (fun _ => True) fun outcome =>
      ∀ entry data, outcome = .park entry data → entry.stepId = some step.id := by
  unfold runStep
  split
  · unfold waitStep
    split
    · exact nofun
    · split_ifs
      · exact nofun
      · refine Ensures.bind (calls_call trivial) fun start _ => ?_
        rintro entry data ⟨⟩
        rfl
  · unfold runScriptWaitStep
    split
    · exact nofun
    · refine Ensures.bind (calls_call trivial) fun token _ => ?_
      refine Ensures.bind (calls_true _) fun r _ => ?_
      split_ifs
      · refine Ensures.bind (calls_call trivial) fun start _ => ?_
        rintro entry data ⟨⟩
        rfl
      · exact nofun
  · exact Ensures.bind (calls_true _) fun r _ => nofun

theorem logged_walk (env : ChainEnv)
    (gate : Option (Gate E)) (fuel : ℕ) (currentId : String) (log : List StepLogEntry) (s : σ) :
    Logged env.workflow currentId log (walk P env gate fuel currentId log s).1 := by
  have hstops : ∀ {id log ending} (entries : List StepLogEntry),
      (ending = .ended → env.workflow.goesOn id = false) → (∀ data, ending ≠ .parked data) →
      Logged env.workflow id log ⟨[], log ++ entries, ending⟩ := fun entries hended hparked =>
    ⟨entries, rfl, trail_nil hended hparked, fun data h => absurd h (hparked data)⟩
  have hsame : ∀ {id log ending}, (ending = .ended → env.workflow.goesOn id = false) →
      (∀ data, ending ≠ .parked data) → Logged env.workflow id log ⟨[], log, ending⟩ :=
    fun {id log ending} hended hparked => by
      have h : Logged env.workflow id log ⟨[], log ++ [], ending⟩ := hstops [] hended hparked
      rwa [append_nil] at h
  induction fuel generalizing currentId log s with
  | zero =>
    unfold walk
    cases hgoes : env.workflow.goesOn currentId with
    | true => exact hsame (fun h => by cases h) fun data h => by cases h
    | false => exact hsame (fun _ => hgoes) fun data h => by cases h
  | succ fuel ih =>
    unfold walk
    by_cases hstop : currentId = "" ∨ currentId = "end"
    · rw [if_pos hstop]
      refine hsame (fun _ => ?_) fun data h => by cases h
      rcases hstop with rfl | rfl <;> rfl
    rw [if_neg hstop]
    cases hstep : stepsById env.workflow.steps currentId with
    | none => exact hsame (fun _ => by simp [Workflow.goesOn, hstep]) fun data h => by cases h
    | some step =>
      obtain ⟨-, rfl⟩ := stepsById_mem hstep
      have hgoes : env.workflow.goesOn step.id = true := by
        push Not at hstop
        simp [Workflow.goesOn, hstop, hstep]
      dsimp only
      rcases (askGate env.toStepEnv gate).play P s with ⟨_ | _ | _, s₁⟩
      · exact hsame (fun h => by cases h) fun data h => by cases h
      · dsimp only
        rcases hrun : (runStep env step step.id : Engine E _).play P s₁ with
          ⟨_ | r | ⟨entry, data⟩, s₂⟩
        · refine ⟨[], (append_nil _).symm, ?_, fun data h => by cases h⟩
          refine ⟨fun x hx => ?_, .singleton _, (fun h => by cases h), fun data h => by cases h⟩
          obtain rfl := mem_some_iff.mp hx
          exact ⟨rfl, hgoes⟩
        · dsimp only
          obtain ⟨entries, hlog, htrail, hrecords⟩ := ih (nextStepId env.workflow.steps step step.id
            r.ok) (log ++ [step.logEntry r]) s₂
          refine ⟨step.logEntry r :: entries, ?_, htrail.cons hgoes, fun data hdata => ?_⟩
          · rw [hlog, append_assoc]
            rfl
          · exact .cons ⟨hstep, rfl⟩ (hrecords data hdata)
        · have hid := ensures_play (entry_runStep env step step.id) hrun entry data rfl
          obtain ⟨hok, hparks, -⟩ := ensures_play (outcome_runStep env step step.id) hrun
          have hentries : stepEntries [entry] = [entry] := by
            rw [stepEntries, filter_singleton, hid]
            rfl
          refine ⟨[entry], rfl, ?_, fun _ _ => ?_⟩ <;> rw [hentries]
          · refine ⟨fun x hx => ?_, .singleton _, (fun h => by cases h),
              fun data h => ⟨_, rfl, hparks, congrArg some hok⟩⟩
            obtain rfl := mem_some_iff.mp hx
            exact ⟨rfl, hgoes⟩
          · exact .cons ⟨hstep, hid⟩ .nil
      · dsimp only
        rcases (runRecoverySteps env.toStepEnv log : Engine E _).play P s₁ with
          ⟨_ | recoveryLog, s₂⟩
        · exact hsame (fun h => by cases h) fun data h => by cases h
        · exact hstops recoveryLog (fun h => by cases h) fun data h => by cases h

/-! ## Runs -/

theorem logged_walkChain (env : ChainEnv)
    (startStepId : Option String) (log : List StepLogEntry) (s : σ)
    (hsteps : env.workflow.steps ≠ []) :
    Logged env.workflow (orElse startStepId env.workflow.firstId) log
      (walkChain P env startStepId log s).1 := by
  unfold walkChain
  dsimp only
  rw [if_neg (by simpa using hsteps)]
  rcases (prepareChain env startStepId : Engine E _).play P _ with ⟨_ | ⟨gate, authorization⟩, s'⟩
  · exact ⟨[], (append_nil _).symm, trail_nil (fun h => by cases h) (fun data h => by cases h),
      fun data h => by cases h⟩
  · exact logged_walk P { env with authorization := authorization } gate _ _ _ _

/-- The steps of a run with their outcomes: each is where the one before it leads. -/
structure RunTrail (w : Workflow) (executed : List WorkflowStep) (walked : Walked) : Prop where
  follows : (outcomes executed (stepEntries walked.log)).IsChain (LeadsTo w)
  ended : walked.ending = .ended →
    ∀ x ∈ (outcomes executed (stepEntries walked.log)).getLast?, LeadsNowhere w x
  parked : ∀ data, walked.ending = .parked data →
    List.Forall₂ (EntryOfStep w) executed (stepEntries walked.log) ∧
    ∃ x ∈ (outcomes executed (stepEntries walked.log)).getLast?, x.1.parks = true ∧ x.2 = some true

theorem Logged.runTrail (h : Logged w id [] walked) : RunTrail w walked.executed walked := by
  obtain ⟨entries, hlog, htrail, hrecords⟩ := h
  rw [nil_append] at hlog
  subst hlog
  exact ⟨htrail.follows, fun hended => (htrail.ended hended).2,
    fun data hdata => ⟨hrecords data hdata, htrail.parked data hdata⟩⟩

variable {data : PendingData}

theorem RunTrail.resume {walked walked' : Walked} {r : Resume} (h : RunTrail w executed walked)
    (hparked : walked.ending = .parked data) (hrow : data.log = walked.log)
    (hloop : Logged w id (r.log data) walked') :
    RunTrail w (executed ++ walked'.executed) walked' := by
  obtain ⟨entries, hlog, htrail, hrecords⟩ := hloop
  obtain ⟨hbefore, x, hx, hparks, hok⟩ := h.parked data hparked
  have hcount := hbefore.length_eq.symm
  have hentries : stepEntries walked'.log = stepEntries walked.log ++ stepEntries entries := by
    rw [hlog, stepEntries_append, stepEntries_resume, hrow]
  have hlast : ∀ y ∈ (outcomes executed (stepEntries walked.log)).getLast?, y = x := fun y hy =>
    some.inj (hy.symm.trans hx)
  constructor
  · rw [hentries, outcomes_append hcount]
    refine isChain_append.mpr ⟨h.follows, htrail.follows, fun y hy z hz => ?_⟩
    obtain ⟨hz, hgoes⟩ := htrail.first z hz
    rw [hlast y hy]
    exact ⟨hz ▸ hgoes, true, hok, fun hnot => absurd (hparks.symm.trans hnot) Bool.noConfusion⟩
  · intro hended y hy
    rw [hentries, outcomes_append hcount, getLast?_append] at hy
    cases hrest : (outcomes walked'.executed (stepEntries entries)).getLast? with
    | some z =>
      rw [hrest] at hy
      obtain rfl := mem_some_iff.mp hy
      exact (htrail.ended hended).2 z hrest
    | none =>
      rw [hrest, none_or] at hy
      rw [hlast y hy]
      exact ⟨true, hok, fun hnot => absurd (hparks.symm.trans hnot) Bool.noConfusion⟩
  · intro data' hdata
    obtain ⟨y, hy, hparks'⟩ := htrail.parked data' hdata
    rw [hentries, outcomes_append hcount, getLast?_append]
    exact ⟨rel_append hbefore (hrecords data' hdata), y, by rw [mem_def.mp hy]; rfl,
      hparks'⟩

theorem walkChain_nil {env : ChainEnv}
    (h : env.workflow.steps = []) (startStepId : Option String) (log : List StepLogEntry) (s : σ) :
    (walkChain P env startStepId log s).1 = ⟨[], [], .ended⟩ := by
  unfold walkChain
  rw [h]
  rfl

/-- The row of a parked chain holds its log, and the workflow has steps. -/
theorem ChainRun.parked_row {result : ChainResult} (h : ChainRun E w executed walked result)
    (hparked : walked.ending = .parked data) : data.log = walked.log ∧ w.steps ≠ [] := by
  have hchain : ∀ {σ : Type} {P : Player (engineSig E) JsError σ} {env : ChainEnv}
      {startStepId : Option String} {log : List StepLogEntry} {s : σ}, env.workflow = w →
      (walkChain P env startStepId log s).1.ending = .parked data →
      data.log = (walkChain P env startStepId log s).1.log ∧ w.steps ≠ [] := by
    rintro σ P env startStepId log s rfl hending
    refine ⟨?_, fun hnil => ?_⟩
    · rcases walks_walkChain P env startStepId log s with hwalks | ⟨-, -, hnopark⟩
      · exact (hwalks.parked_log hending).1
      · exact absurd hending (hnopark data)
    · rw [walkChain_nil P hnil] at hending
      cases hending
  cases h with
  | start hw _ => exact hchain hw hparked
  | resume => exact hchain rfl hparked

theorem DeviceRun.trail (h : DeviceRun E w executed walked) : RunTrail w executed walked := by
  cases h with
  | inMemory hw _ =>
    subst hw
    exact (logged_walk _ _ _ _ _ _ _).runTrail
  | durable hrun =>
    induction hrun with
    | @start σ P s env result hw _ =>
      by_cases hsteps : env.workflow.steps = []
      · rw [walkChain_nil P hsteps]
        exact ⟨.nil, fun _ x hx => (by cases hx), fun data h => by cases h⟩
      · subst hw
        exact (logged_walkChain P env none [] s hsteps).runTrail
    | @resume σ executed walked result data r P s authorization result' hrun hparked _ _ _ ih =>
      obtain ⟨hrow, hsteps⟩ := hrun.parked_row hparked
      exact ih.resume hparked hrow (logged_walkChain P (chainOf data w authorization)
        (some (r.target data)) (r.log data) s hsteps)

/-! ## The defaults of a monitor step -/

/-- The id of the step after the first one with this id. -/
def Workflow.nextStep (w : Workflow) (id : String) : Option String :=
  (w.steps.map (·.id))[(w.steps.map (·.id)).idxOf id + 1]?

/-- A monitor step that names no target for what it finds ends the chain when the
device is compliant again, and is followed by the next step when it is not. -/
def MonitorDefaults (w : Workflow) (trail : List (WorkflowStep × Option Bool)) : Prop :=
  ∀ before step compliant after, trail = before ++ (step, some compliant) :: after →
    step.type = .monitor →
    (compliant = true → truthy step.onSuccess = none → after = []) ∧
    (compliant = false → truthy step.onFailure = none → ∀ next, w.nextStep step.id = some next →
      ∃ later ∈ after.head?, later.1.id = next)

/-- No monitor step of the run that names no target for what it finds has a step after
it in the list. -/
def MonitorsLast (w : Workflow) (trail : List (WorkflowStep × Option Bool)) : Prop :=
  ∀ step compliant, (step, some compliant) ∈ trail → step.type = .monitor →
    (compliant = true → step.onSuccess = none → w.goesOn (nextInOrder w.steps step.id) = false) ∧
    (compliant = false → truthy step.onFailure = none → w.nextStep step.id = none)

theorem parks_of_monitor (h : step.type = .monitor) : step.parks = false := by
  unfold WorkflowStep.parks
  rw [h]
  rfl

theorem eq_empty_of_truthy_none {t : String} (h : truthy (some t) = none) : t = "" := by
  by_contra hne
  rw [truthy_eq_some.mpr ⟨rfl, hne⟩] at h
  cases h

theorem orElse_of_truthy_none {t : Option String} (h : truthy t = none) (fallback : String) :
    orElse t fallback = fallback := by
  cases t with
  | none => rfl
  | some t => exact if_pos (eq_empty_of_truthy_none h)

theorem leadsTo_of_split {before after : List (WorkflowStep × Option Bool)}
    {x y : WorkflowStep × Option Bool} (h : (before ++ x :: y :: after).IsChain (LeadsTo w)) :
    LeadsTo w x y :=
  (isChain_cons.mp (isChain_append.mp h).2.1).1 y rfl

/-- In every run, over all its parks and resumes: if each monitor step without a target
for what it finds is the last one, then the run keeps to the defaults; and where the
chain ends because there is no step to go on with, only then. -/
theorem monitor_defaults (E : Evaluator) (w : Workflow) (executed : List WorkflowStep)
    (walked : Walked) (h : DeviceRun E w executed walked) :
    (MonitorsLast w (outcomes executed (stepEntries walked.log)) →
      MonitorDefaults w (outcomes executed (stepEntries walked.log))) ∧
    (walked.ending = .ended → MonitorDefaults w (outcomes executed (stepEntries walked.log)) →
      MonitorsLast w (outcomes executed (stepEntries walked.log))) := by
  obtain ⟨hfollows, hended, -⟩ := h.trail
  generalize outcomes executed (stepEntries walked.log) = trail at *
  constructor
  · rintro hlast before step compliant after rfl htype
    have hparks := parks_of_monitor htype
    obtain ⟨hsuccess, hfailure⟩ := hlast step compliant (by simp) htype
    refine ⟨?_, fun hviolates hnone next hnext => ?_⟩
    · rintro rfl hnone
      cases after with
      | nil => rfl
      | cons y after =>
        obtain ⟨hgoes, ok, hok, htarget⟩ := leadsTo_of_split hfollows
        obtain rfl := some.inj hok
        rw [htarget hparks, nextStepId, if_pos rfl] at hgoes
        cases honSuccess : step.onSuccess with
        | none =>
          rw [honSuccess, getD_none, hsuccess rfl honSuccess] at hgoes
          cases hgoes
        | some t =>
          rw [honSuccess] at hnone hgoes
          rw [eq_empty_of_truthy_none hnone] at hgoes
          cases hgoes
    · rw [hfailure hviolates hnone] at hnext
      cases hnext
  · intro hend hdefaults step compliant hmem htype
    have hparks := parks_of_monitor htype
    obtain ⟨before, after, rfl⟩ := append_of_mem hmem
    obtain ⟨hstops, hadvances⟩ := hdefaults before step compliant after rfl htype
    constructor
    · rintro rfl hnone
      obtain rfl := hstops rfl (by rw [hnone]; rfl)
      obtain ⟨ok, hok, htarget⟩ := hended hend (step, some true) (by simp)
      obtain rfl := some.inj hok
      have hnowhere := htarget hparks
      rwa [nextStepId, if_pos rfl, hnone, getD_none] at hnowhere
    · rintro rfl hnone
      cases hnext : w.nextStep step.id with
      | none => rfl
      | some next =>
        obtain ⟨later, hlater, -⟩ := hadvances rfl hnone next hnext
        cases after with
        | nil => cases hlater
        | cons y after =>
          obtain ⟨hgoes, ok, hok, htarget⟩ := leadsTo_of_split hfollows
          obtain rfl := some.inj hok
          rw [htarget hparks, nextStepId, if_neg Bool.false_ne_true,
            orElse_of_truthy_none hnone] at hgoes
          cases hgoes

/-! ## An escalation -/

/-- Monitors find the device in this state, and notifications succeed. -/
def monitorFinds (compliant : Bool) : Player (engineSig attributeEvaluator) JsError Unit where
  answer _
    | .executeMonitorStep .. => .ok { ok := compliant, detail := "" }
    | .executeNotificationStep .. => .ok { ok := true, detail := "" }
    | _ => .error { message := "not reached" }
  next _ _ := ()

/-- A run of these steps in the in-memory engine. -/
def escalation (steps : List WorkflowStep) : ChainEnv where
  slug := "w"
  authorization := "bearer"
  workflow := { id := "w1", name := "Escalate", steps }
  device := { id := "d1", platform := "windows", platformDeviceId := "win-1" }
  runId := "r1"

/-- The monitor of the escalation. -/
def monitorStep : WorkflowStep where
  id := "m1"
  type := .monitor
  name := "Monitor"

/-- The step that it escalates to. -/
def notifyStep : WorkflowStep where
  id := "n1"
  type := .notification
  name := "Notify"

theorem monitor_defaults_last :
    MonitorDefaults (escalation [notifyStep, monitorStep]).workflow
      [(notifyStep, some true), (monitorStep, some false)] := by
  have hrun : DeviceRun attributeEvaluator (escalation [notifyStep, monitorStep]).workflow
      [notifyStep, monitorStep] _ :=
    @DeviceRun.inMemory attributeEvaluator _ Unit (monitorFinds false) ()
      (escalation [notifyStep, monitorStep]) none rfl (by unfold Workflow.NoWait; decide)
  refine (monitor_defaults attributeEvaluator (escalation [notifyStep, monitorStep]).workflow
    [notifyStep, monitorStep] _ hrun).1 ?_
  intro step compliant hmem htype
  rcases mem_cons.mp hmem with h | hmem
  · obtain ⟨rfl, -⟩ := Prod.mk.inj h
    cases htype
  · obtain ⟨rfl, hfinds⟩ := Prod.mk.inj (mem_singleton.mp hmem)
    obtain rfl := some.inj hfinds
    exact ⟨fun h => (by cases h), fun _ _ => by decide⟩

/-- A chain goes on when the device is compliant again, and stops while it violates. -/
theorem escalation_inverted :
    (∃ walked, DeviceRun attributeEvaluator (escalation [monitorStep, notifyStep]).workflow
        [monitorStep, notifyStep] walked ∧
      ¬MonitorDefaults (escalation [monitorStep, notifyStep]).workflow
        (outcomes [monitorStep, notifyStep] (stepEntries walked.log))) ∧
    ∃ walked, DeviceRun attributeEvaluator (escalation [monitorStep, notifyStep]).workflow
        [monitorStep] walked ∧
      ¬MonitorDefaults (escalation [monitorStep, notifyStep]).workflow
        (outcomes [monitorStep] (stepEntries walked.log)) := by
  have hrun : ∀ compliant, DeviceRun attributeEvaluator
      (escalation [monitorStep, notifyStep]).workflow
      (walk (monitorFinds compliant) (escalation [monitorStep, notifyStep]) none chainLimit "m1" []
        ()).1.executed
      (walk (monitorFinds compliant) (escalation [monitorStep, notifyStep]) none chainLimit "m1" []
        ()).1 := fun compliant =>
    .inMemory rfl (by unfold Workflow.NoWait; decide)
  refine ⟨⟨_, hrun true, fun h => ?_⟩, ⟨_, hrun false, fun h => ?_⟩⟩
  · have hstop := (h [] monitorStep true [(notifyStep, some true)] rfl rfl).1 rfl rfl
    cases hstop
  · obtain ⟨later, hlater, -⟩ := (h [] monitorStep false [] rfl rfl).2 rfl rfl "n1" (by decide)
    cases hlater

end AppliverySoar.Workflows
