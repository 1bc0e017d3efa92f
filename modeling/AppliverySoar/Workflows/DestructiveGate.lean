import AppliverySoar.Workflows.Calls

/-!
# What `workflowHasDestructiveStep` keeps out of an execution

The gate looks at the `mdm_action` steps of `workflow.steps` only. An execution
calls `executeMdmAction` in four more places: for a `run_script_wait` step, for
the script that a firewall rule set nests, for the steps of `recovery.steps`,
and for the restore scripts of executed `runScript` steps. This module shows
which of them the gate covers.

Results:
* `no_destructive_dispatch_iff`: no execution of a workflow that passes the gate
  dispatches a destructive action if and only if none of the first three places
  holds one.
-/

namespace AppliverySoar.Workflows

open Async Prog Compliance

variable {E : Evaluator}

/-! ## Executions and destructive calls -/

/-- A call of `executeMdmAction` with a key whose `MDM_ACTIONS` entry is
destructive. -/
def DestructiveDispatch (c : EngineCall) : Prop :=
  ∃ req key, c = .executeMdmAction req ∧ req.actionKey = some key ∧ destructive key = true

/-- The executions of a workflow: a run of the in-memory engine over any
devices, or a device chain of the durable engine, fresh or resumed at any
step with any log. -/
inductive Execution where
  | inMemory (runId : String) (devices : List DeviceRef) (authorization slug : String)
      (targetDescription : Option String)
  | chain (runId : String) (device : DeviceRef) (authorization slug : String)
      (startStepId : Option String) (existingLog : List StepLogEntry)

/-- The program of an execution of `w`. -/
def Execution.program (E : Evaluator) (w : Workflow) : Execution → Engine E Unit
  | .inMemory runId devices authorization slug targetDescription =>
    executeWorkflowRun runId w devices authorization slug targetDescription
  | .chain runId device authorization slug startStepId existingLog => do
    let _ ← runDeviceStepChain
      { slug := slug, authorization := authorization, workflow := w, device := device
        runId := runId } startStepId existingLog
    return ()

/-- An action step that restores a firewall rule set, by a nested `runScript`. -/
def RestoresFirewall (s : WorkflowStep) : Prop :=
  s.type = .mdmAction ∧ s.config.action = some "restoreFirewallRuleSet" ∧
    (truthy s.config.params.ruleSetId).isSome

/-- An action step with a destructive key. -/
def DestructiveAction (s : WorkflowStep) : Prop :=
  s.type = .mdmAction ∧ ∃ key, s.config.action = some key ∧ destructive key = true

/-- A step that waits for a script of the library. -/
def WaitsForScript (s : WorkflowStep) : Prop :=
  s.type = .runScriptWait ∧ (truthy s.config.libraryId).isSome

/-- The Recovery gate is on, and there is a step in front of which it is asked. -/
def RecoveryReachable (w : Workflow) : Prop :=
  w.recovery.enabled = true ∧ (truthy w.recovery.compliancePolicyId).isSome ∧
    ∃ s, Runnable w s

/-- The workflow holds no destructive action where the gate does not look: no
step that can be run waits for a script or restores a firewall rule set, and
the recovery steps, if they can be run, do neither that nor a destructive
action. -/
def NothingHidden (w : Workflow) : Prop :=
  (∀ s, Runnable w s → ¬WaitsForScript s ∧ ¬RestoresFirewall s) ∧
    (RecoveryReachable w → ∀ s ∈ w.recovery.steps, ¬DestructiveAction s ∧ ¬RestoresFirewall s)

/-! ## What the shared parts dispatch -/

/-- The calls of a harmless execution. -/
abbrev Harmless (c : EngineCall) : Prop := ¬DestructiveDispatch c

theorem harmless_of_plain (c : EngineCall) (h : c.plain = true) : Harmless c := by
  rintro ⟨req, key, rfl, _⟩
  cases h

theorem harmless_of_serves (c : EngineCall) (h : c.serves = true) : Harmless c :=
  harmless_of_plain c (plain_of_serves c h)

variable {req : MdmRequest} {s : WorkflowStep} {env : StepEnv}

/-- An action whose key is neither destructive nor the firewall restore is
dispatched by one harmless call; the restore is too when it names no rule
set. -/
theorem harmless_executeMdmAction (hkey : ∀ key, req.actionKey = some key → destructive key = false)
    (hrestore : req.actionKey = some "restoreFirewallRuleSet" → truthy req.params.ruleSetId = none) :
    (executeMdmAction req : Engine E StepResult).Calls Harmless := by
  refine calls_executeMdmAction harmless_of_serves ?_ ?_
  · rintro ⟨req', key, hc, hk, hd⟩
    cases hc
    rw [hkey key hk] at hd
    cases hd
  · rintro (happly | hfire) hset
    · have hfalse := hkey _ happly
      rw [destructive_applyFirewallRuleSet] at hfalse
      cases hfalse
    · rw [hrestore hfire] at hset
      cases hset

/-- A step that neither is a destructive action nor restores a firewall rule
set is harmless. -/
theorem harmless_step
    (hd : ¬DestructiveAction s) (hr : ¬RestoresFirewall s) (htype : s.type = .mdmAction) :
    (executeMdmAction (env.mdmRequest s.config.action s.config.params none) :
      Engine E _).Calls Harmless := by
  refine harmless_executeMdmAction (fun key hkey => ?_) fun hkey => ?_
  · by_contra hne
    exact hd ⟨htype, key, hkey, by simpa using hne⟩
  · by_contra hne
    exact hr ⟨htype, hkey, Option.isSome_iff_ne_none.mpr hne⟩

/-! ## The engines dispatch nothing destructive -/

variable {w : Workflow}

theorem not_destructiveAction
    (hflag : workflowHasDestructiveStep (some w) = false) (hs : s ∈ w.steps) :
    ¬DestructiveAction s := by
  rintro ⟨htype, key, hkey, hd⟩
  rw [workflowHasDestructiveStep_eq_false.mp hflag s hs htype key hkey] at hd
  cases hd

section Covered

variable {env : StepEnv} {gate : Option (Gate E)} {s : WorkflowStep} {w : Workflow}

/-- What the loops of both engines need of the workflow and its gate. -/
structure Covered (w : Workflow) (gate : Option (Gate E)) : Prop where
  flag : workflowHasDestructiveStep (some w) = false
  nothingHidden : NothingHidden w
  on : gate.isSome → GateOn w

theorem Covered.recovery (h : Covered w gate)
    (hs : Runnable w s) (hgate : gate.isSome) :
    ∀ s ∈ w.recovery.steps, ¬DestructiveAction s ∧ ¬RestoresFirewall s :=
  h.nothingHidden.2 ⟨(h.on hgate).1, (h.on hgate).2, s, hs⟩

theorem Covered.executeStep (h : Covered env.workflow gate)
    (hs : Runnable env.workflow s) {otherwise : Engine E StepResult}
    (ho : otherwise.Calls Harmless) : (executeStep env s otherwise).Calls Harmless :=
  calls_executeStep harmless_of_serves
    (harmless_step (not_destructiveAction h.flag (stepsById_mem hs.1).1)
      (h.nothingHidden.1 s hs).2) ho

/-- The recovery phase is harmless: the gate covers the restore scripts, which
belong to `runScript` steps of `workflow.steps`. -/
theorem Covered.runRecoverySteps (h : Covered env.workflow gate)
    (hs : Runnable env.workflow s) (hgate : gate.isSome) (log : List StepLogEntry) :
    (runRecoverySteps env log : Engine E _).Calls Harmless := by
  have hsteps := h.recovery hs hgate
  refine calls_runRecoverySteps harmless_of_serves (fun t ht htype hrun => ?_)
    (fun t ht => harmless_step (hsteps t ht).1 (hsteps t ht).2) log
  exact absurd ⟨htype, _, hrun, destructive_runScript⟩ (not_destructiveAction h.flag ht)

theorem harmless_runForDeviceLoop (h : Covered env.workflow gate) (fuel : ℕ)
    (currentId : String) (log : List StepLogEntry) :
    (runForDeviceLoop env gate fuel currentId log).Calls Harmless := by
  induction fuel generalizing currentId log with
  | zero => exact calls_ret _
  | succ fuel ih =>
    unfold runForDeviceLoop
    split_ifs with hid
    · exact calls_ret _
    · split
      · exact calls_ret _
      · next s hs =>
        have hrun := runnable_of_found hid hs
        refine Ensures.bind (ensures_gate harmless_of_serves env gate)
          fun recovered hrec => ?_
        cases recovered with
        | true =>
          exact Calls.bind (h.runRecoverySteps hrun (hrec rfl) log) fun _ => calls_ret _
        | false =>
          exact Calls.bind
            (h.executeStep hrun (calls_inMemoryStep harmless_of_serves env s)) fun r => ih _ _

theorem harmless_executeWorkflowRun
    (hflag : workflowHasDestructiveStep (some w) = false) (hnone : NothingHidden w)
    (runId : String) (devices : List DeviceRef) (auth slug : String)
    (target : Option String) :
    (executeWorkflowRun runId w devices auth slug target : Engine E Unit).Calls Harmless := by
  unfold executeWorkflowRun
  refine Calls.bind (calls_ask harmless_of_serves rfl) fun _ => ?_
  refine Ensures.bind (ensures_loadGate harmless_of_serves slug w _) fun gate hgate => ?_
  refine Calls.bind (calls_ask harmless_of_serves rfl) fun _ => ?_
  refine Calls.bind (Calls.foldlM fun results device _ => ?_)
    fun _ => calls_call (harmless_of_plain _ rfl)
  refine Calls.bind ?_ fun _ => calls_ret _
  unfold runForDevice
  split
  · exact calls_ret _
  · exact Calls.bind (harmless_runForDeviceLoop ⟨hflag, hnone, hgate⟩ _ _ _)
      fun _ => calls_ret _

end Covered

section Durable

variable {env : ChainEnv} {gate : Option (Gate E)}

theorem recordCalls_harmless : RecordCalls Harmless where
  plain := harmless_of_plain
  upsert := by
    rintro row ⟨req, key, hc, _⟩
    cases hc
  create := by
    rintro data ⟨req, key, hc, _⟩
    cases hc

theorem harmless_runStep (h : Covered env.workflow gate) {s : WorkflowStep}
    (hs : Runnable env.workflow s) (currentId : String) :
    (runStep env s currentId : Engine E _).Calls Harmless := by
  unfold runStep
  split
  · exact calls_waitStep harmless_of_serves env s currentId
  · next htype =>
    unfold runScriptWaitStep
    split
    · exact calls_ret _
    · next libraryId hlib =>
      exact absurd ⟨htype, by simp [hlib]⟩ (h.nothingHidden.1 s hs).1
  · exact Calls.bind (h.executeStep hs (calls_durableStep harmless_of_serves env s))
      fun _ => calls_ret _

theorem harmless_runDeviceStepChain (hflag : workflowHasDestructiveStep (some env.workflow) = false)
    (hnone : NothingHidden env.workflow) (startStepId : Option String)
    (log : List StepLogEntry) :
    (runDeviceStepChain env startStepId log : Engine E _).Calls Harmless := by
  obtain ⟨rest, heq, hrest⟩ := calls_chain_rest (E := E) recordCalls_harmless env
    (fun gate hon authorization fuel id log => by
      have hcovered : Covered env.workflow gate := ⟨hflag, hnone, hon⟩
      refine calls_chainLoop recordCalls_harmless (fun s hs id => ?_) (fun s hs hgate log => ?_)
        _ _ _
      · exact harmless_runStep hcovered hs id
      · exact hcovered.runRecoverySteps hs hgate log) startStepId log
  rw [heq]
  refine Calls.bind (calls_call ?_) hrest
  rintro ⟨req, key, hc, _⟩
  cases hc

end Durable

/-! ## Where a destructive action is hidden, an execution dispatches it -/

theorem reaches_runScript (hkey : req.actionKey = some "runScript") :
    (executeRunScriptAction req : Engine E _).Reaches DestructiveDispatch :=
  Prog.Reaches.bind _ (Prog.reaches_call ⟨req, "runScript", rfl, hkey, destructive_runScript⟩)

theorem executeMdmAction_returns (req : MdmRequest) :
    ∃ r, (executeMdmAction req : Engine E StepResult).Returns r := by
  have hans : (ask (.executeMdmAction req) : Engine E _).Returns (some ⟨true, ""⟩) :=
    returns_call (S := engineSig E) (.executeMdmAction req) (some ⟨true, ""⟩)
  refine ⟨⟨true, ""⟩, ?_⟩
  unfold executeMdmAction
  by_cases hrun : req.actionKey = some "runScript"
  · rw [if_pos hrun]
    exact hans.bind (returns_ret _)
  · rw [if_neg hrun]
    exact hans.bind (returns_ret _)

theorem returns_ask (c : EngineCall) (a : c.Answer E) : (ask c : Engine E _).Returns a :=
  returns_call (S := engineSig E) c a

theorem executeStep_returns (env : StepEnv) (s : WorkflowStep) {otherwise : Engine E StepResult}
    (ho : ∃ r, otherwise.Returns r) : ∃ r, (executeStep env s otherwise).Returns r := by
  unfold executeStep
  split
  · exact executeMdmAction_returns _
  all_goals first | exact ho | exact ⟨(⟨true, ""⟩ : StepResult), returns_ask _ _⟩

/-- Restoring a firewall rule set nests a `runScript`. -/
theorem reaches_executeMdmAction_restore (hkey : req.actionKey = some "restoreFirewallRuleSet")
    (hset : (truthy req.params.ruleSetId).isSome) :
    (executeMdmAction req : Engine E _).Reaches DestructiveDispatch := by
  obtain ⟨ruleSetId, hset⟩ := Option.isSome_iff_exists.mp hset
  unfold executeMdmAction
  rw [if_neg (by simp [hkey])]
  refine (returns_ask (.executeMdmAction req) none).reaches_bind ?_
  refine Prog.Reaches.tryCatch _ ?_
  rw [if_neg (by simp [hkey]), if_pos hkey]
  unfold executeFirewallAction
  rw [hset]
  refine (returns_ask (.findFirewallRuleSet req.slug ruleSetId)
    (some ⟨ruleSetId, "", some "lib", some "lib"⟩)).reaches_bind ?_
  have hlib : truthy (some "lib") = some "lib" := by decide
  simp only [Bool.false_eq_true, if_false, hlib]
  exact (reaches_runScript rfl).bind _

/-- A step with a destructive key, or one that restores a firewall rule set,
dispatches a destructive action. -/
theorem reaches_executeStep
    (h : DestructiveAction s ∨ RestoresFirewall s) (otherwise : Engine E StepResult) :
    (executeStep env s otherwise).Reaches DestructiveDispatch := by
  rcases h with ⟨htype, key, hkey, hd⟩ | ⟨htype, hkey, hset⟩
  · unfold executeStep
    rw [htype]
    dsimp only
    unfold executeMdmAction executeRunScriptAction
    by_cases hrun : (env.mdmRequest s.config.action s.config.params none).actionKey =
        some "runScript"
    · rw [if_pos hrun]
      exact Prog.Reaches.bind _ (Prog.reaches_call ⟨_, key, rfl, hkey, hd⟩)
    · rw [if_neg hrun]
      exact Prog.Reaches.bind _ (Prog.reaches_call ⟨_, key, rfl, hkey, hd⟩)
  · unfold executeStep
    rw [htype]
    exact reaches_executeMdmAction_restore hkey hset

theorem loadGate_returns_none (slug : String) (w : Workflow) (ids : List String) :
    (loadGate slug w ids : Engine E _).Returns none := by
  unfold loadGate
  split
  · exact (returns_ask (.findCompliancePolicy slug _) none).bind (returns_ret _)
  · exact returns_ret _

/-- A gate whose policy has no conditions left. -/
def openGate (E : Evaluator) : Gate E where
  rule := { conditions := [], conditionLogic := "any" }
  ctx := { appLists := some E.noAppLists, geo := none }

theorem loadGate_returns_open (hon : GateOn w) (slug : String)
    (ids : List String) : (loadGate slug w ids : Engine E _).Returns (some (openGate E)) := by
  obtain ⟨henabled, hpolicy⟩ := hon
  obtain ⟨policyId, hpolicy⟩ := Option.isSome_iff_exists.mp hpolicy
  unfold loadGate
  rw [henabled, hpolicy]
  refine (returns_ask (.findCompliancePolicy slug policyId) (some (openGate E).rule)).bind ?_
  exact (returns_ask (.loadAppListsContext slug) E.noAppLists).bind (returns_ret _)

/-- A device without attributes. -/
def blankDevice (E : Evaluator) : Device E where
  id := ""
  displayName := ""
  serialNumber := ""
  platform := ""
  platformDeviceId := ""
  riskTier := none
  deviceAudiences := []
  segmentId := none
  facts := E.noFacts

theorem gateRecovered_openGate (env : StepEnv) : (gateRecovered env (openGate E)).Returns true := by
  unfold gateRecovered getFullDevice
  refine Prog.Returns.bind (a := some (blankDevice E))
    (Prog.Returns.tryCatch _ (returns_ask _ _)) ?_
  exact returns_ret true

theorem prepareChain_returns {env : ChainEnv} {gate : Option (Gate E)}
    (hgate : (loadGate env.slug env.workflow [env.device.id] : Engine E _).Returns gate)
    (startStepId : Option String) :
    ∃ authorization, (prepareChain env startStepId : Engine E _).Returns (gate, authorization) := by
  unfold prepareChain
  have hrest : ∀ authorization, (do
      let _ ← ask (.resolveOrgBase authorization env.slug)
      return (gate, authorization) : Engine E (Option (Gate E) × String)).Returns
        (gate, authorization) := fun authorization =>
    (returns_ask (.resolveOrgBase authorization env.slug) "").bind (returns_ret _)
  by_cases hstart : (truthy startStepId).isSome
  · refine ⟨orElse none env.authorization, ?_⟩
    refine (returns_ask .findGlobalWorkspaceState ()).bind (hgate.bind ?_)
    dsimp only
    rw [if_pos hstart]
    exact (returns_ask (.getAutomationBearer env.slug) none).bind (hrest _)
  · refine ⟨env.authorization, ?_⟩
    refine (returns_ask .findGlobalWorkspaceState ()).bind (hgate.bind ?_)
    dsimp only
    rw [if_neg hstart]
    exact hrest _

section Reached

variable {env : ChainEnv} {s : WorkflowStep} (hs : Runnable env.workflow s)
include hs

/-- Without a gate, a chain started at a step with an empty log runs the step. -/
theorem reaches_chainLoop_of_step
    (hreach : (runStep env s s.id : Engine E _).Reaches DestructiveDispatch) :
    (chainLoop env (none : Option (Gate E)) chainLimit s.id []).Reaches DestructiveDispatch := by
  unfold chainLimit chainLoop
  rw [if_neg (by simp [hs.2.1, hs.2.2]), hs.1]
  refine Prog.Returns.reaches_bind (a := .ok false) ⟨[], .refl _⟩ ?_
  exact hreach.attempt.bind _

/-- With a gate that finds the device recovered, it runs the recovery steps. -/
theorem reaches_chainLoop_of_recovery {t : WorkflowStep} (ht : t ∈ env.workflow.recovery.steps)
    (h : DestructiveAction t ∨ RestoresFirewall t) :
    (chainLoop env (some (openGate E)) chainLimit s.id []).Reaches DestructiveDispatch := by
  unfold chainLimit chainLoop
  rw [if_neg (by simp [hs.2.1, hs.2.2]), hs.1]
  refine (gateRecovered_openGate env.toStepEnv).attempt.reaches_bind ?_
  refine Prog.Reaches.bind _ (Prog.Reaches.attempt ?_)
  unfold runRecoverySteps
  refine (returns_ret []).reaches_bind ?_
  refine Prog.reaches_foldlM ht (fun out u => ?_) fun out => ?_
  · obtain ⟨r, hr⟩ := executeStep_returns env.toStepEnv u ⟨_, returns_ret _⟩
    exact ⟨_, hr.bind (returns_ret _)⟩
  · exact (reaches_executeStep h _).bind _

theorem reaches_chain {gate : Option (Gate E)}
    (hgate : (loadGate env.slug env.workflow [env.device.id] : Engine E _).Returns gate)
    (hloop : ∀ authorization, (chainLoop { env with authorization := authorization } gate
      chainLimit s.id []).Reaches DestructiveDispatch) :
    (runDeviceStepChain env (some s.id) [] : Engine E _).Reaches DestructiveDispatch := by
  obtain ⟨authorization, hprep⟩ := prepareChain_returns hgate (some s.id)
  unfold runDeviceStepChain
  refine (returns_ask (.beginChain env.runId env.device.id (some s.id)) ()).reaches_bind ?_
  have hmem := (stepsById_mem hs.1).1
  rcases hsteps : env.workflow.steps with _ | ⟨first, rest⟩
  · simp [hsteps] at hmem
  · refine hprep.attempt.reaches_bind ?_
    have hstart : orElse (some s.id) first.id = s.id := by simp [orElse, hs.2.1]
    rw [hstart]
    exact hloop authorization

end Reached

/-- What is hidden from the gate is dispatched by some execution. -/
theorem exists_dispatch_of_hidden (h : ¬NothingHidden w) :
    ∃ x : Execution, (x.program E w).Reaches DestructiveDispatch := by
  suffices H : ∃ (s : WorkflowStep) (gate : Option (Gate E)), Runnable w s ∧
      (loadGate "" w [""] : Engine E _).Returns gate ∧ ∀ authorization,
        (chainLoop { slug := "", authorization := authorization, workflow := w
                     device := { id := "", platform := "", platformDeviceId := "" }, runId := "" }
          gate chainLimit s.id []).Reaches DestructiveDispatch by
    obtain ⟨s, gate, hs, hgate, hloop⟩ := H
    refine ⟨.chain "" { id := "", platform := "", platformDeviceId := "" } "" "" (some s.id) [], ?_⟩
    exact (reaches_chain hs hgate hloop).bind _
  unfold NothingHidden at h
  by_cases hstep : ∀ s, Runnable w s → ¬WaitsForScript s ∧ ¬RestoresFirewall s
  · have hrec : ¬(RecoveryReachable w → ∀ s ∈ w.recovery.steps,
        ¬DestructiveAction s ∧ ¬RestoresFirewall s) := fun hrec => h ⟨hstep, hrec⟩
    push Not at hrec
    obtain ⟨⟨henabled, hpolicy, s, hs⟩, t, ht, hdanger⟩ := hrec
    refine ⟨s, some (openGate E), hs, loadGate_returns_open ⟨henabled, hpolicy⟩ _ _, ?_⟩
    intro authorization
    refine reaches_chainLoop_of_recovery hs ht ?_
    by_cases hd : DestructiveAction t
    · exact .inl hd
    · exact .inr (hdanger hd)
  · push Not at hstep
    obtain ⟨s, hs, hdanger⟩ := hstep
    refine ⟨s, none, hs, loadGate_returns_none _ _ _, fun authorization => ?_⟩
    refine reaches_chainLoop_of_step hs ?_
    by_cases hwait : WaitsForScript s
    · obtain ⟨htype, hlib⟩ := hwait
      obtain ⟨libraryId, hlib⟩ := Option.isSome_iff_exists.mp hlib
      unfold runStep
      rw [htype]
      dsimp only
      unfold runScriptWaitStep
      rw [hlib]
      refine (returns_ask .randomUUID "").reaches_bind ?_
      rw [executeMdmAction_runScript rfl]
      exact (reaches_runScript rfl).bind _
    · have hfire := hdanger hwait
      unfold runStep
      rw [hfire.1]
      exact (reaches_executeStep (.inr hfire) _).bind _

/-- The gate and the absence of hidden actions keep every execution harmless. -/
theorem harmless_of_nothingHidden
    (hflag : workflowHasDestructiveStep (some w) = false) (h : NothingHidden w) (x : Execution) :
    (x.program E w).Calls Harmless := by
  cases x with
  | inMemory runId devices authorization slug target =>
    exact harmless_executeWorkflowRun hflag h runId devices authorization slug target
  | chain runId device authorization slug startStepId existingLog =>
    refine Calls.bind ?_ fun _ => calls_ret _
    exact harmless_runDeviceStepChain hflag h startStepId existingLog

/-- **Main theorem on the destructive-step gate**: for a workflow that the gate
lets pass, no execution dispatches a destructive action if and only if the
workflow holds none where the gate does not look. -/
theorem no_destructive_dispatch_iff (E : Evaluator) (w : Workflow)
    (hflag : workflowHasDestructiveStep (some w) = false) :
    (∀ x : Execution, ¬(x.program E w).Reaches DestructiveDispatch) ↔ NothingHidden w := by
  constructor
  · intro hall
    by_contra hhidden
    obtain ⟨x, hx⟩ := exists_dispatch_of_hidden (E := E) hhidden
    exact hall x hx
  · intro h x
    exact (harmless_of_nothingHidden hflag h x).not_reaches

/-- A workflow with one notification step and a device wipe among its recovery
steps. -/
def wipeOnRecovery : Workflow where
  id := "w1"
  name := "Notify"
  steps := [{ id := "s1", type := .notification, name := "Notify" }]
  recovery :=
    { enabled := true
      compliancePolicyId := some "p1"
      steps := [{ id := "r1", type := .mdmAction, name := "Wipe"
                  config := { action := some "wipeDevice" } }] }

theorem no_destructive_dispatch_iff_wipeOnRecovery :
    workflowHasDestructiveStep (some wipeOnRecovery) = false ∧
      ((∀ x : Execution, ¬(x.program attributeEvaluator wipeOnRecovery).Reaches
        DestructiveDispatch) ↔ NothingHidden wipeOnRecovery) :=
  ⟨by decide, no_destructive_dispatch_iff attributeEvaluator wipeOnRecovery (by decide)⟩

/-- The gate lets `wipeOnRecovery` pass, and an execution of it wipes the
device. -/
theorem destructive_gate_passes_wipe : ¬∀ w : Workflow,
    workflowHasDestructiveStep (some w) = false →
      ∀ x : Execution, ¬(x.program attributeEvaluator w).Reaches DestructiveDispatch := by
  intro hall
  have hhidden : ¬NothingHidden wipeOnRecovery := by
    rintro ⟨-, hrec⟩
    have hreach : RecoveryReachable wipeOnRecovery :=
      ⟨rfl, by decide, { id := "s1", type := .notification, name := "Notify" },
        by decide, by decide, by decide⟩
    exact (hrec hreach { id := "r1", type := .mdmAction, name := "Wipe"
                         config := { action := some "wipeDevice" } } (by decide)).1
      ⟨rfl, "wipeDevice", rfl, by decide⟩
  obtain ⟨x, hx⟩ := exists_dispatch_of_hidden (E := attributeEvaluator) hhidden
  exact hall wipeOnRecovery (by decide) x hx

end AppliverySoar.Workflows
