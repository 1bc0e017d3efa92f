import AppliverySoar.Async.Logic
import AppliverySoar.Workflows.Durable

/-!
# The calls of the engines' parts

Which calls the shared parts of the two engines can come to make. All but a
few are `plain`: they neither dispatch an action nor touch the tables of
pending rows and results. The lemmas are over any set `okc` of calls that
contains the plain ones, so that each property of the engines has to look only
at the calls it is about.

Results:
* `calls_executeStep`, `calls_runRecoverySteps`: a step and the recovery phase
  make plain calls and those of the actions they dispatch.
* `calls_chainLoop`: a chain makes the calls of its steps and of the recovery
  phase, and records where it stands.
* `ensures_loadGate`, `ensures_gate`: there is a gate only where the workflow
  turns it on, and only a gate finds a device recovered.
-/

namespace AppliverySoar.Workflows

open Async Prog Compliance

/-- A call that neither dispatches an action nor touches pending rows or
results. -/
def EngineCall.plain : EngineCall → Bool
  | .beginChain .. | .executeMdmAction .. | .createPendingStep .. | .deletePendingStep ..
  | .claimDueSteps .. | .deleteByToken .. | .upsertRunResult .. => false
  | _ => true

/-- A plain call that neither reads nor writes a run. -/
def EngineCall.serves : EngineCall → Bool
  | .createRun _ | .findRun _ | .findRunResults _ | .completeRun .. => false
  | c => c.plain

theorem plain_of_serves (c : EngineCall) (h : c.serves = true) : c.plain = true := by
  cases c <;> first | rfl | cases h

section Serves

variable {E : Evaluator} {okc : EngineCall → Prop} (hserves : ∀ c, c.serves = true → okc c)
include hserves

theorem calls_ask {c : EngineCall} (h : c.serves = true) : (ask c : Engine E _).Calls okc :=
  calls_call (hserves c h)

variable {req : MdmRequest} {env : StepEnv}

theorem calls_executeRunScriptAction (h : okc (.executeMdmAction req)) :
    (executeRunScriptAction req : Engine E _).Calls okc := by
  unfold executeRunScriptAction
  refine Calls.bind (calls_call h) fun r => ?_
  cases r with
  | some r => exact calls_ret _
  | none => exact Calls.tryCatch (calls_ask hserves rfl) fun _ => calls_ret _

/-- The firewall branch dispatches the nested `runScript`, when the step names a
rule set. -/
theorem calls_executeFirewallAction (applying : Bool)
    (h : (truthy req.params.ruleSetId).isSome → ∀ lib, okc (.executeMdmAction
      { req with
        actionKey := some "runScript"
        params := { libraryId := some lib }
        resumeToken := none })) :
    (executeFirewallAction req applying : Engine E _).Calls okc := by
  unfold executeFirewallAction
  split
  · exact calls_ret _
  · next ruleSetId hset =>
    refine Calls.bind (calls_ask hserves rfl) fun ruleSet? => ?_
    cases ruleSet? with
    | none => exact calls_ret _
    | some ruleSet =>
      dsimp only
      split
      · exact calls_ret _
      · next lib _ =>
        refine Calls.bind
          (calls_executeRunScriptAction hserves (h (by simp [hset]) lib)) fun r => ?_
        by_cases hok : r.ok = true
        · rw [if_pos hok]
          exact Calls.bind (calls_ask hserves rfl) fun _ => calls_ret _
        · rw [if_neg hok]
          exact calls_ret _

/-- `executeMdmAction` enters itself with the key it is given and, for a
firewall rule set, with `runScript`. -/
theorem calls_executeMdmAction (h : okc (.executeMdmAction req))
    (hnested : req.actionKey = some "applyFirewallRuleSet" ∨
        req.actionKey = some "restoreFirewallRuleSet" →
      (truthy req.params.ruleSetId).isSome → ∀ lib, okc (.executeMdmAction
        { req with
          actionKey := some "runScript"
          params := { libraryId := some lib }
          resumeToken := none })) :
    (executeMdmAction req : Engine E _).Calls okc := by
  unfold executeMdmAction
  by_cases hrun : req.actionKey = some "runScript"
  · rw [if_pos hrun]
    exact calls_executeRunScriptAction hserves h
  · rw [if_neg hrun]
    refine Calls.bind (calls_call h) fun r => ?_
    cases r with
    | some r => exact calls_ret _
    | none =>
      refine Calls.tryCatch ?_ fun _ => calls_ret _
      split_ifs with happly hrestore
      · exact calls_executeFirewallAction hserves true (hnested (.inl happly))
      · exact calls_executeFirewallAction hserves false (hnested (.inr hrestore))
      · exact calls_ask hserves rfl

theorem calls_executeStep {s : WorkflowStep} {otherwise : Engine E StepResult}
    (hact : s.type = .mdmAction →
      (executeMdmAction (env.mdmRequest s.config.action s.config.params none) :
        Engine E _).Calls okc)
    (ho : otherwise.Calls okc) : (executeStep env s otherwise).Calls okc := by
  unfold executeStep
  split
  · next htype => exact hact htype
  all_goals first | exact ho | exact calls_ask hserves rfl

/-- The recovery phase dispatches the actions of its own steps and the restore
scripts of the `runScript` steps of `workflow.steps`. -/
theorem calls_runRecoverySteps
    (hrestore : ∀ s ∈ env.workflow.steps, s.type = .mdmAction →
      s.config.action = some "runScript" → ∀ lib,
        okc (.executeMdmAction (env.mdmRequest (some "runScript") { libraryId := some lib } none)))
    (hact : ∀ s ∈ env.workflow.recovery.steps, s.type = .mdmAction →
      (executeMdmAction (env.mdmRequest s.config.action s.config.params none) :
        Engine E _).Calls okc)
    (log : List StepLogEntry) : (runRecoverySteps env log : Engine E _).Calls okc := by
  unfold runRecoverySteps
  refine Calls.bind (Calls.foldlM fun out entry _ => ?_)
    fun out => Calls.foldlM fun out s hs => ?_
  · unfold reverseScript
    split
    · exact calls_ret _
    · next step hstep =>
      obtain ⟨id, _, hid⟩ := Option.bind_eq_some_iff.mp hstep
      split_ifs with hrun
      · split
        · exact calls_ret _
        · refine Calls.bind ?_ fun _ => calls_ret _
          rw [executeMdmAction_runScript rfl]
          exact calls_executeRunScriptAction hserves
            (hrestore step (stepsById_mem hid).1 hrun.1 hrun.2 _)
      · exact calls_ret _
  · unfold runRecoveryStep
    exact Calls.bind (calls_executeStep hserves (hact s hs) (calls_ret _))
      fun _ => calls_ret _

end Serves

/-! ## The gate -/

/-- The Recovery gate is configured. -/
def GateOn (w : Workflow) : Prop :=
  w.recovery.enabled = true ∧ (truthy w.recovery.compliancePolicyId).isSome

section ServesGate

variable {E : Evaluator} {okc : EngineCall → Prop} (hserves : ∀ c, c.serves = true → okc c)
include hserves

theorem ensures_loadGate (slug : String) (w : Workflow) (ids : List String) :
    (loadGate slug w ids : Engine E _).Ensures okc fun gate => gate.isSome → GateOn w := by
  unfold loadGate
  split
  · next policyId henabled hpolicy =>
    have hon : GateOn w := ⟨henabled, by simp [hpolicy]⟩
    refine Ensures.bind (calls_ask hserves rfl) fun rule? _ => ?_
    cases rule? with
    | none => simp
    | some rule =>
      refine Ensures.bind (calls_ask hserves rfl) fun _ _ => ?_
      split_ifs
      · refine Ensures.bind (calls_ask hserves rfl) fun _ _ => ?_
        exact Ensures.bind (calls_ask hserves rfl) fun _ _ _ => hon
      · exact fun _ => hon
  · simp

theorem calls_gateRecovered (env : StepEnv) (gate : Gate E) :
    (gateRecovered env gate).Calls okc := by
  unfold gateRecovered getFullDevice
  refine Calls.bind (Calls.tryCatch (calls_ask hserves rfl) fun _ => calls_ret _)
    fun full? => ?_
  cases full? with
  | none => exact calls_ret _
  | some full =>
    dsimp only
    split_ifs
    · exact Calls.bind (calls_ask hserves rfl) fun _ => calls_ret _
    · exact calls_ret _

theorem ensures_gate (env : StepEnv) (gate : Option (Gate E)) :
    (gate.elim (return false) (gateRecovered env) : Engine E Bool).Ensures okc
      fun recovered => recovered = true → gate.isSome := by
  cases gate with
  | none => simp
  | some g => exact (calls_gateRecovered hserves env g).mono fun r _ _ => by cases r <;> simp

theorem ensures_prepareChain (env : ChainEnv) (startStepId : Option String) :
    (prepareChain env startStepId : Engine E _).Ensures okc
      fun r => r.1.isSome → GateOn env.workflow := by
  unfold prepareChain
  refine Ensures.bind (calls_ask hserves rfl) fun _ _ => ?_
  refine Ensures.bind (ensures_loadGate hserves _ _ _) fun gate hgate => ?_
  dsimp only
  have hrest : ∀ authorization, (do
      let _ ← ask (.resolveOrgBase authorization env.slug)
      return (gate, authorization) : Engine E (Option (Gate E) × String)).Ensures okc
        fun r => r.1.isSome → GateOn env.workflow := fun authorization =>
    Ensures.bind (calls_ask hserves rfl) fun _ _ => hgate
  split_ifs
  · exact Ensures.bind (calls_ask hserves rfl) fun bearer _ => hrest _
  · exact hrest _

theorem calls_inMemoryStep (env : StepEnv) (s : WorkflowStep) :
    (inMemoryStep env s : Engine E _).Calls okc := by
  unfold inMemoryStep
  split
  · exact calls_ask hserves rfl
  all_goals exact calls_ret _

theorem calls_durableStep (env : ChainEnv) (s : WorkflowStep) :
    (durableStep env s : Engine E _).Calls okc := by
  unfold durableStep
  split
  · exact calls_ask hserves rfl
  · exact calls_ret _

theorem calls_waitStep (env : ChainEnv) (s : WorkflowStep) (currentId : String) :
    (waitStep env s currentId : Engine E _).Calls okc := by
  unfold waitStep
  split
  · exact calls_ret _
  · split_ifs
    · exact calls_ret _
    · exact Calls.bind (calls_ask hserves rfl) fun _ => calls_ret _

end ServesGate

variable {okc : EngineCall → Prop} {E : Evaluator}

theorem calls_finalizeRunIfDone
    (hplain : ∀ c, c.plain = true → okc c) (runId : String) :
    (finalizeRunIfDone runId : Engine E Unit).Calls okc := by
  have hask : ∀ {c : EngineCall}, c.plain = true → (ask c : Engine E _).Calls okc :=
    fun h => calls_call (hplain _ h)
  unfold finalizeRunIfDone
  refine Calls.bind (hask rfl) fun run? => ?_
  cases run? with
  | none => exact calls_ret _
  | some run =>
    dsimp only
    split_ifs
    · exact calls_ret _
    · refine Calls.bind (hask rfl) fun results => ?_
      cases run.total with
      | none => exact calls_ret _
      | some total =>
        dsimp only
        split_ifs
        · exact hask rfl
        · exact calls_ret _

/-! ## The chain of the durable engine -/

/-- A step that an execution can come to: it is found by its id, and its id does
not end the chain. -/
def Runnable (w : Workflow) (s : WorkflowStep) : Prop :=
  stepsById w.steps s.id = some s ∧ s.id ≠ "" ∧ s.id ≠ "end"

theorem runnable_of_found {w : Workflow} {id : String} {s : WorkflowStep}
    (hid : ¬(id = "" ∨ id = "end")) (hs : stepsById w.steps id = some s) : Runnable w s := by
  obtain ⟨_, rfl⟩ := stepsById_mem hs
  exact ⟨hs, fun h => hid (.inl h), fun h => hid (.inr h)⟩

/-- The plain calls, and those with which a chain records where it stands. -/
structure RecordCalls (okc : EngineCall → Prop) : Prop where
  plain : ∀ c, c.plain = true → okc c
  upsert : ∀ row, okc (.upsertRunResult row)
  create : ∀ data, okc (.createPendingStep data)

theorem RecordCalls.serves (h : RecordCalls okc) (c : EngineCall)
    (hc : c.serves = true) : okc c :=
  h.plain c (plain_of_serves c hc)

section Record

variable {E : Evaluator} {okc : EngineCall → Prop} (hrecord : RecordCalls okc) (env : ChainEnv)
  (log : List StepLogEntry)
include hrecord

theorem calls_upsertRunResult (runId : String) (device : DeviceRef) (log : List StepLogEntry)
    (status : ResultStatus) (final : Option FinalStatus) :
    (upsertRunResult runId device log status final : Engine E Unit).Calls okc :=
  calls_call (hrecord.upsert _)

theorem calls_recordFailure (e : JsError) :
    (recordFailure env log e : Engine E _).Calls okc := by
  unfold recordFailure
  refine Calls.bind (Calls.tryCatch (calls_upsertRunResult hrecord _ _ _ _ _)
    fun _ => calls_ret _) fun _ => ?_
  exact Calls.bind (Calls.tryCatch (calls_finalizeRunIfDone hrecord.plain _)
    fun _ => calls_ret _) fun _ => calls_ret _

theorem calls_recordDone :
    (recordDone env log : Engine E _).Calls okc := by
  unfold recordDone
  refine Calls.bind (Calls.attempt (Calls.bind
    (calls_upsertRunResult hrecord _ _ _ _ _)
    fun _ => calls_finalizeRunIfDone hrecord.plain _)) fun outcome => ?_
  cases outcome with
  | ok _ => exact calls_ret _
  | error e => exact calls_recordFailure hrecord env log e

theorem calls_park (data : PendingData) :
    (park env log data : Engine E _).Calls okc := by
  unfold park
  refine Calls.bind (Calls.attempt (Calls.bind
    (calls_call (hrecord.create _))
    fun _ => calls_upsertRunResult hrecord _ _ _ _ _)) fun outcome => ?_
  cases outcome with
  | ok _ => exact calls_ret _
  | error e => exact calls_recordFailure hrecord env log e

theorem calls_recordBlocked (row : PendingData) (log : List StepLogEntry) :
    (recordBlocked row log : Engine E _).Calls okc :=
  Calls.bind (calls_upsertRunResult hrecord _ _ _ _ _)
    fun _ => calls_finalizeRunIfDone hrecord.plain _

/-- A chain makes the calls of its steps and, behind a gate, of the recovery
phase, and records where it stands. -/
theorem calls_chainLoop {env : ChainEnv} {gate : Option (Gate E)}
    (hstep : ∀ s, Runnable env.workflow s → ∀ id, (runStep env s id : Engine E _).Calls okc)
    (hrec : ∀ s, Runnable env.workflow s → gate.isSome → ∀ log,
      (runRecoverySteps env.toStepEnv log : Engine E _).Calls okc)
    (fuel : ℕ) (currentId : String) (log : List StepLogEntry) :
    (chainLoop env gate fuel currentId log).Calls okc := by
  induction fuel generalizing currentId log with
  | zero => exact calls_recordDone hrecord env log
  | succ fuel ih =>
    unfold chainLoop
    split_ifs with hid
    · exact calls_recordDone hrecord env log
    · split
      · exact calls_recordDone hrecord env log
      · next s hs =>
        have hrun := runnable_of_found hid hs
        refine Ensures.bind (ensures_gate hrecord.serves env.toStepEnv gate).attempt
          fun recovered hgate => ?_
        rcases recovered with e | ⟨_ | _⟩
        · exact calls_recordFailure hrecord env log e
        · refine Calls.bind (Calls.attempt (hstep s hrun currentId))
            fun outcome => ?_
          rcases outcome with e | ⟨r | ⟨entry, data⟩⟩
          · exact calls_recordFailure hrecord env log e
          · exact ih _ _
          · exact calls_park hrecord env _ _
        · refine Calls.bind (Calls.attempt (hrec s hrun (hgate true rfl rfl) log))
            fun outcome => ?_
          rcases outcome with e | recoveryLog
          · exact calls_recordFailure hrecord env log e
          · exact calls_recordDone hrecord env _

theorem calls_chain_rest
    (hloop : ∀ gate : Option (Gate E), (gate.isSome → GateOn env.workflow) →
      ∀ authorization fuel id log, (chainLoop { env with authorization := authorization } gate
        fuel id log).Calls okc)
    (startStepId : Option String) (log : List StepLogEntry) :
    ∃ rest : Unit → Engine E ChainResult,
      runDeviceStepChain env startStepId log =
        ask (.beginChain env.runId env.device.id startStepId) >>= rest ∧
      ∀ u, (rest u).Calls okc := by
  refine ⟨_, rfl, fun _ => ?_⟩
  split
  · refine Calls.bind (calls_upsertRunResult hrecord _ _ _ _ _) fun _ => ?_
    exact Calls.bind (calls_finalizeRunIfDone hrecord.plain _) fun _ => calls_ret _
  · refine Ensures.bind (ensures_prepareChain hrecord.serves env startStepId).attempt
      fun r hr => ?_
    rcases r with e | ⟨gate, authorization⟩
    · exact calls_recordFailure hrecord env log e
    · exact hloop gate (hr _ rfl) _ _ _ _

end Record

/-! ## Any step -/

/-- The plain calls and the entries of `executeMdmAction`: what a step makes. -/
structure StepCalls (okc : EngineCall → Prop) : Prop where
  plain : ∀ c, c.plain = true → okc c
  action : ∀ req, okc (.executeMdmAction req)

/-- The same without the calls that read or write a run. -/
structure ServeCalls (okc : EngineCall → Prop) : Prop where
  serves : ∀ c, c.serves = true → okc c
  action : ∀ req, okc (.executeMdmAction req)

theorem StepCalls.serve (h : StepCalls okc) : ServeCalls okc :=
  ⟨fun c hc => h.plain c (plain_of_serves c hc), h.action⟩

section AnyStep

variable {E : Evaluator} {okc : EngineCall → Prop} (hstep : ServeCalls okc)
include hstep

theorem calls_anyMdmAction (req : MdmRequest) : (executeMdmAction req : Engine E _).Calls okc :=
  calls_executeMdmAction hstep.serves (hstep.action req) fun _ _ _ => hstep.action _

theorem calls_runStep (env : ChainEnv) (s : WorkflowStep) (currentId : String) :
    (runStep env s currentId : Engine E _).Calls okc := by
  unfold runStep
  split
  · exact calls_waitStep hstep.serves env s currentId
  · unfold runScriptWaitStep
    split
    · exact calls_ret _
    · refine Calls.bind (calls_ask hstep.serves rfl) fun _ => ?_
      refine Calls.bind (calls_anyMdmAction hstep _) fun r => ?_
      split_ifs
      · exact Calls.bind (calls_ask hstep.serves rfl) fun _ => calls_ret _
      · exact calls_ret _
  · exact Calls.bind (calls_executeStep hstep.serves (fun _ => calls_anyMdmAction hstep _)
      (calls_durableStep hstep.serves env s)) fun _ => calls_ret _

theorem calls_anyRecoverySteps (env : StepEnv) (log : List StepLogEntry) :
    (runRecoverySteps env log : Engine E _).Calls okc :=
  calls_runRecoverySteps hstep.serves (fun _ _ _ _ _ => hstep.action _)
    (fun _ _ _ => calls_anyMdmAction hstep _) log

end AnyStep

/-! ## Everything below the entry of a chain -/

/-- The entry of a chain. -/
def EngineCall.begins : EngineCall → Bool
  | .beginChain .. => true
  | _ => false

/-- A call below the entry of a chain. -/
abbrev Inner (c : EngineCall) : Prop := c.begins = false

theorem inner_of_plain (c : EngineCall) (h : c.plain = true) : Inner c := by
  cases c <;> first | rfl | cases h

theorem stepCalls_inner : StepCalls Inner := ⟨inner_of_plain, fun _ => rfl⟩

theorem recordCalls_inner : RecordCalls Inner :=
  ⟨inner_of_plain, fun _ => rfl, fun _ => rfl⟩

/-- A chain enters itself once, and then makes inner calls only. -/
theorem runDeviceStepChain_eq (env : ChainEnv) (startStepId : Option String)
    (log : List StepLogEntry) : ∃ rest : Unit → Engine E ChainResult,
      runDeviceStepChain env startStepId log =
        ask (.beginChain env.runId env.device.id startStepId) >>= rest ∧
      ∀ u, (rest u).Calls Inner := by
  refine calls_chain_rest recordCalls_inner env (fun gate _ authorization fuel id log => ?_) _ _
  exact calls_chainLoop recordCalls_inner (fun s _ id => calls_runStep stepCalls_inner.serve _ s id)
    (fun _ _ _ log => calls_anyRecoverySteps stepCalls_inner.serve _ log) _ _ _

end AppliverySoar.Workflows
