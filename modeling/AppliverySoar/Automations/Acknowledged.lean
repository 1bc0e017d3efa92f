import AppliverySoar.Automations.Paths
import AppliverySoar.Compliance.AutoRunGate

/-!
# Destructive workflows that are started without a person

A compliance policy, a case auto-run rule and a webhook rule each carry
`autoRunDestructiveAck`, and a workflow `allowUnattendedDestructive`. The first
three paths look at the acknowledgement of the row they have read, together with
the workflow as they have read it, so that an edit of the workflow is seen.
`fireTrigger` looks at neither flag.

Results:
* `meets_compliance`, `meets_caseAutorun`, `meets_webhook`: the launches of
  these paths are acknowledged.
* `acknowledged_launches`: which launches are acknowledged when they are made.
-/

namespace AppliverySoar.Automations

open Async Prog Access Compliance Workflows
open Js (Value Runtime)

variable {E : Evaluator} {rt : Runtime} {stores : ℕ → Store E} {path : LaunchPath E} {slug : String}
  {ws : WorkspaceStore E} {c : AutomationCall E}

/-! ## Acknowledgements -/

/-- The acknowledgement that a launch of the path needs is set: that of the
policy or rule it is made for, or the flag of a trigger's workflow. -/
def WorkspaceStore.Acknowledges (ws : WorkspaceStore E) (path : LaunchPath E)
    (pair : Option (String × String)) (workflow : Workflow) : Prop :=
  match path with
  | .compliance .. =>
    ∃ p ∈ ws.policies, pair.map Prod.fst = some p.id ∧ p.autoRunDestructiveAck = true
  | .caseAutorun .. =>
    ∃ rule ∈ ws.caseAutoRunRules, pair.map Prod.fst = some rule.id ∧
      rule.autoRunDestructiveAck = true
  | .webhook .. =>
    ∃ rule ∈ ws.webhookRules, pair.map Prod.fst = some rule.actionKey ∧
      rule.autoRunDestructiveAck = true
  | .trigger .. =>
    ∃ stored, ws.findWorkflow workflow.id = some stored ∧ stored.allowUnattendedDestructive = true

/-- A call of the path that launches a destructive workflow is acknowledged in
the store. -/
def Store.Acknowledged (st : Store E) (path : LaunchPath E) : AutomationCall E → Prop
  | .service slug (.startWorkflowRun pair _ workflow _) =>
    workflowHasDestructiveStep (some workflow) = true →
      (st.workspace slug).Acknowledges path pair workflow
  | _ => True

/-- Every launch of a destructive workflow that the path can come to is
acknowledged in the store as it stands at the launch. -/
def LaunchesAcknowledged (rt : Runtime) (stores : ℕ → Store E) (path : LaunchPath E) : Prop :=
  ∀ es c k, Prog.Steps (path.run rt) es (.await c k) →
    (automationWorld stores).Accepts 0 es → (stores es.length).Acknowledged path c

/-- What is acknowledged among the rows that the path goes by is still there, and
acknowledged. -/
def WorkspaceStore.KeptIn (path : LaunchPath E) (before after : WorkspaceStore E) : Prop :=
  match path with
  | .compliance .. => ∀ p ∈ before.policies, p.autoRunDestructiveAck = true →
    ∃ q ∈ after.policies, q.id = p.id ∧ q.autoRunDestructiveAck = true
  | .caseAutorun .. => ∀ r ∈ before.caseAutoRunRules, r.autoRunDestructiveAck = true →
    ∃ q ∈ after.caseAutoRunRules, q.id = r.id ∧ q.autoRunDestructiveAck = true
  | .webhook .. => ∀ r ∈ before.webhookRules, r.autoRunDestructiveAck = true →
    ∃ q ∈ after.webhookRules, q.actionKey = r.actionKey ∧ q.autoRunDestructiveAck = true
  | .trigger .. => True

/-- The workspace whose rows the path goes by. -/
def LaunchPath.GoesBy (stores : ℕ → Store E) : LaunchPath E → String → Prop
  | .compliance own _, slug => slug = own
  | .caseAutorun _ own _ _, slug => slug = own
  | .webhook _ secret _, slug =>
    ∃ config ∈ (stores 0).webhookConfigs, secret = config.secret ∧ slug = config.workspaceSlug
  | .trigger .., _ => False

/-- The number of the call with which the path reads these rows. -/
def LaunchPath.readCall : LaunchPath E → ℕ
  | .webhook .. => 1
  | _ => 0

/-- No acknowledgement that the path has read is withdrawn while it runs. -/
def AcknowledgementsKept (stores : ℕ → Store E) (path : LaunchPath E) : Prop :=
  ∀ slug m, path.GoesBy stores slug → path.readCall ≤ m →
    ((stores path.readCall).workspace slug).KeptIn path ((stores m).workspace slug)

/-- The number of the call with which `fireTrigger` starts the engine. -/
def startCall (workflow : Workflow) : ℕ :=
  if workflow.steps.any WorkflowStep.waits then 6 else 5

/-- The path is the fire of a trigger, with its secret and while it is enabled,
whose workflow is destructive and not flagged when the engine is started; a
trigger that looks for a device is given something to look for. -/
def FiresUnacknowledged (rt : Runtime) (stores : ℕ → Store E) : LaunchPath E → Prop
  | .trigger triggerId secret body =>
    ∃ trigger stored, (stores 0).findTrigger triggerId = some trigger ∧
      secret = trigger.secret ∧ trigger.enabled = true ∧
      ((stores 1).workspace trigger.workspaceSlug).findWorkflow trigger.workflowId =
        some stored ∧
      workflowHasDestructiveStep (some stored.toWorkflow) = true ∧
      (truthy trigger.deviceLookupField ≠ none →
        triggerLookupValue rt trigger.deviceLookupField body ≠ none) ∧
      ¬((stores (startCall stored.toWorkflow)).workspace trigger.workspaceSlug).Acknowledges
        (.trigger triggerId secret body : LaunchPath E) none stored.toWorkflow
  | _ => False

/-- The launches of a function that is called as part of the path are
acknowledged, from the call with the number `n` on. -/
abbrev Vetted (stores : ℕ → Store E) (path : LaunchPath E) {α : Type} (p : Automation E α)
    (n : ℕ) : Prop :=
  p.Meets (automationWorld stores) (fun m c => (stores m).Acknowledged path c) n fun _ _ => True

theorem launchesAcknowledged_of_meets (h : Vetted stores path (path.run rt) 0) :
    LaunchesAcknowledged rt stores path := by
  intro es c k hsteps haccepts
  have hok := h.ok_of_steps hsteps haccepts
  rwa [automationWorld_after, Nat.zero_add] at hok

/-! ## Launches for a row that has been read -/

/-- The call launches no destructive workflow, or it does so for a row of the
workspace that is acknowledged. -/
def Backed (path : LaunchPath E) (slug : String) (ws : WorkspaceStore E) :
    AutomationCall E → Prop
  | .service slug' (.startWorkflowRun pair _ workflow _) =>
    workflowHasDestructiveStep (some workflow) = true →
      slug' = slug ∧ ws.Acknowledges path pair workflow
  | _ => True

/-- An acknowledgement that is kept until the launch stands at the launch. -/
theorem acknowledged_of_backed {st : Store E}
    (hpath : ∀ id secret body, path ≠ .trigger id secret body)
    (hkept : ws.KeptIn path (st.workspace slug))
    (h : Backed path slug ws c) : st.Acknowledged path c := by
  unfold Backed at h
  unfold Store.Acknowledged
  split at h
  · intro hw
    obtain ⟨rfl, hack⟩ := h hw
    cases path with
    | compliance _ _ =>
      obtain ⟨p, hp, hid, hpack⟩ := hack
      obtain ⟨q, hq, hqid, hqack⟩ := hkept p hp hpack
      exact ⟨q, hq, hqid ▸ hid, hqack⟩
    | caseAutorun _ _ _ _ =>
      obtain ⟨r, hr, hid, hrack⟩ := hack
      obtain ⟨q, hq, hqid, hqack⟩ := hkept r hr hrack
      exact ⟨q, hq, hqid ▸ hid, hqack⟩
    | webhook _ _ _ =>
      obtain ⟨r, hr, hid, hrack⟩ := hack
      obtain ⟨q, hq, hqid, hqack⟩ := hkept r hr hrack
      exact ⟨q, hq, hqid ▸ hid, hqack⟩
    | trigger id secret body => exact absurd rfl (hpath id secret body)
  · trivial

/-- What is called for the rows that the path has read is acknowledged from
there on. -/
theorem meets_of_backed {α : Type} (hkept : AcknowledgementsKept stores path)
    (hpath : ∀ id secret body, path ≠ .trigger id secret body)
    (hslug : path.GoesBy stores slug) {n : ℕ} (hn : path.readCall ≤ n) {p : Automation E α}
    (h : p.Calls (Backed path slug ((stores path.readCall).workspace slug))) :
    Vetted stores path p n :=
  ((h.meets_counted (fun _ _ _ => rfl) n).weaken fun _ _ hc =>
    acknowledged_of_backed hpath (hkept slug _ hslug (hn.trans hc.1)) hc.2).mono
      fun _ _ _ => trivial

theorem within_ask (slug : String) (c : ServiceCall E) :
    within slug (Compliance.ask c) = (ask (.service slug c) : Automation E _) := by
  unfold within Compliance.ask ask Prog.call
  rw [Prog.embed_await]
  congr 1
  funext r
  cases r <;> rfl

theorem meets_read {β : Type} {f : AutomationCall.Answer c → Automation E β}
    {n : ℕ} (hok : (stores n).Acknowledged path c)
    (hf : ∀ a, (stores n).Answers c a → Vetted stores path (f a) (n + 1)) :
    Vetted stores path (ask c >>= f) n := by
  refine ⟨hok, fun r hr => ?_⟩
  cases r with
  | ok a => exact hf a (hr a rfl)
  | error e => trivial

/-! ## The compliance pass -/

theorem meets_compliance {req : EvaluationRequest}
    (hkept : AcknowledgementsKept stores (.compliance slug req)) :
    Vetted stores (.compliance slug req) ((LaunchPath.compliance slug req).run rt) 0 := by
  have hrest : ∀ all, all = ((stores 0).workspace slug).policies →
      (within slug (if (req.policies all).isEmpty then pure { evaluatedPolicies := 0 }
        else do
          let fleet ← loadFleet req (req.policies all)
          evaluateFleet req (req.policies all) fleet) : Automation E _).Calls
        (Backed (.compliance slug req) slug ((stores 0).workspace slug)) := by
    rintro all rfl
    refine Calls.embed ((calls_evaluatePolicies req _).widen fun c hc => ?_)
    cases c <;> first | trivial | exact fun hw => ⟨rfl, hc hw⟩
  show Vetted stores _ (within slug (runComplianceEvaluation req) >>= fun _ => pure ()) 0
  unfold runComplianceEvaluation within
  rw [Prog.embed_bind, Prog.bind_assoc]
  have hread : ((Compliance.ask .findPolicies : Service E _).embed (inWorkspace E slug)) =
      (ask (.service slug .findPolicies) : Automation E _) := within_ask slug .findPolicies
  rw [hread]
  refine meets_read trivial fun all hall => ?_
  exact meets_of_backed hkept (fun _ _ _ h => by cases h) rfl (Nat.zero_le 1)
    (Calls.bind (hrest all hall) fun _ => calls_ret _)

/-! ## Launches of the webhooks and rules -/

section Rules

variable {slug : String} {ws : WorkspaceStore E}

variable {workflow : StoredWorkflow} {rule : AppliveryWebhookRule} {body : Value}

/-- A launch with a pair that the row of the workspace gives, for a workflow
that is not destructive or a row that is acknowledged. -/
theorem calls_launch {pair : Option (String × String)}
    (h : workflowHasDestructiveStep (some workflow.toWorkflow) = true →
      ws.Acknowledges path pair workflow.toWorkflow) (devices : List DeviceRef) :
    (launch slug pair workflow devices : Automation E _).Calls (Backed path slug ws) := by
  have hstart : ∀ runId, (Compliance.ask (.startWorkflowRun pair runId workflow.toWorkflow
      devices) : Service E Unit).Calls fun c => Backed path slug ws (.service slug c) :=
    fun runId => Compliance.calls_ask fun hw => ⟨rfl, h hw⟩
  refine Calls.embed ?_
  unfold launchWorkflowRun
  refine Calls.bind (Compliance.calls_ask trivial) fun runId => ?_
  split_ifs
  · refine Calls.bind (Compliance.calls_ask trivial) fun _ => ?_
    exact Calls.bind (hstart runId) fun _ => Compliance.calls_ask trivial
  · exact Calls.bind (hstart runId) fun _ => calls_ret _

theorem acknowledged_of_gate {ack : Bool}
    (hgate : ¬(workflowHasDestructiveStep (some workflow.toWorkflow) && !ack) = true)
    (hw : workflowHasDestructiveStep (some workflow.toWorkflow) = true) : ack = true := by
  simpa [hw] using hgate

theorem calls_runCaseRule {nowIso authorization deviceId : String} {kase : CaseAutorunTarget}
    {auth : Option String} {rule : CaseAutoRunRule} (hmem : rule ∈ ws.caseAutoRunRules) :
    (runCaseRule rt nowIso slug authorization kase deviceId rule : Automation E _).Calls
      (Backed (.caseAutorun nowIso slug kase auth) slug ws) := by
  unfold runCaseRule
  refine Calls.bind (calls_ask trivial) fun found => ?_
  rcases found with _ | workflow
  · exact calls_ret _
  refine Calls.guard fun hgate => ?_
  refine Calls.ite (fun _ => ?_) fun _ => ?_
  · exact Calls.bind (calls_ask trivial) fun _ => calls_ret _
  refine Calls.bind (calls_ask trivial) fun items => ?_
  split
  · exact calls_ret _
  refine Calls.bind (calls_launch ?_ _) fun record => ?_
  · exact fun hw => ⟨rule, hmem, rfl, acknowledged_of_gate hgate hw⟩
  rcases record with _ | runRecord
  · exact calls_ret _
  refine Calls.bind (calls_ask trivial) fun _ => ?_
  exact Calls.bind (calls_ask trivial) fun _ => calls_ret _

theorem calls_appendEvent (event : AppliveryWebhookEventRecord) :
    (appendEvent slug event : Automation E Unit).Calls (Backed path slug ws) := by
  unfold appendEvent
  refine Calls.bind (calls_ask trivial) fun config => ?_
  rcases config with _ | config
  · exact calls_ret _
  · exact calls_ask trivial

theorem calls_syncEnrolled (enrolled : Bool) :
    (syncEnrolled slug enrolled : Automation E Bool).Calls (Backed path slug ws) := by
  unfold syncEnrolled
  refine Calls.ite (fun _ => ?_) fun _ => calls_ret _
  refine Calls.bind (calls_ask trivial) fun bearer => ?_
  split
  · exact calls_ret _
  · exact Calls.bind (Calls.tryCatch (calls_ask trivial) fun _ => calls_ret _)
      fun _ => calls_ret _

theorem calls_matchDevice (body : Value) (auth : Option String) :
    (matchDevice rt slug body auth : Automation E _).Calls (Backed path slug ws) := by
  rcases auth with _ | auth
  · exact calls_ret _
  · exact Calls.tryCatch (Calls.bind (calls_ask trivial) fun _ => calls_ret _)
      fun _ => calls_ret _

theorem calls_openWebhookCase (rule : AppliveryWebhookRule) (device : Option FleetDevice) :
    (openWebhookCase slug rule device : Automation E _).Calls (Backed path slug ws) := by
  unfold openWebhookCase
  refine Calls.ite (fun _ => ?_) fun _ => calls_ret _
  refine Calls.bind (calls_ask trivial) fun _ => ?_
  refine Calls.bind (calls_ask trivial) fun _ => ?_
  exact Calls.bind (calls_ask trivial) fun _ => calls_ret _

theorem calls_runWebhookWorkflow {nowIso secret : String}
    (hmem : rule.autoRunDestructiveAck = true → rule ∈ ws.webhookRules)
    (auth : Option String) (device : Option FleetDevice) (caseId : Option String) :
    (runWebhookWorkflow slug rule auth device caseId : Automation E _).Calls
      (Backed (.webhook nowIso secret body) slug ws) := by
  unfold runWebhookWorkflow
  split
  · refine Calls.bind (calls_ask trivial) fun found => ?_
    rcases found with _ | workflow
    · exact calls_ret _
    refine Calls.guard fun _ => ?_
    refine Calls.ite (fun _ => ?_) fun hgate => ?_
    · exact Calls.bind (calls_ask trivial) fun _ => calls_ret _
    refine Calls.bind (calls_launch ?_ _) fun record => ?_
    · intro hw
      have hack := acknowledged_of_gate hgate hw
      exact ⟨rule, hmem hack, rfl, hack⟩
    rcases record with _ | runRecord
    · exact calls_ret _
    refine Calls.bind (Calls.embed ((calls_linkRun _ _).widen fun c hc => ?_))
      fun _ => calls_ret _
    cases c <;> trivial
  · exact calls_ret _

theorem calls_handleEvent {nowIso secret rawAction : String}
    {config : AppliveryWebhookConfig}
    (hmem : rule.autoRunDestructiveAck = true → rule ∈ ws.webhookRules) :
    (handleEvent rt nowIso config rawAction body rule : Automation E _).Calls
      (Backed (.webhook nowIso secret body) config.workspaceSlug ws) := by
  unfold handleEvent
  refine Calls.bind (calls_ask trivial) fun eventId => ?_
  refine Calls.bind (calls_syncEnrolled _) fun synced => ?_
  refine Calls.ite (fun _ => ?_) fun _ => ?_
  · refine Calls.bind (calls_appendEvent _) fun _ => ?_
    exact Calls.bind (calls_ask trivial) fun _ => calls_ret _
  refine Calls.bind (calls_ask trivial) fun bearer => ?_
  refine Calls.bind (calls_matchDevice _ _) fun device => ?_
  refine Calls.bind (calls_openWebhookCase _ _) fun caseId => ?_
  refine Calls.bind (calls_runWebhookWorkflow hmem _ _ _) fun ran => ?_
  refine Calls.bind (calls_appendEvent _) fun _ => ?_
  exact Calls.bind (calls_ask trivial) fun _ => calls_ret _

end Rules

theorem meets_caseAutorun {nowIso slug : String} {kase : CaseAutorunTarget} {auth : Option String}
    (hkept : AcknowledgementsKept stores (.caseAutorun nowIso slug kase auth)) :
    Vetted stores (.caseAutorun nowIso slug kase auth)
      ((LaunchPath.caseAutorun nowIso slug kase auth).run rt) 0 := by
  show Vetted stores _ (tryCaseAutorun rt nowIso slug kase auth >>= fun _ => pure ()) 0
  unfold tryCaseAutorun
  split
  · rw [Prog.bind_assoc]
    refine meets_read trivial fun rules hrules => ?_
    refine meets_of_backed hkept (fun _ _ _ h => by cases h) rfl (Nat.zero_le 1)
      (Calls.bind ?_ fun _ => calls_ret _)
    split
    · exact calls_ret _
    · next rule hrule =>
      have hmem := List.mem_of_find?_eq_some hrule
      rw [show rules = _ from hrules] at hmem
      exact calls_runCaseRule hmem
  · trivial

theorem mem_of_findWebhookRule {actionKey : String}
    {rule : AppliveryWebhookRule} (h : ws.findWebhookRule actionKey = some rule) :
    rule ∈ ws.webhookRules :=
  List.mem_of_find?_eq_some h

theorem meets_webhook {nowIso secret : String} {body : Value}
    (hkept : AcknowledgementsKept stores (.webhook nowIso secret body)) :
    Vetted stores (.webhook nowIso secret body)
      ((LaunchPath.webhook nowIso secret body).run rt) 0 := by
  have hpath : ∀ id s b, (.webhook nowIso secret body : LaunchPath E) ≠ .trigger id s b :=
    fun _ _ _ h => by cases h
  show Vetted stores _ (receiveAppliveryWebhook rt nowIso secret body >>= fun _ => pure ()) 0
  unfold receiveAppliveryWebhook
  rw [Prog.bind_assoc]
  refine meets_read trivial fun configs hconfigs => ?_
  split
  · trivial
  · next config hconfig =>
    have hslug : (LaunchPath.webhook nowIso secret body : LaunchPath E).GoesBy stores
        config.workspaceSlug := by
      rw [show configs = _ from hconfigs] at hconfig
      exact ⟨config, List.mem_of_find?_eq_some hconfig, by simpa using List.find?_some hconfig, rfl⟩
    unfold findOrCreateRule
    simp only [Prog.bind_assoc]
    refine meets_read trivial fun found hfound => ?_
    rcases found with _ | rule
    · -- a rule that has just been created is not acknowledged
      simp only [Prog.bind_assoc]
      refine meets_read trivial fun _ _ => ?_
      rw [pure_bind]
      exact meets_of_backed hkept hpath hslug (Nat.le_add_left 1 2)
        (Calls.bind (calls_handleEvent fun h => by cases h) fun _ => calls_ret _)
    · have hmem : rule ∈ ((stores 1).workspace config.workspaceSlug).webhookRules :=
        mem_of_findWebhookRule hfound.symm
      simp only [pure_bind]
      exact meets_of_backed hkept hpath hslug (Nat.le_succ 1)
        (Calls.bind (calls_handleEvent fun _ => hmem) fun _ => calls_ret _)

/-! ## The trigger -/

section TriggerPath

variable {triggerId secret : String} {body : Value} {α : Type}

/-- A call that launches nothing. -/
def Launchless : AutomationCall E → Prop
  | .service _ (.startWorkflowRun ..) => False
  | _ => True

theorem vetted_of_launchless {p : Automation E α} (h : p.Calls Launchless) (n : ℕ) :
    Vetted stores path p n := by
  refine ((h.meets_counted (fun _ _ _ => rfl) n).weaken fun m c hc => ?_).mono
    fun _ _ _ => trivial
  have hless := hc.2
  unfold Launchless at hless
  unfold Store.Acknowledged
  split
  · exact hless.elim
  · trivial

theorem calls_forDevice (device : Option FleetDevice) {p : FleetDevice → Automation E Unit}
    (h : ∀ d, (p d).Calls Launchless) : (forDevice device p).Calls Launchless := by
  cases device with
  | none => exact calls_ret _
  | some d => exact h d

theorem calls_settleTrigger (trigger : Trigger) (workflow : StoredWorkflow)
    (device : Option FleetDevice) (body : Value) (runRecord : RunView) :
    (settleTrigger trigger workflow device body runRecord : Automation E _).Calls Launchless := by
  unfold settleTrigger openTriggerCase
  refine Calls.bind (calls_ask trivial) fun _ => ?_
  refine Calls.bind (calls_forDevice _ fun d => calls_ask trivial) fun _ => ?_
  refine Calls.bind (Calls.ite (fun _ => ?_) fun _ => calls_ret _) fun _ => ?_
  · exact Calls.bind (calls_ask trivial) fun _ => calls_ret _
  refine Calls.bind (calls_ask trivial) fun _ => ?_
  exact Calls.bind (calls_forDevice _ fun d => calls_ask trivial) fun _ => calls_ret _

/-- The launch of a workflow whose acknowledgement, if it needs one, is set when
the engine is started. -/
theorem vetted_launch {slug : String} {workflow : StoredWorkflow} {n : ℕ}
    (h : workflowHasDestructiveStep (some workflow.toWorkflow) = true →
      ((stores (n + if workflow.steps.any WorkflowStep.waits then 2 else 1)).workspace
        slug).Acknowledges path none workflow.toWorkflow)
    (devices : List DeviceRef) {β : Type} {f : Option RunView → Automation E β}
    (hf : ∀ record m, Vetted stores path (f record) m) :
    Vetted stores path (launch slug none workflow devices >>= f) n := by
  unfold launch within launchWorkflowRun
  rw [Prog.embed_bind, Prog.bind_assoc]
  refine ⟨trivial, fun r _ => ?_⟩
  rcases r with e | runId
  · trivial
  have hstart : ∀ m : ℕ, (workflowHasDestructiveStep (some workflow.toWorkflow) = true →
      ((stores m).workspace slug).Acknowledges path none workflow.toWorkflow) →
      (stores m).Acknowledged path
        (.service slug (.startWorkflowRun none runId workflow.toWorkflow devices)) :=
    fun _ hm => hm
  show Vetted stores path (Prog.embed _ _ >>= f) (n + 1)
  split_ifs at h ⊢
  · refine ⟨trivial, fun r _ => ?_⟩
    rcases r with e | _
    · trivial
    refine ⟨hstart _ h, fun r _ => ?_⟩
    rcases r with e | _
    · trivial
    refine ⟨trivial, fun r _ => ?_⟩
    rcases r with e | record
    · trivial
    exact hf record _
  · refine ⟨hstart _ h, fun r _ => ?_⟩
    rcases r with e | _
    · trivial
    exact hf _ _

theorem meets_trigger (hfires : ¬FiresUnacknowledged rt stores (.trigger triggerId secret body)) :
    Vetted stores (.trigger triggerId secret body)
      ((LaunchPath.trigger triggerId secret body).run rt) 0 := by
  show Vetted stores _ (fireTrigger rt triggerId secret body >>= fun _ => pure ()) 0
  unfold fireTrigger
  rw [Prog.bind_assoc]
  refine meets_read trivial fun found hfound => ?_
  rcases found with _ | trigger
  · trivial
  dsimp only
  split_ifs with hsecret henabled
  · trivial
  · trivial
  rw [Prog.bind_assoc]
  refine meets_read trivial fun stored hstored => ?_
  rcases stored with _ | workflow
  · trivial
  dsimp only
  rw [Prog.bind_assoc]
  refine meets_read trivial fun bearer _ => ?_
  split
  · trivial
  rw [Prog.bind_assoc]
  refine meets_read trivial fun devices _ => ?_
  split
  · refine vetted_of_launchless (Calls.bind ?_ fun _ => calls_ret _) _
    exact Calls.bind (calls_ask trivial) fun _ => calls_ret _
  · next hmatch =>
    rw [launchTrigger, Prog.bind_assoc]
    refine vetted_launch (fun hw => ?_) _ fun record m => ?_
    · by_contra hack
      refine hfires ⟨trigger, workflow, hfound.symm, by simpa using hsecret,
        by simpa using henabled, hstored.symm, hw, fun hfield hvalue => ?_, ?_⟩
      · -- the trigger looks for a device and has found none
        obtain ⟨field, hfield⟩ := Option.ne_none_iff_exists'.mp hfield
        exact hmatch field (by rw [resolveTriggerDevice, hvalue]; rfl) hfield
      · unfold startCall
        split_ifs at hack ⊢ <;> exact hack
    · rcases record with _ | runRecord
      · trivial
      · exact vetted_of_launchless (Calls.bind (calls_settleTrigger _ _ _ _ _)
          fun _ => calls_ret _) m

theorem steps_read {α β : Type} {c : AutomationCall E} {a : AutomationCall.Answer c}
    {f : AutomationCall.Answer c → Automation E β}
    {es : List (Event (automationSig E) ServiceError)} {g : β → Automation E α}
    {q : Automation E α} (h : Prog.Steps (f a >>= g) es q) :
    Prog.Steps (ask c >>= f >>= g) (⟨c, .ok a⟩ :: es) q :=
  .head h

/-- A trigger that is given something to look for finds it in some fleet. -/
theorem exists_fleet {field : Option String}
    (h : truthy field ≠ none → triggerLookupValue rt field body ≠ none) :
    ∃ devices, resolveTriggerDevice rt field body devices = none → truthy field = none := by
  by_cases hfield : truthy field = none
  · exact ⟨[], fun _ => hfield⟩
  · obtain ⟨name, hname⟩ := Option.ne_none_iff_exists'.mp hfield
    obtain ⟨value, hvalue⟩ := Option.ne_none_iff_exists'.mp (h hfield)
    -- a device whose serial number is the text that the body gives
    let device : FleetDevice :=
      { id := "d1", displayName := "Laptop", serialNumber := (body.prop rt name).text rt,
        platform := "windows", platformDeviceId := "win-1", riskTier := none,
        deviceAudiences := [], segmentId := none }
    have hserial : canonical rt device.serialNumber = value := by
      have hlookup := hvalue
      unfold triggerLookupValue at hlookup
      rw [hname, Option.bind_some] at hlookup
      dsimp only at hlookup
      split_ifs at hlookup
      exact Option.some.inj (truthy_eq_some.mp hlookup).1
    refine ⟨[device], fun hnone => ?_⟩
    simp [resolveTriggerDevice, hvalue, hserial] at hnone

theorem steps_trigger (triggerId : String) {trigger : Trigger} (stored : StoredWorkflow)
    {devices : List FleetDevice}
    (hsecret : secret = trigger.secret) (henabled : trigger.enabled = true)
    (hdevices : resolveTriggerDevice rt trigger.deviceLookupField body devices = none →
      truthy trigger.deviceLookupField = none) :
    Prog.Steps ((LaunchPath.trigger triggerId secret body : LaunchPath E).run rt)
      [⟨.findTrigger triggerId, .ok (some trigger)⟩,
        ⟨.findStoredWorkflow trigger.workspaceSlug trigger.workflowId, .ok (some stored)⟩,
        ⟨.getAutomationBearer trigger.workspaceSlug, .ok (some "token")⟩,
        ⟨.getFleet "token" trigger.workspaceSlug, .ok devices⟩]
      (launchTrigger trigger stored
        (resolveTriggerDevice rt trigger.deviceLookupField body devices) body >>=
          fun _ => pure ()) := by
  show Prog.Steps (fireTrigger rt triggerId secret body >>= fun _ => pure ()) _ _
  unfold fireTrigger
  refine steps_read ?_
  dsimp only
  rw [if_neg (by simpa using hsecret), if_neg (by simpa using henabled)]
  refine steps_read (steps_read (steps_read ?_))
  split
  · next hnone hfield =>
    rw [hdevices hnone] at hfield
    cases hfield
  · exact .refl _

theorem steps_launch (stores : ℕ → Store E) (slug : String) (stored : StoredWorkflow) (refs : List DeviceRef)
    (f : Option RunView → Automation E α) :
    ∃ es k, Prog.Steps (launch slug none stored refs >>= f) es
        (.await (.service slug (.startWorkflowRun none "run-1" stored.toWorkflow refs)) k) ∧
      4 + es.length = startCall stored.toWorkflow ∧ ∀ n, (automationWorld stores).Accepts n es := by
  unfold launch within launchWorkflowRun startCall
  split_ifs
  · refine ⟨[⟨.service slug .randomUUID, .ok "run-1"⟩,
      ⟨.service slug (.createWorkflowRun "run-1" stored.id refs.length), .ok ()⟩], _,
      .head (.head (.refl _)), rfl, fun n => ?_⟩
    exact ⟨fun _ _ => trivial, fun _ _ => trivial, trivial⟩
  · exact ⟨[⟨.service slug .randomUUID, .ok "run-1"⟩], _, .head (.refl _), rfl,
      fun n => ⟨fun _ _ => trivial, trivial⟩⟩

theorem not_launchesAcknowledged_of_fires
    (h : FiresUnacknowledged rt stores (.trigger triggerId secret body)) :
    ¬LaunchesAcknowledged rt stores (.trigger triggerId secret body) := by
  obtain ⟨trigger, stored, hfound, hsecret, henabled, hstored, hw, hlookup, hack⟩ := h
  obtain ⟨devices, hdevices⟩ := exists_fleet hlookup
  have hsteps := steps_trigger (E := E) triggerId stored hsecret henabled hdevices
  rw [launchTrigger, Prog.bind_assoc] at hsteps
  obtain ⟨es, k, hlaunch, hlength, haccepts⟩ :=
    steps_launch stores trigger.workspaceSlug stored _ _
  intro hall
  have hstart := hall _ _ k (hsteps.trans hlaunch) (World.accepts_append.mpr ⟨?_, haccepts _⟩)
  · rw [List.length_append] at hstart
    exact hack (hlength ▸ hstart hw)
  · refine ⟨?_, ?_, fun _ _ => trivial, fun _ _ => trivial, trivial⟩
    · rintro a ⟨⟩
      exact hfound.symm
    · rintro a ⟨⟩
      exact hstored.symm

end TriggerPath

/-! ## The four paths -/

/-- **Main theorem**: where no acknowledgement that a path has read is withdrawn
while it runs, and the path is not the fire of a trigger whose destructive
workflow lacks the flag, every launch of a destructive workflow is
acknowledged at the launch; and such a fire does launch one that is not. -/
theorem acknowledged_launches (rt : Runtime) (stores : ℕ → Store E) (path : LaunchPath E) :
    (AcknowledgementsKept stores path → ¬FiresUnacknowledged rt stores path →
      LaunchesAcknowledged rt stores path) ∧
    (LaunchesAcknowledged rt stores path → ¬FiresUnacknowledged rt stores path) := by
  refine ⟨fun hkept hfires => launchesAcknowledged_of_meets ?_, fun hall hfires => ?_⟩
  · cases path with
    | compliance slug req => exact meets_compliance hkept
    | caseAutorun nowIso slug kase authorization => exact meets_caseAutorun hkept
    | webhook nowIso secret body => exact meets_webhook hkept
    | trigger triggerId secret body => exact meets_trigger hfires
  · cases path with
    | trigger triggerId secret body => exact not_launchesAcknowledged_of_fires hfires hall
    | compliance _ _ => exact hfires
    | caseAutorun _ _ _ _ => exact hfires
    | webhook _ _ _ => exact hfires

/-! ## A trigger that wipes -/

/-- A workflow that wipes the device, without the flag. -/
def wipe : StoredWorkflow where
  id := "w1"
  name := "Wipe"
  steps := [⟨"s1", .mdmAction, "Wipe", { action := some "wipeDevice" }, none, none⟩]

/-- The trigger that fires it. -/
def wipeTrigger : Trigger where
  id := "t1"
  workspaceSlug := "acme"
  name := "EDR alert"
  workflowId := "w1"
  secret := "s3cret"

/-- A store with the trigger and its workflow. -/
def wipeStore (E : Evaluator) : Store E where
  workspace _ := { workflows := [wipe] }
  triggers := [wipeTrigger]

/-- The fire of the trigger launches the wipe, which nobody has acknowledged. -/
theorem trigger_fires_unacknowledged :
    workflowHasDestructiveStep (some wipe.toWorkflow) = true ∧
    wipe.allowUnattendedDestructive = false ∧
    ∀ rt, ¬LaunchesAcknowledged rt (fun _ => wipeStore attributeEvaluator)
      (.trigger "t1" "s3cret" (.obj [])) := by
  refine ⟨by decide, rfl, fun rt => not_launchesAcknowledged_of_fires ?_⟩
  refine ⟨wipeTrigger, wipe, rfl, rfl, rfl, rfl, by decide, fun h => absurd rfl h, ?_⟩
  rintro ⟨stored, hstored, hflag⟩
  obtain rfl := Option.some.inj hstored
  cases hflag

end AppliverySoar.Automations
