import AppliverySoar.Compliance.ScanResult

/-!
# What a pass queues and what an approval accepts

A pass counts a new violation as `queuedForReview` under three statuses
(compliance.service.ts, lines 752–842); `approveViolationCore` (lines
1113–1164) goes on under one of them only.

Results:
* `approvalLaunches_iff`: an approval that finds its row and workflow launches
  exactly when the row is `pending`.
* `queued_row_launches_iff`: so a queued row can be approved exactly when its
  policy does not run by itself.
* `blocked_row_rejected`: a row that cannot.
-/

namespace AppliverySoar.Compliance

open Async Access Workflows List

variable {E : Evaluator}

/-! ## The producer -/

/-- Where a new row comes from. -/
structure RowOf (ctx : EvalContext E) (v : Visit E) (row : ComplianceViolation E) : Prop where
  policyId : row.policyId = v.policy.id
  deviceId : row.deviceId = v.device.id
  matched : row.matchedConditions = v.matched ctx
  status : row.status.queued = true → (row.status = .pending ↔ v.policy.autoRun = false)

theorem Scan.rowOf {ctx : EvalContext E} {b₀ : SuppressionState} {visits : List (Visit E)}
    {st : ScanState E} {ms : List (Mark E)} (h : Scan ctx b₀ visits st ms) :
    ∀ row ∈ st.rows, ∃ v ∈ visits, RowOf ctx v row := by
  induction h with
  | start => simp
  | kept v _ _ ih =>
    intro row hrow
    obtain ⟨w, hw, hof⟩ := ih row hrow
    exact ⟨w, mem_append_left _ hw, hof⟩
  | recovered v _ _ _ ih =>
    intro row hrow
    obtain ⟨w, hw, hof⟩ := ih row hrow
    exact ⟨w, mem_append_left _ hw, hof⟩
  | opened v _ _ _ hpolicy hdevice hmatched hstatus _ _ ih =>
    intro row hrow
    rcases mem_append.mp hrow with hrow | hrow
    · obtain ⟨w, hw, hof⟩ := ih row hrow
      exact ⟨w, mem_append_left _ hw, hof⟩
    · obtain rfl := mem_singleton.mp hrow
      exact ⟨v, by simp, hpolicy, hdevice, hmatched, hstatus⟩

/-- The rows that a run of a pass has inserted are about its visits. -/
theorem rowOf_created {req : EvaluationRequest} {all : List (CompliancePolicy E)}
    {es : List (ServiceEvent E)} {q : Service E EvaluationSummary}
    {rows : List (ComplianceViolation E)}
    (hsteps : Prog.Steps (runComplianceEvaluation req) (⟨.findPolicies, .ok all⟩ :: es) q)
    (hrows : .created rows ∈ marks es) {row : ComplianceViolation E} (hrow : row ∈ rows) :
    ∃ fleet : Fleet E, ∃ v ∈ visitsOf (req.policies all) fleet.1, RowOf fleet.2 v row := by
  obtain ⟨e, he, hmark⟩ := mem_marks.mp hrows
  obtain ⟨pre, post, rfl⟩ := append_of_mem he
  rw [← cons_append] at hsteps
  have hcall := (meets_runComplianceEvaluation req).ok_of_append hsteps (World.log_accepts _ _)
  rw [World.log_after, nil_append, call_of_created hmark] at hcall
  obtain ⟨fleet, -, b₀, visits, st, ms, hscan, rfl, -, hms⟩ := hcall rfl
  obtain ⟨all', items, ms', rfl, -, hvisits, hscan'⟩ := hscan
  obtain ⟨v, hv, hof⟩ := hscan'.rowOf row hrow
  have hall : all = all' := by
    rw [show marks (⟨.findPolicies, .ok all⟩ :: pre) = .policies all :: marks pre from rfl] at hms
    simp only [cons_append, List.cons.injEq, Mark.policies.injEq] at hms
    exact hms.1
  subst hall
  exact ⟨fleet, v, by simp [hvisits, hv], hof⟩

/-! ## The consumer -/

/-- The answers of an approval that finds its violation to be `row` and the
linked workflow to be `workflow`. -/
def reviewWorld (row : ComplianceViolation E) (workflow : Workflow) :
    World (serviceSig E) ServiceError (List (ServiceEvent E)) :=
  World.answering fun c r =>
    match c, r with
    | .findViolation _, r => r = .ok (some row)
    | .findWorkflow _, r => r = .ok (some workflow)
    | _, _ => True

/-- A launch of `workflow` for `row` was issued. -/
def Launched (row : ComplianceViolation E) (workflow : Workflow) (es : List (ServiceEvent E)) :
    Prop :=
  ∃ e ∈ es, ∃ runId, e.call = .startWorkflowRun (some (row.policyId, row.deviceId)) runId workflow
    [row.deviceRef]

/-- One of the calls threw. -/
def SomeCallFailed (es : List (ServiceEvent E)) : Prop :=
  ∃ e ∈ es, ∃ error, e.answer = .error error

/-- Approving `row` launches its workflow, unless a call fails on the way. -/
def ApprovalLaunches (row : ComplianceViolation E) (workflow : Workflow) : Prop :=
  ∀ es r, (reviewWorld row workflow).Accepts [] es →
    Prog.Steps (approveViolationCore row.id) es (.ret r) →
    Launched row workflow es ∨ SomeCallFailed es

section Approval

variable {row : ComplianceViolation E} {workflow : Workflow} {es : List (ServiceEvent E)}

/-- What an approval comes to: the launch, or a call that threw. -/
def LaunchedOrFailed (row : ComplianceViolation E) (workflow : Workflow)
    (es : List (ServiceEvent E)) : Prop :=
  Launched row workflow es ∨ SomeCallFailed es

theorem LaunchedOrFailed.snoc (h : LaunchedOrFailed row workflow es) (e : ServiceEvent E) :
    LaunchedOrFailed row workflow (es ++ [e]) := by
  rcases h with ⟨l, hl, hcall⟩ | ⟨l, hl, hanswer⟩
  · exact .inl ⟨l, mem_append_left _ hl, hcall⟩
  · exact .inr ⟨l, mem_append_left _ hl, hanswer⟩

/-- After the launch, or after a call that threw, nothing more is asked for. -/
theorem meets_of_launchedOrFailed {α : Type} {p : Service E α}
    (h : LaunchedOrFailed row workflow es) :
    p.Meets (reviewWorld row workflow) (fun _ _ => True) es
      fun _ es' => LaunchedOrFailed row workflow es' :=
  Prog.Meets.stable (fun _ c r _ hes => hes.snoc ⟨c, r⟩) h

theorem meets_try {c : ServiceCall E} {R : ServiceCall.Answer c → List (ServiceEvent E) → Prop}
    (hR : ∀ a, (reviewWorld row workflow).may es c (.ok a) → R a (es ++ [⟨c, .ok a⟩])) :
    (ask c : Service E _).Meets (reviewWorld row workflow) (fun _ _ => True) es
      (post R fun _ es' => LaunchedOrFailed row workflow es') := by
  refine ⟨trivial, fun r hr => ?_⟩
  cases r with
  | ok a => exact hR a hr
  | error e => exact .inr ⟨⟨c, .error e⟩, mem_append_right _ mem_cons_self, e, rfl⟩

theorem meets_startThen {α : Type} (runId : String) {f : Unit → Service E α} :
    (ask (.startWorkflowRun (some (row.policyId, row.deviceId)) runId workflow [row.deviceRef]) >>=
        f : Service E α).Meets (reviewWorld row workflow) (fun _ _ => True) es
      fun _ es' => LaunchedOrFailed row workflow es' := by
  refine Prog.Meets.bind (R := fun _ es' => LaunchedOrFailed row workflow es')
    (meets_try fun a _ => ?_) fun _ _ h => meets_of_launchedOrFailed h
  exact .inl ⟨_, mem_append_right _ mem_cons_self, runId, rfl⟩

theorem meets_launchOrFail :
    (launchWorkflowRun (some (row.policyId, row.deviceId)) workflow [row.deviceRef] :
        Service E _).Meets (reviewWorld row workflow) (fun _ _ => True) es
      fun _ es' => LaunchedOrFailed row workflow es' := by
  unfold launchWorkflowRun
  refine Prog.Meets.bind (R := fun _ _ => True) (meets_try fun _ _ => trivial) fun runId es₁ _ => ?_
  split_ifs
  · exact Prog.Meets.bind (R := fun _ _ => True) (meets_try fun _ _ => trivial)
      fun _ es₂ _ => meets_startThen runId
  · exact meets_startThen runId

theorem meets_approve_pending (hpending : row.status = .pending)
    (hlinked : truthy row.workflowId = some workflow.id) :
    (approveViolationCore row.id : Service E Unit).Meets (reviewWorld row workflow)
      (fun _ _ => True) [] fun _ es => LaunchedOrFailed row workflow es := by
  unfold approveViolationCore
  refine Prog.Meets.bind (R := fun found _ => found = some row)
    (meets_try fun found hfound => Except.ok.inj hfound) fun found es₁ hfound => ?_
  subst hfound
  dsimp only
  rw [if_neg (by simp [hpending])]
  refine Prog.Meets.bind (R := fun linked _ => linked = some workflow) ?_ fun linked es₂ hsome => ?_
  · unfold findLinkedWorkflow
    rw [hlinked]
    exact meets_try fun linked h => Except.ok.inj h
  · subst hsome
    refine Prog.Meets.bind (R := fun _ es₃ => LaunchedOrFailed row workflow es₃) ?_
      fun _ _ h => meets_of_launchedOrFailed h
    refine meets_launchOrFail.mono fun r es₃ h => ?_
    cases r <;> exact h

/-- The answer that an approval under another status gets to its only call. -/
theorem steps_approve_rejected (hstatus : row.status ≠ .pending) :
    Prog.Steps (approveViolationCore row.id : Service E Unit)
      [⟨.findViolation row.id, .ok (some row)⟩]
      (fail 400 ("Violation already '" ++ row.status.text ++ "'")) := by
  unfold approveViolationCore
  refine Prog.Steps.call ?_
  dsimp only
  rw [if_pos hstatus]
  exact .refl _

/-- An approval that finds its row and workflow launches exactly when the row is
pending. -/
theorem approvalLaunches_iff (hlinked : truthy row.workflowId = some workflow.id) :
    ApprovalLaunches row workflow ↔ row.status = .pending := by
  constructor
  · intro h
    by_contra hstatus
    rcases h [⟨.findViolation row.id, .ok (some row)⟩] _ ⟨rfl, trivial⟩
      (steps_approve_rejected hstatus) with ⟨e, he, runId, hcall⟩ | ⟨e, he, error, hanswer⟩
    · obtain rfl := mem_singleton.mp he
      cases hcall
    · obtain rfl := mem_singleton.mp he
      cases hanswer
  · intro hpending es r hes hsteps
    have hmeets := (meets_approve_pending hpending hlinked).post_of_steps hsteps hes
    rwa [reviewWorld, World.answering_after] at hmeets

end Approval

/-- **Main theorem**: a row that a pass has queued, about a policy that it has
read, can be approved exactly when that policy does not run by itself. -/
theorem queued_row_launches_iff {req : EvaluationRequest} {all : List (CompliancePolicy E)}
    {es : List (ServiceEvent E)} {q : Service E EvaluationSummary}
    {rows : List (ComplianceViolation E)} {row : ComplianceViolation E}
    {policy : CompliancePolicy E} {workflow : Workflow} (hkey : (all.map CompliancePolicy.id).Nodup)
    (hsteps : Prog.Steps (runComplianceEvaluation req) (⟨.findPolicies, .ok all⟩ :: es) q)
    (hrows : .created rows ∈ marks es) (hrow : row ∈ rows) (hqueued : row.status.queued = true)
    (hpolicy : policy ∈ all) (hid : policy.id = row.policyId)
    (hlinked : truthy row.workflowId = some workflow.id) :
    ApprovalLaunches row workflow ↔ policy.autoRun = false := by
  obtain ⟨fleet, v, hv, hof⟩ := rowOf_created hsteps hrows hrow
  have hmem : v.policy ∈ all := (mem_filter.mp (mem_visitsOf.mp hv).1).1
  have hsame : policy = v.policy :=
    inj_on_of_nodup_map hkey hpolicy hmem (hid.trans hof.policyId)
  rw [approvalLaunches_iff hlinked, hof.status hqueued, hsame]

/-! ## A policy that does not run by itself, and one that is blocked -/

/-- A workflow without steps. -/
def emptyWorkflow : Workflow where
  id := "w1"
  name := "Encrypt"
  steps := []

/-- The policy with a workflow for the review queue. -/
def reviewedPolicy : CompliancePolicy attributeEvaluator :=
  { encryptionPolicy with workflowId := some "w1" }

/-- The same policy, to run by itself, after its circuit breaker has tripped. -/
def trippedPolicy : CompliancePolicy attributeEvaluator :=
  { reviewedPolicy with autoRun := true, autoRunTripped := true }

/-- A fleet-wide pass over the policy and the laptop. -/
def queueingRun (policy : CompliancePolicy attributeEvaluator) :
    List (ServiceEvent attributeEvaluator) × Except ServiceError EvaluationSummary :=
  (runComplianceEvaluation { nowIso := "2024-01-01T00:00:00.000Z" }).execute (World.log _ _)
    (fun _ => firstPassAnswer [policy] [plainLaptop] [emptyWorkflow]) []

/-- The row that the pass inserts. -/
def queuedRow (policy : CompliancePolicy attributeEvaluator) (status : ViolationStatus) :
    ComplianceViolation attributeEvaluator where
  id := "v1"
  policyId := policy.id
  policyName := policy.name
  workflowId := some "w1"
  workflowName := some "Encrypt"
  workflowRunId := none
  escalated := false
  deviceId := "d1"
  deviceName := "Laptop"
  platform := "windows"
  platformDeviceId := "win-1"
  matchedConditions := [⟨"encryption", "off"⟩]
  detectedAt := "2024-01-01T00:00:00.000Z"
  status := status
  severity := "medium"
  caseId := none

theorem queueingRun_steps (policy : CompliancePolicy attributeEvaluator) :
    Prog.Steps (runComplianceEvaluation { nowIso := "2024-01-01T00:00:00.000Z" })
      (⟨.findPolicies, .ok [policy]⟩ :: (queueingRun policy).1.tail)
      (.ret (queueingRun policy).2) := by
  have hrun : (queueingRun policy).1 =
      ⟨.findPolicies, .ok [policy]⟩ :: (queueingRun policy).1.tail := rfl
  rw [← hrun]
  exact Prog.steps_execute _ _

/-- The row of the policy that does not run by itself can be approved. -/
theorem queued_row_launches_reviewed :
    ApprovalLaunches (queuedRow reviewedPolicy .pending) emptyWorkflow ↔
      reviewedPolicy.autoRun = false := by
  have hrows : .created [queuedRow reviewedPolicy .pending] ∈
      marks (queueingRun reviewedPolicy).1.tail := mem_of_getElem? (i := 4) rfl
  exact queued_row_launches_iff (by decide) (queueingRun_steps reviewedPolicy) hrows
    mem_cons_self rfl mem_cons_self rfl (by decide)

/-- The blocked row is counted as queued, and approving it is refused. -/
theorem blocked_row_rejected :
    ¬∀ (req : EvaluationRequest) (all : List (CompliancePolicy attributeEvaluator))
      (es : List (ServiceEvent attributeEvaluator)) (q : Service attributeEvaluator EvaluationSummary)
      (rows : List (ComplianceViolation attributeEvaluator))
      (row : ComplianceViolation attributeEvaluator) (workflow : Workflow),
      Prog.Steps (runComplianceEvaluation req) (⟨.findPolicies, .ok all⟩ :: es) q →
      .created rows ∈ marks es → row ∈ rows → row.status.queued = true →
      truthy row.workflowId = some workflow.id → ApprovalLaunches row workflow := by
  intro h
  have hrows : .created [queuedRow trippedPolicy .autorunBlocked] ∈
      marks (queueingRun trippedPolicy).1.tail := mem_of_getElem? (i := 4) rfl
  have hlaunches := h _ _ _ _ _ _ emptyWorkflow (queueingRun_steps trippedPolicy) hrows
    mem_cons_self rfl (by decide)
  rw [approvalLaunches_iff (by decide)] at hlaunches
  cases hlaunches

end AppliverySoar.Compliance
