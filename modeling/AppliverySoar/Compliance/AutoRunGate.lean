import AppliverySoar.Compliance.PassTrace

/-!
# What a pass launches

The gate of `autoRun` (compliance.service.ts, lines 668–691) looks at a
policy's workflow and at its escalated workflow before any device of the policy
is gone through. Whichever of the two a device is given, the pass launches it
only when neither is destructive or the policy, as the pass has read it, is
acknowledged.

Results:
* `ensures_planPolicy_gated`: what the gate lets through.
* `calls_evaluatePolicies`: the launches of a pass once it has read the
  policies.
-/

namespace AppliverySoar.Compliance

open Async Prog Access Workflows

variable {E : Evaluator}

/-- A destructive workflow is launched for an acknowledged one of the
policies. -/
def LaunchedFor (all : List (CompliancePolicy E)) : ServiceCall E → Prop
  | .startWorkflowRun pair _ workflow _ =>
    workflowHasDestructiveStep (some workflow) = true →
      ∃ p ∈ all, pair.map Prod.fst = some p.id ∧ p.autoRunDestructiveAck = true
  | _ => True

/-- A plan whose gate is open has no destructive workflow, or its policy is
acknowledged. -/
def PolicyPlan.Gated (plan : PolicyPlan E) : Prop :=
  plan.autoRuns = true → plan.autorunBlockReason = none →
    plan.policy.autoRunDestructiveAck = true ∨
      workflowHasDestructiveStep plan.workflow = false ∧
        workflowHasDestructiveStep plan.escalatedWorkflow = false

section Gate

variable {all : List (CompliancePolicy E)}

theorem launchedFor_of_silent (c : ServiceCall E) (h : c.silent = true) : LaunchedFor all c := by
  cases c <;> trivial

/-- An open gate is found open after both workflows were looked at. -/
theorem ensures_autorunBlock (pc : PassContext E) (policy : CompliancePolicy E)
    (workflow escalatedWorkflow : Option Workflow) :
    (autorunBlock pc policy workflow escalatedWorkflow).Ensures
      (fun c => ServiceCall.silent c = true)
      fun r => (policy.autoRun && workflow.isSome) = true → r.1 = none →
        policy.autoRunDestructiveAck = true ∨
          workflowHasDestructiveStep workflow = false ∧
            workflowHasDestructiveStep escalatedWorkflow = false := by
  unfold autorunBlock
  split_ifs with hruns htripped hgate hfirst
  · refine (ensures_ret_ok _ _).mpr fun h => ?_
    simp [h] at hruns
  · exact (ensures_ret_ok _ _).mpr fun _ h => by cases h
  · exact (ensures_ret_ok _ _).mpr fun _ h => by cases h
  · exact (ensures_ret_ok _ _).mpr fun _ h => by cases h
  · have hopen : policy.autoRunDestructiveAck = true ∨
        workflowHasDestructiveStep workflow = false ∧
          workflowHasDestructiveStep escalatedWorkflow = false := by
      by_contra hno
      rw [not_or, Bool.not_eq_true, ← Bool.or_eq_false_iff, Bool.not_eq_false] at hno
      exact hgate (by rw [hno.1, hno.2]; rfl)
    refine Ensures.bind (calls_autorunCircuitBreakerCheck _ _ _) fun reason _ => ?_
    cases reason with
    | none => exact (ensures_ret_ok _ _).mpr fun _ _ => hopen
    | some reason =>
      exact Ensures.bind (calls_silent rfl) fun _ _ =>
        (ensures_ret_ok _ _).mpr fun _ h => by cases h

theorem ensures_planPolicy_gated (pc : PassContext E) (policy : CompliancePolicy E) :
    (planPolicy pc policy).Ensures (fun c => ServiceCall.silent c = true)
      fun r => r.1.policy = policy ∧ r.1.Gated := by
  unfold planPolicy
  refine Ensures.bind (ensures_autorunBlock _ _ _ _) fun block hblock => ?_
  exact (ensures_ret_ok _ _).mpr ⟨rfl, hblock⟩

end Gate

/-! ## One device -/

section Device

variable {all : List (CompliancePolicy E)} {plan : PolicyPlan E}

variable {workflow : Workflow}

theorem launchedFor_launchWorkflowRun {pair : Option (String × String)}
    (h : workflowHasDestructiveStep (some workflow) = true →
      ∃ p ∈ all, pair.map Prod.fst = some p.id ∧ p.autoRunDestructiveAck = true)
    (devices : List DeviceRef) :
    (launchWorkflowRun pair workflow devices : Service E _).Calls (LaunchedFor all) := by
  have hstart : ∀ runId, (ask (.startWorkflowRun pair runId workflow devices) :
      Service E Unit).Calls (LaunchedFor all) := fun runId => calls_ask h
  unfold launchWorkflowRun
  refine Calls.bind (calls_ask trivial) fun runId => ?_
  split_ifs
  · refine Calls.bind (calls_ask trivial) fun _ => ?_
    exact Calls.bind (hstart runId) fun _ => calls_ask trivial
  · exact Calls.bind (hstart runId) fun _ => calls_ret _

theorem launchedFor_fireWorkflow (hmem : plan.policy ∈ all)
    (h : workflowHasDestructiveStep (some workflow) = true →
      plan.policy.autoRunDestructiveAck = true)
    (st : PassState E) (device : Device E) (caseId : Option String) :
    (fireWorkflow st plan.policy device caseId workflow).Calls (LaunchedFor all) := by
  have hlink : ∀ runId, (linkRun caseId runId : Service E Unit).Calls (LaunchedFor all) :=
    fun runId => (calls_linkRun _ _).widen launchedFor_of_silent
  unfold fireWorkflow
  dsimp only
  split
  · exact Calls.bind (hlink _) fun _ => calls_ret _
  · refine Calls.bind (launchedFor_launchWorkflowRun
      (fun hw => ⟨plan.policy, hmem, rfl, h hw⟩) _) fun record => ?_
    cases record with
    | none => exact calls_ret _
    | some record => exact Calls.bind (hlink _) fun _ => calls_ret _

/-- A device is given one of the two workflows that the gate has looked at. -/
theorem PolicyPlan.Gated.acknowledged (hgated : plan.Gated) (hruns : plan.autoRuns = true)
    (hopen : plan.autorunBlockReason = none) {device : Device E}
    (heff : plan.effectiveWorkflow device = some workflow)
    (hw : workflowHasDestructiveStep (some workflow) = true) :
    plan.policy.autoRunDestructiveAck = true := by
  rcases hgated hruns hopen with hack | ⟨hworkflow, hescalated⟩
  · exact hack
  · unfold PolicyPlan.effectiveWorkflow at heff
    split_ifs at heff
    · rw [heff, hw] at hescalated
      cases hescalated
    · rw [heff, hw] at hworkflow
      cases hworkflow

theorem launchedFor_decideStatus (hmem : plan.policy ∈ all) (hgated : plan.Gated)
    (st : PassState E) (cnt : PolicyCount) (device : Device E) (caseId : Option String) :
    (decideStatus plan st cnt device caseId).Calls (LaunchedFor all) := by
  unfold decideStatus
  refine Calls.guard fun hblocked => ?_
  refine Calls.guard fun _ => ?_
  split
  · next workflow heff =>
    split_ifs at heff with hruns
    have hopen : plan.autorunBlockReason = none := by
      simpa [hruns] using hblocked
    exact Calls.bind (launchedFor_fireWorkflow hmem
      (hgated.acknowledged hruns hopen heff) st device caseId) fun _ => calls_ret _
  · exact calls_ret _

theorem launchedFor_evaluateDevice (hmem : plan.policy ∈ all) (hgated : plan.Gated)
    (pc : PassContext E) (acc : PassState E × PolicyCount) (device : Device E) :
    (evaluateDevice pc plan acc device).Calls (LaunchedFor all) := by
  unfold evaluateDevice
  dsimp only
  split_ifs
  · unfold recoverDevice
    split
    · exact calls_ret _
    · exact Calls.bind (calls_ask trivial) fun _ => calls_ret _
  · exact calls_ret _
  · unfold openViolation
    refine Calls.bind (calls_ask trivial) fun _ => ?_
    refine Calls.bind ((calls_openCase _ _ _).widen launchedFor_of_silent) fun _ => ?_
    exact Calls.bind (launchedFor_decideStatus hmem hgated _ _ _ _) fun _ =>
      calls_ret _

end Device

/-! ## The pass -/

section Pass

variable {all : List (CompliancePolicy E)} (req : EvaluationRequest)

theorem launchedFor_evaluatePolicy (pc : PassContext E) (devices : List (Device E))
    (st : PassState E) {policy : CompliancePolicy E} (hmem : policy ∈ all) :
    (evaluatePolicy pc devices st policy).Calls (LaunchedFor all) := by
  unfold evaluatePolicy
  refine Ensures.bind ((ensures_planPolicy_gated pc policy).weaken fun _ c =>
    launchedFor_of_silent c) fun planned hplanned => ?_
  obtain ⟨hpolicy, hgated⟩ := hplanned
  refine Calls.bind (Calls.foldlM fun acc device _ => ?_) fun _ => calls_ret _
  exact launchedFor_evaluateDevice (hpolicy ▸ hmem) hgated pc acc device

theorem launchedFor_loadFleet (policies : List (CompliancePolicy E)) :
    (loadFleet req policies).Calls (LaunchedFor all) := by
  unfold loadFleet
  refine Calls.bind (calls_ask trivial) fun items => ?_
  refine Calls.bind (Calls.foldlM fun _ _ _ => ?_) fun devices => ?_
  · exact Calls.bind (calls_ask trivial) fun _ => calls_ret _
  · refine Calls.bind (calls_ask trivial) fun _ => ?_
    refine Calls.bind (calls_ask trivial) fun _ => ?_
    refine Calls.bind ?_ fun _ => calls_ret _
    exact Calls.guard fun _ => calls_ask trivial

theorem launchedFor_finishPass (policies : List (CompliancePolicy E))
    (st : PassState E) : (finishPass req policies st).Calls (LaunchedFor all) := by
  unfold finishPass
  refine Calls.bind (calls_ask trivial) fun _ => ?_
  refine Calls.bind (calls_awaitIf (calls_ask trivial)) fun _ => ?_
  refine Calls.bind (calls_awaitIf (calls_ask trivial)) fun _ => ?_
  refine Calls.bind (calls_forEach fun _ _ => calls_quietly (calls_ask trivial)) fun _ => ?_
  refine Calls.bind (calls_forEach fun _ _ => calls_quietly (calls_ask trivial)) fun _ => ?_
  refine Calls.bind ?_ fun _ =>
    Calls.bind (calls_awaitIf (calls_ask trivial)) fun _ => calls_ret _
  refine Calls.guard fun _ => ?_
  refine Calls.bind (calls_ask trivial) fun _ => calls_forEach fun _ _ => calls_quietly ?_
  exact Calls.bind (calls_ask trivial) fun _ => calls_ret _

theorem calls_evaluatePolicies (all : List (CompliancePolicy E)) :
    (if (req.policies all).isEmpty then pure { evaluatedPolicies := 0 }
      else do
        let fleet ← loadFleet req (req.policies all)
        evaluateFleet req (req.policies all) fleet : Service E EvaluationSummary).Calls
      (LaunchedFor all) := by
  have hsub : ∀ p ∈ req.policies all, p ∈ all := fun p hp => List.mem_of_mem_filter hp
  refine Calls.guard fun _ => ?_
  refine Calls.bind (launchedFor_loadFleet _ _) fun fleet => ?_
  unfold evaluateFleet
  refine Calls.bind (calls_ask trivial) fun _ => ?_
  refine Calls.bind (calls_ask trivial) fun _ => ?_
  refine Calls.bind (calls_ask trivial) fun _ => ?_
  refine Calls.bind (Calls.foldlM fun st policy hpolicy => ?_) fun _ =>
    launchedFor_finishPass _ _ _
  exact launchedFor_evaluatePolicy _ _ st (hsub policy hpolicy)

end Pass

end AppliverySoar.Compliance
