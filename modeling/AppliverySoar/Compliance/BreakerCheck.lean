import AppliverySoar.Compliance.Workspace

/-!
# When a pass trips a circuit breaker

`autorunCircuitBreakerCheck` (compliance.service.ts, lines 326–342) goes through
a policy's auto-fired violations, newest first, and looks up the run of each.
What it has seen when it gives a reason is read off the calls that the pass has
made.

Results:
* `meets_autorunCircuitBreakerCheck`: a reason is given when the first three
  completed runs that were found have failed on every device.
* `meets_tripTask`: no operation trips a breaker for any other reason.
-/

namespace AppliverySoar.Compliance

open Async Prog Workflows List

variable {E : Evaluator} {vs : List (ComplianceViolation E)}

/-! ## What the check has seen -/

/-- The run that a policy has auto-fired for a violation. -/
def ComplianceViolation.autoFiredRun (v : ComplianceViolation E) (policyId : String) :
    Option String :=
  if v.policyId = policyId ∧ v.status = .autoFired then truthy v.workflowRunId else none

/-- Neither running nor waiting. -/
def RunView.completed (run : RunView) : Bool :=
  !(run.status = "running" || run.status = "waiting")

/-- Of the violations `front`, newest first, those in `counted` have a run that
was found to have failed; no run of `front` was found to have done better. -/
structure Seen (policyId : String) (front counted : List (ComplianceViolation E))
    (es : List (ServiceEvent E)) : Prop where
  sublist : counted.Sublist front
  looked : ∀ v ∈ front, ∀ runId, v.autoFiredRun policyId = some runId →
    ∃ answer, ⟨.getWorkflowRun runId, answer⟩ ∈ es ∧
      ∀ run, answer = .ok run → run.completed = true → runFullyFailed run = true
  failed : ∀ v ∈ counted, ∃ runId run, v.autoFiredRun policyId = some runId ∧
    ⟨.getWorkflowRun runId, .ok run⟩ ∈ es ∧ run.completed = true ∧ runFullyFailed run = true

/-- What has been seen when the breaker trips: the newest violations of `vs`,
at least three of them counted. -/
def Tripping (policyId : String) (vs : List (ComplianceViolation E))
    (es : List (ServiceEvent E)) : Prop :=
  ∃ front counted, front <+: vs ∧ autorunCircuitBreakerThreshold ≤ counted.length ∧
    Seen policyId front counted es

section Seen

variable {policyId runId : String} {front counted : List (ComplianceViolation E)}
  {es : List (ServiceEvent E)} {v : ComplianceViolation E}

theorem Seen.start (policyId : String) (es : List (ServiceEvent E)) : Seen policyId [] [] es :=
  ⟨Sublist.refl _, by simp, by simp⟩

theorem Seen.append (h : Seen policyId front counted es) (fs : List (ServiceEvent E)) :
    Seen policyId front counted (es ++ fs) where
  sublist := h.sublist
  looked w hw r hr := by
    obtain ⟨answer, hmem, hanswer⟩ := h.looked w hw r hr
    exact ⟨answer, mem_append_left _ hmem, hanswer⟩
  failed w hw := by
    obtain ⟨r, run, hr, hmem, hrun⟩ := h.failed w hw
    exact ⟨r, run, hr, mem_append_left _ hmem, hrun⟩

theorem Seen.pass (h : Seen policyId front counted es)
    (hv : ∀ runId, v.autoFiredRun policyId = some runId →
      ∃ answer, ⟨.getWorkflowRun runId, answer⟩ ∈ es ∧
        ∀ run, answer = .ok run → run.completed = true → runFullyFailed run = true) :
    Seen policyId (front ++ [v]) counted es where
  sublist := h.sublist.trans (sublist_append_left _ _)
  looked w hw r hr := by
    rcases mem_append.mp hw with hw | hw
    · exact h.looked w hw r hr
    · rw [mem_singleton.mp hw] at hr
      exact hv r hr
  failed := h.failed

theorem Seen.count (h : Seen policyId front counted es) {run : RunView}
    (hrun : v.autoFiredRun policyId = some runId) (hmem : ⟨.getWorkflowRun runId, .ok run⟩ ∈ es)
    (hcompleted : run.completed = true) (hfailed : runFullyFailed run = true) :
    Seen policyId (front ++ [v]) (counted ++ [v]) es where
  sublist := h.sublist.append (Sublist.refl _)
  looked := by
    refine (h.pass fun r hr => ⟨.ok run, ?_, ?_⟩).looked
    · rw [hrun] at hr
      cases hr
      exact hmem
    · rintro run' heq -
      cases heq
      exact hfailed
  failed w hw := by
    rcases mem_append.mp hw with hw | hw
    · exact h.failed w hw
    · rw [mem_singleton.mp hw]
      exact ⟨runId, run, hrun, hmem, hcompleted, hfailed⟩

end Seen

/-! ## The check -/

/-- The reads of the violations, of which a pass makes one. -/
def ServiceCall.readsHistory : ServiceCall E → Bool
  | .findViolations => true
  | _ => false

/-- The writes that set a breaker. -/
def ServiceCall.trips : ServiceCall E → Bool
  | .tripAutoRun .. => true
  | _ => false

/-- The writes that would make a violation auto-fired. -/
def ServiceCall.refires : ServiceCall E → Bool
  | .updateViolation _ .autoFired _ => true
  | _ => false

/-- A call that is none of these. -/
def ServiceCall.plain (c : ServiceCall E) : Bool :=
  !c.readsHistory && !c.trips && !c.refires

/-- The violations that were read last, and the calls since. -/
def SinceHistory (vs : List (ComplianceViolation E)) (es post : List (ServiceEvent E)) : Prop :=
  ∃ pre, es = pre ++ ⟨.findViolations, .ok vs⟩ :: post ∧
    ∀ e ∈ post, e.call.readsHistory = false

/-- What each operation's calls satisfy: a breaker trips for what was seen since
the violations were read, and no update makes a violation auto-fired. -/
def TripCall (past : List (ServiceEvent E)) : ServiceCall E → Prop
  | .tripAutoRun policyId _ => ∃ vs post, SinceHistory vs past post ∧ Tripping policyId vs post
  | .updateViolation _ status _ => status ≠ .autoFired
  | _ => True

theorem SinceHistory.append {es post fs : List (ServiceEvent E)}
    (h : SinceHistory vs es post) (hfs : ∀ e ∈ fs, e.call.readsHistory = false) :
    SinceHistory vs (es ++ fs) (post ++ fs) := by
  obtain ⟨pre, rfl, hpost⟩ := h
  refine ⟨pre, by simp, fun e he => ?_⟩
  rcases mem_append.mp he with he | he
  · exact hpost e he
  · exact hfs e he

theorem meets_lookupWorkflowRun {ok : List (ServiceEvent E) → ServiceCall E → Prop}
    {runId : String} {es : List (ServiceEvent E)}
    {R : Option RunView → List (ServiceEvent E) → Prop}
    {Q : ServiceError → List (ServiceEvent E) → Prop} (hok : ok es (.getWorkflowRun runId))
    (hR : ∀ answer : Except ServiceError RunView,
      R answer.toOption (es ++ [⟨.getWorkflowRun runId, answer⟩])) :
    (lookupWorkflowRun runId : Service E _).Meets (World.log _ _) ok es (post R Q) := by
  refine ⟨hok, fun answer _ => ?_⟩
  cases answer with
  | ok run => exact hR (.ok run)
  | error e => exact hR (.error e)

/-- What a check leaves that goes on after `es`, when `seen` are its calls since
the violations were read. -/
def Checked (policyId : String) (vs : List (ComplianceViolation E))
    (es seen : List (ServiceEvent E)) (reason : Option String) (es' : List (ServiceEvent E)) :
    Prop :=
  ∃ fs, es' = es ++ fs ∧ (∀ e ∈ fs, e.call.readsHistory = false) ∧
    (reason.isSome → Tripping policyId vs (seen ++ fs))

theorem Checked.none (policyId : String) (vs : List (ComplianceViolation E))
    (es seen : List (ServiceEvent E)) : Checked policyId vs es seen none es :=
  ⟨[], by simp, by simp, by simp⟩

variable {e : ServiceEvent E} {policyId : String} {es seen es' : List (ServiceEvent E)}

theorem Checked.cons {reason : Option String}
    (he : e.call.readsHistory = false)
    (h : Checked policyId vs (es ++ [e]) (seen ++ [e]) reason es') :
    Checked policyId vs es seen reason es' := by
  obtain ⟨fs, rfl, hfs, htrip⟩ := h
  refine ⟨e :: fs, by simp, fun e' he' => ?_, by simpa using htrip⟩
  rcases mem_cons.mp he' with rfl | he'
  · exact he
  · exact hfs e' he'

theorem Checked.post_cons
    {r : Except ServiceError (Option String)} (he : e.call.readsHistory = false)
    (h : post (Checked policyId vs (es ++ [e]) (seen ++ [e])) (fun _ _ => True) r es') :
    post (Checked policyId vs es seen) (fun _ _ => True) r es' := by
  cases r with
  | ok reason => exact Checked.cons he h
  | error _ => trivial

/-- The loop of the check over what is left of `vs`, with what it has seen. -/
theorem meets_autorunCircuitBreakerCheck
    (todo front counted : List (ComplianceViolation E)) (es seen : List (ServiceEvent E))
    (hvs : vs = front ++ todo) (h : Seen policyId front counted seen) :
    (autorunCircuitBreakerCheck policyId counted.length todo).Meets (World.log _ _) TripCall es
      (post (Checked policyId vs es seen) fun _ _ => True) := by
  induction todo generalizing front counted es seen with
  | nil => exact Checked.none _ _ _ _
  | cons v todo ih =>
    have hnext : vs = (front ++ [v]) ++ todo := by simp [hvs]
    unfold autorunCircuitBreakerCheck
    by_cases hskip : v.policyId ≠ policyId ∨ v.status ≠ .autoFired
    · rw [if_pos hskip]
      refine ih _ _ _ _ hnext (h.pass fun runId hrun => ?_)
      rw [ComplianceViolation.autoFiredRun, if_neg (by tauto)] at hrun
      cases hrun
    · rw [if_neg hskip]
      have hown : v.autoFiredRun policyId = truthy v.workflowRunId := if_pos (by tauto)
      cases hrun : truthy v.workflowRunId with
      | none =>
        refine ih _ _ _ _ hnext (h.pass fun runId hrunId => ?_)
        rw [hown, hrun] at hrunId
        cases hrunId
      | some runId =>
        rw [hrun] at hown
        refine Meets.bind (R := fun found es' => ∃ answer : Except ServiceError RunView,
          es' = es ++ [⟨.getWorkflowRun runId, answer⟩] ∧ found = answer.toOption)
          (meets_lookupWorkflowRun trivial fun answer => ⟨answer, rfl, rfl⟩) ?_
        rintro found es' ⟨answer, rfl, rfl⟩
        have hseen := h.append [⟨.getWorkflowRun runId, answer⟩]
        have hmem : ⟨.getWorkflowRun runId, answer⟩ ∈
            seen ++ [(⟨.getWorkflowRun runId, answer⟩ : ServiceEvent E)] := by simp
        -- the violation is passed over unless its run was found completed
        have hpass : (∀ run, answer = .ok run → run.completed = false) →
            (autorunCircuitBreakerCheck policyId counted.length todo).Meets (World.log _ _)
              TripCall (es ++ [⟨.getWorkflowRun runId, answer⟩])
              (post (Checked policyId vs es seen) fun _ _ => True) := by
          intro hopen
          refine (ih _ _ _ _ hnext (hseen.pass fun r hr => ?_)).mono fun r es' hr => ?_
          · rw [hown] at hr
            cases hr
            refine ⟨answer, hmem, fun run hrun hcompleted => ?_⟩
            rw [hopen run hrun] at hcompleted
            cases hcompleted
          · exact Checked.post_cons rfl hr
        cases answer with
        | error e => exact hpass (by simp)
        | ok run =>
          show Meets _ _ (if run.status = "running" ∨ run.status = "waiting" then _ else _) _ _
          by_cases hopen : run.status = "running" ∨ run.status = "waiting"
          · rw [if_pos hopen]
            refine hpass ?_
            rintro run' heq
            cases heq
            simpa [RunView.completed, or_iff_not_imp_left] using hopen
          · rw [if_neg hopen]
            have hcompleted : run.completed = true := by simpa [RunView.completed] using hopen
            cases hfailed : runFullyFailed run with
            | false => exact Checked.cons rfl (Checked.none _ _ _ _)
            | true =>
              have hcount := hseen.count hown hmem hcompleted hfailed
              simp only [Bool.not_true, Bool.false_eq_true, if_false]
              by_cases hlen : counted.length + 1 ≥ autorunCircuitBreakerThreshold
              · rw [if_pos hlen]
                refine ⟨[⟨.getWorkflowRun runId, .ok run⟩], rfl, by simp [ServiceCall.readsHistory],
                  fun _ => ⟨_, _, ⟨todo, hnext.symm⟩, ?_, hcount⟩⟩
                simpa using hlen
              · rw [if_neg hlen]
                have hrest := ih _ _ (es ++ [⟨.getWorkflowRun runId, .ok run⟩]) _ hnext hcount
                rw [length_append, length_singleton] at hrest
                exact hrest.mono fun _ _ => Checked.post_cons rfl

/-! ## The operations -/

section Plain

variable {α : Type}

theorem plain_of_aside (c : ServiceCall E) (h : c.aside = true) : c.plain = true := by
  cases c <;> first | rfl | cases h

theorem plain_of_inLaunch (c : ServiceCall E) (h : c.inLaunch = true) : c.plain = true := by
  cases c <;> first | rfl | cases h

theorem tripCall_of_plain (es : List (ServiceEvent E)) (c : ServiceCall E) (h : c.plain = true) :
    TripCall es c := by
  cases c with
  | tripAutoRun policyId reason => cases h
  | updateViolation id status runId =>
    rintro rfl
    cases h
  | _ => trivial

variable {c : ServiceCall E}

theorem not_readsHistory_of_plain (h : c.plain = true) : c.readsHistory = false := by
  cases c <;> first | rfl | cases h

theorem plain_ask (h : c.plain = true) :
    (ask c : Service E _).Calls fun c => ServiceCall.plain c = true :=
  calls_ask h

theorem plain_forEach {l : List α} {p : α → Service E Unit}
    (h : ∀ a, (p a).Calls fun c => ServiceCall.plain c = true) :
    (forEach l p).Calls fun c => ServiceCall.plain c = true :=
  calls_forEach fun a _ => h a

theorem plain_loadFleet (req : EvaluationRequest) (policies : List (CompliancePolicy E)) :
    (loadFleet req policies).Calls fun c => ServiceCall.plain c = true := by
  unfold loadFleet
  refine Calls.bind (plain_ask rfl) fun items => ?_
  refine Calls.bind (Calls.foldlM fun _ _ _ => ?_) fun devices => ?_
  · exact Calls.bind (plain_ask rfl) fun _ => calls_ret _
  · refine Calls.bind (plain_ask rfl) fun _ => Calls.bind (plain_ask rfl) fun _ => ?_
    refine Calls.bind ?_ fun _ => calls_ret _
    exact Calls.guard fun _ => plain_ask rfl

theorem plain_fireWorkflow (st : PassState E) (policy : CompliancePolicy E) (device : Device E)
    (caseId : Option String) (workflow : Workflow) :
    (fireWorkflow st policy device caseId workflow).Calls fun c => ServiceCall.plain c = true := by
  unfold fireWorkflow
  dsimp only
  split
  · exact Calls.bind ((aside_linkRun _ _).widen plain_of_aside) fun _ => calls_ret _
  · refine Calls.bind ((inLaunch_launchWorkflowRun _ _ _).widen plain_of_inLaunch)
      fun record => ?_
    cases record with
    | none => exact calls_ret _
    | some record =>
      exact Calls.bind ((aside_linkRun _ _).widen plain_of_aside) fun _ => calls_ret _

theorem plain_openViolation (pc : PassContext E) (plan : PolicyPlan E) (device : Device E)
    (matched : List (Condition E)) (st : PassState E) (cnt : PolicyCount) :
    (openViolation pc plan device matched st cnt).Calls fun c => ServiceCall.plain c = true := by
  unfold openViolation
  refine Calls.bind (plain_ask rfl) fun _ => Calls.bind ?_ fun _ =>
    Calls.bind ?_ fun _ => calls_ret _
  · exact Calls.ite (fun _ => Calls.bind (plain_ask rfl) fun _ => calls_ret _)
      fun _ => calls_ret _
  · unfold decideStatus
    refine Calls.guard fun _ =>
      Calls.guard fun _ => ?_
    split
    · exact Calls.bind (plain_fireWorkflow _ _ _ _ _) fun _ => calls_ret _
    · exact calls_ret _

theorem plain_evaluateDevice (pc : PassContext E) (plan : PolicyPlan E)
    (acc : PassState E × PolicyCount) (device : Device E) :
    (evaluateDevice pc plan acc device).Calls fun c => ServiceCall.plain c = true := by
  unfold evaluateDevice
  refine Calls.ite (fun _ => ?_) fun _ =>
    Calls.guard fun _ => plain_openViolation _ _ _ _ _ _
  unfold recoverDevice
  split
  · exact calls_ret _
  · exact Calls.bind (plain_ask rfl) fun _ => calls_ret _

theorem plain_finishPass (req : EvaluationRequest) (policies : List (CompliancePolicy E))
    (st : PassState E) : (finishPass req policies st).Calls
      fun c => ServiceCall.plain c = true := by
  unfold finishPass
  refine Calls.bind (plain_ask rfl) fun _ => ?_
  refine Calls.bind (calls_awaitIf (plain_ask rfl)) fun _ => ?_
  refine Calls.bind (calls_awaitIf (plain_ask rfl)) fun _ => ?_
  refine Calls.bind (plain_forEach fun _ => calls_quietly (plain_ask rfl)) fun _ => ?_
  refine Calls.bind (plain_forEach fun _ => calls_quietly (plain_ask rfl)) fun _ => ?_
  refine Calls.bind ?_ fun _ =>
    Calls.bind (calls_awaitIf (plain_ask rfl)) fun _ => calls_ret _
  refine Calls.guard fun _ => Calls.bind (plain_ask rfl)
    fun _ => plain_forEach fun _ => calls_quietly ?_
  exact Calls.bind (plain_ask rfl) fun _ => calls_ret _

theorem plain_setSuppressionStatus (policyId deviceId : String) (status : ViolationStatus) :
    (setSuppressionStatus policyId deviceId status : Service E Unit).Calls
      fun c => ServiceCall.plain c = true :=
  Calls.bind (plain_ask rfl) fun _ => calls_awaitIf (plain_ask rfl)

theorem plain_approveViolationCore (violationId : String) :
    (approveViolationCore violationId : Service E Unit).Calls
      fun c => ServiceCall.plain c = true := by
  unfold approveViolationCore
  refine Calls.bind (plain_ask rfl) fun found => ?_
  cases found with
  | none => exact calls_ret _
  | some violation =>
    refine Calls.guard fun _ =>
      Calls.bind ((aside_findLinkedWorkflow _).widen plain_of_aside) fun linked => ?_
    cases linked with
    | none => exact calls_ret _
    | some workflow =>
      refine Calls.bind ((inLaunch_launchWorkflowRun _ _ _).widen plain_of_inLaunch)
        fun record => ?_
      cases record with
      | none => exact calls_ret _
      | some record =>
        refine Calls.bind (plain_ask rfl) fun _ => Calls.bind (plain_ask rfl) fun _ => ?_
        refine Calls.bind (plain_setSuppressionStatus _ _ _) fun _ => ?_
        exact (Calls.bind (aside_linkRun _ _) fun _ =>
          calls_quietly (aside_removeComplianceMarkersForDevice _ _)).widen plain_of_aside

theorem plain_dismissViolationCore (violationId : String) (authorized : Bool) :
    (dismissViolationCore violationId authorized : Service E Unit).Calls
      fun c => ServiceCall.plain c = true := by
  unfold dismissViolationCore
  refine Calls.bind (plain_ask rfl) fun found => ?_
  cases found with
  | none => exact calls_ret _
  | some violation =>
    refine Calls.bind (plain_ask rfl) fun _ => Calls.bind (plain_ask rfl) fun _ => ?_
    refine Calls.bind (plain_setSuppressionStatus _ _ _) fun _ => ?_
    exact (Calls.bind (aside_noteDismissed _) fun _ => calls_awaitIf
      (calls_quietly (aside_removeComplianceMarkersForDevice _ _))).widen plain_of_aside

theorem plain_deleteCompliancePolicy (policyId : String) :
    (deleteCompliancePolicy policyId : Service E Unit).Calls
      fun c => ServiceCall.plain c = true := by
  unfold deleteCompliancePolicy
  refine Calls.bind (plain_ask rfl) fun found => ?_
  cases found with
  | none => exact calls_ret _
  | some deleted =>
    refine Calls.bind (plain_ask rfl) fun _ => Calls.bind (plain_ask rfl) fun _ => ?_
    refine Calls.bind (calls_awaitIf (plain_ask rfl)) fun _ => ?_
    exact Calls.bind (plain_ask rfl) fun _ => plain_ask rfl

theorem plain_updateCompliancePolicy (policyId : String) (payload : PolicyPayload E) :
    (updateCompliancePolicy policyId payload).Calls fun c => ServiceCall.plain c = true := by
  unfold updateCompliancePolicy
  refine Calls.bind (plain_ask rfl) fun found => ?_
  cases found with
  | none => exact calls_ret _
  | some policy =>
    refine Calls.bind ?_ fun _ => Calls.bind (plain_ask rfl) fun _ =>
      Calls.bind (plain_ask rfl) fun _ => calls_ret _
    unfold assertDestructiveAckIfNeeded
    refine Calls.guard fun _ => ?_
    refine Calls.bind (plain_ask rfl) fun workflows => ?_
    split
    · exact Calls.guard fun _ => calls_ret _
    · exact calls_ret _

end Plain

section Trips

variable {es seen : List (ServiceEvent E)} {vs : List (ComplianceViolation E)} {α : Type}

variable {p : Service E α}

theorem meets_plain (hp : p.Calls fun c => ServiceCall.plain c = true) :
    p.Meets (World.log _ _) TripCall es fun _ _ => True :=
  (hp.meets_extends tripCall_of_plain es).mono fun _ _ _ => trivial

/-- The violations have been read, and not again. -/
def HistoryRead (vs : List (ComplianceViolation E)) (es : List (ServiceEvent E)) : Prop :=
  ∃ post, SinceHistory vs es post

theorem HistoryRead.append {fs : List (ServiceEvent E)} (h : HistoryRead vs es)
    (hfs : ∀ e ∈ fs, e.call.readsHistory = false) : HistoryRead vs (es ++ fs) := by
  obtain ⟨post, hpost⟩ := h
  exact ⟨post ++ fs, hpost.append hfs⟩

theorem meets_plain_since (h : HistoryRead vs es)
    (hp : p.Calls fun c => ServiceCall.plain c = true) :
    p.Meets (World.log _ _) TripCall es
      (post (fun _ es' => HistoryRead vs es') fun _ _ => True) := by
  refine (hp.meets_tracked tripCall_of_plain es).mono fun r es' hes' => ?_
  obtain ⟨fs, rfl, hfs⟩ := hes'
  cases r with
  | ok a => exact h.append fun e he => not_readsHistory_of_plain (hfs e he)
  | error e => trivial

theorem meets_autorunBlock {pc : PassContext E} (h : HistoryRead pc.violations es)
    (policy : CompliancePolicy E) (workflow escalatedWorkflow : Option Workflow) :
    (autorunBlock pc policy workflow escalatedWorkflow).Meets (World.log _ _) TripCall es
      (post (fun _ es' => HistoryRead pc.violations es') fun _ _ => True) := by
  obtain ⟨seen, hseen⟩ := id h
  unfold autorunBlock
  split_ifs
  · exact h
  · exact h
  · exact h
  · exact h
  · refine Meets.bind (R := Checked policy.id pc.violations es seen)
      ((meets_autorunCircuitBreakerCheck pc.violations [] [] es seen (nil_append _).symm
        (Seen.start policy.id seen)).mono fun r _ hr => ?_) ?_
    · cases r with
      | ok reason => exact hr
      | error e => trivial
    rintro reason es' ⟨fs, rfl, hfs, htrip⟩
    cases reason with
    | none => exact h.append hfs
    | some reason =>
      refine ⟨⟨pc.violations, seen ++ fs, hseen.append hfs, htrip rfl⟩, fun r _ => ?_⟩
      cases r with
      | ok u =>
        refine (h.append hfs).append ?_
        simp [ServiceCall.readsHistory]
      | error e => trivial

theorem meets_evaluatePolicy_trips (pc : PassContext E) (h : HistoryRead pc.violations es)
    (devices : List (Device E)) (st : PassState E) (policy : CompliancePolicy E) :
    (evaluatePolicy pc devices st policy).Meets (World.log _ _) TripCall es
      (post (fun _ es' => HistoryRead pc.violations es') fun _ _ => True) := by
  unfold evaluatePolicy planPolicy
  refine Meets.bind (R := fun _ es' => HistoryRead pc.violations es') ?_ fun planned es' h' => ?_
  · exact Meets.bind (meets_autorunBlock h _ _ _) fun block es' h' => h'
  · refine Meets.bind (R := fun _ es'' => HistoryRead pc.violations es'') ?_
      fun _ _ h'' => h''
    exact meets_plain_since h' (Calls.foldlM fun acc d _ => plain_evaluateDevice _ _ acc d)

theorem meets_runComplianceEvaluation_trips (req : EvaluationRequest) :
    (runComplianceEvaluation req : Service E _).Meets (World.log _ _) TripCall []
      fun _ _ => True := by
  unfold runComplianceEvaluation
  refine Meets.bind (R := fun _ _ => True) ⟨trivial, fun r _ => by cases r <;> trivial⟩
    fun all es _ => ?_
  dsimp only
  split_ifs
  · trivial
  · refine Meets.bind (R := fun _ _ => True)
      ((meets_plain (plain_loadFleet _ _)).mono fun r _ _ => by cases r <;> trivial)
      fun fleet es₁ _ => ?_
    unfold evaluateFleet
    refine Meets.bind (R := fun _ _ => True) ⟨trivial, fun r _ => by cases r <;> trivial⟩
      fun workflows es₂ _ => ?_
    refine Meets.bind (R := fun _ _ => True) ⟨trivial, fun r _ => by cases r <;> trivial⟩
      fun state es₃ _ => ?_
    refine Meets.bind (R := fun vs es' => HistoryRead vs es') ⟨trivial, fun r _ => ?_⟩
      fun vs es₄ hread => ?_
    · cases r with
      | ok vs => exact ⟨[], es₃, rfl, by simp⟩
      | error e => trivial
    · refine Meets.bind (R := fun _ es' => HistoryRead vs es')
        (Meets.foldlM (fun _ _ es' => HistoryRead vs es') hread ?_)
        fun st es₅ _ => meets_plain (plain_finishPass _ _ _)
      intro done policy todo _ st es' h'
      exact meets_evaluatePolicy_trips ⟨workflows, vs, fleet.2, req.nowIso⟩ h' _ st policy

/-- No operation trips a breaker for anything else than what it has seen. -/
theorem meets_tripTask (task : WorkspaceTask E) :
    (task.body : Service E Unit).Meets (World.log _ _) TripCall [] fun _ _ => True := by
  cases task with
  | blob t =>
    cases t with
    | evaluate req =>
      refine Meets.bind (R := fun _ _ => True) ?_ fun _ _ _ => trivial
      exact (meets_runComplianceEvaluation_trips req).mono fun r _ _ => by cases r <;> trivial
    | approve violationId => exact meets_plain (plain_approveViolationCore violationId)
    | dismiss violationId authorized =>
      exact meets_plain (plain_dismissViolationCore violationId authorized)
    | deletePolicy policyId => exact meets_plain (plain_deleteCompliancePolicy policyId)
  | update policyId payload =>
    exact meets_plain (Calls.bind (plain_updateCompliancePolicy policyId payload)
      fun _ => calls_ret _)

end Trips

end AppliverySoar.Compliance
