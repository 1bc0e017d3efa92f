import Mathlib.Data.List.Nodup
import AppliverySoar.Compliance.PassTrace

/-!
# The balance of a pass

The counters that `runComplianceEvaluation` returns (compliance.service.ts, lines 643–866),
against what the pass has done: the rows that it has created, the keys that it has added to the
suppression blob and removed from it, and the runs that it has launched. Nobody else writes: an
id that is drawn is new, policies have an id each, and a run that was created is found.

Results:
* `meets_evaluateDevice`, `meets_evaluatePolicy`: what the bodies of the two loops keep.
* `pass_balanced`: the summary of every pass balances, no workflow is launched twice for a
  device, and no policy has more auto-run attempts than its cap.
-/

namespace AppliverySoar.Compliance.Balance

open Async Prog Access Workflows List

variable {E : Evaluator}

/-! ## Specification -/

/-- A run that was launched, for a device. -/
structure Launch where
  runId : String
  workflowId : String
  deviceId : String
  deriving DecidableEq

/-- The workflow and the device of a launch. -/
def Launch.pair (l : Launch) : String × String :=
  (l.workflowId, l.deviceId)

/-- What a pass has exchanged with the store: the policies, the ids that were drawn, the runs
that were launched, the blob as it was loaded and as it was saved, and the rows that were
created. -/
structure PassLog (E : Evaluator) where
  policies : List (CompliancePolicy E) := []
  drawn : List String := []
  launched : List Launch := []
  loaded : SuppressionState := []
  saved : Option SuppressionState := none
  rows : List (ComplianceViolation E) := []

def PassLog.next (g : PassLog E) (c : ServiceCall E)
    (r : Except ServiceError (ServiceCall.Answer c)) : PassLog E :=
  match c, r with
  | .findPolicies, .ok policies => { g with policies := policies }
  | .randomUUID, .ok id => { g with drawn := id :: g.drawn }
  | .startWorkflowRun _ runId workflow devices, .ok _ =>
    { g with launched := devices.map (fun d => ⟨runId, workflow.id, d.id⟩) ++ g.launched }
  | .loadComplianceState, .ok state => { g with loaded := state }
  | .saveComplianceState state, .ok _ => { g with saved := some state }
  | .createViolations rows, .ok _ => { g with rows := rows }
  | _, _ => g

/-- What the store may answer, with no other writer. -/
def PassLog.may (g : PassLog E) (c : ServiceCall E)
    (r : Except ServiceError (ServiceCall.Answer c)) : Prop :=
  match c, r with
  | .findPolicies, .ok policies => (policies.map CompliancePolicy.id).Nodup
  | .randomUUID, .ok id => id ≠ "" ∧ id ∉ g.drawn
  | .durableRunView runId, .ok view => ∃ run, view = some run ∧ run.id = runId
  | _, _ => True

def passWorld (E : Evaluator) : World (serviceSig E) ServiceError (PassLog E) where
  may := PassLog.may
  next := PassLog.next

/-- Edits of the blob, with the keys that are added and those that are removed, in order. -/
inductive Edited (b : SuppressionState) : List String → List String → SuppressionState → Prop
  | refl : Edited b [] [] b
  | add {added removed : List String} {b' : SuppressionState} (key : String)
      (entry : SuppressionEntry) : Edited b added removed b' → b'.get key = none →
      Edited b (added ++ [key]) removed (b'.set key entry)
  | remove {added removed : List String} {b' : SuppressionState} (key : String) :
      Edited b added removed b' → (b'.get key).isSome = true →
      Edited b added (removed ++ [key]) (b'.delete key)

/-- `autorun_blocked` and `autorun_capped`. -/
def safetyBlocked : ViolationStatus → Bool
  | .autorunBlocked | .autorunCapped => true
  | _ => false

/-- The statuses of an auto-run attempt. -/
def attempted : ViolationStatus → Bool
  | .autoFired | .workflowUnavailable => true
  | _ => false

/-- The key of a row's policy and device. -/
def rowKey (row : ComplianceViolation E) : String :=
  suppressionKey row.policyId row.deviceId

/-- How many of the rows have such a status. -/
def countStatus (f : ViolationStatus → Bool) (rows : List (ComplianceViolation E)) : ℕ :=
  rows.countP fun row => f row.status

/-- The auto-run attempts of a policy. -/
def attempts (rows : List (ComplianceViolation E)) (policyId : String) : ℕ :=
  rows.countP fun row => row.policyId = policyId && attempted row.status

/-- The policy's attempts are within its batch cap. -/
def WithinCap (policy : CompliancePolicy E) (n : ℕ) : Prop :=
  ∀ cap, resolveAutoRunBatchCap policy.autoRunBatchCap = some cap → (n : ℤ) ≤ cap

/-- The summary of a pass balances with what it has done. -/
structure Balanced (summary : EvaluationSummary) (g : PassLog E) : Prop where
  violationsFound : summary.violationsFound = g.rows.length
  edited : ∃ removed, summary.recovered = removed.length ∧
    Edited g.loaded (g.rows.map rowKey) removed (g.saved.getD g.loaded)
  queuedForReview : summary.queuedForReview = countStatus ViolationStatus.queued g.rows
  autoRunSafetyBlocked : summary.autoRunSafetyBlocked = countStatus safetyBlocked g.rows
  autoFired : summary.autoFired = g.launched.length
  runs : (g.launched.map Launch.runId).Nodup
  pairs : (g.launched.map Launch.pair).Nodup
  capped : ∀ policy ∈ g.policies, WithinCap policy (attempts g.rows policy.id)

/-! ## Calls that are not logged -/

/-- What a pass logs. -/
def logged : ServiceCall E → Bool
  | .findPolicies | .randomUUID | .startWorkflowRun .. | .loadComplianceState
  | .saveComplianceState _ | .createViolations _ => true
  | _ => false

/-- Anything may be called. -/
abbrev Anything : PassLog E → ServiceCall E → Prop := fun _ _ => True

section Unlogged

variable {α β : Type} {g : PassLog E}

variable {c : ServiceCall E}

theorem next_of_not_logged (h : logged c = false)
    (r : Except ServiceError (ServiceCall.Answer c)) : g.next c r = g := by
  cases c <;> first
    | rfl
    | cases h

theorem logged_of_silent (c : ServiceCall E) (h : c.silent = true) : logged c = false := by
  cases c <;> first
    | rfl
    | cases h

/-- What follows when a part of a pass has not failed. -/
def whenOk (Q : α → PassLog E → Prop) : Except ServiceError α → PassLog E → Prop :=
  post Q fun _ _ => True

variable {p : Service E α} {Q : β → PassLog E → Prop} {f : α → Service E β} {R : α → Prop}

theorem meets_bind {R : α → PassLog E → Prop}
    (hp : p.Meets (passWorld E) Anything g (whenOk R))
    (hf : ∀ a g', R a g' → (f a).Meets (passWorld E) Anything g' (whenOk Q)) :
    (p >>= f).Meets (passWorld E) Anything g (whenOk Q) :=
  Meets.bind hp hf

theorem meets_unlogged_bind
    (hp : p.Ensures (fun c => logged c = false) R)
    (hf : ∀ a, R a → (f a).Meets (passWorld E) Anything g (whenOk Q)) :
    (p >>= f).Meets (passWorld E) Anything g (whenOk Q) := by
  have hstable : p.Meets (passWorld E) Anything g (post (fun a g' => g' = g ∧ R a) fun _ g' => g' = g) :=
    hp.meets_stable (fun _ _ _ _ => trivial)
      (fun g' c r hc _ hg' => (next_of_not_logged hc r).trans hg') rfl
  refine Meets.bind (R := fun a g' => g' = g ∧ R a) (hstable.mono fun r g' hr => ?_)
    fun a g' ha => ?_
  · cases r with
    | ok a => exact hr
    | error e => exact trivial
  · obtain ⟨rfl, hR⟩ := ha
    exact hf a hR

theorem meets_silent_bind
    (hp : p.Ensures (fun c => ServiceCall.silent c = true) R)
    (hf : ∀ a, R a → (f a).Meets (passWorld E) Anything g (whenOk Q)) :
    (p >>= f).Meets (passWorld E) Anything g (whenOk Q) := by
  have hp' : p.Ensures (fun c => logged c = false) R :=
    Meets.weaken hp fun _ c hc => logged_of_silent c hc
  exact meets_unlogged_bind hp' hf

theorem meets_ask_bind {f : ServiceCall.Answer c → Service E β}
    (hf : ∀ a, g.may c (.ok a) → (f a).Meets (passWorld E) Anything (g.next c (.ok a)) (whenOk Q)) :
    (ask c >>= f).Meets (passWorld E) Anything g (whenOk Q) :=
  Meets.call_bind trivial (fun _ _ => trivial) hf

end Unlogged

/-! ## Counting rows -/

section Counting

variable {rows : List (ComplianceViolation E)} {row : ComplianceViolation E}

theorem countStatus_concat (f : ViolationStatus → Bool) :
    countStatus f (rows ++ [row]) = countStatus f rows + if f row.status then 1 else 0 := by
  unfold countStatus
  rw [countP_append, countP_singleton]

theorem attempts_concat (policyId : String) :
    attempts (rows ++ [row]) policyId =
      attempts rows policyId + if row.policyId = policyId && attempted row.status then 1 else 0 := by
  unfold attempts
  rw [countP_append, countP_singleton]

theorem attempts_concat_other {policyId : String} (h : row.policyId ≠ policyId) :
    attempts (rows ++ [row]) policyId = attempts rows policyId := by
  rw [attempts_concat]
  simp [h]

theorem withinCap_zero (policy : CompliancePolicy E) : WithinCap policy 0 := by
  unfold WithinCap resolveAutoRunBatchCap
  intro cap hcap
  obtain ⟨raw, -, rfl⟩ := Option.map_eq_some_iff.mp hcap
  split_ifs with h
  · exact Int.le_of_lt h
  · decide

theorem withinCap_succ {plan : PolicyPlan E} {cnt : PolicyCount}
    (h : plan.capReached cnt = false) : WithinCap plan.policy (cnt.autofired + 1) := by
  unfold PolicyPlan.capReached at h
  intro cap hcap
  rw [hcap] at h
  have hlt : (cnt.autofired : ℤ) < cap := by simpa using h
  exact_mod_cast hlt

end Counting

/-! ## The invariant of the loops -/

/-- The key of `firedWorkflowThisPass`. -/
def Launch.dedupKey (l : Launch) : String :=
  l.workflowId ++ ":" ++ l.deviceId

/-- What a pass has noted, against what it has done so far. -/
structure Tallied (all : List (CompliancePolicy E)) (g : PassLog E) (st : PassState E) : Prop where
  policies : g.policies = all
  unsaved : g.saved = none
  uncreated : g.rows = []
  violationsFound : st.summary.violationsFound = st.newViolationRows.length
  edited : ∃ removed, st.summary.recovered = removed.length ∧
    Edited g.loaded (st.newViolationRows.map rowKey) removed st.state
  queuedForReview : st.summary.queuedForReview =
    countStatus ViolationStatus.queued st.newViolationRows
  autoRunSafetyBlocked : st.summary.autoRunSafetyBlocked =
    countStatus safetyBlocked st.newViolationRows
  autoFired : st.summary.autoFired = g.launched.length
  drawn : ∀ l ∈ g.launched, l.runId ∈ g.drawn
  runs : (g.launched.map Launch.runId).Nodup
  pairs : (g.launched.map Launch.pair).Nodup
  noted : ∀ l ∈ g.launched, ∃ runId, truthy (st.firedWorkflowThisPass.lookup l.dedupKey) = some runId

/-- What the log holds after the branches of lines 747–842. -/
inductive Settled (g : PassLog E) (st : PassState E) (device : Device E) :
    Decision → PassLog E → Prop
  | idle {d : Decision} (fired : d.fired = none) : Settled g st device d g
  | launched {d : Decision} (l : Launch) (hstatus : d.status = .autoFired)
      (fired : d.fired = some (l.dedupKey, l.runId))
      (absent : truthy (st.firedWorkflowThisPass.lookup l.dedupKey) = none)
      (nonempty : l.runId ≠ "") (fresh : l.runId ∉ g.drawn) :
      Settled g st device d { g with drawn := l.runId :: g.drawn, launched := l :: g.launched }

/-! ## A launch -/

section Device

variable {g : PassLog E} {st : PassState E} {device : Device E}

variable {workflow : Workflow}

theorem meets_launchWorkflowRun {β : Type} {pair : Option (String × String)}
    {f : Option RunView → Service E β} {Q : β → PassLog E → Prop}
    (hf : ∀ run : RunView, run.id ≠ "" → run.id ∉ g.drawn →
      (f (some run)).Meets (passWorld E) Anything
        { g with
          drawn := run.id :: g.drawn
          launched := ⟨run.id, workflow.id, device.id⟩ :: g.launched } (whenOk Q)) :
    (launchWorkflowRun pair workflow [device.ref] >>= f).Meets (passWorld E) Anything g
      (whenOk Q) := by
  unfold launchWorkflowRun
  rw [bind_assoc]
  refine meets_ask_bind fun runId hdraw => ?_
  obtain ⟨hnonempty, hfresh⟩ := hdraw
  split_ifs
  · rw [bind_assoc]
    refine meets_ask_bind fun _ _ => ?_
    rw [bind_assoc]
    refine meets_ask_bind fun _ _ => meets_ask_bind fun view hview => ?_
    obtain ⟨run, rfl, rfl⟩ := hview
    exact hf run hnonempty hfresh
  · rw [bind_assoc]
    exact meets_ask_bind fun _ _ => hf ⟨runId, "running", []⟩ hnonempty hfresh

variable {caseId : Option String} {policy : CompliancePolicy E}

/-- A workflow is launched for a device if it has not been in this pass. -/
theorem meets_fireWorkflow
    :
    (fireWorkflow st policy device caseId workflow).Meets (passWorld E) Anything g
      (whenOk fun d g' => d.status = .autoFired ∧ Settled g st device d g') := by
  unfold fireWorkflow
  dsimp only
  split
  · exact meets_silent_bind (calls_linkRun caseId _) fun _ _ => ⟨rfl, .idle rfl⟩
  · next habsent =>
    refine meets_launchWorkflowRun fun run hnonempty hfresh => ?_
    refine meets_silent_bind (calls_linkRun caseId _) fun _ _ => ⟨rfl, ?_⟩
    exact .launched ⟨run.id, workflow.id, device.id⟩ rfl rfl habsent hnonempty hfresh

variable {plan : PolicyPlan E}

/-- What the branches settle, and that an attempt is within the cap. -/
theorem meets_decideStatus {cnt : PolicyCount} :
    (decideStatus plan st cnt device caseId).Meets (passWorld E) Anything g
      (whenOk fun d g' => Settled g st device d.1 g' ∧
        d.2 = (if attempted d.1.status then 1 else 0) ∧
        (WithinCap plan.policy cnt.autofired → WithinCap plan.policy (cnt.autofired + d.2))) := by
  unfold decideStatus
  split
  · exact ⟨.idle rfl, rfl, fun h => h⟩
  split
  · exact ⟨.idle rfl, rfl, fun h => h⟩
  · next hblocked hcapped =>
    split
    · next workflow hworkflow =>
      have hauto : plan.autoRuns = true := by
        by_contra hauto
        rw [if_neg hauto] at hworkflow
        cases hworkflow
      rw [hauto, Bool.true_and, Bool.not_eq_true] at hcapped
      refine meets_bind meets_fireWorkflow fun d g' hd => ?_
      obtain ⟨hstatus, hsettled⟩ := hd
      exact ⟨hsettled, by rw [hstatus]; rfl, fun _ => withinCap_succ hcapped⟩
    · refine ⟨.idle rfl, ?_, fun h => h⟩
      cases plan.workflow <;> rfl

/-! ## A device -/

theorem Decision.count_fields (d : Decision) (s : EvaluationSummary) :
    (d.count s).violationsFound = s.violationsFound ∧ (d.count s).recovered = s.recovered ∧
    (d.count s).queuedForReview = s.queuedForReview + (if d.status.queued then 1 else 0) ∧
    (d.count s).autoRunSafetyBlocked =
      s.autoRunSafetyBlocked + (if safetyBlocked d.status then 1 else 0) ∧
    (d.count s).autoFired =
      s.autoFired + if d.status = .autoFired ∧ d.fired.isSome = true then 1 else 0 := by
  obtain ⟨status, runId, fired⟩ := d
  cases status <;> cases fired <;> exact ⟨rfl, rfl, rfl, rfl, rfl⟩

variable {all : List (CompliancePolicy E)} {d : Decision} {g' : PassLog E}

theorem Settled.noted (h : Settled g st device d g')
    (hnoted : ∀ l ∈ g.launched, ∃ runId,
      truthy (st.firedWorkflowThisPass.lookup l.dedupKey) = some runId) :
    ∀ l ∈ g'.launched, ∃ runId,
      truthy ((d.fired.toList ++ st.firedWorkflowThisPass).lookup l.dedupKey) = some runId := by
  cases h with
  | idle fired =>
    rw [fired]
    exact hnoted
  | launched l hstatus fired absent nonempty fresh =>
    rw [fired]
    intro l' hl'
    show ∃ runId, truthy (List.lookup l'.dedupKey ((l.dedupKey, l.runId) :: _)) = some runId
    by_cases hkey : l'.dedupKey = l.dedupKey
    · refine ⟨l.runId, ?_⟩
      rw [hkey, lookup_cons_self]
      simp [truthy, nonempty]
    · rw [lookup_cons, beq_eq_false_iff_ne.mpr hkey]
      rcases mem_cons.mp hl' with rfl | hmem
      · exact absurd rfl hkey
      · exact hnoted l' hmem

theorem Tallied.open (h : Tallied all g st) (hsettled : Settled g st device d g')
    {row : ComplianceViolation E} {key : String} {entry : SuppressionEntry}
    (habsent : st.state.get key = none) (hkey : rowKey row = key) (hstatus : row.status = d.status)
    (caseNotifyEvents : List (String × CaseEvent)) (markerActions : List MarkerAction)
    (auditEvents : List AuditEvent) :
    Tallied all g'
      { st with
        state := st.state.set key entry
        newViolationRows := st.newViolationRows ++ [row]
        caseNotifyEvents := caseNotifyEvents
        markerActions := markerActions
        auditEvents := auditEvents
        firedWorkflowThisPass := d.fired.toList ++ st.firedWorkflowThisPass
        summary := d.count { st.summary with violationsFound := st.summary.violationsFound + 1 } } := by
  obtain ⟨hfound, hrecovered, hqueued, hblocked, hfired⟩ :=
    Decision.count_fields d { st.summary with violationsFound := st.summary.violationsFound + 1 }
  have hedited : ∃ removed, (d.count
      { st.summary with violationsFound := st.summary.violationsFound + 1 }).recovered =
        removed.length ∧
      Edited g.loaded ((st.newViolationRows ++ [row]).map rowKey) removed
        (st.state.set key entry) := by
    obtain ⟨removed, hlength, hedited⟩ := h.edited
    refine ⟨removed, hrecovered.trans hlength, ?_⟩
    rw [map_append, map_singleton, hkey]
    exact hedited.add key entry habsent
  have hfound' := hfound.trans (congrArg (· + 1) h.violationsFound)
  have hlength : st.newViolationRows.length + 1 = (st.newViolationRows ++ [row]).length := by
    rw [length_append]
    rfl
  rw [hlength] at hfound'
  have hqueued' := hqueued.trans (congrArg (· + _) h.queuedForReview)
  have hblocked' := hblocked.trans (congrArg (· + _) h.autoRunSafetyBlocked)
  rw [← hstatus, ← countStatus_concat] at hqueued' hblocked'
  have hnoted := hsettled.noted h.noted
  cases hsettled with
  | idle fired =>
    refine ⟨h.policies, h.unsaved, h.uncreated, hfound', hedited, hqueued', hblocked', ?_, h.drawn,
      h.runs, h.pairs, hnoted⟩
    rw [hfired, fired, if_neg (by simp)]
    exact h.autoFired
  | launched l hautoFired fired absent nonempty fresh =>
    refine ⟨h.policies, h.unsaved, h.uncreated, hfound', hedited, hqueued', hblocked', ?_, ?_, ?_, ?_,
      hnoted⟩
    · rw [hfired, fired, if_pos ⟨hautoFired, rfl⟩]
      exact congrArg (· + 1) h.autoFired
    · intro l' hl'
      rcases mem_cons.mp hl' with rfl | hmem
      · exact mem_cons_self
      · exact mem_cons_of_mem _ (h.drawn l' hmem)
    · refine nodup_cons.mpr ⟨fun hmem => ?_, h.runs⟩
      obtain ⟨l', hl', hid⟩ := mem_map.mp hmem
      exact fresh (hid ▸ h.drawn l' hl')
    · refine nodup_cons.mpr ⟨fun hmem => ?_, h.pairs⟩
      obtain ⟨l', hl', hpair⟩ := mem_map.mp hmem
      have hdedup : l'.dedupKey = l.dedupKey := by
        have hworkflow : l'.workflowId = l.workflowId := congrArg Prod.fst hpair
        have hdevice : l'.deviceId = l.deviceId := congrArg Prod.snd hpair
        rw [Launch.dedupKey, hworkflow, hdevice]
        rfl
      obtain ⟨runId, hrun⟩ := h.noted l' hl'
      rw [hdedup, absent] at hrun
      cases hrun

/-- What the devices of a policy leave: `before` are the attempts when they began. -/
structure Visiting (all : List (CompliancePolicy E)) (policy : CompliancePolicy E)
    (before : String → ℕ) (g : PassLog E) (acc : PassState E × PolicyCount) : Prop where
  tallied : Tallied all g acc.1
  counted : attempts acc.1.newViolationRows policy.id = acc.2.autofired
  within : WithinCap policy acc.2.autofired
  others : ∀ id, id ≠ policy.id → attempts acc.1.newViolationRows id = before id

variable {before : String → ℕ} {acc : PassState E × PolicyCount}

theorem Tallied.draw (h : Tallied all g st) (id : String) :
    Tallied all { g with drawn := id :: g.drawn } st :=
  { h with drawn := fun l hl => mem_cons_of_mem _ (h.drawn l hl) }

variable {pc : PassContext E}

theorem meets_openViolation
    {matched : List (Condition E)} (h : Visiting all plan.policy before g acc)
    (habsent : acc.1.state.get (plan.policy.key device) = none) :
    (openViolation pc plan device matched acc.1 acc.2).Meets (passWorld E) Anything g
      (whenOk fun acc g' => Visiting all plan.policy before g' acc) := by
  unfold openViolation
  refine meets_ask_bind fun violationId _ => ?_
  refine meets_silent_bind (calls_openCase plan.policy device violationId) fun opened _ => ?_
  refine meets_bind meets_decideStatus fun d g' hd => ?_
  obtain ⟨hsettled, hattempt, hwithin⟩ := hd
  refine ⟨(h.tallied.draw violationId).open hsettled habsent rfl rfl _ _ _, ?_,
    hwithin h.within, fun id hid => ?_⟩
  · rw [attempts_concat, h.counted, hattempt]
    simp [newViolationRow]
  · rw [attempts_concat_other fun heq => hid heq.symm]
    exact h.others id hid

theorem meets_recoverDevice (h : Visiting all policy before g acc) :
    (recoverDevice policy device acc.1 acc.2).Meets (passWorld E) Anything g
      (whenOk fun acc g' => Visiting all policy before g' acc) := by
  unfold recoverDevice
  split
  · exact h
  · next suppressed hget =>
    refine meets_unlogged_bind (R := fun _ => True) (calls_ask rfl) fun recovery _ => ?_
    refine ⟨{ h.tallied with edited := ?_ }, h.counted, h.within, h.others⟩
    obtain ⟨removed, hlength, hedited⟩ := h.tallied.edited
    refine ⟨removed ++ [policy.key device], ?_, hedited.remove _ (by rw [hget]; rfl)⟩
    rw [length_append]
    exact congrArg (· + 1) hlength

/-- **Step lemma** of the inner loop. -/
theorem meets_evaluateDevice (h : Visiting all plan.policy before g acc) :
    (evaluateDevice pc plan acc device).Meets (passWorld E) Anything g
      (whenOk fun acc g' => Visiting all plan.policy before g' acc) := by
  unfold evaluateDevice
  dsimp only
  split_ifs with hempty hkey
  · exact meets_recoverDevice h
  · exact h
  · exact meets_openViolation h (by simpa using hkey)

end Device

/-! ## A policy -/

section Policy

variable {g : PassLog E} {st : PassState E} {all : List (CompliancePolicy E)}
  {policy : CompliancePolicy E}

/-- What a policy leaves: its attempts are within its cap, and those of others are as before. -/
structure Evaluated (all : List (CompliancePolicy E)) (policy : CompliancePolicy E)
    (before : String → ℕ) (st : PassState E) (g : PassLog E) : Prop where
  tallied : Tallied all g st
  within : WithinCap policy (attempts st.newViolationRows policy.id)
  others : ∀ id, id ≠ policy.id → attempts st.newViolationRows id = before id

/-- **Step lemma** of the outer loop. -/
theorem meets_evaluatePolicy {pc : PassContext E} {devices : List (Device E)}
    (h : Tallied all g st) (hnone : attempts st.newViolationRows policy.id = 0) :
    (evaluatePolicy pc devices st policy).Meets (passWorld E) Anything g
      (whenOk fun st' g' => Evaluated all policy (attempts st.newViolationRows) st' g') := by
  unfold evaluatePolicy
  refine meets_silent_bind (ensures_planPolicy pc policy) fun planned hplan => ?_
  subst hplan
  have hstart : Visiting all planned.1.policy (attempts st.newViolationRows) g
      (st.enterPolicy planned.2 (planned.1.policy.scopedDevices devices).length, {}) :=
    ⟨{ h with }, hnone, withinCap_zero _, fun _ _ => rfl⟩
  refine meets_bind (R := fun acc g' =>
      Visiting all planned.1.policy (attempts st.newViolationRows) g' acc)
    (Meets.foldlM
      (fun _ acc g' => Visiting all planned.1.policy (attempts st.newViolationRows) g' acc)
      hstart fun done device todo _ acc g' hacc => meets_evaluateDevice hacc)
    fun acc g' hacc => ?_
  exact ⟨{ hacc.tallied with }, hacc.counted ▸ hacc.within, hacc.others⟩

end Policy

/-! ## A pass -/

section Pass

variable {g : PassLog E} {st : PassState E} {all policies done : List (CompliancePolicy E)}
  {req : EvaluationRequest}

/-- What a pass has counted after some of its policies. -/
structure Passing (all done : List (CompliancePolicy E)) (st : PassState E) (g : PassLog E) :
    Prop where
  tallied : Tallied all g st
  within : ∀ policy ∈ done, WithinCap policy (attempts st.newViolationRows policy.id)
  rest : ∀ id, id ∉ done.map CompliancePolicy.id → attempts st.newViolationRows id = 0

theorem passing_start (all : List (CompliancePolicy E)) (state : SuppressionState) (n : ℕ) :
    Passing all [] { state := state, summary := { evaluatedPolicies := n } }
      { policies := all, loaded := state } where
  tallied :=
    { policies := rfl
      unsaved := rfl
      uncreated := rfl
      violationsFound := rfl
      edited := ⟨[], rfl, .refl⟩
      queuedForReview := rfl
      autoRunSafetyBlocked := rfl
      autoFired := rfl
      drawn := fun l hl => by cases hl
      runs := nodup_nil
      pairs := nodup_nil
      noted := fun l hl => by cases hl }
  within policy hmem := by cases hmem
  rest _ _ := rfl

theorem Passing.snoc {policy : CompliancePolicy E} {st' : PassState E} {g' : PassLog E}
    (h : Passing all done st g) (hnew : policy.id ∉ done.map CompliancePolicy.id)
    (hpolicy : Evaluated all policy (attempts st.newViolationRows) st' g') :
    Passing all (done ++ [policy]) st' g' := by
  refine ⟨hpolicy.tallied, fun other hother => ?_, fun id hid => ?_⟩
  · rcases mem_append.mp hother with hmem | hmem
    · have hne : other.id ≠ policy.id := fun heq =>
        hnew (heq ▸ mem_map_of_mem hmem)
      rw [hpolicy.others other.id hne]
      exact h.within other hmem
    · obtain rfl := mem_singleton.mp hmem
      exact hpolicy.within
  · rw [map_append, mem_append, not_or] at hid
    have hne : id ≠ policy.id := by simpa using hid.2
    rw [hpolicy.others id hne]
    exact h.rest id hid.1

theorem meets_policies {pc : PassContext E} {devices : List (Device E)}
    (hnodup : (policies.map CompliancePolicy.id).Nodup) (h : Passing all [] st g) :
    (policies.foldlM (evaluatePolicy pc devices) st).Meets (passWorld E) Anything g
      (whenOk fun st g => Passing all policies st g) := by
  refine Meets.foldlM (fun done st g => Passing all done st g) h
    fun done policy todo hsplit st g hdone => ?_
  have hnew : policy.id ∉ done.map CompliancePolicy.id := by
    rw [hsplit, map_append, map_cons] at hnodup
    exact fun hmem => (nodup_append.mp hnodup).2.2 _ hmem _ mem_cons_self rfl
  refine (meets_evaluatePolicy hdone.tallied (hdone.rest _ hnew)).mono fun r g' hr => ?_
  cases r with
  | error e => exact trivial
  | ok st' => exact hdone.snoc hnew hr

/-- A pass that has counted everything balances once it has saved. -/
theorem Passing.balanced (h : Passing all (req.policies all) st g)
    (hnodup : (all.map CompliancePolicy.id).Nodup) :
    Balanced st.summary { g with saved := some st.state, rows := st.newViolationRows } where
  violationsFound := h.tallied.violationsFound
  edited := h.tallied.edited
  queuedForReview := h.tallied.queuedForReview
  autoRunSafetyBlocked := h.tallied.autoRunSafetyBlocked
  autoFired := h.tallied.autoFired
  runs := h.tallied.runs
  pairs := h.tallied.pairs
  capped policy hpolicy := by
    have hmem : policy ∈ all := h.tallied.policies ▸ hpolicy
    by_cases hpass : policy ∈ req.policies all
    · exact h.within policy hpass
    · have hrest : policy.id ∉ (req.policies all).map CompliancePolicy.id := by
        intro hid
        obtain ⟨other, hother, heq⟩ := mem_map.mp hid
        obtain rfl := inj_on_of_nodup_map hnodup (mem_of_mem_filter hother) hmem heq
        exact hpass hother
      show WithinCap policy (attempts st.newViolationRows policy.id)
      rw [h.rest _ hrest]
      exact withinCap_zero policy

theorem meets_finishPass (h : Passing all (req.policies all) st g)
    (hnodup : (all.map CompliancePolicy.id).Nodup) :
    (finishPass req policies st).Meets (passWorld E) Anything g (whenOk Balanced) := by
  have hbalanced := h.balanced hnodup
  have hrest : ∀ g', Balanced st.summary g' → Meets (passWorld E) Anything (do
      awaitIf (!st.auditEvents.isEmpty) (ask (.recordAuditEvents st.auditEvents))
      forEach st.caseNotifyEvents fun e => quietly (ask (.dispatchCaseEvent e.1 e.2))
      forEach st.policyAlertEvents fun a =>
        quietly (ask (.firePolicyViolationAlert a.1 a.2.1 a.2.2))
      writeMarkers st.markerActions
      awaitIf req.scope.stamps (ask (.stampEvaluated (policies.map CompliancePolicy.id)))
      return st.summary : Service E EvaluationSummary) g' (whenOk Balanced) := by
    intro g' hg'
    refine meets_silent_bind (calls_awaitIf (calls_silent rfl)) fun _ _ => ?_
    refine meets_silent_bind (calls_forEach fun _ _ => calls_quietly (calls_silent rfl))
      fun _ _ => ?_
    refine meets_silent_bind (calls_forEach fun _ _ => calls_quietly (calls_silent rfl))
      fun _ _ => ?_
    refine meets_unlogged_bind (R := fun _ => True) (p := writeMarkers st.markerActions) ?_
      fun _ _ => ?_
    · refine Calls.guard fun _ => ?_
      refine Calls.bind (calls_ask rfl) fun orgBase => calls_forEach fun _ _ => ?_
      exact calls_quietly (Calls.bind (calls_ask rfl) fun _ => calls_ret _)
    · exact meets_silent_bind (calls_awaitIf (calls_silent rfl)) fun _ _ => hg'
  unfold finishPass
  refine meets_ask_bind fun _ _ => ?_
  by_cases hrows : st.newViolationRows = []
  · rw [awaitIf, if_neg (by simp [hrows])]
    have hsame : g.rows = st.newViolationRows := h.tallied.uncreated.trans hrows.symm
    rw [← hsame] at hbalanced
    exact hrest _ hbalanced
  · rw [awaitIf, if_pos (by simpa using hrows)]
    exact meets_ask_bind fun _ _ => hrest _ hbalanced

theorem calls_loadFleet (req : EvaluationRequest) (policies : List (CompliancePolicy E)) :
    (loadFleet req policies).Calls fun c => logged c = false := by
  unfold loadFleet
  refine Calls.bind (calls_ask rfl) fun items => ?_
  refine Calls.bind (Calls.foldlM fun _ _ _ =>
    Calls.bind (calls_ask rfl) fun _ => calls_ret _) fun devices => ?_
  refine Calls.bind (calls_ask rfl) fun _ => Calls.bind (calls_ask rfl) fun _ => ?_
  refine Calls.bind ?_ fun _ => calls_ret _
  exact Calls.guard fun _ => calls_ask rfl

theorem meets_runComplianceEvaluation (req : EvaluationRequest) :
    (runComplianceEvaluation req : Service E EvaluationSummary).Meets (passWorld E) Anything {}
      (whenOk Balanced) := by
  unfold runComplianceEvaluation
  refine meets_ask_bind fun all hnodup => ?_
  have hfilter : ((req.policies all).map CompliancePolicy.id).Nodup :=
    hnodup.sublist (filter_sublist.map _)
  dsimp only
  split_ifs with hempty
  · exact ⟨rfl, ⟨[], rfl, .refl⟩, rfl, rfl, rfl, nodup_nil, nodup_nil,
      fun policy _ => withinCap_zero policy⟩
  · refine meets_unlogged_bind (calls_loadFleet req (req.policies all)) fun fleet _ => ?_
    unfold evaluateFleet
    refine meets_silent_bind (calls_silent rfl) fun workflows _ => ?_
    refine meets_ask_bind fun state _ => ?_
    refine meets_silent_bind (calls_silent rfl) fun violations _ => ?_
    refine meets_bind (meets_policies hfilter (passing_start all state _)) fun st g hst => ?_
    exact meets_finishPass hst hnodup

end Pass

/-- **Main theorem**: the summary of a pass that has completed balances with what it has done. -/
theorem pass_balanced (req : EvaluationRequest) (es : List (ServiceEvent E))
    (summary : EvaluationSummary)
    (hsteps : Prog.Steps (runComplianceEvaluation req) es (.ret (.ok summary)))
    (hes : (passWorld E).Accepts {} es) : Balanced summary ((passWorld E).after {} es) :=
  (meets_runComplianceEvaluation req).post_of_steps hsteps hes

/-! ## Two policies with one workflow -/

/-- The policy about encryption, with a cap of one attempt. -/
def cappedPolicy (id : String) : CompliancePolicy attributeEvaluator :=
  { encryptionPolicy with id := id, workflowId := some "w1", autoRun := true, autoRunBatchCap := some 1 }

def encryptWorkflow : Workflow where
  id := "w1"
  name := "Encrypt"
  steps := []

/-- The ids that are drawn: as many letters as there are ids. -/
def PassLog.nextId (g : PassLog attributeEvaluator) : String :=
  String.ofList (List.replicate (g.drawn.length + 1) 'x')

def PassLog.answer (g : PassLog attributeEvaluator) :
    (c : ServiceCall attributeEvaluator) → Except ServiceError (ServiceCall.Answer c)
  | .randomUUID => if g.nextId ∈ g.drawn then .error (.other "drawn before") else .ok g.nextId
  | .durableRunView _ => .error (.other "not reached")
  | .linkCaseRun .. => .ok ()
  | c => firstPassAnswer [cappedPolicy "p1", cappedPolicy "p2"]
    [plainLaptop, { plainLaptop with id := "d2" }] [encryptWorkflow] c

/-- The pass over the two laptops: each policy attempts the first one, which is launched once. -/
def twoPolicyPass : List (ServiceEvent attributeEvaluator) × Except ServiceError EvaluationSummary :=
  (runComplianceEvaluation { nowIso := "2024-01-01T00:00:00.000Z" }).execute (passWorld _)
    PassLog.answer {}

theorem may_answer (g : PassLog attributeEvaluator) (c : ServiceCall attributeEvaluator) :
    g.may c (g.answer c) := by
  cases c with
  | findPolicies => show Nodup _; decide
  | randomUUID =>
    have hanswer : g.answer .randomUUID =
        if g.nextId ∈ g.drawn then .error (.other "drawn before") else .ok g.nextId := rfl
    rw [hanswer]
    split_ifs with h
    · trivial
    · refine ⟨fun hempty => ?_, h⟩
      have hlength := congrArg String.length hempty
      simp [PassLog.nextId] at hlength
  | _ => trivial

theorem pass_balanced_twoPolicies : ∃ summary,
    Balanced summary ((passWorld attributeEvaluator).after {} twoPolicyPass.1) ∧
    summary.autoFired = 1 := by
  obtain ⟨summary, hsummary, hfired⟩ : ∃ summary, twoPolicyPass.2 = .ok summary ∧
      summary.autoFired = 1 := ⟨_, rfl, rfl⟩
  have hsteps : Prog.Steps (runComplianceEvaluation { nowIso := "2024-01-01T00:00:00.000Z" })
      twoPolicyPass.1 (.ret twoPolicyPass.2) := steps_execute _ _
  rw [hsummary] at hsteps
  exact ⟨summary, pass_balanced _ _ summary hsteps (accepts_execute may_answer _ _), hfired⟩

end AppliverySoar.Compliance.Balance
