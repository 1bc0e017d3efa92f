import AppliverySoar.Compliance.Evaluation

/-!
# What a pass does to the blob

A pass as it looks from outside: the marks that its calls leave (what it read,
which ids it drew, which violations it found recovered, which workflows it
launched, what it saved, inserted and marked). `Scan` is the abstract pass: it
visits policies and devices, and at each visit leaves the blob alone, deletes
the entry of a recovered violation, or adds the entry of a new one together
with its row.

Results:
* `meets_evaluateDevice`: at a device the program follows the scan.
* `meets_runComplianceEvaluation`: so it does over a whole pass; then it saves
  what the scan ends with, inserts its rows and writes its markers.
-/

namespace AppliverySoar.Compliance

open Async Prog Access Workflows List ServiceCall

variable {E : Evaluator}

/-! ## Marks -/

/-- What is remembered of a call and its answer. -/
inductive Mark (E : Evaluator)
  | policies (all : List (CompliancePolicy E))
  | devices (items : List (Device E))
  | loaded (state : SuppressionState)
  | issued (id : String)
  | recovered (violationId : String)
  | launched (policyId deviceId : String)
  | saved (state : SuppressionState)
  | created (rows : List (ComplianceViolation E))
  | rejected (rows : List (ComplianceViolation E))
  | marker (deviceId : String) (marker : Marker) (present : Bool)

/-- The mark that an event leaves. -/
def mark : ServiceEvent E → Option (Mark E)
  | ⟨.findPolicies, .ok all⟩ => some (.policies all)
  | ⟨.getDevicesFull true, .ok items⟩ => some (.devices items)
  | ⟨.loadComplianceState, .ok state⟩ => some (.loaded state)
  | ⟨.randomUUID, .ok id⟩ => some (.issued id)
  | ⟨.markCaseRecovered violationId _, .ok _⟩ => some (.recovered violationId)
  | ⟨.startWorkflowRun (some (p, d)) _ _ _, .ok _⟩ => some (.launched p d)
  | ⟨.saveComplianceState state, .ok _⟩ => some (.saved state)
  | ⟨.createViolations rows, .ok _⟩ => some (.created rows)
  | ⟨.createViolations rows, .error _⟩ => some (.rejected rows)
  | ⟨.applyMarker _ deviceId marker present, _⟩ => some (.marker deviceId marker present)
  | _ => none

/-- The marks of what has been exchanged. -/
def marks (es : List (ServiceEvent E)) : List (Mark E) :=
  es.filterMap mark

@[simp] theorem marks_nil : marks ([] : List (ServiceEvent E)) = [] := rfl

@[simp] theorem marks_append (es fs : List (ServiceEvent E)) :
    marks (es ++ fs) = marks es ++ marks fs := by
  simp [marks]

theorem marks_snoc (es : List (ServiceEvent E)) (e : ServiceEvent E) :
    marks (es ++ [e]) = marks es ++ (mark e).toList := by
  rw [marks_append]
  cases h : mark e <;> simp [marks, h]

theorem mem_marks {m : Mark E} {es : List (ServiceEvent E)} :
    m ∈ marks es ↔ ∃ e ∈ es, mark e = some m :=
  mem_filterMap

variable {e : ServiceEvent E}

theorem call_of_saved {b : SuppressionState} (h : mark e = some (.saved b)) :
    e.call = .saveComplianceState b := by
  obtain ⟨c, r⟩ := e
  unfold mark at h
  split at h <;> cases h
  next heq => exact congrArg Event.call heq

theorem call_of_created {rows : List (ComplianceViolation E)}
    (h : mark e = some (.created rows)) : e.call = .createViolations rows := by
  obtain ⟨c, r⟩ := e
  unfold mark at h
  split at h <;> cases h
  next heq => exact congrArg Event.call heq

/-- A call that leaves no mark and writes neither violations nor policies. -/
def ServiceCall.silent : ServiceCall E → Bool
  | .findPolicies | .getDevicesFull _ | .loadComplianceState | .randomUUID
  | .markCaseRecovered .. | .startWorkflowRun .. | .saveComplianceState _ | .createViolations _
  | .updateViolation .. | .deleteViolations _ | .deletePolicy _ | .updatePolicy ..
  | .applyMarker .. => false
  | _ => true

theorem mark_of_silent {c : ServiceCall E} (h : c.silent = true)
    (r : Except ServiceError (ServiceCall.Answer c)) : mark ⟨c, r⟩ = none := by
  cases c <;> first | rfl | cases h

/-- A mark that does not come from the end of a pass. -/
def Mark.early : Mark E → Bool
  | .saved _ | .created _ | .rejected _ | .marker .. => false
  | _ => true

/-! ## The abstract pass -/

/-- What `fireWorkflow` leaves: nothing, or a run id and the launch. -/
inductive LaunchMarks (p d : String) : List (Mark E) → Prop
  | none : LaunchMarks p d []
  | launched (runId : String) : LaunchMarks p d [.issued runId, .launched p d]

/-- A policy and a device that a pass comes to. -/
structure Visit (E : Evaluator) where
  policy : CompliancePolicy E
  device : Device E

/-- The key of a visit. -/
def Visit.key (v : Visit E) : String :=
  suppressionKey v.policy.id v.device.id

/-- The conditions that the device matches. -/
def Visit.matched (v : Visit E) (ctx : EvalContext E) : List (Condition E) :=
  policyViolated v.device v.policy.rule ctx

/-- What a scan has reached: the blob, the new rows and the queued marker
actions. -/
structure ScanState (E : Evaluator) where
  blob : SuppressionState
  rows : List (ComplianceViolation E)
  acts : List MarkerAction

/-- What the state of a pass says of its scan. -/
def PassState.scan (st : PassState E) : ScanState E :=
  ⟨st.state, st.newViolationRows, st.markerActions⟩

/-- `Scan ctx b₀ visits st ms`: the visits `visits` lead from the blob `b₀` to
`st` and leave the marks `ms`. -/
inductive Scan (ctx : EvalContext E) (b₀ : SuppressionState) :
    List (Visit E) → ScanState E → List (Mark E) → Prop
  | start : Scan ctx b₀ [] ⟨b₀, [], []⟩ []
  | kept {visits st ms} (v : Visit E) :
      Scan ctx b₀ visits st ms →
      (v.matched ctx ≠ [] ↔ (SuppressionState.get st.blob v.key).isSome = true) →
      Scan ctx b₀ (visits ++ [v]) st ms
  | recovered {visits st ms} (v : Visit E) {e : SuppressionEntry} :
      Scan ctx b₀ visits st ms → v.matched ctx = [] →
      SuppressionState.get st.blob v.key = some e →
      Scan ctx b₀ (visits ++ [v])
        ⟨SuppressionState.delete st.blob v.key, st.rows,
          st.acts ++ v.policy.markerActions v.device.id false⟩
        (ms ++ [.recovered e.violationId])
  | opened {visits st ms tail} (v : Visit E) {row : ComplianceViolation E}
      {entry : SuppressionEntry} :
      Scan ctx b₀ visits st ms → v.matched ctx ≠ [] →
      SuppressionState.get st.blob v.key = none →
      row.policyId = v.policy.id → row.deviceId = v.device.id →
      row.matchedConditions = v.matched ctx →
      (row.status.queued = true → (row.status = .pending ↔ v.policy.autoRun = false)) →
      entry.violationId = row.id →
      LaunchMarks v.policy.id v.device.id tail →
      Scan ctx b₀ (visits ++ [v])
        ⟨SuppressionState.set st.blob v.key entry, st.rows ++ [row],
          st.acts ++ v.policy.markerActions v.device.id true⟩
        (ms ++ .issued row.id :: tail)

/-- The visits of a pass over some policies and devices. -/
def visitsOf (policies : List (CompliancePolicy E)) (devices : List (Device E)) :
    List (Visit E) :=
  policies.flatMap fun p => (p.scopedDevices devices).map fun d => ⟨p, d⟩

/-- The keys of a pass, in the order in which it comes to them. -/
def EvaluationRequest.keys (req : EvaluationRequest) (all : List (CompliancePolicy E))
    (items : List (Device E)) : List String :=
  (visitsOf (req.policies all) (req.devices items)).map Visit.key

/-- The devices and the context that a pass evaluates with. -/
abbrev Fleet (E : Evaluator) := List (Device E) × EvalContext E

/-- What of a device decides whether it is in a policy's scope, and its key. -/
def Device.shape (d : Device E) : String × List String × String :=
  (d.id, d.deviceAudiences, d.platform)

/-- The marks of a pass over `fleet` that has loaded `b₀` and has the visits
`todo` before it. -/
def Scanned (req : EvaluationRequest) (fleet : Fleet E) (b₀ : SuppressionState)
    (visits todo : List (Visit E)) (st : ScanState E) (ms : List (Mark E)) : Prop :=
  ∃ all items ms', ms = .policies all :: .devices items :: .loaded b₀ :: ms' ∧
    fleet.1.map Device.shape = (req.devices items).map Device.shape ∧
    visitsOf (req.policies all) fleet.1 = visits ++ todo ∧ Scan fleet.2 b₀ visits st ms'

/-- `fleet` is what the pass has read: the calls after the first are a run of
`loadFleet`. -/
def FleetRead (req : EvaluationRequest) (es : List (ServiceEvent E)) (fleet : Fleet E) : Prop :=
  ∃ all fs es', es = ⟨.findPolicies, .ok all⟩ :: (fs ++ es') ∧
    Prog.Steps (loadFleet req (req.policies all)) fs (.ret (.ok fleet))

/-- Which marks a pass over `fleet` has left when it makes a call. -/
def FleetCall (req : EvaluationRequest) (fleet : Fleet E) (es : List (ServiceEvent E)) :
    ServiceCall E → Prop
  | .startWorkflowRun pair _ _ _ => ∃ b₀ visits v todo st ms id runId,
      Scanned req fleet b₀ visits (v :: todo) st ms ∧ v.matched fleet.2 ≠ [] ∧
      SuppressionState.get st.blob v.key = none ∧
      pair = some (v.policy.id, v.device.id) ∧ marks es = ms ++ [.issued id, .issued runId]
  | .saveComplianceState b => ∃ b₀ visits st, Scanned req fleet b₀ visits [] st (marks es) ∧
      st.blob = b
  | .createViolations rows => ∃ b₀ visits st ms, Scanned req fleet b₀ visits [] st ms ∧
      st.rows = rows ∧ rows ≠ [] ∧ marks es = ms ++ [.saved st.blob]
  | .updateViolation .. | .deleteViolations _ | .deletePolicy _ | .updatePolicy .. => False
  | _ => True

/-- A call that a pass makes only when it knows its fleet. -/
def ServiceCall.late : ServiceCall E → Bool
  | .startWorkflowRun .. | .saveComplianceState _ | .createViolations _ | .updateViolation ..
  | .deleteViolations _ | .deletePolicy _ | .updatePolicy .. => true
  | _ => false

/-- Which marks a pass has left when it makes a call. -/
def PassCall (req : EvaluationRequest) (es : List (ServiceEvent E)) (c : ServiceCall E) : Prop :=
  c.late = true → ∃ fleet, FleetRead req es fleet ∧ FleetCall req fleet es c

/-- The marks of the marker writes. -/
def markerMarks (acts : List MarkerAction) : List (Mark E) :=
  (byDevice acts).map fun a => .marker a.deviceId a.marker a.present

/-- The marks of a pass that has saved, up to the insertion of its rows. -/
inductive PassSaved (req : EvaluationRequest) (fleet : Fleet E) (acts : List MarkerAction) :
    List (Mark E) → Prop
  | nothingNew {b₀ visits st ms} : Scanned req fleet b₀ visits [] st ms → st.acts = acts →
      st.rows = [] → PassSaved req fleet acts (ms ++ [.saved st.blob])
  | created {b₀ visits st ms} : Scanned req fleet b₀ visits [] st ms → st.acts = acts →
      st.rows ≠ [] → PassSaved req fleet acts (ms ++ [.saved st.blob, .created st.rows])

/-- The marks of a pass whose rows were not inserted. -/
def PassRejected (req : EvaluationRequest) (fleet : Fleet E) (ms : List (Mark E)) : Prop :=
  ∃ b₀ visits st ms', Scanned req fleet b₀ visits [] st ms' ∧ st.rows ≠ [] ∧
    ms = ms' ++ [.saved st.blob, .rejected st.rows]

/-- What a pass leaves before it saves. -/
def Early (es : List (ServiceEvent E)) : Prop :=
  (marks es).all Mark.early = true

/-- The marks that a pass over `fleet` ends with. -/
def FleetEnd (req : EvaluationRequest) (fleet : Fleet E) :
    Except ServiceError EvaluationSummary → List (ServiceEvent E) → Prop :=
  post
    (fun _ es => ∃ acts ms, PassSaved req fleet acts ms ∧ marks es = ms ++ markerMarks acts)
    (fun _ es => Early es ∨ PassRejected req fleet (marks es) ∨
      ∃ acts ms, PassSaved req fleet acts ms ∧
        (marks es = ms ∨ marks es = ms ++ markerMarks acts))

/-- What a pass ends with: without policies nothing, else what its fleet
gives. -/
def PassEnd (req : EvaluationRequest) (r : Except ServiceError EvaluationSummary)
    (es : List (ServiceEvent E)) : Prop :=
  (∃ fleet, FleetRead req es fleet ∧ FleetEnd req fleet r es) ∨
    match r with
    | .ok _ => ∃ all, es = [⟨.findPolicies, .ok all⟩] ∧ req.policies all = []
    | .error _ => Early es

/-! ## Parts that leave no mark -/

section Silent

variable {req : EvaluationRequest} {fleet : Fleet E} {α : Type}
  {ok : List (ServiceEvent E) → ServiceCall E → Prop} (es : List (ServiceEvent E))

theorem fleetCall_of_silent (c : ServiceCall E)
    (h : c.silent = true) : FleetCall req fleet es c := by
  cases c <;> trivial

theorem passCall_of_early (c : ServiceCall E)
    (h : c.late = false) : PassCall req es c :=
  fun hlate => absurd (hlate.symm.trans h) (by decide)

theorem passCall_of_silent (c : ServiceCall E)
    (h : c.silent = true) : PassCall req es c :=
  passCall_of_early es c (by cases c <;> first | rfl | cases h)

/-- A part of a pass that makes silent calls only leaves no mark. -/
theorem meets_silent (hok : ∀ es c, silent c = true → ok es c) {R : α → Prop}
    {p : Service E α} (h : p.Ensures (fun c => silent c = true) R)
    (es : List (ServiceEvent E)) :
    p.Meets (World.log _ _) ok es
      (post (fun a es' => marks es' = marks es ∧ R a) fun _ es' => marks es' = marks es) := by
  refine (h.meets_frame (W := World.log _ _) marks ?_ es).weaken fun es c hc => hok es c hc
  intro s c r hc _
  show marks (s ++ [⟨c, r⟩]) = marks s
  rw [marks_snoc, mark_of_silent hc]
  simp

theorem calls_silent {c : ServiceCall E} (h : c.silent = true) :
    (ask c : Service E _).Calls fun c => silent c = true :=
  calls_ask h

theorem calls_forEach {okc : ServiceCall E → Prop} {l : List α} {p : α → Service E Unit}
    (h : ∀ a ∈ l, (p a).Calls okc) : (forEach l p).Calls okc :=
  Calls.foldlM fun _ a ha => h a ha

theorem calls_autorunCircuitBreakerCheck (policyId : String)
    (vs : List (ComplianceViolation E)) (checked : ℕ) :
    (autorunCircuitBreakerCheck policyId checked vs).Calls fun c => silent c = true := by
  induction vs generalizing checked with
  | nil => exact calls_ret _
  | cons v vs ih =>
    unfold autorunCircuitBreakerCheck
    refine Calls.ite (fun _ => ih checked) fun _ => ?_
    split
    · exact ih checked
    · refine Calls.bind (Calls.tryCatch (Calls.bind (calls_silent rfl)
        fun _ => calls_ret _) fun _ => calls_ret _) fun run => ?_
      cases run with
      | none => exact ih checked
      | some run =>
        refine Calls.ite (fun _ => ih checked) fun _ => ?_
        refine Calls.guard fun _ => ?_
        exact Calls.guard fun _ => ih (checked + 1)

theorem calls_autorunBlock (pc : PassContext E) (policy : CompliancePolicy E)
    (workflow escalatedWorkflow : Option Workflow) :
    (autorunBlock pc policy workflow escalatedWorkflow).Calls fun c => silent c = true := by
  unfold autorunBlock
  refine Calls.guard fun _ => ?_
  refine Calls.guard fun _ => ?_
  refine Calls.guard fun _ => ?_
  refine Calls.bind (calls_autorunCircuitBreakerCheck _ _ _) fun reason => ?_
  cases reason with
  | none => exact calls_ret _
  | some reason => exact Calls.bind (calls_silent rfl) fun _ => calls_ret _

theorem ensures_planPolicy (pc : PassContext E) (policy : CompliancePolicy E) :
    (planPolicy pc policy).Ensures (fun c => silent c = true) fun r => r.1.policy = policy := by
  unfold planPolicy
  refine Ensures.bind (calls_autorunBlock _ _ _ _) fun block _ => ?_
  exact (ensures_ret_ok _ _).mpr rfl

theorem calls_openCase (policy : CompliancePolicy E) (device : Device E) (violationId : String) :
    (openCase policy device violationId).Calls fun c => silent c = true := by
  unfold openCase
  split_ifs
  · exact Calls.bind (calls_silent rfl) fun _ => calls_ret _
  · exact calls_ret _

theorem calls_linkRun (caseId : Option String) (runId : String) :
    (linkRun caseId runId : Service E Unit).Calls fun c => silent c = true := by
  unfold linkRun
  split
  · exact calls_ret _
  · exact Calls.bind (calls_silent rfl) fun _ => calls_silent rfl

end Silent

/-! ## Before the save -/

section Early

variable {req : EvaluationRequest} {fleet : Fleet E} {es : List (ServiceEvent E)} {α : Type}
  {ok : List (ServiceEvent E) → ServiceCall E → Prop}

theorem Early.append {es es' : List (ServiceEvent E)} {tail : List (Mark E)} (h : Early es)
    (hms : marks es' = marks es ++ tail) (htail : tail.all Mark.early = true) : Early es' := by
  rw [Early] at h ⊢
  rw [hms, all_append, h, htail]
  rfl

variable {ms : List (Mark E)}

theorem LaunchMarks.early {p d : String} (h : LaunchMarks p d ms) : ms.all Mark.early = true := by
  cases h <;> rfl

variable {st : ScanState E} {b₀ : SuppressionState}

theorem Scan.early {ctx : EvalContext E} {visits : List (Visit E)}
    (h : Scan ctx b₀ visits st ms) : ms.all Mark.early = true := by
  induction h with
  | start => rfl
  | kept _ _ _ ih => exact ih
  | recovered _ _ _ _ ih => simpa [all_append, Mark.early] using ih
  | opened _ _ _ _ _ _ _ _ _ htail ih =>
    rw [all_append, ih, all_cons, htail.early]
    rfl

theorem Scanned.early {visits todo : List (Visit E)}
    (h : Scanned req fleet b₀ visits todo st ms) : ms.all Mark.early = true := by
  obtain ⟨all, items, ms', rfl, -, -, hscan⟩ := h
  simpa [Mark.early] using hscan.early

variable {c : ServiceCall E}

theorem meets_ask {Q : Except ServiceError (ServiceCall.Answer c) → List (ServiceEvent E) → Prop}
    (hok : ok es c) (hQ : ∀ r, Q r (es ++ [⟨c, r⟩])) :
    (ask c : Service E _).Meets (World.log _ _) ok es Q :=
  ⟨hok, fun r _ => hQ r⟩

theorem meets_marked {R : ServiceCall.Answer c → List (ServiceEvent E) → Prop}
    (hes : Early es) (hok : ok es c)
    (herr : ∀ e, mark ⟨c, .error e⟩ = none) (hR : ∀ a, R a (es ++ [⟨c, .ok a⟩])) :
    (ask c : Service E _).Meets (World.log _ _) ok es (post R fun _ es' => Early es') := by
  refine meets_ask hok fun r => ?_
  cases r with
  | ok a => exact hR a
  | error e =>
    refine hes.append (marks_snoc _ _) ?_
    rw [herr e]
    rfl

theorem meets_unmarked (hok : ∀ es c, silent c = true → ok es c) {R : α → Prop}
    {p : Service E α} (h : p.Ensures (fun c => silent c = true) R) (hes : Early es) :
    p.Meets (World.log _ _) ok es
      (post (fun a es' => marks es' = marks es ∧ R a) fun _ es' => Early es') := by
  refine (meets_silent hok h es).mono fun r es' hr => ?_
  cases r with
  | ok a => exact hr
  | error e => exact hes.append (hr.trans (append_nil _).symm) rfl

end Early

/-! ## One device -/

section Device

variable {req : EvaluationRequest} {fleet : Fleet E} {b₀ : SuppressionState}
  {visits todo : List (Visit E)} {es : List (ServiceEvent E)}

/-- A pass that has drawn the id of a new violation at `v` and comes to launch
its workflow. -/
structure Launching (req : EvaluationRequest) (fleet : Fleet E) (v : Visit E)
    (es : List (ServiceEvent E)) : Prop where
  early : Early es
  scanned : ∃ b₀ visits todo st ms id, Scanned req fleet b₀ visits (v :: todo) st ms ∧
    v.matched fleet.2 ≠ [] ∧ SuppressionState.get st.blob v.key = none ∧
    marks es = ms ++ [.issued id]

variable {v : Visit E}

theorem meets_launchWorkflowRun (h : Launching req fleet v es) (workflow : Workflow)
    (refs : List DeviceRef) :
    (launchWorkflowRun (some (v.policy.id, v.device.id)) workflow refs : Service E _).Meets
      (World.log _ _) (FleetCall req fleet) es (post
        (fun _ es' => ∃ runId, marks es' =
          marks es ++ [.issued runId, .launched v.policy.id v.device.id])
        fun _ es' => Early es') := by
  have hstart : ∀ runId es₁, marks es₁ = marks es ++ [.issued runId] →
      (ask (.startWorkflowRun (some (v.policy.id, v.device.id)) runId workflow refs) :
        Service E Unit).Meets (World.log _ _) (FleetCall req fleet) es₁ (post
          (fun _ es' => marks es' =
            marks es ++ [.issued runId, .launched v.policy.id v.device.id])
          fun _ es' => Early es') := by
    intro runId es₁ h₁
    obtain ⟨b₀, visits, todo, st, ms, id, hscan, hmatched, hnone, hms⟩ := h.scanned
    have hearly : Early es₁ := h.early.append h₁ rfl
    refine meets_marked hearly ?_ (fun _ => rfl) fun _ => ?_
    · exact ⟨b₀, visits, v, todo, st, ms, id, runId, hscan, hmatched, hnone, rfl,
        by simp [h₁, hms]⟩
    · rw [marks_snoc, h₁, append_assoc]
      rfl
  unfold launchWorkflowRun
  refine Meets.bind (R := fun runId es₁ => marks es₁ = marks es ++ [.issued runId])
    (meets_marked h.early trivial (fun _ => rfl) fun runId => marks_snoc _ _)
    fun runId es₁ h₁ => ?_
  have hearly₁ : Early es₁ := h.early.append h₁ rfl
  split_ifs
  · refine Meets.bind (meets_unmarked fleetCall_of_silent (calls_silent rfl) hearly₁)
      fun _ es₂ h₂ => ?_
    refine Meets.bind (hstart runId es₂ (h₂.1.trans h₁)) fun _ es₃ h₃ => ?_
    have hearly₃ : Early es₃ := h.early.append h₃ rfl
    refine (meets_unmarked fleetCall_of_silent (calls_silent rfl) hearly₃).mono
      fun r es₄ h₄ => ?_
    cases r with
    | ok _ => exact ⟨runId, h₄.1.trans h₃⟩
    | error _ => exact h₄
  · refine Meets.bind (hstart runId es₁ h₁) fun _ es₃ h₃ => ?_
    exact ⟨runId, h₃⟩

theorem meets_linkRun (hes : Early es) (caseId : Option String) (runId : String) :
    (linkRun caseId runId : Service E Unit).Meets (World.log _ _) (FleetCall req fleet) es
      (post (fun _ es' => marks es' = marks es) fun _ es' => Early es') := by
  refine (meets_unmarked fleetCall_of_silent (calls_linkRun caseId runId) hes).mono
    fun r es' hr => ?_
  cases r with
  | ok _ => exact hr.1
  | error _ => exact hr

theorem meets_fireWorkflow (h : Launching req fleet v es) (st : PassState E)
    (caseId : Option String) (workflow : Workflow) :
    (fireWorkflow st v.policy v.device caseId workflow).Meets (World.log _ _)
      (FleetCall req fleet) es
      (post (fun d es' => (∃ tail, marks es' = marks es ++ tail ∧
        LaunchMarks v.policy.id v.device.id tail) ∧ d.status.queued = false)
        fun _ es' => Early es') := by
  unfold fireWorkflow
  dsimp only
  split
  · refine Meets.bind (meets_linkRun h.early caseId _) fun _ es₁ h₁ => ?_
    exact ⟨⟨[], h₁.trans (append_nil _).symm, .none⟩, rfl⟩
  · refine Meets.bind (meets_launchWorkflowRun h workflow _) fun record es₁ h₁ => ?_
    obtain ⟨runId, hms⟩ := h₁
    cases record with
    | none => exact ⟨⟨_, hms, .launched runId⟩, rfl⟩
    | some record =>
      refine Meets.bind (meets_linkRun (h.early.append hms rfl) caseId _)
        fun _ es₂ h₂ => ?_
      exact ⟨⟨_, h₂.trans hms, .launched runId⟩, rfl⟩

variable {plan : PolicyPlan E}

theorem PolicyPlan.autoRun_of_autoRuns (h : plan.autoRuns = true) : plan.policy.autoRun = true := by
  rw [autoRuns, Bool.and_eq_true] at h
  exact h.1

theorem PolicyPlan.effectiveWorkflow_isSome (h : plan.workflow.isSome = true)
    (device : Device E) : (plan.effectiveWorkflow device).isSome = true := by
  unfold effectiveWorkflow
  split_ifs with hescalated
  · rw [escalated, Bool.and_eq_true] at hescalated
    exact hescalated.1
  · exact h

variable {device : Device E} (pc : PassContext E)

/-- Where no workflow is fired, the linked workflow is missing or the policy does
not run it by itself. -/
theorem PolicyPlan.autoRun_eq_false
    (hnone : (if plan.autoRuns then plan.effectiveWorkflow device else none) = none)
    (hworkflow : plan.workflow.isNone = false) : plan.policy.autoRun = false := by
  have hsome : plan.workflow.isSome = true := by
    rw [← Option.not_isNone, hworkflow]
    rfl
  split_ifs at hnone with hauto
  · have heffective := plan.effectiveWorkflow_isSome hsome device
    rw [hnone] at heffective
    cases heffective
  · simpa [autoRuns, hsome] using hauto

theorem meets_decideStatus
    (h : Launching req fleet ⟨plan.policy, device⟩ es) (st : PassState E) (cnt : PolicyCount)
    (caseId : Option String) :
    (decideStatus plan st cnt device caseId).Meets (World.log _ _) (FleetCall req fleet) es
      (post (fun d es' => (∃ tail, marks es' = marks es ++ tail ∧
        LaunchMarks plan.policy.id device.id tail) ∧
        (d.1.status.queued = true → (d.1.status = .pending ↔ plan.policy.autoRun = false)))
        fun _ es' => Early es') := by
  have hnone : ∃ tail, marks es = marks es ++ tail ∧
      LaunchMarks plan.policy.id device.id tail := ⟨[], (append_nil _).symm, .none⟩
  have hblocked : ∀ {b : Bool} {status : ViolationStatus}, (plan.autoRuns && b) = true →
      status ≠ .pending → (status = .pending ↔ plan.policy.autoRun = false) := by
    intro b status hb hstatus
    have hauto := PolicyPlan.autoRun_of_autoRuns (Bool.and_eq_true_iff.mp hb).1
    exact iff_of_false hstatus (by simp [hauto])
  unfold decideStatus
  split
  · next hb => exact ⟨hnone, fun _ => hblocked hb (by decide)⟩
  · split
    · next hb => exact ⟨hnone, fun _ => hblocked hb (by decide)⟩
    · split
      · refine Meets.bind (meets_fireWorkflow h st caseId _) fun d es₁ h₁ => ?_
        exact ⟨h₁.1, fun hqueued => absurd (hqueued.symm.trans h₁.2) (by decide)⟩
      · next hidle =>
        refine ⟨hnone, fun hqueued => ?_⟩
        cases hworkflow : plan.workflow.isNone with
        | true => simp [hworkflow, ViolationStatus.queued] at hqueued
        | false => simp [PolicyPlan.autoRun_eq_false hidle hworkflow]

/-- A newly violating device: the id, what the launch leaves, the row and the
entry. -/
theorem meets_openViolation (plan : PolicyPlan E) (device : Device E)
    (matched : List (Condition E)) (st : PassState E) (cnt : PolicyCount)
    (hscan : Scanned req fleet b₀ visits (⟨plan.policy, device⟩ :: todo) st.scan (marks es))
    (hmatched : Visit.matched ⟨plan.policy, device⟩ fleet.2 = matched) (hne : matched ≠ [])
    (hnone : SuppressionState.get st.state (plan.policy.key device) = none) :
    (openViolation pc plan device matched st cnt).Meets (World.log _ _) (FleetCall req fleet) es
      (post (fun acc es' => Scanned req fleet b₀ (visits ++ [⟨plan.policy, device⟩]) todo
        acc.1.scan (marks es')) fun _ es' => Early es') := by
  subst hmatched
  have hes : Early es := hscan.early
  unfold openViolation
  refine Meets.bind (R := fun id es₁ => marks es₁ = marks es ++ [.issued id])
    (meets_marked hes trivial (fun _ => rfl) fun id => marks_snoc _ _) fun id es₁ h₁ => ?_
  refine Meets.bind (meets_unmarked fleetCall_of_silent (calls_openCase plan.policy device id)
    (hes.append h₁ rfl)) fun opened es₂ h₂ => ?_
  have hms₂ : marks es₂ = marks es ++ [.issued id] := h₂.1.trans h₁
  have hlaunching : Launching req fleet ⟨plan.policy, device⟩ es₂ :=
    ⟨hes.append hms₂ rfl, b₀, visits, todo, st.scan, marks es, id, hscan, hne, hnone, hms₂⟩
  refine Meets.bind (meets_decideStatus hlaunching st cnt opened.1) fun d es₃ h₃ => ?_
  obtain ⟨⟨tail, hms₃, htail⟩, hstatus⟩ := h₃
  obtain ⟨all, items, ms', hms, hshape, hvisits, hscan'⟩ := hscan
  refine ⟨all, items, ms' ++ .issued id :: tail, ?_, hshape, ?_, ?_⟩
  · simp [hms₃, hms₂, hms]
  · simpa using hvisits
  · have hentry : (⟨id, d.1.status, pc.nowIso⟩ : SuppressionEntry).violationId =
        (newViolationRow pc plan device (Visit.matched ⟨plan.policy, device⟩ fleet.2) id opened.1
          d.1).id := rfl
    exact Scan.opened ⟨plan.policy, device⟩ hscan' hne hnone rfl rfl rfl hstatus hentry htail

theorem meets_recoverDevice (policy : CompliancePolicy E) (device : Device E) (st : PassState E)
    (cnt : PolicyCount)
    (hscan : Scanned req fleet b₀ visits (⟨policy, device⟩ :: todo) st.scan (marks es))
    (hmatched : Visit.matched ⟨policy, device⟩ fleet.2 = []) :
    (recoverDevice policy device st cnt).Meets (World.log _ _) (FleetCall req fleet) es
      (post (fun acc es' => Scanned req fleet b₀ (visits ++ [⟨policy, device⟩]) todo acc.1.scan
        (marks es')) fun _ es' => Early es') := by
  obtain ⟨all, items, ms', hms, hshape, hvisits, hscan'⟩ := id hscan
  have hvisits' : visitsOf (req.policies all) fleet.1 = visits ++ [⟨policy, device⟩] ++ todo := by
    simpa using hvisits
  unfold recoverDevice
  split
  · next hget =>
    have hkept : Visit.matched ⟨policy, device⟩ fleet.2 ≠ [] ↔
        (SuppressionState.get st.scan.blob (Visit.key ⟨policy, device⟩)).isSome = true := by
      show _ ↔ (SuppressionState.get st.state (policy.key device)).isSome = true
      rw [hget]
      simp [hmatched]
    exact ⟨all, items, ms', hms, hshape, hvisits', hscan'.kept _ hkept⟩
  · next suppressed hget =>
    refine Meets.bind (R := fun _ es₁ =>
        marks es₁ = marks es ++ [.recovered suppressed.violationId])
      (meets_marked hscan.early trivial (fun _ => rfl) fun _ => marks_snoc _ _)
      fun recovery es₁ h₁ => ?_
    exact ⟨all, items, _, by rw [h₁, hms]; rfl, hshape, hvisits',
      hscan'.recovered ⟨policy, device⟩ hmatched hget⟩

/-- **Step lemma**: at a device a pass follows the abstract scan. -/
theorem meets_evaluateDevice (hctx : pc.ctx = fleet.2) (plan : PolicyPlan E)
    (device : Device E) (acc : PassState E × PolicyCount)
    (hscan : Scanned req fleet b₀ visits (⟨plan.policy, device⟩ :: todo) acc.1.scan (marks es)) :
    (evaluateDevice pc plan acc device).Meets (World.log _ _) (FleetCall req fleet) es
      (post (fun acc es' => Scanned req fleet b₀ (visits ++ [⟨plan.policy, device⟩]) todo
        acc.1.scan (marks es')) fun _ es' => Early es') := by
  have hmatched : Visit.matched ⟨plan.policy, device⟩ fleet.2 =
      policyViolated device plan.policy.rule pc.ctx := by rw [hctx]; rfl
  unfold evaluateDevice
  dsimp only
  split_ifs with hempty hkey
  · exact meets_recoverDevice plan.policy device acc.1 acc.2 hscan
      (hmatched.trans (by simpa using hempty))
  · obtain ⟨all, items, ms', hms, hshape, hvisits, hscan'⟩ := hscan
    have hne : Visit.matched ⟨plan.policy, device⟩ fleet.2 ≠ [] := by
      rw [hmatched]
      simpa using hempty
    exact ⟨all, items, ms', hms, hshape, by simpa using hvisits,
      hscan'.kept ⟨plan.policy, device⟩ (iff_of_true hne hkey)⟩
  · exact meets_openViolation pc plan device _ acc.1 acc.2 hscan hmatched (by simpa using hempty)
      (by simpa using hkey)

/-! ## The loops -/

/-- A loop whose body moves a pass from one visit to the next. `f` gives the
visits that an iteration goes through. -/
theorem meets_scanLoop {β γ : Type} {body : β → γ → Service E β} {l : List γ}
    (f : γ → List (Visit E)) (scan : β → ScanState E) (acc : β)
    (hbody : ∀ c acc es visits todo,
      Scanned req fleet b₀ visits (f c ++ todo) (scan acc) (marks es) →
      (body acc c).Meets (World.log _ _) (FleetCall req fleet) es
        (post (fun acc es' => Scanned req fleet b₀ (visits ++ f c) todo (scan acc) (marks es'))
          fun _ es' => Early es'))
    (hscan : Scanned req fleet b₀ visits (l.flatMap f ++ todo) (scan acc) (marks es)) :
    (l.foldlM body acc).Meets (World.log _ _) (FleetCall req fleet) es
      (post (fun acc es' => Scanned req fleet b₀ (visits ++ l.flatMap f) todo (scan acc)
        (marks es')) fun _ es' => Early es') := by
  have hinit : ∀ rest, l = [] ++ rest → Scanned req fleet b₀ (visits ++ ([] : List γ).flatMap f)
      (rest.flatMap f ++ todo) (scan acc) (marks es) := by
    intro rest hrest
    rw [nil_append] at hrest
    simpa [← hrest] using hscan
  have hloop := Meets.foldlM (E := fun _ es' => Early es')
    (fun done acc es' => ∀ rest, l = done ++ rest → Scanned req fleet b₀
      (visits ++ done.flatMap f) (rest.flatMap f ++ todo) (scan acc) (marks es')) hinit
    (W := World.log _ _) (f := body) fun done c rest hl acc es' hI => by
      have hnext := hI (c :: rest) hl
      rw [flatMap_cons, append_assoc] at hnext
      refine (hbody c acc es' _ _ hnext).mono fun r es'' hr => ?_
      cases r with
      | error e => exact hr
      | ok acc =>
        intro rest' hrest'
        have heq : rest = rest' := by
          rw [hl, append_assoc] at hrest'
          simpa using append_cancel_left hrest'
        subst heq
        simpa using hr
  refine hloop.mono fun r es' hr => ?_
  cases r with
  | ok acc => simpa using hr [] (append_nil l).symm
  | error e => exact hr

theorem meets_evaluatePolicy (hctx : pc.ctx = fleet.2)
    (devices : List (Device E)) (st : PassState E) (policy : CompliancePolicy E)
    (hscan : Scanned req fleet b₀ visits
      ((policy.scopedDevices devices).map (fun d => ⟨policy, d⟩) ++ todo) st.scan (marks es)) :
    (evaluatePolicy pc devices st policy).Meets (World.log _ _) (FleetCall req fleet) es
      (post (fun st es' => Scanned req fleet b₀
        (visits ++ (policy.scopedDevices devices).map fun d => ⟨policy, d⟩) todo st.scan
        (marks es')) fun _ es' => Early es') := by
  rw [map_eq_flatMap] at hscan ⊢
  unfold evaluatePolicy
  refine Meets.bind (meets_unmarked fleetCall_of_silent (ensures_planPolicy pc policy)
    hscan.early) fun planned es₁ h₁ => ?_
  obtain ⟨hms, rfl⟩ := h₁
  rw [← hms] at hscan
  have hloop := meets_scanLoop (fun d => [⟨planned.1.policy, d⟩])
    (fun acc : PassState E × PolicyCount => acc.1.scan)
    (st.enterPolicy planned.2 (planned.1.policy.scopedDevices devices).length, {})
    (fun d acc _ _ _ h => meets_evaluateDevice pc hctx planned.1 d acc h) hscan
  exact Meets.bind hloop fun acc es₂ h₂ => h₂

/-! ## The end of a pass -/

/-- A loop over quiet calls, each of which leaves its mark whatever it is
answered. -/
theorem meets_forEachMark {α : Type} (l : List α) (p : α → Service E Unit) (f : α → Mark E)
    (hp : ∀ a es, (p a).Meets (World.log _ _) (FleetCall req fleet) es
      (post (fun _ es' => marks es' = marks es ++ [f a]) fun _ _ => False))
    (es : List (ServiceEvent E)) :
    (forEach l p).Meets (World.log _ _) (FleetCall req fleet) es
      (post (fun _ es' => marks es' = marks es ++ l.map f) fun _ _ => False) := by
  unfold forEach
  refine Meets.foldlM (fun done _ es' => marks es' = marks es ++ done.map f) (by simp)
    fun done a todo _ _ es' hI => ?_
  refine (hp a es').mono fun r es'' hr => ?_
  cases r with
  | ok _ =>
    show marks es'' = _
    rw [hr, hI, map_append, append_assoc]
    rfl
  | error _ => exact hr

theorem meets_writeMarkers (acts : List MarkerAction) (es : List (ServiceEvent E)) :
    (writeMarkers acts : Service E Unit).Meets (World.log _ _) (FleetCall req fleet) es
      (post (fun _ es' => marks es' = marks es ++ markerMarks acts)
        fun _ es' => marks es' = marks es) := by
  unfold writeMarkers
  split_ifs with hempty
  · rw [List.isEmpty_iff] at hempty
    subst hempty
    exact (append_nil _).symm
  · refine Meets.bind (R := fun _ es₁ => marks es₁ = marks es)
      ((meets_silent fleetCall_of_silent (calls_silent rfl) es).mono fun r es₁ h₁ => ?_)
      fun orgBase es₁ h₁ => ?_
    · cases r with
      | ok _ => exact h₁.1
      | error _ => exact h₁
    · refine (meets_forEachMark (byDevice acts) _
        (fun a => .marker a.deviceId a.marker a.present) (fun a es₂ => ?_) es₁).mono
        fun r es₂ h₂ => ?_
      · have hcall : ∀ r, marks (es₂ ++ [⟨.applyMarker orgBase a.deviceId a.marker a.present, r⟩]) =
            marks es₂ ++ [.marker a.deviceId a.marker a.present] := fun r => marks_snoc _ _
        exact ⟨trivial, fun r _ => by cases r <;> exact hcall _⟩
      · cases r with
        | ok _ => exact h₂.trans (by rw [h₁]; rfl)
        | error _ => exact h₂.elim

theorem meets_afterSaved {p q : Service E Unit} (summary : EvaluationSummary)
    {acts : List MarkerAction} (hp : p.Calls fun c => silent c = true)
    (hq : q.Calls fun c => silent c = true)
    (hes : PassSaved req fleet acts (marks es)) :
    (do
      p
      writeMarkers acts
      q
      return summary : Service E EvaluationSummary).Meets (World.log _ _) (FleetCall req fleet) es
      (FleetEnd req fleet) := by
  refine Meets.bind (R := fun _ es₁ => marks es₁ = marks es)
    ((meets_silent fleetCall_of_silent hp es).mono fun r es₁ h₁ => ?_) fun _ es₁ h₁ => ?_
  · cases r with
    | ok _ => exact h₁.1
    | error _ => exact .inr (.inr ⟨acts, _, hes, .inl h₁⟩)
  refine Meets.bind (R := fun _ es₂ => marks es₂ = marks es ++ markerMarks acts)
    ((meets_writeMarkers acts es₁).mono fun r es₂ h₂ => ?_) fun _ es₂ h₂ => ?_
  · cases r with
    | ok _ => exact h₂.trans (by rw [h₁])
    | error _ => exact .inr (.inr ⟨acts, _, hes, .inl (h₂.trans h₁)⟩)
  refine Meets.bind (R := fun _ es₃ => marks es₃ = marks es ++ markerMarks acts)
    ((meets_silent fleetCall_of_silent hq es₂).mono fun r es₃ h₃ => ?_) fun _ es₃ h₃ => ?_
  · cases r with
    | ok _ => exact h₃.1.trans h₂
    | error _ => exact .inr (.inr ⟨acts, _, hes, .inr (h₃.trans h₂)⟩)
  · exact ⟨acts, _, hes, h₃⟩

theorem meets_finishPass (policies : List (CompliancePolicy E)) (st : PassState E)
    (hscan : Scanned req fleet b₀ visits [] st.scan (marks es)) :
    (finishPass req policies st).Meets (World.log _ _) (FleetCall req fleet) es
      (FleetEnd req fleet) := by
  have hbefore : Calls (fun c => silent c = true) (do
      awaitIf (!st.auditEvents.isEmpty) (ask (.recordAuditEvents st.auditEvents))
      forEach st.caseNotifyEvents fun e => quietly (ask (.dispatchCaseEvent e.1 e.2))
      forEach st.policyAlertEvents fun a =>
        quietly (ask (.firePolicyViolationAlert a.1 a.2.1 a.2.2)) : Service E Unit) := by
    refine Calls.bind (calls_awaitIf (calls_silent rfl)) fun _ => ?_
    refine Calls.bind (calls_forEach fun _ _ => calls_quietly (calls_silent rfl)) fun _ => ?_
    exact calls_forEach fun _ _ => calls_quietly (calls_silent rfl)
  have hafter : Calls (fun c => silent c = true)
      (awaitIf req.scope.stamps (ask (.stampEvaluated (policies.map CompliancePolicy.id))) :
        Service E Unit) := calls_awaitIf (calls_silent rfl)
  have hrest := fun es₂ (h₂ : PassSaved req fleet st.markerActions (marks es₂)) =>
    meets_afterSaved st.summary hbefore hafter h₂
  simp only [bind_assoc] at hrest
  unfold finishPass
  refine Meets.bind (R := fun _ es₁ => marks es₁ = marks es ++ [.saved st.state])
    (meets_ask ⟨b₀, visits, st.scan, hscan, rfl⟩ fun r => ?_) fun _ es₁ h₁ => ?_
  · cases r with
    | ok _ => exact marks_snoc _ _
    | error _ =>
      refine .inl ?_
      rw [Early, marks_snoc]
      simpa [mark] using hscan.early
  · refine Meets.bind (R := fun _ es₂ => PassSaved req fleet st.markerActions (marks es₂)) ?_
      fun _ es₂ h₂ => hrest es₂ h₂
    by_cases hrows : st.newViolationRows = []
    · rw [hrows]
      show PassSaved req fleet st.markerActions (marks es₁)
      rw [h₁]
      exact .nothingNew hscan rfl hrows
    · rw [awaitIf, if_pos (by simpa using hrows)]
      refine meets_ask ⟨b₀, visits, st.scan, marks es, hscan, rfl, hrows, h₁⟩ fun r => ?_
      have hms := marks_snoc es₁ ⟨.createViolations st.newViolationRows, r⟩
      rw [h₁, append_assoc] at hms
      cases r with
      | ok _ =>
        show PassSaved req fleet st.markerActions _
        rw [hms]
        exact .created hscan rfl hrows
      | error _ => exact .inr (.inl ⟨b₀, visits, st.scan, marks es, hscan, hrows, hms⟩)

end Device

/-! ## Before the loops -/

section Fleet

variable {req : EvaluationRequest} {es : List (ServiceEvent E)} {α : Type} {fleet : Fleet E}

theorem shape_attachInstalledApps (id : String) (apps : E.Apps) (devices : List (Device E)) :
    (attachInstalledApps id apps devices).map Device.shape = devices.map Device.shape := by
  induction devices with
  | nil => rfl
  | cons d ds ih =>
    unfold attachInstalledApps
    split_ifs
    · rfl
    · rw [map_cons, ih, map_cons]

/-- The keys of the visits depend on the shapes of the devices only. -/
theorem keys_of_shape (policies : List (CompliancePolicy E)) {devices devices' : List (Device E)}
    (h : devices.map Device.shape = devices'.map Device.shape) :
    (visitsOf policies devices).map Visit.key = (visitsOf policies devices').map Visit.key := by
  have hkeys : ∀ l : List (Device E), (visitsOf policies l).map Visit.key =
      policies.flatMap fun p => ((l.map Device.shape).filter fun s =>
        ((truthy p.targetDeviceAudienceId).all fun a => s.2.1.contains a) &&
          (truthy p.targetPlatform).all fun t => s.2.2 = t).map
        fun s => suppressionKey p.id s.1 := by
    intro l
    rw [visitsOf, map_flatMap]
    refine congrArg (flatMap · policies) (funext fun p => ?_)
    rw [map_map, filter_map, map_map]
    rfl
  rw [hkeys, hkeys, h]

theorem Scanned.keys_eq {b₀ : SuppressionState} {visits todo : List (Visit E)}
    {st : ScanState E} {ms : List (Mark E)} (h : Scanned req fleet b₀ visits todo st ms) :
    ∃ all items ms', ms = .policies all :: .devices items :: .loaded b₀ :: ms' ∧
      req.keys all items = visits.map Visit.key ++ todo.map Visit.key ∧
      Scan fleet.2 b₀ visits st ms' := by
  obtain ⟨all, items, ms', hms, hshape, hvisits, hscan⟩ := h
  refine ⟨all, items, ms', hms, ?_, hscan⟩
  rw [EvaluationRequest.keys, ← keys_of_shape _ hshape, hvisits, map_append]

theorem meets_loadFleet (req : EvaluationRequest) (policies : List (CompliancePolicy E))
    (hes : Early es) :
    (loadFleet req policies).Meets (World.log _ _) (PassCall req) es
      (post (fun fleet es' => ∃ items, marks es' = marks es ++ [.devices items] ∧
        fleet.1.map Device.shape = (req.devices items).map Device.shape)
        fun _ es' => Early es') := by
  unfold loadFleet
  refine Meets.bind (R := fun items es₁ => marks es₁ = marks es ++ [.devices items])
    (meets_marked hes (passCall_of_early _ _ rfl) (fun _ => rfl) fun items => marks_snoc _ _)
    fun items es₁ h₁ => ?_
  dsimp only
  have hattach : Ensures (fun c => silent c = true)
      (fun devices => devices.map Device.shape = (req.devices items).map Device.shape)
      ((scopedDeviceIds appListFields (req.devices items) policies).foldlM
        (fun devices id => do
          let apps ← ask (.readInstalledAppsFromStore id)
          return attachInstalledApps id apps devices : List (Device E) → String → Service E _)
        (req.devices items)) := by
    refine Meets.mono (Meets.foldlM
      (fun _ devices _ => devices.map Device.shape = (req.devices items).map Device.shape)
      (E := fun _ _ => True) rfl fun done id rest _ devices es' hshape => ?_) fun r es' hr => hr
    refine Meets.bind (meets_ask (Q := post (fun _ _ => True) fun _ _ => True) rfl fun r => ?_)
      fun apps es'' _ => ?_
    · cases r <;> trivial
    · exact (shape_attachInstalledApps id apps devices).trans hshape
  refine Meets.bind (meets_unmarked passCall_of_silent hattach (hes.append h₁ rfl))
    fun devices es₂ h₂ => ?_
  have hes₂ : Early es₂ := hes.append (h₂.1.trans h₁) rfl
  have hrest : Ensures (fun c => silent c = true) (fun r => r.1 = devices) (do
      let appLists ← ask .loadAppListsContext
      let zones ← ask .loadGeofenceZonesById
      let locations ← loadLocations (scopedDeviceIds geofenceFields devices policies)
      return (devices, ⟨some appLists, some (zones, locations)⟩) : Service E (Fleet E)) := by
    refine Ensures.bind (calls_silent rfl) fun _ _ => ?_
    refine Ensures.bind (calls_silent rfl) fun _ _ => ?_
    refine Ensures.bind (R := fun _ => True) ?_ fun _ _ => ?_
    · exact Calls.guard fun _ => calls_silent rfl
    · exact (ensures_ret_ok _ _).mpr rfl
  refine (meets_unmarked passCall_of_silent hrest hes₂).mono fun r es₃ h₃ => ?_
  cases r with
  | error e => exact h₃
  | ok r => exact ⟨items, h₃.1.trans (h₂.1.trans h₁), by rw [h₃.2]; exact h₂.2⟩

/-! ## The whole pass -/

theorem FleetRead.mono {es es' : List (ServiceEvent E)}
    (h : FleetRead req es fleet) (hpre : es <+: es') : FleetRead req es' fleet := by
  obtain ⟨all, fs, rest, rfl, hsteps⟩ := h
  obtain ⟨more, rfl⟩ := hpre
  exact ⟨all, fs, rest ++ more, by simp, hsteps⟩

variable {R : α → List (ServiceEvent E) → Prop} {p : Service E α}

/-- An exception of a part before the save ends the pass early. -/
theorem passEnd_of_early {ok : List (ServiceEvent E) → ServiceCall E → Prop}
    (h : p.Meets (World.log _ _) ok es (post R fun _ es' => Early es')) :
    p.Meets (World.log _ _) ok es (post R fun e es' => PassEnd req (.error e) es') := by
  refine h.mono fun r es' hr => ?_
  cases r with
  | ok _ => exact hr
  | error _ => exact .inr hr

theorem fleetEnd_of_early
    (h : p.Meets (World.log _ _) (FleetCall req fleet) es (post R fun _ es' => Early es')) :
    p.Meets (World.log _ _) (FleetCall req fleet) es
      (post R fun e es' => FleetEnd req fleet (.error e) es') := by
  refine h.mono fun r es' hr => ?_
  cases r with
  | ok _ => exact hr
  | error _ => exact .inl hr

theorem meets_evaluateFleet {all : List (CompliancePolicy E)}
    {items : List (Device E)} (hms : marks es = [.policies all, .devices items])
    (hshape : fleet.1.map Device.shape = (req.devices items).map Device.shape) :
    (evaluateFleet req (req.policies all) fleet).Meets (World.log _ _) (FleetCall req fleet) es
      (FleetEnd req fleet) := by
  have hes : Early es := by
    rw [Early, hms]
    rfl
  unfold evaluateFleet
  refine Meets.bind (fleetEnd_of_early (meets_unmarked fleetCall_of_silent (calls_silent rfl)
    hes)) fun workflows es₁ h₁ => ?_
  have hes₁ : Early es₁ := hes.append (h₁.1.trans (append_nil _).symm) rfl
  refine Meets.bind (R := fun state es₂ => marks es₂ = marks es₁ ++ [.loaded state])
    (fleetEnd_of_early (meets_marked hes₁ trivial (fun _ => rfl) fun _ => marks_snoc _ _))
    fun state es₂ h₂ => ?_
  refine Meets.bind (fleetEnd_of_early (meets_unmarked fleetCall_of_silent (calls_silent rfl)
    (hes₁.append h₂ rfl))) fun violations es₃ h₃ => ?_
  have hscan : Scanned req fleet state [] (visitsOf (req.policies all) fleet.1 ++ [])
      ⟨state, [], []⟩ (marks es₃) := by
    refine ⟨all, items, [], ?_, hshape, by simp, .start⟩
    rw [h₃.1, h₂, h₁.1, hms]
    rfl
  have hloop := meets_scanLoop (fun p => (p.scopedDevices fleet.1).map fun d => ⟨p, d⟩)
    PassState.scan
    { state := state, summary := { evaluatedPolicies := (req.policies all).length } }
    (fun p st _ _ _ h => meets_evaluatePolicy ⟨workflows, violations, fleet.2, req.nowIso⟩ rfl
      fleet.1 st p h) hscan
  refine Meets.bind (fleetEnd_of_early hloop) fun st es₄ h₄ => ?_
  exact meets_finishPass _ st h₄

/-- **Main theorem**: a pass reads its fleet and follows the abstract scan of
the blob that it has loaded, over its visits; then it saves the blob, inserts
the rows and writes the markers. -/
theorem meets_runComplianceEvaluation (req : EvaluationRequest) :
    (runComplianceEvaluation req : Service E EvaluationSummary).Meets (World.log _ _)
      (PassCall req) [] (PassEnd req) := by
  unfold runComplianceEvaluation
  refine Meets.bind (R := fun all es => es = [⟨.findPolicies, .ok all⟩])
    (passEnd_of_early (meets_marked rfl (passCall_of_early _ _ rfl) (fun _ => rfl) fun all => rfl))
    fun all es₁ h₁ => ?_
  subst h₁
  dsimp only
  by_cases hempty : req.policies all = []
  · rw [if_pos (by simpa using hempty)]
    exact .inr ⟨all, rfl, hempty⟩
  · rw [if_neg (by simpa using hempty)]
    have hearly : Early [(⟨.findPolicies, .ok all⟩ : ServiceEvent E)] := rfl
    have hread := (meets_loadFleet req (req.policies all) hearly).tracks
    refine Meets.bind (R := fun fleet es₂ => FleetRead req es₂ fleet ∧
        ∃ items, marks es₂ = [.policies all, .devices items] ∧
          fleet.1.map Device.shape = (req.devices items).map Device.shape)
      (hread.mono fun r es₂ h₂ => ?_) fun fleet es₂ h₂ => ?_
    · obtain ⟨hend, fs, rfl, hsteps⟩ := h₂
      cases r with
      | error e => exact .inr hend
      | ok fleet =>
        obtain ⟨items, hms, hshape⟩ := hend
        exact ⟨⟨all, fs, [], by simp, hsteps⟩, items, hms, hshape⟩
    · obtain ⟨hfleet, items, hms, hshape⟩ := h₂
      refine ((meets_evaluateFleet hms hshape).extends_ok.weaken fun es₃ c h₃ _ => ?_).mono
        fun r es₃ h₃ => ?_
      · exact ⟨fleet, hfleet.mono h₃.2, h₃.1⟩
      · exact .inl ⟨fleet, hfleet.mono h₃.2, h₃.1⟩

end Fleet

end AppliverySoar.Compliance
