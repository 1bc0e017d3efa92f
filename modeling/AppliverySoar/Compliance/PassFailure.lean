import AppliverySoar.Async.FailFast
import AppliverySoar.Compliance.Workspace
import Mathlib.Data.Fintype.EquivFin

/-!
# Passes that fail half way

A pass launches workflows while it goes through the devices, saves the blob
once at the end and then inserts the violation rows (compliance.service.ts,
lines 645–883). An exception on the way leaves a part of that behind; what it
amounts to shows in the next pass.

Results:
* `failsFast_runComplianceEvaluation`: a pass ends with an exception only when a
  call throws that it does not catch.
* `harmless_iff`: a failed pass is harmless exactly when its rows were not
  refused and it had launched nothing or had saved.
* `relaunched_after_failed_save`: a failed pass that is not.
-/

namespace AppliverySoar.Compliance

open Async Access Workflows List

variable {E : Evaluator}

/-! ## A pass fails fast -/

/-- The calls whose exceptions a pass catches. -/
def Caught : ServiceCall E → Prop
  | .getWorkflowRun _ | .dispatchCaseEvent .. | .firePolicyViolationAlert .. | .applyMarker .. => True
  | _ => False

section FailsFast

variable {α : Type} {p : Service E Unit} (req : EvaluationRequest) (pc : PassContext E)

theorem failsFast_ask (c : ServiceCall E) : (ask c : Service E _).FailsFast Caught :=
  Prog.failsFast_call (S := serviceSig E) c

theorem failsFast_pure (a : α) : (pure a : Service E α).FailsFast Caught :=
  Prog.failsFast_ret a

theorem failsFast_quietly (hp : p.FailsFast Caught) (hcalls : p.Calls Caught) :
    (quietly p).FailsFast Caught :=
  hp.tryCatch hcalls fun _ => failsFast_pure ()

theorem failsFast_awaitIf {b : Bool} (hp : p.FailsFast Caught) :
    (awaitIf b p).FailsFast Caught :=
  .ite (fun _ => hp) fun _ => failsFast_pure ()

theorem failsFast_forEach {l : List α} {p : α → Service E Unit}
    (hp : ∀ a, (p a).FailsFast Caught) : (forEach l p).FailsFast Caught :=
  .foldlM fun _ a => hp a

theorem failsFast_lookupWorkflowRun (runId : String) :
    (lookupWorkflowRun runId : Service E _).FailsFast Caught :=
  .tryCatch ((failsFast_ask _).bind fun _ => failsFast_pure _)
    (.bind (calls_ask trivial) fun _ => Prog.calls_ret _) fun _ => failsFast_pure _

theorem failsFast_autorunCircuitBreakerCheck (policyId : String)
    (vs : List (ComplianceViolation E)) (checked : ℕ) :
    (autorunCircuitBreakerCheck policyId checked vs).FailsFast Caught := by
  induction vs generalizing checked with
  | nil => exact failsFast_pure _
  | cons v vs ih =>
    unfold autorunCircuitBreakerCheck
    refine .ite (fun _ => ih checked) fun _ => ?_
    split
    · exact ih checked
    · refine (failsFast_lookupWorkflowRun _).bind fun run => ?_
      cases run with
      | none => exact ih checked
      | some run =>
        refine .ite (fun _ => ih checked) fun _ => .ite (fun _ => failsFast_pure _) fun _ => ?_
        exact .ite (fun _ => failsFast_pure _) fun _ => ih (checked + 1)

theorem failsFast_autorunBlock (policy : CompliancePolicy E)
    (workflow escalatedWorkflow : Option Workflow) :
    (autorunBlock pc policy workflow escalatedWorkflow).FailsFast Caught := by
  unfold autorunBlock
  refine .ite (fun _ => failsFast_pure _) fun _ => .ite (fun _ => failsFast_pure _) fun _ => ?_
  refine .ite (fun _ => failsFast_pure _) fun _ => ?_
  refine (failsFast_autorunCircuitBreakerCheck _ _ _).bind fun reason => ?_
  cases reason with
  | none => exact failsFast_pure _
  | some reason => exact (failsFast_ask _).bind fun _ => failsFast_pure _

theorem failsFast_openCase (policy : CompliancePolicy E) (device : Device E)
    (violationId : String) : (openCase policy device violationId).FailsFast Caught :=
  .ite (fun _ => (failsFast_ask _).bind fun _ => failsFast_pure _) fun _ => failsFast_pure _

theorem failsFast_launchWorkflowRun (pair : Option (String × String)) (w : Workflow)
    (refs : List DeviceRef) : (launchWorkflowRun pair w refs : Service E _).FailsFast Caught := by
  unfold launchWorkflowRun
  refine (failsFast_ask _).bind fun _ => .ite (fun _ => ?_) fun _ => ?_
  · exact (failsFast_ask _).bind fun _ => (failsFast_ask _).bind fun _ => failsFast_ask _
  · exact (failsFast_ask _).bind fun _ => failsFast_pure _

theorem failsFast_linkRun (caseId : Option String) (runId : String) :
    (linkRun caseId runId : Service E Unit).FailsFast Caught := by
  unfold linkRun
  split
  · exact failsFast_pure _
  · exact (failsFast_ask _).bind fun _ => failsFast_ask _

theorem failsFast_fireWorkflow (st : PassState E) (policy : CompliancePolicy E)
    (device : Device E) (caseId : Option String) (workflow : Workflow) :
    (fireWorkflow st policy device caseId workflow).FailsFast Caught := by
  unfold fireWorkflow
  dsimp only
  split
  · exact (failsFast_linkRun _ _).bind fun _ => failsFast_pure _
  · refine (failsFast_launchWorkflowRun _ _ _).bind fun record => ?_
    cases record with
    | none => exact failsFast_pure _
    | some record => exact (failsFast_linkRun _ _).bind fun _ => failsFast_pure _

theorem failsFast_decideStatus (plan : PolicyPlan E) (st : PassState E) (cnt : PolicyCount)
    (device : Device E) (caseId : Option String) :
    (decideStatus plan st cnt device caseId).FailsFast Caught := by
  unfold decideStatus
  refine .ite (fun _ => failsFast_pure _) fun _ => .ite (fun _ => failsFast_pure _) fun _ => ?_
  split
  · exact (failsFast_fireWorkflow _ _ _ _ _).bind fun _ => failsFast_pure _
  · exact failsFast_pure _

theorem failsFast_evaluateDevice (plan : PolicyPlan E)
    (acc : PassState E × PolicyCount) (device : Device E) :
    (evaluateDevice pc plan acc device).FailsFast Caught := by
  unfold evaluateDevice
  refine .ite (fun _ => ?_) fun _ => .ite (fun _ => failsFast_pure _) fun _ => ?_
  · unfold recoverDevice
    split
    · exact failsFast_pure _
    · exact (failsFast_ask _).bind fun _ => failsFast_pure _
  · unfold openViolation
    refine (failsFast_ask _).bind fun _ => (failsFast_openCase _ _ _).bind fun _ => ?_
    exact (failsFast_decideStatus _ _ _ _ _).bind fun _ => failsFast_pure _

theorem failsFast_evaluatePolicy (devices : List (Device E))
    (st : PassState E) (policy : CompliancePolicy E) :
    (evaluatePolicy pc devices st policy).FailsFast Caught := by
  unfold evaluatePolicy planPolicy
  refine ((failsFast_autorunBlock _ _ _ _).bind fun _ => failsFast_pure _).bind fun planned => ?_
  have hloop : ((policy.scopedDevices devices).foldlM (evaluateDevice pc planned.1)
      (st.enterPolicy planned.2 (policy.scopedDevices devices).length, {})).FailsFast Caught :=
    .foldlM fun acc d => failsFast_evaluateDevice pc planned.1 acc d
  exact hloop.bind fun _ => failsFast_pure _

theorem failsFast_writeMarkers (actions : List MarkerAction) :
    (writeMarkers actions : Service E Unit).FailsFast Caught :=
  .ite (fun _ => failsFast_pure _) fun _ => (failsFast_ask _).bind fun _ =>
    failsFast_forEach fun _ => failsFast_quietly ((failsFast_ask _).bind fun _ => failsFast_pure _)
      (.bind (calls_ask trivial) fun _ => Prog.calls_ret _)

theorem failsFast_finishPass (policies : List (CompliancePolicy E))
    (st : PassState E) : (finishPass req policies st).FailsFast Caught := by
  unfold finishPass
  refine (failsFast_ask _).bind fun _ => (failsFast_awaitIf (failsFast_ask _)).bind fun _ => ?_
  refine (failsFast_awaitIf (failsFast_ask _)).bind fun _ => ?_
  refine (failsFast_forEach fun _ => failsFast_quietly (failsFast_ask _) (calls_ask trivial)).bind
    fun _ => ?_
  refine (failsFast_forEach fun _ => failsFast_quietly (failsFast_ask _) (calls_ask trivial)).bind
    fun _ => ?_
  refine (failsFast_writeMarkers _).bind fun _ => ?_
  exact (failsFast_awaitIf (failsFast_ask _)).bind fun _ => failsFast_pure _

theorem failsFast_loadFleet (policies : List (CompliancePolicy E)) :
    (loadFleet req policies).FailsFast Caught := by
  unfold loadFleet loadLocations
  refine (failsFast_ask _).bind fun items => ?_
  have hattach : ((scopedDeviceIds appListFields (req.devices items) policies).foldlM
      (fun devices id => do
        let apps ← ask (.readInstalledAppsFromStore id)
        return attachInstalledApps id apps devices : List (Device E) → String → Service E _)
      (req.devices items)).FailsFast Caught :=
    .foldlM fun _ _ => (failsFast_ask _).bind fun _ => failsFast_pure _
  refine hattach.bind fun _ => (failsFast_ask _).bind fun _ => (failsFast_ask _).bind fun _ => ?_
  exact (Prog.FailsFast.ite (fun _ => failsFast_pure _) fun _ => failsFast_ask _).bind
    fun _ => failsFast_pure _

/-- A pass throws on the exceptions of its calls, and none of its own. -/
theorem failsFast_runComplianceEvaluation :
    (runComplianceEvaluation req : Service E _).FailsFast Caught := by
  unfold runComplianceEvaluation evaluateFleet
  refine (failsFast_ask _).bind fun all => .ite (fun _ => failsFast_pure _) fun _ => ?_
  refine (failsFast_loadFleet _ _).bind fun fleet => (failsFast_ask _).bind fun workflows => ?_
  refine (failsFast_ask _).bind fun state => (failsFast_ask _).bind fun violations => ?_
  have hloop : ((req.policies all).foldlM
      (evaluatePolicy ⟨workflows, violations, fleet.2, req.nowIso⟩ fleet.1)
      ({ state := state, summary := { evaluatedPolicies := (req.policies all).length } })).FailsFast
        Caught := .foldlM fun st p => failsFast_evaluatePolicy _ _ st p
  exact hloop.bind fun st => failsFast_finishPass _ _ st

end FailsFast

/-! ## The store of the passes -/

/-- The devices of the workspace, whose ids are their own, the blob, the ids of
the violation rows and how many ids were drawn. -/
structure QueueStore (E : Evaluator) where
  devices : List (Device E)
  devices_nodup : (devices.map fun d => d.id).Nodup
  state : SuppressionState
  violations : List String
  drawn : ℕ := 0

/-- The devices do not change and the blob is what was saved; the policies may
be any table, and all that is asked of a drawn id is that no row has it. -/
def QueueStore.may (s : QueueStore E) (c : ServiceCall E)
    (r : Except ServiceError (ServiceCall.Answer c)) : Prop :=
  match mark ⟨c, r⟩ with
  | some (.policies all) =>
    (all.map CompliancePolicy.id).Nodup ∧ ∀ p ∈ all, NoColon p.id
  | some (.devices items) => items = s.devices
  | some (.loaded state) => state = s.state
  | some (.issued id) => id ∉ s.violations
  | _ => True

/-- The ids of the rows that were inserted. -/
def rowIds (ms : List (Mark E)) : List String :=
  ms.flatMap fun m => match m with | .created rows => rows.map fun r => r.id | _ => []

/-- What an answered call leaves. -/
def QueueStore.next (s : QueueStore E) (c : ServiceCall E)
    (r : Except ServiceError (ServiceCall.Answer c)) : QueueStore E :=
  { s with
    state := blobOf s.state (mark ⟨c, r⟩).toList
    violations := s.violations ++ rowIds (mark ⟨c, r⟩).toList
    drawn := s.drawn + ((mark ⟨c, r⟩).toList.filterMap Mark.issuedId).length }

/-- The store as the passes see it. -/
def queueWorld (E : Evaluator) : World (serviceSig E) ServiceError (QueueStore E) :=
  ⟨QueueStore.may, QueueStore.next⟩

section Store

variable {s : QueueStore E} {es : List (ServiceEvent E)}

variable {ms : List (Mark E)} {req : EvaluationRequest} {fleet : Fleet E}

theorem rowIds_early (h : ms.all Mark.early = true) : rowIds ms = [] := by
  refine flatMap_eq_nil_iff.mpr fun m hm => ?_
  have hearly := all_eq_true.mp h m hm
  cases m <;> first | rfl | cases hearly

theorem queue_after (s : QueueStore E) (es : List (ServiceEvent E)) :
    (queueWorld E).after s es =
      { s with
        state := blobOf s.state (marks es)
        violations := s.violations ++ rowIds (marks es)
        drawn := s.drawn + ((marks es).filterMap Mark.issuedId).length } := by
  induction es generalizing s with
  | nil => simp [rowIds, blobOf]
  | cons e es ih =>
    have hcons : marks (e :: es) = (mark e).toList ++ marks es := by
      cases h : mark e <;> simp [marks, h]
    rw [World.after_cons, ih, hcons, blobOf_append]
    simp [queueWorld, QueueStore.next, rowIds, Nat.add_assoc]

theorem queue_after_early (h : Early es) :
    ∃ n, (queueWorld E).after s es = { s with drawn := n } := by
  refine ⟨s.drawn + ((marks es).filterMap Mark.issuedId).length, ?_⟩
  rw [queue_after, blobOf_early h, rowIds_early h, append_nil]

theorem accepts_drawn (n : ℕ) (h : (queueWorld E).Accepts s es) :
    (queueWorld E).Accepts { s with drawn := n } es := by
  induction es generalizing s n with
  | nil => trivial
  | cons e es ih => exact ⟨h.1, ih _ h.2⟩

theorem queue_may_of_mark (h : (queueWorld E).Accepts s es) {ms ms' : List (Mark E)} {m : Mark E}
    (hm : marks es = ms ++ m :: ms') :
    ∃ pre e, marks pre = ms ∧ mark e = some m ∧
      ((queueWorld E).after s pre).may e.call e.answer := by
  obtain ⟨pre, e, post, rfl, hpre, he⟩ := exists_event_of_marks hm
  exact ⟨pre, e, hpre, he, (World.accepts_append.mp h).2.1⟩

theorem issued_fresh (h : (queueWorld E).Accepts s es) {id : String}
    (hid : .issued id ∈ marks es) : id ∉ s.violations := by
  obtain ⟨ms, ms', hms⟩ := append_of_mem hid
  obtain ⟨pre, e, -, he, hmay⟩ := queue_may_of_mark h hms
  unfold QueueStore.may at hmay
  rw [show (⟨e.call, e.answer⟩ : ServiceEvent E) = e from rfl, he, queue_after] at hmay
  exact fun hmem => hmay (mem_append_left _ hmem)

/-- A scan in the store is of the stored blob and visits no key twice. -/
theorem scanned_of_accepts (h : (queueWorld E).Accepts s es) {b₀ : SuppressionState} {visits : List (Visit E)} {st : ScanState E}
    {ms tail : List (Mark E)} (hms : marks es = ms ++ tail)
    (hscan : Scanned req fleet b₀ visits [] st ms) :
    b₀ = s.state ∧ (visits.map Visit.key).Nodup ∧
      ∃ ms', Scan fleet.2 b₀ visits st ms' ∧ ∀ p d, .launched p d ∈ ms → .launched p d ∈ ms' := by
  obtain ⟨all, items, ms', rfl, hshape, hvisits, hscan'⟩ := hscan
  have hfirst : marks es = [] ++ .policies all :: _ := hms
  have hsecond : marks es = [.policies all] ++ .devices items :: _ := hms
  have hthird : marks es = [.policies all, .devices items] ++ .loaded b₀ :: _ := hms
  have htable : (all.map CompliancePolicy.id).Nodup ∧ ∀ p ∈ all, NoColon p.id := by
    obtain ⟨pre, e, -, he, hmay⟩ := queue_may_of_mark h hfirst
    unfold QueueStore.may at hmay
    rwa [show (⟨e.call, e.answer⟩ : ServiceEvent E) = e from rfl, he] at hmay
  have hitems : items = s.devices := by
    obtain ⟨pre, e, -, he, hmay⟩ := queue_may_of_mark h hsecond
    unfold QueueStore.may at hmay
    rwa [show (⟨e.call, e.answer⟩ : ServiceEvent E) = e from rfl, he, queue_after] at hmay
  have hloaded : b₀ = s.state := by
    obtain ⟨pre, e, hpre, he, hmay⟩ := queue_may_of_mark h hthird
    unfold QueueStore.may at hmay
    rwa [show (⟨e.call, e.answer⟩ : ServiceEvent E) = e from rfl, he, queue_after, hpre] at hmay
  refine ⟨hloaded, ?_, ms', hscan', fun p d hmem => by simpa using hmem⟩
  rw [append_nil] at hvisits
  rw [← hvisits]
  have hkept : (req.policies all).Sublist all := filter_sublist
  refine visitsOf_keys_nodup (htable.1.sublist (hkept.map _))
    (fun p hp => htable.2 p (hkept.subset hp)) ?_
  have hids : (fleet.1.map fun d => d.id) = (req.devices items).map fun d => d.id := by
    have hfst := congrArg (List.map Prod.fst) hshape
    rwa [map_map, map_map] at hfst
  rw [hids, hitems]
  exact s.devices_nodup.sublist (filter_sublist.map _)

theorem exists_fresh (l : List String) : ∃ id, id ∉ l := by
  have hinf : Infinite String := .of_injective String.ofList fun _ _ h => String.ofList_inj.mp h
  obtain ⟨id, hid⟩ := hinf.exists_notMem_finset l.toFinset
  exact ⟨id, by simpa using hid⟩

theorem exists_may_ok (s : QueueStore E) (c : ServiceCall E) :
    ∃ a, (queueWorld E).may s c (.ok a) := by
  cases c with
  | findPolicies => exact ⟨[], by simp, by simp⟩
  | getDevicesFull refresh =>
    refine ⟨s.devices, ?_⟩
    cases refresh with
    | true => exact rfl
    | false => trivial
  | loadComplianceState => exact ⟨s.state, rfl⟩
  | randomUUID => exact exists_fresh s.violations
  | startWorkflowRun pair _ _ _ =>
    refine ⟨(), ?_⟩
    cases pair <;> trivial
  | readInstalledAppsFromStore _ => exact ⟨E.noApps, trivial⟩
  | loadAppListsContext => exact ⟨E.noAppLists, trivial⟩
  | loadGeofenceZonesById => exact ⟨E.noZones, trivial⟩
  | loadDeviceLocations _ => exact ⟨E.noLocations, trivial⟩
  | findWorkflows => exact ⟨[], trivial⟩
  | findViolations => exact ⟨[], trivial⟩
  | findWorkflowsIn _ => exact ⟨[], trivial⟩
  | getWorkflowRun _ => exact ⟨⟨"", "", []⟩, trivial⟩
  | markCaseRecovered => exact ⟨none, trivial⟩
  | upsertCaseForViolation => exact ⟨("", none), trivial⟩
  | durableRunView _ => exact ⟨none, trivial⟩
  | resolveOrgBase => exact ⟨"", trivial⟩
  | applyMarker => exact ⟨false, trivial⟩
  | findPolicy _ => exact ⟨none, trivial⟩
  | findViolation _ => exact ⟨none, trivial⟩
  | findWorkflow _ => exact ⟨none, trivial⟩
  | findCase _ => exact ⟨none, trivial⟩
  | updatePolicy id _ => exact ⟨⟨id, "", none, true, [], "any", none, none, none, none, none, none,
      none, false, false, none, false, none, false, false, [], none⟩, trivial⟩
  | _ => exact ⟨(), trivial⟩

/-- What a pass that has saved and inserted leaves in the store. -/
theorem store_of_saved (h : (queueWorld E).Accepts s es) {acts : List MarkerAction} (hsaved : PassSaved req fleet acts ms)
    (hms : marks es = ms ∨ marks es = ms ++ markerMarks acts) :
    ∃ visits st ms', Scan fleet.2 s.state visits st ms' ∧ (visits.map Visit.key).Nodup ∧
      (∀ p d, .launched p d ∈ marks es → .launched p d ∈ ms') ∧
      ((queueWorld E).after s es).state = st.blob ∧
      ((queueWorld E).after s es).violations = s.violations ++ st.rows.map fun r => r.id := by
  obtain ⟨b₀, visits, st, ms₁, tail, hscanned, -, rfl, htail⟩ := hsaved.scanned
  obtain ⟨rest, hes, hrest⟩ : ∃ rest, marks es = ms₁ ++ (.saved st.blob :: (tail ++ rest)) ∧
      (rest = [] ∨ rest = markerMarks acts) := by
    rcases hms with hms | hms
    · exact ⟨[], by simp [hms], .inl rfl⟩
    · exact ⟨_, by simp [hms], .inr rfl⟩
  obtain ⟨rfl, hkeys, ms', hscan, hlaunched⟩ := scanned_of_accepts h hes hscanned
  have hrestBlob : ∀ b, blobOf b rest = b := by
    rcases hrest with rfl | rfl
    · exact fun _ => rfl
    · exact fun b => blobOf_markerMarks b acts
  have hrestIds : rowIds rest = [] := by
    rcases hrest with rfl | rfl
    · rfl
    · exact flatMap_eq_nil_iff.mpr fun m hm => by
        obtain ⟨a, -, rfl⟩ := mem_map.mp hm
        rfl
  have hrestLaunched : ∀ p d, (.launched p d : Mark E) ∉ rest := by
    rcases hrest with rfl | rfl
    · simp
    · simp [markerMarks]
  have hids : rowIds ms₁ = [] := rowIds_early hscanned.early
  refine ⟨visits, st, ms', hscan, hkeys, fun p d hmem => hlaunched p d ?_, ?_, ?_⟩
  · rw [hes] at hmem
    rcases htail with ⟨rfl, -⟩ | ⟨rfl, -⟩ <;> simpa [hrestLaunched] using hmem
  · rw [queue_after]
    show blobOf s.state (marks es) = st.blob
    rw [hes, blobOf_append]
    show blobOf st.blob (tail ++ rest) = st.blob
    rw [blobOf_append, hrestBlob]
    rcases htail with ⟨rfl, -⟩ | ⟨rfl, -⟩ <;> rfl
  · rw [queue_after]
    show s.violations ++ rowIds (marks es) = _
    have happend : rowIds (marks es) = rowIds ms₁ ++ (rowIds tail ++ rowIds rest) := by
      rw [hes]
      simp [rowIds]
    rw [happend, hids, hrestIds]
    rcases htail with ⟨rfl, hrows⟩ | ⟨rfl, -⟩
    · simp [hrows, rowIds]
    · simp [rowIds]

/-- A completed pass launches for a pair only when its key has no entry. -/
theorem clear_of_launched (h : (queueWorld E).Accepts s es)
    {summary : EvaluationSummary}
    (hsteps : Prog.Steps (runComplianceEvaluation req) es (.ret (.ok summary))) {p d : String}
    (hlaunch : .launched p d ∈ marks es) :
    SuppressionState.get s.state (suppressionKey p d) = none := by
  have hend := (meets_runComplianceEvaluation req).post_of_steps hsteps (World.log_accepts _ _)
  rw [World.log_after, nil_append] at hend
  rcases hend with ⟨fleet, -, acts, ms, hsaved, hms⟩ | ⟨all, rfl, -⟩
  · obtain ⟨visits, st, ms', hscan, hkeys, hlaunched, -⟩ := store_of_saved h hsaved (.inr hms)
    exact (hscan.launched_entry hkeys (hlaunched p d hlaunch)).2.1
  · simp [marks, mark] at hlaunch

end Store

/-! ## Harmless failures -/

/-- Every suppression key refers to a violation row. -/
def Backed (s : QueueStore E) : Prop :=
  ∀ key e, SuppressionState.get s.state key = some e → e.violationId ∈ s.violations

/-- The calls `es` of a failed pass leave every key with its row, and no
completed pass after them launches a workflow again. -/
def Harmless (s : QueueStore E) (es : List (ServiceEvent E)) : Prop :=
  Backed ((queueWorld E).after s es) ∧ ∀ req fs summary,
    (queueWorld E).Accepts ((queueWorld E).after s es) fs →
    Prog.Steps (runComplianceEvaluation req) fs (.ret (.ok summary)) →
    ∀ p d, .launched p d ∈ marks es → .launched p d ∉ marks fs

/-- Where the pass failed: not while it inserted its rows, and before its first
launch or after it had saved. -/
def FailedSafely (es : List (ServiceEvent E)) : Prop :=
  (∀ rows, .rejected rows ∉ marks es) ∧
    ((∀ p d, .launched p d ∉ marks es) ∨ ∃ b, .saved b ∈ marks es)

section Failure

variable {s : QueueStore E} {es : List (ServiceEvent E)} {req : EvaluationRequest}
  {error : ServiceError}

variable {fleet : Fleet E} {acts : List MarkerAction} {ms : List (Mark E)}

theorem backed_of_saved (hs : Backed s) (h : (queueWorld E).Accepts s es)
    (hsaved : PassSaved req fleet acts ms)
    (hms : marks es = ms ∨ marks es = ms ++ markerMarks acts) :
    Backed ((queueWorld E).after s es) := by
  obtain ⟨visits, st, ms', hscan, -, -, hstate, hviolations⟩ := store_of_saved h hsaved hms
  intro key e he
  rw [hstate] at he
  rw [hviolations]
  rcases hscan.entry_cases he with hold | ⟨row, hrow, hid⟩
  · exact mem_append_left _ (hs key e hold)
  · exact mem_append_right _ (mem_map.mpr ⟨row, hrow, hid⟩)

theorem not_backed_of_rejected (h : (queueWorld E).Accepts s es)
    (hrejected : PassRejected req fleet (marks es)) : ¬Backed ((queueWorld E).after s es) := by
  obtain ⟨b₀, visits, st, ms, hscanned, hrows, hms⟩ := hrejected
  obtain ⟨row, rows, hcons⟩ := exists_cons_of_ne_nil hrows
  have hrow : row ∈ st.rows := hcons ▸ mem_cons_self
  obtain ⟨rfl, hkeys, ms', hscan, -⟩ := scanned_of_accepts h hms hscanned
  obtain ⟨-, e, he, hid⟩ := hscan.row_entry hkeys row hrow
  have hfresh : row.id ∉ s.violations := by
    refine issued_fresh h ?_
    have hissued : row.id ∈ (marks es).filterMap Mark.issuedId := by
      rw [hms, filterMap_append]
      exact mem_append_left _ (hscanned.rows_issued.subset (mem_map_of_mem hrow))
    obtain ⟨m, hm, hmid⟩ := mem_filterMap.mp hissued
    cases m <;> cases hmid
    exact hm
  intro hbacked
  rw [queue_after, hms] at hbacked
  have hids : rowIds (ms ++ [.saved st.blob, .rejected st.rows]) = [] := by
    have happend : rowIds (ms ++ [.saved st.blob, .rejected st.rows]) = rowIds ms := by
      simp [rowIds]
    rw [happend, rowIds_early hscanned.early]
  have hblob : blobOf s.state (ms ++ [.saved st.blob, .rejected st.rows]) = st.blob := by
    rw [blobOf_append]
    rfl
  rw [hids, hblob] at hbacked
  have hmem := hbacked row.key e he
  rw [hid, append_nil] at hmem
  exact hfresh hmem

/-- A pass that has launched and not saved can be followed by one that does the
same again and completes. -/
theorem exists_relaunch (h : (queueWorld E).Accepts s es)
    (hsteps : Prog.Steps (runComplianceEvaluation req) es (.ret (.error error))) {p d : String}
    (hlaunch : .launched p d ∈ marks es) :
    ∃ fs summary, (queueWorld E).Accepts s fs ∧
      Prog.Steps (runComplianceEvaluation req) fs (.ret (.ok summary)) ∧
      .launched p d ∈ marks fs := by
  obtain ⟨e, he, hmark⟩ := mem_marks.mp hlaunch
  obtain ⟨pre, post, rfl⟩ := append_of_mem he
  obtain ⟨hpre, hrest⟩ := World.accepts_append.mp h
  obtain ⟨q, hq, hqrest⟩ := hsteps.split
  obtain ⟨c, r⟩ := e
  cases hqrest with
  | @head _ k _ _ _ hpost =>
    have hfast := (failsFast_runComplianceEvaluation req).rest hq
    obtain ⟨a, rfl⟩ : ∃ a, r = .ok a := by
      unfold mark at hmark
      split at hmark <;> cases hmark
      next heq =>
        obtain ⟨rfl, hr⟩ := Event.mk.inj heq
        exact ⟨_, eq_of_heq hr⟩
    obtain ⟨fs, summary, hfs, hacc⟩ := Prog.FailsFast.completes exists_may_ok (hfast.1 a)
      ((queueWorld E).next ((queueWorld E).after s pre) c (.ok a))
    refine ⟨pre ++ ⟨c, .ok a⟩ :: fs, summary, ?_, hq.trans (.head hfs), ?_⟩
    · exact World.accepts_append.mpr ⟨hpre, hrest.1, hacc⟩
    · exact mem_marks.mpr ⟨_, mem_append_right _ mem_cons_self, hmark⟩

/-- The three ways in which a pass fails: before it saves, with its rows refused,
and after that. -/
theorem failed_cases (hsteps : Prog.Steps (runComplianceEvaluation req) es (.ret (.error error))) :
    Early es ∨ (∃ fleet, PassRejected req fleet (marks es)) ∨
      ∃ fleet acts ms, PassSaved req fleet acts ms ∧
        (marks es = ms ∨ marks es = ms ++ markerMarks acts) := by
  have hend := (meets_runComplianceEvaluation req).post_of_steps hsteps (World.log_accepts _ _)
  rw [World.log_after, nil_append] at hend
  rcases hend with ⟨fleet, -, hearly | hrejected | ⟨acts, ms, hsaved⟩⟩ | hearly
  · exact .inl hearly
  · exact .inr (.inl ⟨fleet, hrejected⟩)
  · exact .inr (.inr ⟨fleet, acts, ms, hsaved⟩)
  · exact .inl hearly

theorem not_mem_of_early (h : Early es) {m : Mark E} (hm : m.early = false) : m ∉ marks es :=
  fun hmem => absurd ((all_eq_true.mp h m hmem).symm.trans hm) (by decide)

/-- The marks of a pass that has saved: the save, and no refused rows. -/
theorem marks_of_saved (hsaved : PassSaved req fleet acts ms)
    (hms : marks es = ms ∨ marks es = ms ++ markerMarks acts) :
    (∃ b, .saved b ∈ marks es) ∧ ∀ rows, .rejected rows ∉ marks es := by
  obtain ⟨b₀, visits, st, ms', tail, hscanned, -, rfl, htail⟩ := hsaved.scanned
  have hearly : ∀ rows, .rejected rows ∉ ms' := fun rows hmem => by
    cases all_eq_true.mp hscanned.early _ hmem
  have htail' : ∀ rows, (.rejected rows : Mark E) ∉ tail := by
    rcases htail with ⟨rfl, -⟩ | ⟨rfl, -⟩ <;> simp
  rcases hms with hms | hms
  · rw [hms]
    exact ⟨⟨st.blob, by simp⟩, fun rows => by simp [hearly, htail']⟩
  · rw [hms]
    exact ⟨⟨st.blob, by simp⟩, fun rows => by simp [hearly, htail', markerMarks]⟩

theorem harmless_of_failedSafely (hs : Backed s) (h : (queueWorld E).Accepts s es)
    (hsteps : Prog.Steps (runComplianceEvaluation req) es (.ret (.error error)))
    (hsafe : FailedSafely es) : Harmless s es := by
  obtain ⟨hrejected, hpoint⟩ := hsafe
  rcases failed_cases hsteps with hearly | ⟨fleet, hrows⟩ | ⟨fleet, acts, ms, hsaved, hms⟩
  · obtain ⟨n, hafter⟩ := queue_after_early (s := s) hearly
    refine ⟨by rw [hafter]; exact hs, fun _ _ _ _ _ p d hlaunch => ?_⟩
    rcases hpoint with hnone | ⟨b, hb⟩
    · exact absurd hlaunch (hnone p d)
    · exact absurd hb (not_mem_of_early hearly rfl)
  · obtain ⟨b₀, visits, st, ms', -, -, hms⟩ := hrows
    exact absurd (by simp [hms]) (hrejected st.rows)
  · refine ⟨backed_of_saved hs h hsaved hms, fun _ fs _ hacc hfs p d hlaunch hagain => ?_⟩
    obtain ⟨visits, st, ms', hscan, hkeys, hlaunched, hstate, -⟩ := store_of_saved h hsaved hms
    obtain ⟨-, -, hsome⟩ := hscan.launched_entry hkeys (hlaunched p d hlaunch)
    have hnone := clear_of_launched hacc hfs hagain
    rw [hstate] at hnone
    rw [hnone] at hsome
    cases hsome

theorem failedSafely_of_harmless (h : (queueWorld E).Accepts s es)
    (hsteps : Prog.Steps (runComplianceEvaluation req) es (.ret (.error error)))
    (hharmless : Harmless s es) : FailedSafely es := by
  obtain ⟨hbacked, hrelaunch⟩ := hharmless
  rcases failed_cases hsteps with hearly | ⟨fleet, hrows⟩ | ⟨fleet, acts, ms, hsaved, hms⟩
  · refine ⟨fun rows => not_mem_of_early hearly rfl, .inl fun p d hlaunch => ?_⟩
    obtain ⟨fs, summary, hacc, hfs, hagain⟩ := exists_relaunch h hsteps hlaunch
    obtain ⟨n, hafter⟩ := queue_after_early (s := s) hearly
    rw [hafter] at hrelaunch
    exact hrelaunch req fs summary (accepts_drawn n hacc) hfs p d hlaunch hagain
  · exact absurd hbacked (not_backed_of_rejected h hrows)
  · obtain ⟨hsavedMark, hnone⟩ := marks_of_saved hsaved hms
    exact ⟨hnone, .inr hsavedMark⟩

end Failure

/-- **Main theorem**: a failed pass over a store whose keys have their rows is
harmless exactly when it failed at a safe point. -/
theorem harmless_iff {s : QueueStore E} {es : List (ServiceEvent E)} {req : EvaluationRequest}
    {error : ServiceError} (hs : Backed s) (h : (queueWorld E).Accepts s es)
    (hsteps : Prog.Steps (runComplianceEvaluation req) es (.ret (.error error))) :
    Harmless s es ↔ FailedSafely es :=
  ⟨failedSafely_of_harmless h hsteps, harmless_of_failedSafely hs h hsteps⟩

/-! ## A pass whose save fails -/

/-- The policy about encryption, whose workflow runs by itself. -/
def autoRunPolicy : CompliancePolicy attributeEvaluator :=
  { encryptionPolicy with workflowId := some "w1", autoRun := true }

/-- A workflow without steps. -/
def encryptWorkflow : Workflow where
  id := "w1"
  name := "Encrypt"
  steps := []

/-- The laptop, and no violations yet. -/
def newQueue : QueueStore attributeEvaluator where
  devices := [plainLaptop]
  devices_nodup := by decide
  state := []
  violations := []

/-- The id to draw next. -/
def QueueStore.nextId (s : QueueStore attributeEvaluator) : String :=
  if s.drawn = 0 then "v1" else if s.drawn = 1 then "run-1"
  else if s.drawn = 2 then "v2" else "run-2"

/-- The answers of the store, where a save may throw. -/
def QueueStore.answer (saves : Bool) (s : QueueStore attributeEvaluator) :
    (c : ServiceCall attributeEvaluator) → Except ServiceError (ServiceCall.Answer c)
  | .loadComplianceState => .ok s.state
  | .getDevicesFull _ => .ok s.devices
  | .randomUUID =>
    if s.nextId ∈ s.violations then .error (.other "drawn before") else .ok s.nextId
  | .saveComplianceState _ => if saves then .ok () else .error (.other "connection lost")
  | c => firstPassAnswer [autoRunPolicy] [] [encryptWorkflow] c

theorem may_queueAnswer (saves : Bool) (s : QueueStore attributeEvaluator)
    (c : ServiceCall attributeEvaluator) :
    (queueWorld attributeEvaluator).may s c (s.answer saves c) := by
  show QueueStore.may s c (s.answer saves c)
  cases c with
  | findPolicies => exact ⟨by decide, by decide⟩
  | getDevicesFull refresh =>
    cases refresh with
    | true => rfl
    | false => trivial
  | startWorkflowRun pair _ _ _ => cases pair <;> trivial
  | loadComplianceState => rfl
  | randomUUID =>
    have hanswer : s.answer saves .randomUUID =
        if s.nextId ∈ s.violations then .error (.other "drawn before") else .ok s.nextId := rfl
    rw [hanswer]
    split_ifs with h
    · trivial
    · exact h
  | saveComplianceState b => cases saves <;> trivial
  | _ => trivial

/-- A fleet-wide pass over the laptop. -/
def autoRunPass (saves : Bool) (s : QueueStore attributeEvaluator) :
    List (ServiceEvent attributeEvaluator) × Except ServiceError EvaluationSummary :=
  (runComplianceEvaluation { nowIso := "2024-01-01T00:00:00.000Z" }).execute (queueWorld _)
    (fun s => s.answer saves) s

theorem steps_autoRunPass (saves : Bool) (s : QueueStore attributeEvaluator) :
    Prog.Steps (runComplianceEvaluation { nowIso := "2024-01-01T00:00:00.000Z" })
      (autoRunPass saves s).1 (.ret (autoRunPass saves s).2) :=
  Prog.steps_execute _ _

/-- The pass launches the workflow and then cannot save; the next one launches
it again. -/
theorem relaunched_after_failed_save :
    ¬∀ (s : QueueStore attributeEvaluator) (es : List (ServiceEvent attributeEvaluator))
      (req : EvaluationRequest) (error : ServiceError), Backed s →
      (queueWorld attributeEvaluator).Accepts s es →
      Prog.Steps (runComplianceEvaluation req) es (.ret (.error error)) → Harmless s es := by
  intro hall
  have hbacked : Backed newQueue := fun key e he => by cases he
  have hacc : ∀ saves s, (queueWorld attributeEvaluator).Accepts s (autoRunPass saves s).1 :=
    fun saves s => Prog.accepts_execute (may_queueAnswer saves) _ _
  have hfails : (autoRunPass false newQueue).2 = .error (.other "connection lost") := rfl
  have hsteps := steps_autoRunPass false newQueue
  rw [hfails] at hsteps
  obtain ⟨-, hrelaunch⟩ := hall newQueue _ _ _ hbacked (hacc false newQueue) hsteps
  have hstore : (queueWorld attributeEvaluator).after newQueue (autoRunPass false newQueue).1 =
      { newQueue with drawn := 2 } := rfl
  rw [hstore] at hrelaunch
  have hlaunch : .launched "p1" "d1" ∈ marks (autoRunPass false newQueue).1 :=
    mem_of_getElem? (i := 5) rfl
  have hagain : .launched "p1" "d1" ∈ marks (autoRunPass true { newQueue with drawn := 2 }).1 :=
    mem_of_getElem? (i := 5) rfl
  obtain ⟨summary, hcompletes⟩ : ∃ summary,
      (autoRunPass true { newQueue with drawn := 2 }).2 = .ok summary := ⟨_, rfl⟩
  have hcomplete := steps_autoRunPass true { newQueue with drawn := 2 }
  rw [hcompletes] at hcomplete
  exact hrelaunch _ _ _ (hacc true _) hcomplete "p1" "d1" hlaunch hagain

/-- A pass that cannot read the devices is harmless. -/
theorem harmless_of_failed_read :
    Harmless newQueue [⟨.findPolicies, .ok [autoRunPolicy]⟩,
      ⟨.getDevicesFull true, .error (.other "unavailable")⟩] := by
  have hsteps : Prog.Steps (runComplianceEvaluation { nowIso := "2024-01-01T00:00:00.000Z" })
      [⟨.findPolicies, .ok [autoRunPolicy]⟩, ⟨.getDevicesFull true, .error (.other "unavailable")⟩]
      (.ret (.error (.other "unavailable"))) := .head (.head (.refl _))
  have hbacked : Backed newQueue := fun key e he => by cases he
  have hacc : (queueWorld attributeEvaluator).Accepts newQueue
      [⟨.findPolicies, .ok [autoRunPolicy]⟩,
        ⟨.getDevicesFull true, .error (.other "unavailable")⟩] :=
    ⟨⟨by decide, by decide⟩, trivial, trivial⟩
  refine (harmless_iff hbacked hacc hsteps).mpr ⟨fun rows => ?_, .inl fun p d => ?_⟩
  · simp [marks, mark]
  · simp [marks, mark]

end AppliverySoar.Compliance
