import AppliverySoar.Async.Sequence
import AppliverySoar.Compliance.ScanResult

/-!
# A workspace and its operations, one after the other

The operations that change the suppression blob or the policies of a workspace,
and the store that a sequential run of them is about: the policies, the device
list that Applivery gives and the blob.

Results:
* `state_after`: the blob after a run of calls is what was last saved.
* `pass_of_turn`: a pass that comes to its end has scanned the stored blob over
  the stored policies and devices, and leaves what the scan ends with.
-/

namespace AppliverySoar.Compliance

open Async Access Workflows List

variable {E : Evaluator}

/-! ## The operations -/

/-- An operation of the workspace. -/
inductive BlobTask
  | evaluate (req : EvaluationRequest)
  | approve (violationId : String)
  | dismiss (violationId : String) (authorized : Bool)
  | deletePolicy (policyId : String)

/-- What an operation runs. -/
def BlobTask.body : BlobTask → Service E Unit
  | .evaluate req => do
    let _ ← runComplianceEvaluation req
  | .approve violationId => approveViolationCore violationId
  | .dismiss violationId authorized => dismissViolationCore violationId authorized
  | .deletePolicy policyId => deleteCompliancePolicy policyId

/-- An operation, or an edit of a policy. -/
inductive WorkspaceTask (E : Evaluator)
  | blob (t : BlobTask)
  | update (policyId : String) (payload : PolicyPayload E)

/-- What a task runs. -/
def WorkspaceTask.body : WorkspaceTask E → Service E Unit
  | .blob t => t.body
  | .update policyId payload => do
    let _ ← updateCompliancePolicy policyId payload

/-! ## The store -/

/-- The `CompliancePolicy` table: ids are UUIDs and its primary key. -/
structure PolicyTable (E : Evaluator) where
  rows : List (CompliancePolicy E)
  ids_nodup : (rows.map CompliancePolicy.id).Nodup
  noColon : ∀ p ∈ rows, NoColon p.id

/-- An update of the row `id` that leaves its id alone. -/
def PolicyTable.modify (t : PolicyTable E) (id : String)
    (f : CompliancePolicy E → CompliancePolicy E) (hf : ∀ p, (f p).id = p.id) : PolicyTable E where
  rows := t.rows.map fun p => if p.id = id then f p else p
  ids_nodup := by
    rw [List.map_map]
    convert t.ids_nodup using 2
    funext p
    by_cases h : p.id = id <;> simp [h, hf]
  noColon := by
    intro p hp
    obtain ⟨q, hq, rfl⟩ := List.mem_map.mp hp
    have hid : (if q.id = id then f q else q).id = q.id := by
      by_cases h : q.id = id <;> simp [h, hf]
    rw [hid]
    exact t.noColon q hq

/-- The deletion of the row `id`. -/
def PolicyTable.remove (t : PolicyTable E) (id : String) : PolicyTable E where
  rows := t.rows.filter fun p => p.id ≠ id
  ids_nodup := t.ids_nodup.sublist (List.filter_sublist.map _)
  noColon p hp := t.noColon p (List.mem_filter.mp hp).1

/-- The breaker of a policy trips (line 680). -/
def CompliancePolicy.tripped (p : CompliancePolicy E) (reason : String) : CompliancePolicy E :=
  { p with autoRunTripped := true, autoRunTrippedReason := some reason }

/-- What the operations and Applivery keep of a workspace. -/
structure Workspace (E : Evaluator) where
  policies : PolicyTable E
  devices : List (Device E)
  state : SuppressionState

/-- Reads of the policies, of the devices and of the blob answer what is
stored. -/
def Workspace.may (s : Workspace E) (c : ServiceCall E)
    (r : Except ServiceError (ServiceCall.Answer c)) : Prop :=
  match mark ⟨c, r⟩ with
  | some (.policies all) => all = s.policies.rows
  | some (.devices items) => items = s.devices
  | some (.loaded state) => state = s.state
  | _ => True

/-- The blob after some marks: the one last saved. -/
def blobOf (b : SuppressionState) (ms : List (Mark E)) : SuppressionState :=
  ms.foldl (fun b m => match m with | .saved b' => b' | _ => b) b

/-- The policies after an answered call. -/
def PolicyTable.next (t : PolicyTable E) (e : ServiceEvent E) : PolicyTable E :=
  match e with
  | ⟨.tripAutoRun id reason, .ok _⟩ => t.modify id (fun p => p.tripped reason) fun _ => rfl
  | ⟨.updatePolicy id payload, .ok _⟩ => t.modify id (fun p => p.updated payload) fun _ => rfl
  | ⟨.deletePolicy id, .ok _⟩ => t.remove id
  | _ => t

/-- What an answered call leaves. -/
def Workspace.next (s : Workspace E) (c : ServiceCall E)
    (r : Except ServiceError (ServiceCall.Answer c)) : Workspace E where
  policies := s.policies.next ⟨c, r⟩
  devices := s.devices
  state := blobOf s.state (mark ⟨c, r⟩).toList

/-- The store as the operations see it. -/
def workspaceWorld (E : Evaluator) : World (serviceSig E) ServiceError (Workspace E) :=
  ⟨Workspace.may, Workspace.next⟩

/-- Between two operations anything but the blob may change: policies are
created, devices are enrolled and removed and change their attributes. -/
def Outside (s s' : Workspace E) : Prop :=
  s'.state = s.state

/-- A sequential run of a workspace. -/
abbrev WorkspaceRun (E : Evaluator) :=
  Sequence (workspaceWorld E) (WorkspaceTask.body (E := E)) Outside

/-- A turn of such a run. -/
abbrev WorkspaceTurn (E : Evaluator) :=
  Turn (serviceSig E) ServiceError (Workspace E) (WorkspaceTask E)

/-! ## What a run of calls leaves -/

theorem blobOf_append (b : SuppressionState) (ms ms' : List (Mark E)) :
    blobOf b (ms ++ ms') = blobOf (blobOf b ms) ms' :=
  foldl_append

theorem blobOf_early {b : SuppressionState} {ms : List (Mark E)}
    (h : ms.all Mark.early = true) : blobOf b ms = b := by
  induction ms with
  | nil => rfl
  | cons m ms ih =>
    rw [all_cons, Bool.and_eq_true] at h
    have hm : blobOf b (m :: ms) = blobOf b ms := by
      cases m <;> first | rfl | cases h.1
    rw [hm, ih h.2]

theorem blobOf_markerMarks (b : SuppressionState) (acts : List MarkerAction) :
    blobOf b (markerMarks acts : List (Mark E)) = b := by
  unfold markerMarks
  induction byDevice acts with
  | nil => rfl
  | cons a l ih => exact ih

section World

variable {s : Workspace E} {es : List (ServiceEvent E)}

theorem devices_after (s : Workspace E) (es : List (ServiceEvent E)) :
    ((workspaceWorld E).after s es).devices = s.devices := by
  induction es generalizing s with
  | nil => rfl
  | cons e es ih => exact ih _

theorem state_after (s : Workspace E) (es : List (ServiceEvent E)) :
    ((workspaceWorld E).after s es).state = blobOf s.state (marks es) := by
  induction es generalizing s with
  | nil => rfl
  | cons e es ih =>
    have hcons : marks (e :: es) = (mark e).toList ++ marks es := by
      cases h : mark e <;> simp [marks, h]
    rw [World.after_cons, ih, hcons, blobOf_append]
    rfl

variable {ms ms' : List (Mark E)}

/-- Where a mark stands among the marks, its call stands among the calls. -/
theorem exists_event_of_marks {m : Mark E}
    (h : marks es = ms ++ m :: ms') :
    ∃ pre e post, es = pre ++ e :: post ∧ marks pre = ms ∧ mark e = some m := by
  obtain ⟨pre, rest, rfl, hpre, hrest⟩ := filterMap_eq_append_iff.mp h
  obtain ⟨silent, e, post, rfl, hsilent, he, -⟩ := filterMap_eq_cons_iff.mp hrest
  refine ⟨pre ++ silent, e, post, by simp, ?_, he⟩
  have hnone : marks silent = [] := by
    rw [marks, filterMap_eq_nil_iff]
    exact hsilent
  rw [marks_append, hnone, append_nil]
  exact hpre

theorem may_of_mark (h : (workspaceWorld E).Accepts s es) {m : Mark E}
    (hm : marks es = ms ++ m :: ms') :
    ∃ pre e, marks pre = ms ∧ mark e = some m ∧
      ((workspaceWorld E).after s pre).may e.call e.answer := by
  obtain ⟨pre, e, post, rfl, hpre, he⟩ := exists_event_of_marks hm
  exact ⟨pre, e, hpre, he, (World.accepts_append.mp h).2.1⟩

theorem devices_of_mark (h : (workspaceWorld E).Accepts s es)
    {items : List (Device E)} (hm : marks es = ms ++ .devices items :: ms') :
    items = s.devices := by
  obtain ⟨pre, e, -, he, hmay⟩ := may_of_mark h hm
  unfold Workspace.may at hmay
  rw [show (⟨e.call, e.answer⟩ : ServiceEvent E) = e from rfl, he] at hmay
  exact hmay.trans (devices_after s pre)

theorem loaded_of_mark (h : (workspaceWorld E).Accepts s es)
    {b : SuppressionState} (hm : marks es = ms ++ .loaded b :: ms') : b = blobOf s.state ms := by
  obtain ⟨pre, e, hpre, he, hmay⟩ := may_of_mark h hm
  unfold Workspace.may at hmay
  rw [show (⟨e.call, e.answer⟩ : ServiceEvent E) = e from rfl, he] at hmay
  rw [← hpre, ← state_after]
  exact hmay

end World

/-! ## A pass that comes to its end -/

theorem meets_evaluateTask (req : EvaluationRequest) :
    (WorkspaceTask.body (.blob (.evaluate req)) : Service E Unit).Meets (World.log _ _)
      (PassCall req) [] fun r es => ∃ r', PassEnd req r' es ∧ r = r'.map fun _ => () := by
  refine Prog.Meets.bind (R := fun summary es => PassEnd req (.ok summary) es)
    ((meets_runComplianceEvaluation req).mono fun r es h => ?_) fun summary es h => ?_
  · cases r with
    | ok _ => exact h
    | error e => exact ⟨.error e, h, rfl⟩
  · exact ⟨.ok summary, h, rfl⟩

/-- What a completed pass has done in its workspace. -/
structure PassTurn (req : EvaluationRequest) (t : WorkspaceTurn E) (fleet : Fleet E)
    (visits : List (Visit E)) (st : ScanState E) (ms : List (Mark E)) : Prop where
  read : FleetRead req t.events fleet
  shapes : fleet.1.map Device.shape = (req.devices t.before.devices).map Device.shape
  visits_eq : visitsOf (req.policies t.before.policies.rows) fleet.1 = visits
  scan : Scan fleet.2 t.before.state visits st ms
  saved : (t.after (workspaceWorld E)).state = st.blob

variable {t : WorkspaceTurn E} {req : EvaluationRequest}

/-- A pass that comes to its end: with its marks up to the marker writes, or
without policies. -/
theorem pass_cases_of_turn
    (h : t.Legal (workspaceWorld E) WorkspaceTask.body) (htask : t.task = .blob (.evaluate req))
    (hok : t.result = .ok ()) :
    (∃ fleet visits st ms early tail, PassTurn req t fleet visits st ms ∧
      marks t.events = early ++ .saved st.blob :: tail ++ markerMarks st.acts ∧
        early.all Mark.early = true ∧ (tail = [] ∨ tail = [.created st.rows])) ∨
      Early t.events ∧ req.policies t.before.policies.rows = [] := by
  have hmeets := meets_evaluateTask (E := E) req
  rw [← htask] at hmeets
  obtain ⟨r', hend, hr⟩ := h.post hmeets
  rw [hok] at hr
  cases r' with
  | error e => cases hr
  | ok summary =>
    have hpolicies : ∀ {all es'}, t.events = ⟨.findPolicies, .ok all⟩ :: es' →
        all = t.before.policies.rows := by
      intro all es' hes
      have hacc := h.accepted
      rw [hes] at hacc
      exact hacc.1
    rcases hend with ⟨fleet, hread, acts, ms, hsaved, hms⟩ | ⟨all, hes, hempty⟩
    · obtain ⟨b₀, visits, st, ms', tail, hscanned, rfl, rfl, htail⟩ := hsaved.scanned
      obtain ⟨all, items, ms'', rfl, hshape, hvisits, hscan⟩ := id hscanned
      have hall : all = t.before.policies.rows := by
        obtain ⟨all', fs, es', hes, -⟩ := hread
        have hhead : all' = all := by
          have hcons : marks t.events = .policies all' :: marks (fs ++ es') := by rw [hes]; rfl
          rw [hcons] at hms
          simp only [cons_append, List.cons.injEq, Mark.policies.injEq] at hms
          exact hms.1
        exact hhead ▸ hpolicies hes
      have hafter : marks t.events = [.policies all] ++ .devices items :: _ := hms
      have hloadedAt : marks t.events = [.policies all, .devices items] ++ .loaded b₀ :: _ := hms
      have hitems : items = t.before.devices := devices_of_mark h.accepted hafter
      have hloaded : b₀ = t.before.state := loaded_of_mark h.accepted hloadedAt
      subst hall hitems hloaded
      refine .inl ⟨fleet, visits, st, _, _, tail,
        ⟨hread, hshape, by simpa using hvisits, hscan, ?_⟩, hms, hscanned.early,
        htail.imp And.left And.left⟩
      rw [Turn.after, state_after, hms]
      rw [blobOf_append, blobOf_markerMarks, blobOf_append]
      rcases htail with ⟨rfl, -⟩ | ⟨rfl, -⟩ <;> rfl
    · refine .inr ⟨?_, hpolicies hes ▸ hempty⟩
      rw [hes]
      rfl

theorem pass_of_turn
    (h : t.Legal (workspaceWorld E) WorkspaceTask.body) (htask : t.task = .blob (.evaluate req))
    (hok : t.result = .ok ()) (hne : req.policies t.before.policies.rows ≠ []) :
    ∃ fleet visits st ms, PassTurn req t fleet visits st ms := by
  rcases pass_cases_of_turn h htask hok with ⟨fleet, visits, st, ms, _, _, hpass, -⟩ | ⟨-, hempty⟩
  · exact ⟨fleet, visits, st, ms, hpass⟩
  · exact absurd hempty hne

/-! ## Runs with the answers of the store -/

/-- The answers of a store without workflows and past violations. -/
def Workspace.answer (s : Workspace attributeEvaluator) :
    (c : ServiceCall attributeEvaluator) → Except ServiceError (ServiceCall.Answer c)
  | .findPolicies => .ok s.policies.rows
  | .getDevicesFull _ => .ok s.devices
  | .loadComplianceState => .ok s.state
  | c => firstPassAnswer [] [] [] c

theorem may_answer (s : Workspace attributeEvaluator) (c : ServiceCall attributeEvaluator) :
    (workspaceWorld attributeEvaluator).may s c (s.answer c) := by
  show Workspace.may s c (s.answer c)
  cases c with
  | getDevicesFull refresh => cases refresh <;> trivial
  | startWorkflowRun pair _ _ _ => cases pair <;> trivial
  | findPolicies => rfl
  | loadComplianceState => rfl
  | _ => trivial

/-- The turn of a task, answered by the store. -/
def Workspace.play (s : Workspace attributeEvaluator) (task : WorkspaceTask attributeEvaluator) :
    WorkspaceTurn attributeEvaluator where
  task := task
  before := s
  events := (task.body.execute (workspaceWorld _) Workspace.answer s).1
  result := (task.body.execute (workspaceWorld _) Workspace.answer s).2

theorem legal_play (s : Workspace attributeEvaluator) (task : WorkspaceTask attributeEvaluator) :
    (s.play task).Legal (workspaceWorld _) WorkspaceTask.body :=
  ⟨Prog.steps_execute _ _, Prog.accepts_execute may_answer _ _⟩

end AppliverySoar.Compliance
