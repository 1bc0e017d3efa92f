import AppliverySoar.Workflows.RunViews

/-!
# What one workspace reads of another's runs

`getWorkflowRun` looks for a run in memory by its id alone, and only then in the
rows of the caller's workspace; the two reads of versions do not take a
workspace at all (workflows.service.ts, lines 141–149 and 644–657). A state is
compared with itself without the other workspace.

Results:
* `reads_independent_iff`: the exact requests whose answer is the same without
  the other workspace.
-/

namespace AppliverySoar.Workflows

open Access List

/-! ## The stores -/

/-- A row of `WorkflowVersion` with a snapshot in `D`. -/
structure VersionRow (D : Type) where
  id : String
  workflowId : String
  reason : String
  createdBy : Option String
  snapshot : D
  createdAt : ℕ

/-- The columns of `Workflow` that place it. -/
structure WorkflowRow where
  id : String
  workspaceSlug : String
  deriving DecidableEq

/-- The runs in memory, and the tables. -/
structure RunsState (D : Type) where
  active : List ActiveRun
  runs : List WorkflowRunRow
  results : List RunResultRow
  workflows : List WorkflowRow
  versions : List (VersionRow D)

variable {D : Type}

namespace RunsState

/-- The map has one run for each id, ids of rows are unique, and a run that is in
memory and in the table is in one workspace. -/
structure WellFormed (s : RunsState D) : Prop where
  active : (s.active.map (·.id)).Nodup
  runs : (s.runs.map (·.id)).Nodup
  workflows : (s.workflows.map (·.id)).Nodup
  oneWorkspace : ∀ a ∈ s.active, ∀ run ∈ s.runs, a.id = run.id → a.workspaceSlug = run.workspaceSlug

/-- The run is in the table, in workspace `slug`. -/
def RunOf (s : RunsState D) (slug runId : String) : Prop :=
  ∃ run ∈ s.runs, run.id = runId ∧ run.workspaceSlug = slug

/-- The workflow is in workspace `slug`. -/
def WorkflowOf (s : RunsState D) (slug workflowId : String) : Prop :=
  ∃ w ∈ s.workflows, w.id = workflowId ∧ w.workspaceSlug = slug

instance (s : RunsState D) (slug runId : String) : Decidable (s.RunOf slug runId) :=
  inferInstanceAs (Decidable (∃ run ∈ s.runs, run.id = runId ∧ run.workspaceSlug = slug))

instance (s : RunsState D) (slug workflowId : String) : Decidable (s.WorkflowOf slug workflowId) :=
  inferInstanceAs (Decidable (∃ w ∈ s.workflows, w.id = workflowId ∧ w.workspaceSlug = slug))

/-- The state without the runs, workflows and versions of a workspace. -/
def without (s : RunsState D) (slug : String) : RunsState D where
  active := s.active.filter fun a => a.workspaceSlug ≠ slug
  runs := s.runs.filter fun run => run.workspaceSlug ≠ slug
  results := s.results.filter fun r => ¬s.RunOf slug r.runId
  workflows := s.workflows.filter fun w => w.workspaceSlug ≠ slug
  versions := s.versions.filter fun v => ¬s.WorkflowOf slug v.workflowId

/-! ## The reads -/

def getWorkflowRun (s : RunsState D) (workspaceSlug runId : String) :
    Except HttpError PublicRunView :=
  match s.active.find? fun a => a.id = runId with
  | some active => .ok (publicRunView active)
  | none =>
    match s.runs.find? fun run => run.workspaceSlug = workspaceSlug && run.id = runId with
    | some row =>
      if row.completed then .ok (rowToPublicRun row)
      else .ok (runView row (s.results.filter fun r => r.runId = runId))
    | none => .error { status := 404, detail := "Run not found" }

def listWorkflowVersions (s : RunsState D) (workflowId : String) : List (VersionRow D) :=
  (s.versions.filter fun v => v.workflowId = workflowId).mergeSort fun v v' =>
    v'.createdAt ≤ v.createdAt

def getWorkflowVersion (s : RunsState D) (workflowId versionId : String) :
    Except HttpError (VersionRow D) :=
  match s.versions.find? fun v => v.id = versionId && v.workflowId = workflowId with
  | some version => .ok version
  | none => .error { status := 404, detail := "Version not found" }

/-! ## Where they look -/

section Lookups

variable {s : RunsState D} {slug other runId workflowId versionId : String}

/-- A run of the workspace is executed in memory. -/
def ActiveOf (s : RunsState D) (slug runId : String) : Prop :=
  ∃ a ∈ s.active, a.id = runId ∧ a.workspaceSlug = slug

/-- What a filter keeps of a lookup that only finds what it keeps. -/
theorem find?_filter_of {α : Type} {p q : α → Bool} {l : List α}
    (h : ∀ a ∈ l, q a = true → p a = true) : (l.filter p).find? q = l.find? q := by
  induction l with
  | nil => rfl
  | cons a l ih =>
    have ih := ih fun b hb => h b (mem_cons_of_mem a hb)
    cases hq : q a with
    | true =>
      rw [filter_cons_of_pos (h a mem_cons_self hq), find?_cons_of_pos hq,
        find?_cons_of_pos hq]
    | false =>
      have hneg : ¬q a = true := by rw [hq]; exact Bool.false_ne_true
      rw [find?_cons_of_neg hneg, ← ih]
      cases hp : p a with
      | true => rw [filter_cons_of_pos hp, find?_cons_of_neg hneg]
      | false => rw [filter_cons_of_neg (by rw [hp]; exact Bool.false_ne_true)]

theorem find?_active_of (hwf : s.WellFormed) {a : ActiveRun} (ha : a ∈ s.active) :
    s.active.find? (fun b => b.id = a.id) = some a := by
  cases hfind : s.active.find? fun b => b.id = a.id with
  | none => exact absurd (decide_eq_true rfl) (find?_eq_none.mp hfind a ha)
  | some b =>
    have hid : b.id = a.id := by simpa using find?_some hfind
    rw [inj_on_of_nodup_map hwf.active (mem_of_find?_eq_some hfind) ha hid]

theorem find?_active_without (h : ¬s.ActiveOf other runId) :
    (s.without other).active.find? (fun a => a.id = runId) =
      s.active.find? fun a => a.id = runId := by
  refine find?_filter_of fun a ha hid => ?_
  rw [decide_eq_true_eq] at hid ⊢
  exact fun hslug => h ⟨a, ha, hid, hslug⟩

theorem find?_active_without_eq_none (hwf : s.WellFormed) (h : s.ActiveOf other runId) :
    (s.without other).active.find? (fun a => a.id = runId) = none := by
  obtain ⟨a, ha, rfl, hslug⟩ := h
  refine find?_eq_none.mpr fun b hb hid => ?_
  obtain ⟨hb, hne⟩ := mem_filter.mp hb
  rw [decide_eq_true_eq] at hne hid
  rw [inj_on_of_nodup_map hwf.active hb ha hid] at hne
  exact hne hslug

theorem find?_run_without (h : slug ≠ other) :
    (s.without other).runs.find? (fun run => run.workspaceSlug = slug && run.id = runId) =
      s.runs.find? fun run => run.workspaceSlug = slug && run.id = runId := by
  refine find?_filter_of fun run _ hrun => ?_
  simp only [Bool.and_eq_true, decide_eq_true_eq] at hrun ⊢
  rw [hrun.1]
  exact h

/-- The results of a run of `slug` are those of no other workspace. -/
theorem results_without (hwf : s.WellFormed) (h : slug ≠ other) {row : WorkflowRunRow}
    (hrow : s.runs.find? (fun run => run.workspaceSlug = slug && run.id = runId) = some row) :
    ((s.without other).results.filter fun r => r.runId = runId) =
      s.results.filter fun r => r.runId = runId := by
  have hfound := find?_some hrow
  simp only [Bool.and_eq_true, decide_eq_true_eq] at hfound
  have hnot : ¬s.RunOf other runId := by
    rintro ⟨run, hrun, hid, hslug⟩
    have heq := inj_on_of_nodup_map hwf.runs hrun (mem_of_find?_eq_some hrow)
      (hid.trans hfound.2.symm)
    rw [heq, hfound.1] at hslug
    exact h hslug
  show ((s.results.filter _).filter _) = _
  rw [filter_filter]
  refine filter_congr fun r _ => ?_
  by_cases hr : r.runId = runId
  · rw [hr, decide_eq_true hnot, Bool.and_true]
  · rw [decide_eq_false hr, Bool.false_and]

theorem getWorkflowRun_eq_iff (hwf : s.WellFormed) (h : slug ≠ other) :
    s.getWorkflowRun slug runId = (s.without other).getWorkflowRun slug runId ↔
      ¬s.ActiveOf other runId := by
  constructor
  · rintro heq ⟨a, ha, rfl, hslug⟩
    have hother : (s.without other).active.find? (fun b => b.id = a.id) = none :=
      find?_active_without_eq_none hwf ⟨a, ha, rfl, hslug⟩
    unfold getWorkflowRun at heq
    rw [find?_active_of hwf ha, hother, find?_run_without h] at heq
    cases hrow : s.runs.find? fun run => run.workspaceSlug = slug && run.id = a.id with
    | none =>
      rw [hrow] at heq
      cases heq
    | some row =>
      have hfound := find?_some hrow
      simp only [Bool.and_eq_true, decide_eq_true_eq] at hfound
      have hsame := hwf.oneWorkspace a ha row (mem_of_find?_eq_some hrow) hfound.2.symm
      exact h (hfound.1.symm.trans (hsame.symm.trans hslug))
  · intro hactive
    unfold getWorkflowRun
    rw [find?_active_without hactive, find?_run_without h]
    cases hfind : s.active.find? fun a => a.id = runId with
    | some a => rfl
    | none =>
      cases hrow : s.runs.find? fun run => run.workspaceSlug = slug && run.id = runId with
      | none => rfl
      | some row =>
        dsimp only
        rw [results_without hwf h hrow]

/-- The versions of a workflow that are left without the other workspace. -/
theorem versions_without (s : RunsState D) (other workflowId : String) :
    ((s.without other).versions.filter fun v => v.workflowId = workflowId) =
      if s.WorkflowOf other workflowId then []
      else s.versions.filter fun v => v.workflowId = workflowId := by
  show ((s.versions.filter _).filter _) = _
  rw [filter_filter]
  split_ifs with hof
  · refine filter_eq_nil_iff.mpr fun v _ hv => ?_
    simp only [Bool.and_eq_true, decide_eq_true_eq] at hv
    exact hv.2 (hv.1 ▸ hof)
  · refine filter_congr fun v _ => ?_
    by_cases hv : v.workflowId = workflowId
    · rw [hv, decide_eq_true hof, Bool.and_true]
    · rw [decide_eq_false hv, Bool.false_and]

theorem listWorkflowVersions_eq_iff :
    s.listWorkflowVersions workflowId = (s.without other).listWorkflowVersions workflowId ↔
      ¬(s.WorkflowOf other workflowId ∧ ∃ v ∈ s.versions, v.workflowId = workflowId) := by
  unfold listWorkflowVersions
  rw [versions_without]
  split_ifs with hof
  · rw [mergeSort_nil, ← length_eq_zero_iff, length_mergeSort,
      length_eq_zero_iff, filter_eq_nil_iff]
    simp [hof]
  · simp [hof]

theorem getWorkflowVersion_eq_iff :
    s.getWorkflowVersion workflowId versionId =
        (s.without other).getWorkflowVersion workflowId versionId ↔
      ¬(s.WorkflowOf other workflowId ∧
        ∃ v ∈ s.versions, v.id = versionId ∧ v.workflowId = workflowId) := by
  unfold getWorkflowVersion
  by_cases hof : s.WorkflowOf other workflowId
  · have hnone : ((s.without other).versions.find? fun v =>
        v.id = versionId && v.workflowId = workflowId) = none := by
      refine find?_eq_none.mpr fun v hv hid => ?_
      have hkept := (mem_filter.mp hv).2
      simp only [Bool.and_eq_true, decide_eq_true_eq] at hid hkept
      exact hkept (hid.2 ▸ hof)
    rw [hnone]
    cases hfind : s.versions.find? fun v => v.id = versionId && v.workflowId = workflowId with
    | none =>
      refine iff_of_true rfl ?_
      rintro ⟨-, v, hv, hid⟩
      exact find?_eq_none.mp hfind v hv (by simpa using hid)
    | some v =>
      have hid := find?_some hfind
      refine iff_of_false nofun fun hnot => hnot ⟨hof, v, mem_of_find?_eq_some hfind, ?_⟩
      simpa using hid
  · have hsame : ((s.without other).versions.find? fun v =>
        v.id = versionId && v.workflowId = workflowId) =
          s.versions.find? fun v => v.id = versionId && v.workflowId = workflowId := by
      refine find?_filter_of fun v _ hid => ?_
      simp only [Bool.and_eq_true, decide_eq_true_eq] at hid ⊢
      exact hid.2 ▸ hof
    rw [hsame]
    exact iff_of_true rfl fun h => hof h.1

end Lookups

end RunsState

/-- What a caller of `slug` reads of a run, or of the versions of a workflow, is
the same without the workspace `other` exactly where the run is none that
`other` executes in memory, and the workflow none of `other` with such a
version. -/
theorem reads_independent_iff (s : RunsState D) (hwf : s.WellFormed) {slug other : String}
    (h : slug ≠ other) (runId workflowId versionId : String) :
    (s.getWorkflowRun slug runId = (s.without other).getWorkflowRun slug runId ↔
        ¬s.ActiveOf other runId) ∧
      (s.listWorkflowVersions workflowId = (s.without other).listWorkflowVersions workflowId ↔
        ¬(s.WorkflowOf other workflowId ∧ ∃ v ∈ s.versions, v.workflowId = workflowId)) ∧
      (s.getWorkflowVersion workflowId versionId =
          (s.without other).getWorkflowVersion workflowId versionId ↔
        ¬(s.WorkflowOf other workflowId ∧
          ∃ v ∈ s.versions, v.id = versionId ∧ v.workflowId = workflowId)) :=
  ⟨RunsState.getWorkflowRun_eq_iff hwf h, RunsState.listWorkflowVersions_eq_iff,
    RunsState.getWorkflowVersion_eq_iff⟩

/-! ## Two workspaces -/

/-- A run that workspace `b` executes. -/
def wipeRun : ActiveRun where
  id := "r2"
  workspaceSlug := "b"
  workflowId := "w2"
  workflowName := "Wipe"
  status := .running
  total := 1
  completed := 0
  results := []
  targetDescription := none

/-- Workspace `b` executes a run in memory and has a workflow with a version, and
`a` has a finished run. -/
def twoWorkspaces : RunsState String where
  active := [wipeRun]
  runs :=
    [{ id := "r1", workspaceSlug := "a", workflowId := "w1", workflowName := "Notify"
       targetDescription := none, completed := true, total := some 1, doneCount := 1 }]
  results := []
  workflows := [{ id := "w1", workspaceSlug := "a" }, { id := "w2", workspaceSlug := "b" }]
  versions :=
    [{ id := "v1", workflowId := "w2", reason := "update", createdBy := none, snapshot := "Wipe"
       createdAt := 0 }]

theorem wellFormed_twoWorkspaces : twoWorkspaces.WellFormed where
  active := by decide
  runs := by decide
  workflows := by decide
  oneWorkspace := by decide

/-- What `a` reads of its own run and workflow does not depend on `b`. -/
theorem reads_independent_twoWorkspaces :
    twoWorkspaces.getWorkflowRun "a" "r1" = (twoWorkspaces.without "b").getWorkflowRun "a" "r1" ∧
      twoWorkspaces.listWorkflowVersions "w1" =
        (twoWorkspaces.without "b").listWorkflowVersions "w1" ∧
      twoWorkspaces.getWorkflowVersion "w1" "v1" =
        (twoWorkspaces.without "b").getWorkflowVersion "w1" "v1" := by
  obtain ⟨hrun, hlist, hget⟩ := reads_independent_iff twoWorkspaces wellFormed_twoWorkspaces
    (show "a" ≠ "b" by decide) "r1" "w1" "v1"
  refine ⟨hrun.mpr ?_, hlist.mpr ?_, hget.mpr ?_⟩
  · simp [RunsState.ActiveOf, twoWorkspaces, wipeRun]
  · simp [RunsState.WorkflowOf, twoWorkspaces]
  · simp [RunsState.WorkflowOf, twoWorkspaces]

/-- A caller of `a` reads the run and the version of `b`. -/
theorem other_workspace_is_read :
    ¬∀ (s : RunsState String) (slug other runId workflowId versionId : String), s.WellFormed →
      slug ≠ other →
        s.getWorkflowRun slug runId = (s.without other).getWorkflowRun slug runId ∧
        s.listWorkflowVersions workflowId = (s.without other).listWorkflowVersions workflowId ∧
        s.getWorkflowVersion workflowId versionId =
          (s.without other).getWorkflowVersion workflowId versionId := by
  intro hall
  have hrun := (hall twoWorkspaces "a" "b" "r2" "w2" "v1" wellFormed_twoWorkspaces (by decide)).1
  have hfound : twoWorkspaces.getWorkflowRun "a" "r2" =
      .ok (publicRunView wipeRun) := rfl
  have hmissing : (twoWorkspaces.without "b").getWorkflowRun "a" "r2" =
      .error { status := 404, detail := "Run not found" } := rfl
  rw [hfound, hmissing] at hrun
  cases hrun

end AppliverySoar.Workflows
