import Mathlib.Algebra.Order.BigOperators.Group.List
import Mathlib.Algebra.Order.Ring.Nat
import Mathlib.Data.List.Nodup
import AppliverySoar.Access.Rbac

/-!
# The versions of a workflow (workflows.service.ts, lines 56–175)

Before a workflow is overwritten, by an edit or by the restoration of a version, its
definition is recorded as a new version, and all versions but the newest fifty are dropped.

Results:
* `sortNewest_eq`: versions in the order of their creation times, read from the newest on.
* `snapshot_versions`: a snapshot leaves the newest fifty, itself among them.
* `history_step`, `history_run`: the stored versions are the newest fifty changes.
* `restore_kept`: what each of them restores, and what is recorded then.
-/

namespace AppliverySoar.Versions

open Access List

/-! ## Rows -/

/-- The fields of `WORKFLOW_VERSION_FIELDS`, with the types of `steps` and `recovery`. -/
structure WorkflowDefinition (S R : Type) where
  name : String
  description : Option String
  steps : S
  targetPlatform : Option String
  targetDeploymentModel : Option String
  recovery : R
  deriving DecidableEq

/-- A `Workflow` row. -/
structure WorkflowRow (S R : Type) where
  id : String
  workspaceSlug : String
  definition : WorkflowDefinition S R
  allowUnattendedDestructive : Bool
  deriving DecidableEq

/-- A `WorkflowPayload`; the schema fills in what is left out. -/
structure WorkflowPayload (S R : Type) where
  name : String
  description : Option String
  steps : S
  targetPlatform : Option String
  targetDeploymentModel : Option String
  recovery : R
  allowUnattendedDestructive : Bool
  deriving DecidableEq

/-- A `WorkflowVersion` row; `uuid()` is the number of versions created before. -/
structure VersionRow (S R : Type) where
  id : ℕ
  workflowId : String
  reason : String
  createdBy : Option String
  snapshot : WorkflowDefinition S R
  createdAt : ℕ
  deriving DecidableEq

/-- The two tables. -/
structure WorkflowStore (S R : Type) where
  workflow : String → Option (WorkflowRow S R)
  versions : List (VersionRow S R)
  created : ℕ
  fresh : ∀ v ∈ versions, v.id < created

variable {S R : Type}

/-- `prisma.workflowVersion.create`. -/
def WorkflowStore.createVersion (st : WorkflowStore S R) (workflowId reason : String)
    (createdBy : Option String) (snapshot : WorkflowDefinition S R) (now : ℕ) :
    WorkflowStore S R where
  workflow := st.workflow
  versions := st.versions ++ [⟨st.created, workflowId, reason, createdBy, snapshot, now⟩]
  created := st.created + 1
  fresh v hv := by
    rcases List.mem_append.mp hv with hv | hv
    · exact Nat.lt_succ_of_lt (st.fresh v hv)
    · rw [List.mem_singleton.mp hv]
      exact Nat.lt_succ_self _

/-- `prisma.workflowVersion.deleteMany({ where: { id: { in: dropIds } } })`. -/
def WorkflowStore.deleteVersions (st : WorkflowStore S R) (dropIds : List ℕ) :
    WorkflowStore S R :=
  { st with
    versions := st.versions.filter fun v => v.id ∉ dropIds
    fresh := fun v hv => st.fresh v (List.mem_filter.mp hv).1 }

/-- The row of a workflow, written. -/
def WorkflowStore.setWorkflow (st : WorkflowStore S R) (row : WorkflowRow S R) :
    WorkflowStore S R :=
  { st with workflow := Function.update st.workflow row.id (some row) }

/-- `orderBy: { createdAt: "desc" }`. -/
def sortNewest (versions : List (VersionRow S R)) : List (VersionRow S R) :=
  versions.mergeSort fun a b => b.createdAt ≤ a.createdAt

def WorkflowStore.listWorkflowVersions (st : WorkflowStore S R) (workflowId : String) :
    List (VersionRow S R) :=
  sortNewest (st.versions.filter fun v => v.workflowId = workflowId)

/-! ## Functions -/

/-- `WORKFLOW_VERSION_CAP`. -/
def workflowVersionCap : ℕ := 50

/-- What a create or an update writes of a payload. -/
def WorkflowPayload.definition (payload : WorkflowPayload S R) : WorkflowDefinition S R where
  name := payload.name
  description := some (payload.description.getD "")
  steps := payload.steps
  targetPlatform := payload.targetPlatform
  targetDeploymentModel := payload.targetDeploymentModel
  recovery := payload.recovery

/-- `createWorkflow`, with the `uuid()` of the row. -/
def createWorkflow (workspaceSlug id : String) (payload : WorkflowPayload S R)
    (st : WorkflowStore S R) : WorkflowStore S R :=
  st.setWorkflow ⟨id, workspaceSlug, payload.definition, payload.allowUnattendedDestructive⟩

def snapshotWorkflowVersion (workflow : WorkflowRow S R) (reason : String) (actor : Option String)
    (now : ℕ) (st : WorkflowStore S R) : WorkflowStore S R :=
  let st := st.createVersion workflow.id reason actor workflow.definition now
  let existing := st.listWorkflowVersions workflow.id
  if existing.length > workflowVersionCap then
    st.deleteVersions ((existing.drop workflowVersionCap).map VersionRow.id)
  else st

/-- `prisma.workflow.findFirst({ where: { workspaceSlug, id } })`. -/
def WorkflowStore.findWorkflow (st : WorkflowStore S R) (workspaceSlug id : String) :
    Option (WorkflowRow S R) :=
  (st.workflow id).filter fun row => row.workspaceSlug = workspaceSlug

def updateWorkflow (workspaceSlug workflowId : String) (payload : WorkflowPayload S R)
    (actorEmail : String) (now : ℕ) (st : WorkflowStore S R) :
    Except HttpError (WorkflowRow S R) × WorkflowStore S R :=
  match st.findWorkflow workspaceSlug workflowId with
  | none => (.error ⟨404, "Workflow not found"⟩, st)
  | some existing =>
    let st := snapshotWorkflowVersion existing "update" (some actorEmail) now st
    let updated := { existing with
      definition := payload.definition
      allowUnattendedDestructive := payload.allowUnattendedDestructive }
    (.ok updated, st.setWorkflow updated)

def restoreWorkflowVersion (workspaceSlug workflowId : String) (versionId : ℕ)
    (actorEmail : String) (now : ℕ) (st : WorkflowStore S R) :
    Except HttpError (WorkflowRow S R) × WorkflowStore S R :=
  match st.findWorkflow workspaceSlug workflowId with
  | none => (.error ⟨404, "Workflow not found"⟩, st)
  | some workflow =>
    match st.versions.find? fun v => v.id = versionId ∧ v.workflowId = workflowId with
    | none => (.error ⟨404, "Version not found"⟩, st)
    | some version =>
      let st := snapshotWorkflowVersion workflow "restore" (some actorEmail) now st
      let restored := { workflow with
        definition := { version.snapshot with
          description := some (version.snapshot.description.getD "") } }
      (.ok restored, st.setWorkflow restored)

/-! ## Histories -/

/-- A call on a workflow, and when it is made. -/
inductive VersionCall (S R : Type)
  | update (payload : WorkflowPayload S R) (actorEmail : String) (now : ℕ)
  | restore (versionId : ℕ) (actorEmail : String) (now : ℕ)

def VersionCall.now : VersionCall S R → ℕ
  | .update _ _ now => now
  | .restore _ _ now => now

def VersionCall.run (workspaceSlug workflowId : String) (call : VersionCall S R)
    (st : WorkflowStore S R) : Except HttpError (WorkflowRow S R) × WorkflowStore S R :=
  match call with
  | .update payload actorEmail now => updateWorkflow workspaceSlug workflowId payload actorEmail now st
  | .restore versionId actorEmail now =>
    restoreWorkflowVersion workspaceSlug workflowId versionId actorEmail now st

/-- The store after some calls. -/
def runCalls (workspaceSlug workflowId : String) (calls : List (VersionCall S R))
    (st : WorkflowStore S R) : WorkflowStore S R :=
  calls.foldl (fun st call => (call.run workspaceSlug workflowId st).2) st

/-- The change that a call makes, if it succeeds: the version that it records, and the
definition that the workflow had before. -/
def VersionCall.change (workspaceSlug workflowId : String) (call : VersionCall S R)
    (st : WorkflowStore S R) : List (ℕ × WorkflowDefinition S R) :=
  match (call.run workspaceSlug workflowId st).1, st.workflow workflowId with
  | .ok _, some row => [(st.created, row.definition)]
  | _, _ => []

/-- The changes that some calls make, in their order. -/
def changes (workspaceSlug workflowId : String) :
    List (VersionCall S R) → WorkflowStore S R → List (ℕ × WorkflowDefinition S R)
  | [], _ => []
  | call :: calls, st => call.change workspaceSlug workflowId st ++
    changes workspaceSlug workflowId calls (call.run workspaceSlug workflowId st).2

/-- The last `n` elements. -/
def newest {α : Type} (n : ℕ) (l : List α) : List α :=
  l.drop (l.length - n)

variable {α : Type}

theorem newest_length (n : ℕ) (l : List α) : (newest n l).length ≤ n := by
  unfold newest
  rw [length_drop]
  omega

theorem newest_snoc (n : ℕ) (l : List α) (a : α) :
    newest n (newest n l ++ [a]) = newest n (l ++ [a]) := by
  unfold newest
  simp only [length_append, length_drop, length_singleton]
  rw [← drop_append_of_le_length (by omega), drop_drop]
  congr 1
  omega

theorem newest_last (n : ℕ) (l : List α) (a : α) :
    (newest (n + 1) (l ++ [a])).getLast? = some a := by
  unfold newest
  rw [length_append, length_singleton, getLast?_drop, getLast?_concat,
    if_neg (by rw [length_append, length_singleton]; omega)]

/-! ## Snapshots -/

variable {versions : List (VersionRow S R)}

/-- Versions in the order of their creation, read from the newest on. -/
theorem sortNewest_eq (h : versions.Pairwise fun a b => a.createdAt < b.createdAt) :
    sortNewest versions = versions.reverse := by
  have hinj : ∀ a ∈ versions, ∀ b ∈ versions, a.createdAt = b.createdAt → a = b :=
    inj_on_of_nodup_map (pairwise_map.mpr (h.imp Nat.ne_of_lt))
  have hmem : ∀ a, a ∈ sortNewest versions → a ∈ versions := fun a ha =>
    (mergeSort_perm versions _).mem_iff.mp ha
  have hsorted : (sortNewest versions).Pairwise fun a b => b.createdAt ≤ a.createdAt := by
    refine (pairwise_mergeSort ?_ ?_ versions).imp fun h => by simpa using h
    · intro a b c hab hbc
      simp only [decide_eq_true_eq] at hab hbc ⊢
      omega
    · intro a b
      simp only [Bool.or_eq_true, decide_eq_true_eq]
      omega
  have hreverse : versions.reverse.Pairwise fun a b => b.createdAt ≤ a.createdAt :=
    pairwise_reverse.mpr (h.imp Nat.le_of_lt)
  have hanti : ∀ a b, a ∈ sortNewest versions → b ∈ versions.reverse →
      b.createdAt ≤ a.createdAt → a.createdAt ≤ b.createdAt → a = b := fun a b ha hb hab hba =>
    hinj a (hmem a ha) b (mem_reverse.mp hb) (Nat.le_antisymm hba hab)
  exact Perm.eq_of_pairwise hanti hsorted hreverse
    ((mergeSort_perm versions _).trans (reverse_perm versions).symm)

/-- The versions of a workflow, in the order of the table. -/
def WorkflowStore.versionsOf (st : WorkflowStore S R) (workflowId : String) :
    List (VersionRow S R) :=
  st.versions.filter fun v => v.workflowId = workflowId

/-- Versions were created one after the other. -/
def Ordered (versions : List (VersionRow S R)) : Prop :=
  versions.Pairwise fun a b => a.id < b.id ∧ a.createdAt < b.createdAt

theorem Ordered.inj (h : Ordered versions)
    {a b : VersionRow S R} (ha : a ∈ versions) (hb : b ∈ versions) (hid : a.id = b.id) : a = b := by
  have hids : (versions.map VersionRow.id).Nodup :=
    pairwise_map.mpr (Pairwise.imp (fun h => Nat.ne_of_lt h.1) h)
  exact inj_on_of_nodup_map hids ha hb hid

/-- Dropping the ids behind the newest `n` keeps the newest `n`. -/
theorem filter_dropIds (h : Ordered versions) (n : ℕ) :
    (versions.filter fun v => v.id ∉ (versions.reverse.drop n).map VersionRow.id) =
      newest n versions := by
  unfold newest
  rw [drop_reverse, map_reverse]
  generalize versions.length - n = k
  have hsplit : versions = versions.take k ++ versions.drop k := (take_append_drop k _).symm
  have hapart : ∀ a ∈ versions.take k, ∀ b ∈ versions.drop k, a.id < b.id ∧ a.createdAt < b.createdAt := by
    have h' := h
    unfold Ordered at h'
    rw [hsplit, pairwise_append] at h'
    exact h'.2.2
  conv_lhs =>
    rw [show (versions.filter fun v => v.id ∉ ((versions.take k).map VersionRow.id).reverse) =
      (versions.take k ++ versions.drop k).filter
        fun v => v.id ∉ ((versions.take k).map VersionRow.id).reverse by rw [← hsplit]]
  rw [filter_append]
  have hnone : ((versions.take k).filter
      fun v => v.id ∉ ((versions.take k).map VersionRow.id).reverse) = [] := by
    refine filter_eq_nil_iff.mpr fun v hv => ?_
    have hmem := mem_map_of_mem (f := VersionRow.id) hv
    simpa only [mem_reverse, decide_eq_true_eq, not_not] using hmem
  have hall : ((versions.drop k).filter
      fun v => v.id ∉ ((versions.take k).map VersionRow.id).reverse) = versions.drop k := by
    refine filter_eq_self.mpr fun v hv => ?_
    simp only [mem_reverse, mem_map, decide_eq_true_eq, not_exists, not_and]
    intro w hw hid
    exact Nat.ne_of_lt (hapart w hw v hv).1 hid
  rw [hnone, hall, nil_append]

/-- A snapshot leaves the newest fifty versions, itself among them. -/
theorem snapshot_versions {st : WorkflowStore S R} {workflow : WorkflowRow S R} {now : ℕ}
    (reason : String) (actor : Option String) (hordered : Ordered (st.versionsOf workflow.id))
    (hpast : ∀ v ∈ st.versionsOf workflow.id, v.createdAt < now) :
    (snapshotWorkflowVersion workflow reason actor now st).versionsOf workflow.id =
      newest workflowVersionCap (st.versionsOf workflow.id ++
        [⟨st.created, workflow.id, reason, actor, workflow.definition, now⟩]) := by
  set new : VersionRow S R :=
    ⟨st.created, workflow.id, reason, actor, workflow.definition, now⟩ with hnew
  have hcreated : (st.createVersion workflow.id reason actor workflow.definition now).versionsOf
      workflow.id = st.versionsOf workflow.id ++ [new] := by
    unfold WorkflowStore.versionsOf WorkflowStore.createVersion
    rw [filter_append, filter_cons_of_pos (by simp), filter_nil]
  have hall : Ordered (st.versionsOf workflow.id ++ [new]) := by
    refine pairwise_append.mpr ⟨hordered, pairwise_singleton _ _, fun a ha b hb => ?_⟩
    rw [mem_singleton.mp hb]
    exact ⟨st.fresh a (mem_filter.mp ha).1, hpast a ha⟩
  have hlist : (st.createVersion workflow.id reason actor workflow.definition
      now).listWorkflowVersions workflow.id = (st.versionsOf workflow.id ++ [new]).reverse := by
    rw [← hcreated]
    have hordered' : Ordered ((st.createVersion workflow.id reason actor workflow.definition
        now).versionsOf workflow.id) := hcreated ▸ hall
    exact sortNewest_eq (Pairwise.imp (fun h => h.2) hordered')
  unfold snapshotWorkflowVersion
  dsimp only
  rw [hlist, length_reverse]
  by_cases hmany : (st.versionsOf workflow.id ++ [new]).length > workflowVersionCap
  · rw [if_pos hmany, ← filter_dropIds hall, ← hcreated]
    unfold WorkflowStore.versionsOf WorkflowStore.deleteVersions
    dsimp only
    rw [filter_filter, filter_filter]
    exact filter_congr fun v _ => Bool.and_comm _ _
  · rw [if_neg hmany, hcreated]
    unfold newest
    rw [show (st.versionsOf workflow.id ++ [new]).length - workflowVersionCap = 0 by omega,
      drop_zero]

/-! ## Runs -/

/-- The workflow after some changes: its stored versions are the newest fifty of them. -/
structure History (workspaceSlug workflowId : String) (st : WorkflowStore S R)
    (cs : List (ℕ × WorkflowDefinition S R)) (bound : ℕ) : Prop where
  found : ∃ row, st.findWorkflow workspaceSlug workflowId = some row ∧ row.id = workflowId ∧
    row.workspaceSlug = workspaceSlug ∧ row.definition.description ≠ none
  stored : (st.versionsOf workflowId).map (fun v => (v.id, v.snapshot)) =
    newest workflowVersionCap cs
  described : ∀ c ∈ cs, c.2.description ≠ none
  ordered : Ordered (st.versionsOf workflowId)
  past : ∀ v ∈ st.versionsOf workflowId, v.createdAt < bound

section Run

variable {workspaceSlug workflowId : String} {st : WorkflowStore S R}
  {cs : List (ℕ × WorkflowDefinition S R)} {bound now : ℕ}

variable {row : WorkflowRow S R}

@[simp] theorem versionsOf_setWorkflow (row : WorkflowRow S R) :
    (st.setWorkflow row).versionsOf workflowId = st.versionsOf workflowId :=
  rfl

theorem findWorkflow_setWorkflow (hid : row.id = workflowId)
    (hws : row.workspaceSlug = workspaceSlug) (st : WorkflowStore S R) :
    (st.setWorkflow row).findWorkflow workspaceSlug workflowId = some row := by
  unfold WorkflowStore.findWorkflow WorkflowStore.setWorkflow
  dsimp only
  rw [← hid, Function.update_self, Option.filter_some, if_pos (by simpa using hws)]

theorem workflow_of_find (h : st.findWorkflow workspaceSlug workflowId = some row) :
    st.workflow workflowId = some row := by
  unfold WorkflowStore.findWorkflow at h
  exact (Option.filter_eq_some_iff.mp h).1

theorem newest_map {α β : Type} (f : α → β) (n : ℕ) (l : List α) :
    (newest n l).map f = newest n (l.map f) := by
  unfold newest
  rw [map_drop, length_map]

/-- What a change leaves: the recorded definition is the newest version. -/
theorem History.overwritten (h : History workspaceSlug workflowId st cs bound) (hle : bound ≤ now)
    {row row' : WorkflowRow S R} (hrow : st.findWorkflow workspaceSlug workflowId = some row)
    (hid' : row'.id = workflowId) (hws' : row'.workspaceSlug = workspaceSlug)
    (hdescribed' : row'.definition.description ≠ none) (reason : String) (actor : Option String) :
    History workspaceSlug workflowId
      ((snapshotWorkflowVersion row reason actor now st).setWorkflow row')
      (cs ++ [(st.created, row.definition)]) (now + 1) := by
  obtain ⟨row₀, hrow₀, hid, -, hdescribed⟩ := h.found
  rw [hrow] at hrow₀
  obtain rfl := Option.some.inj hrow₀
  subst hid
  have hpast : ∀ v ∈ st.versionsOf row.id, v.createdAt < now := fun v hv =>
    Nat.lt_of_lt_of_le (h.past v hv) hle
  have hversions := snapshot_versions reason actor h.ordered hpast
  set new : VersionRow S R := ⟨st.created, row.id, reason, actor, row.definition, now⟩ with hnew
  have hall : Ordered (st.versionsOf row.id ++ [new]) := by
    refine pairwise_append.mpr ⟨h.ordered, pairwise_singleton _ _, fun a ha b hb => ?_⟩
    rw [mem_singleton.mp hb]
    exact ⟨st.fresh a (mem_filter.mp ha).1, hpast a ha⟩
  refine ⟨⟨row', findWorkflow_setWorkflow hid' hws' _, hid', hws', hdescribed'⟩, ?_, ?_, ?_, ?_⟩
  · rw [versionsOf_setWorkflow, hversions, newest_map, map_append, h.stored]
    exact newest_snoc workflowVersionCap cs (st.created, row.definition)
  · intro c hc
    rcases mem_append.mp hc with hc | hc
    · exact h.described c hc
    · rw [mem_singleton.mp hc]
      exact hdescribed
  · rw [versionsOf_setWorkflow, hversions]
    exact Pairwise.sublist (drop_sublist _ _) hall
  · intro v hv
    rw [versionsOf_setWorkflow, hversions] at hv
    rcases mem_append.mp (mem_of_mem_drop hv) with hv | hv
    · exact Nat.lt_succ_of_lt (hpast v hv)
    · rw [mem_singleton.mp hv]
      exact Nat.lt_succ_self _

theorem History.mono {bound' : ℕ} (h : History workspaceSlug workflowId st cs bound)
    (hle : bound ≤ bound') : History workspaceSlug workflowId st cs bound' :=
  { h with past := fun v hv => Nat.lt_of_lt_of_le (h.past v hv) hle }

/-- A call is refused, or records the row that it finds and writes another one. -/
theorem run_cases (call : VersionCall S R)
    (hrow : st.findWorkflow workspaceSlug workflowId = some row) :
    (∃ e, call.run workspaceSlug workflowId st = (.error e, st)) ∨
    ∃ row' reason actor, call.run workspaceSlug workflowId st =
      (.ok row', (snapshotWorkflowVersion row reason actor call.now st).setWorkflow row') ∧
      row'.id = row.id ∧ row'.workspaceSlug = row.workspaceSlug ∧
      row'.definition.description ≠ none := by
  cases call with
  | update payload actorEmail now =>
    simp only [VersionCall.run, updateWorkflow, hrow, VersionCall.now]
    exact Or.inr ⟨_, "update", some actorEmail, rfl, rfl, rfl, Option.some_ne_none _⟩
  | restore versionId actorEmail now =>
    simp only [VersionCall.run, restoreWorkflowVersion, hrow]
    cases st.versions.find? fun v => v.id = versionId ∧ v.workflowId = workflowId with
    | none => exact Or.inl ⟨_, rfl⟩
    | some version =>
      exact Or.inr ⟨_, "restore", some actorEmail, rfl, rfl, rfl, Option.some_ne_none _⟩

theorem history_step (h : History workspaceSlug workflowId st cs bound) (call : VersionCall S R)
    (hle : bound ≤ call.now) :
    History workspaceSlug workflowId (call.run workspaceSlug workflowId st).2
      (cs ++ call.change workspaceSlug workflowId st) (call.now + 1) := by
  obtain ⟨row, hrow, hid, hws, -⟩ := h.found
  rcases run_cases call hrow with ⟨e, hrun⟩ | ⟨row', reason, actor, hrun, hid', hws', hdescribed'⟩
  · have hchange : call.change workspaceSlug workflowId st = [] := by
      unfold VersionCall.change
      rw [hrun]
    rw [hrun, hchange, append_nil]
    exact h.mono (Nat.le_succ_of_le hle)
  · have hchange : call.change workspaceSlug workflowId st = [(st.created, row.definition)] := by
      unfold VersionCall.change
      rw [hrun, workflow_of_find hrow]
    rw [hrun, hchange]
    exact h.overwritten hle hrow (hid'.trans hid) (hws'.trans hws) hdescribed' reason actor

/-- The stored versions are the newest fifty changes, whatever calls are made. -/
theorem history_run (calls : List (VersionCall S R))
    (h : History workspaceSlug workflowId st cs bound)
    (hnow : (calls.map VersionCall.now).Pairwise (· < ·))
    (hbound : ∀ call ∈ calls, bound ≤ call.now) (hle : bound ≤ now)
    (hlast : ∀ call ∈ calls, call.now < now) :
    History workspaceSlug workflowId (runCalls workspaceSlug workflowId calls st)
      (cs ++ changes workspaceSlug workflowId calls st) now := by
  induction calls generalizing st cs bound with
  | nil =>
    rw [changes, append_nil]
    exact h.mono hle
  | cons call calls ih =>
    obtain ⟨hcall, hcalls⟩ := pairwise_cons.mp hnow
    have hstep := history_step h call (hbound call mem_cons_self)
    have hrest := ih hstep hcalls
      (fun c hc => hcall c.now (mem_map_of_mem hc))
      (hlast call mem_cons_self) (fun c hc => hlast c (mem_cons_of_mem call hc))
    rw [changes, ← append_assoc]
    exact hrest

theorem history_create (payload : WorkflowPayload S R) {st₀ : WorkflowStore S R}
    (hnew : ∀ v ∈ st₀.versions, v.workflowId ≠ workflowId) :
    History workspaceSlug workflowId (createWorkflow workspaceSlug workflowId payload st₀) [] 0 := by
  have hnone : (createWorkflow workspaceSlug workflowId payload st₀).versionsOf workflowId = [] := by
    refine filter_eq_nil_iff.mpr fun v hv => ?_
    simpa using hnew v hv
  refine ⟨⟨_, findWorkflow_setWorkflow rfl rfl st₀, rfl, rfl, Option.some_ne_none _⟩, ?_, ?_, ?_, ?_⟩
  · rw [hnone]
    rfl
  · exact forall_mem_nil _
  · rw [hnone]
    exact Pairwise.nil
  · rw [hnone]
    exact forall_mem_nil _

variable {c : ℕ × WorkflowDefinition S R}

section

variable (h : History workspaceSlug workflowId st cs bound)
include h

theorem History.find
    (hc : c ∈ newest workflowVersionCap cs) :
    ∃ v, (st.versions.find? fun v => v.id = c.1 ∧ v.workflowId = workflowId) = some v ∧
      v.snapshot = c.2 := by
  rw [← h.stored] at hc
  obtain ⟨v, hv, rfl⟩ := mem_map.mp hc
  obtain ⟨hmem, hof⟩ := mem_filter.mp hv
  cases hfind : st.versions.find? fun w => w.id = v.id ∧ w.workflowId = workflowId with
  | none =>
    refine absurd (find?_eq_none.mp hfind v hmem) ?_
    simpa using hof
  | some w =>
    have hw := find?_some hfind
    simp only [decide_eq_true_eq] at hw
    have hw' : w ∈ st.versionsOf workflowId :=
      mem_filter.mpr ⟨mem_of_find?_eq_some hfind, by simpa using hw.2⟩
    rw [h.ordered.inj hw' hv hw.1]
    exact ⟨v, rfl, rfl⟩

theorem History.restores (hle : bound ≤ now)
    (hc : c ∈ newest workflowVersionCap cs)
    (actorEmail : String) :
    ∃ row restored st', st.findWorkflow workspaceSlug workflowId = some row ∧
      restoreWorkflowVersion workspaceSlug workflowId c.1 actorEmail now st = (.ok restored, st') ∧
      st' = (snapshotWorkflowVersion row "restore" (some actorEmail) now st).setWorkflow
        restored ∧
      restored.definition = c.2 ∧ st'.workflow workflowId = some restored ∧
      History workspaceSlug workflowId st' (cs ++ [(st.created, row.definition)]) (now + 1) := by
  obtain ⟨row, hrow, hid, hws, -⟩ := h.found
  obtain ⟨v, hfind, hv⟩ := h.find hc
  have hdescribed := h.described c (mem_of_mem_drop hc)
  obtain ⟨description, hdescription⟩ := Option.ne_none_iff_exists'.mp hdescribed
  let restored : WorkflowRow S R := { row with definition := c.2 }
  have hid' : restored.id = workflowId := hid
  have hws' : restored.workspaceSlug = workspaceSlug := hws
  refine ⟨row, restored, _, hrow, ?_, rfl, rfl,
    workflow_of_find (findWorkflow_setWorkflow hid' hws' _),
    h.overwritten hle hrow hid' hws' hdescribed "restore" (some actorEmail)⟩
  unfold restoreWorkflowVersion
  simp only [hrow, hfind, hv, hdescription, Option.getD_some]
  rw [← hdescription]

theorem History.list :
    st.listWorkflowVersions workflowId = (st.versionsOf workflowId).reverse :=
  sortNewest_eq (Pairwise.imp (fun h => h.2) h.ordered)

end

end Run

/-- After any calls on a created workflow, the fifty newest changes and no others are stored,
from the newest on, and each is undone by restoring its version; what the restoration
replaces is the newest version then, and is restored in its turn. -/
theorem restore_kept (workspaceSlug workflowId : String) (payload : WorkflowPayload S R)
    (st₀ : WorkflowStore S R) (hnew : ∀ v ∈ st₀.versions, v.workflowId ≠ workflowId)
    (calls : List (VersionCall S R)) (hnow : (calls.map VersionCall.now).Pairwise (· < ·)) :
    let created := createWorkflow workspaceSlug workflowId payload st₀
    let st := runCalls workspaceSlug workflowId calls created
    let kept := newest 50 (changes workspaceSlug workflowId calls created)
    (st.listWorkflowVersions workflowId).map (fun v => (v.id, v.snapshot)) = kept.reverse ∧
    kept.length ≤ 50 ∧
    ∀ c ∈ kept, ∀ actorEmail now, (∀ call ∈ calls, call.now < now) →
      ∃ row restored undo st', st.workflow workflowId = some row ∧
        restoreWorkflowVersion workspaceSlug workflowId c.1 actorEmail now st =
          (.ok restored, st') ∧
        st'.workflow workflowId = some restored ∧ restored.definition = c.2 ∧
        (st'.listWorkflowVersions workflowId).head? = some undo ∧
        undo.reason = "restore" ∧ undo.snapshot = row.definition ∧
        ∀ actorEmail' now', now < now' → ∃ undone st'',
          restoreWorkflowVersion workspaceSlug workflowId undo.id actorEmail' now' st' =
            (.ok undone, st'') ∧
          st''.workflow workflowId = some undone ∧ undone.definition = row.definition := by
  intro created st kept
  have hrun : ∀ now, (∀ call ∈ calls, call.now < now) →
      History workspaceSlug workflowId st (changes workspaceSlug workflowId calls created) now :=
    fun now hlast => history_run calls (history_create payload hnew) hnow
      (fun _ _ => Nat.zero_le _) (Nat.zero_le _) hlast
  have hend : ∀ call ∈ calls, call.now < (calls.map VersionCall.now).sum + 1 := fun call hcall =>
    Nat.lt_succ_of_le (single_le_sum (fun _ _ => Nat.zero_le _) _ (mem_map_of_mem hcall))
  refine ⟨?_, newest_length 50 _, fun c hc actorEmail now hlast => ?_⟩
  · have h := hrun _ hend
    rw [h.list, map_reverse, h.stored]
    rfl
  · have h := hrun now hlast
    obtain ⟨row, restored, st', hrow, hrestore, rfl, hdef, hset, h'⟩ :=
      h.restores (Nat.le_refl now) hc actorEmail
    have hid : row.id = workflowId := by
      obtain ⟨found, hfound, hid, -⟩ := h.found
      rwa [Option.some.inj (hrow.symm.trans hfound)]
    subst hid
    have hversions := snapshot_versions "restore" (some actorEmail) h.ordered h.past
    have hundo : ((st.created, row.definition) : ℕ × WorkflowDefinition S R) ∈
        newest workflowVersionCap (changes workspaceSlug row.id calls created ++
          [(st.created, row.definition)]) :=
      mem_of_mem_getLast? (newest_last 49 _ _)
    refine ⟨row, restored, ⟨st.created, row.id, "restore", some actorEmail, row.definition, now⟩,
      _, workflow_of_find hrow, hrestore, hset, hdef, ?_, rfl, rfl, fun actorEmail' now' hnow' => ?_⟩
    · rw [h'.list, versionsOf_setWorkflow, hversions, head?_reverse]
      exact newest_last 49 _ _
    · obtain ⟨-, undone, st'', -, hundone, -, hdef', hset', -⟩ :=
        h'.restores hnow' hundo actorEmail'
      exact ⟨undone, st'', hundone, hset', hdef'⟩

/-- A workflow is edited twice, and the version before the first edit is restored. -/
def editedTwice : List (VersionCall ℕ Unit) :=
  [.update ⟨"Isolate v2", none, 2, none, none, (), false⟩ "ana@acme.com" 10,
   .restore 0 "ben@acme.com" 20]

theorem restore_kept_isolate :
    let created := createWorkflow "acme" "w1" ⟨"Isolate", none, 1, some "apple", none, (), false⟩
      (⟨fun _ => none, [], 0, fun _ hv => absurd hv not_mem_nil⟩ : WorkflowStore ℕ Unit)
    (newest 50 (changes "acme" "w1" editedTwice created)).map (fun c => (c.1, c.2.steps)) =
      [(0, 1), (1, 2)] ∧
    ((runCalls "acme" "w1" editedTwice created).listWorkflowVersions "w1").map
      (fun v => (v.id, v.snapshot)) =
        (newest 50 (changes "acme" "w1" editedTwice created)).reverse := by
  intro created
  exact ⟨by decide +kernel, (restore_kept "acme" "w1" ⟨"Isolate", none, 1, some "apple", none, (), false⟩
    ⟨fun _ => none, [], 0, fun _ hv => absurd hv not_mem_nil⟩
    (fun _ hv => absurd hv not_mem_nil) editedTwice (by decide)).1⟩

end AppliverySoar.Versions
