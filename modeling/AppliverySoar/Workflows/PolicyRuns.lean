import AppliverySoar.Workflows.PolicyRestore

/-!
# Replace, add and restore steps on one device

The steps are run one after the other. Each awaited call is answered by the API
or by the table of snapshots: a pull shows a stack that the device has had since
the beginning, and a request that is not answered may have been carried out.
Nobody else edits the device.

Results:
* `baseline_of_sequence`: a snapshot that has been taken lists the stack of the
  beginning.
* `restored_iff`: a successful restore gives back the stack of the beginning
  exactly where that stack is restorable.
-/

namespace AppliverySoar.Workflows

open Async Prog Compliance Devices
open Js (Value Runtime)

variable {rt : Runtime} {api : DeviceApi rt}

/-! ## A device and its snapshot -/

/-- The stack of the device, the stacks it has had, its row among the snapshots,
and how many requests have changed it or have not been answered. -/
structure PolicyDevice where
  stack : PolicyStack
  past : List PolicyStack
  snapshot : Option PolicyQuarantineEntry
  puts : ℕ

/-- The device before the first step. -/
def PolicyDevice.start (st : PolicyStack) : PolicyDevice :=
  ⟨st, [st], none, 0⟩

/-- A request is carried out. -/
def PolicyDevice.store (d : PolicyDevice) (body : PolicyBody) : PolicyDevice :=
  { d with stack := body.stack, past := d.past ++ [body.stack], puts := d.puts + 1 }

/-- The calls on the device. `reaches` tells which of the requests without an
answer have been carried out. -/
def policyWorld (api : DeviceApi rt) (reaches : ℕ → Bool) :
    World policySig JsError PolicyDevice where
  may d c r := match (⟨c, r⟩ : PolicyEvent) with
    | ⟨.getFullDevice _ _ _, .ok found⟩ => ∀ deviceFull, found = some deviceFull →
      ∃ st ∈ d.past, deviceFull.activePolicies = extractActivePolicies rt (api.record st)
    | ⟨.getFullDevice _ _ _, .error _⟩ => False
    | ⟨.findQuarantineEntry _ _, .ok found⟩ => found = d.snapshot
    | ⟨.createQuarantineEntry _ _ _, .ok _⟩ => d.snapshot = none
    | _ => True
  next d c r := match (⟨c, r⟩ : PolicyEvent) with
    | ⟨.createQuarantineEntry _ _ entry, .ok _⟩ => { d with snapshot := some entry }
    | ⟨.deleteQuarantineEntry _ _, .ok _⟩ => { d with snapshot := none }
    | ⟨.putDevice _ _ body, .ok res⟩ => if res.status ≥ 300 then d else d.store body
    | ⟨.putDevice _ _ body, .error _⟩ =>
      if reaches d.puts then d.store body else { d with puts := d.puts + 1 }
    | _ => d

/-- A replace or add step. -/
inductive PolicyTask
  | replace (authorization : String) (config : PolicyConfig) (workflowId : Option String)
  | add (authorization : String) (config : PolicyConfig) (workflowId : Option String)

def PolicyTask.body (rt : Runtime) (workspaceSlug : String) (device : DeviceRef) :
    PolicyTask → Policies Unit
  | .replace authorization config workflowId => do
    let _ ← executePolicyReplaceStep authorization workspaceSlug device config workflowId
  | .add authorization config workflowId => do
    let _ ← executePolicyAddStep rt authorization workspaceSlug device config workflowId

/-- Steps on a device that had this stack before the first of them. -/
def PolicySequence (api : DeviceApi rt) (reaches : ℕ → Bool) (workspaceSlug : String)
    (device : DeviceRef) (st : PolicyStack) :
    List (Turn policySig JsError PolicyDevice PolicyTask) → PolicyDevice → Prop :=
  Sequence (policyWorld api reaches) (PolicyTask.body rt workspaceSlug device)
    (fun _ _ => False) (PolicyDevice.start st)

variable {reaches : ℕ → Bool} {st : PolicyStack} {workspaceSlug : String} {device : DeviceRef}

/-! ## The snapshot -/

/-- The snapshot lists this stack. -/
def Saved (api : DeviceApi rt) (st : PolicyStack) (d : PolicyDevice) : Prop :=
  ∃ entry, d.snapshot = some entry ∧
    entry.policies = extractActivePolicies rt (api.record st)

/-- The device has not been changed, or the snapshot lists what it had. -/
def Baseline (api : DeviceApi rt) (st : PolicyStack) (d : PolicyDevice) : Prop :=
  (d.snapshot = none ∧ d.past = [st]) ∨ Saved api st d

/-- Calls that leave a snapshot where it is. -/
def PolicyCall.keepsSnapshot : PolicyCall → Prop
  | .createQuarantineEntry _ _ _ | .deleteQuarantineEntry _ _ => False
  | _ => True

variable {d : PolicyDevice}

theorem snapshot_next {c : PolicyCall} (hc : c.keepsSnapshot)
    (r : Except JsError (policySig.Ret c)) :
    ((policyWorld api reaches).next d c r).snapshot = d.snapshot := by
  cases c with
  | createQuarantineEntry _ _ _ | deleteQuarantineEntry _ _ => exact hc.elim
  | getFullDevice _ _ _ | findQuarantineEntry _ _ | resolveOrgBase _ _ => cases r <;> rfl
  | putDevice _ _ body =>
    cases r with
    | ok res =>
      show (if _ then _ else _ : PolicyDevice).snapshot = _
      split_ifs <;> rfl
    | error e =>
      show (if _ then _ else _ : PolicyDevice).snapshot = _
      split_ifs <;> rfl

/-- A program that makes such calls only keeps what has been saved. -/
theorem meets_saved {α : Type} {p : Policies α} (hp : p.Calls PolicyCall.keepsSnapshot)
    (hd : Saved api st d) :
    p.Meets (policyWorld api reaches) (fun _ _ => True) d fun _ d' => Saved api st d' := by
  have hframe := Ensures.meets_frame (W := policyWorld api reaches) PolicyDevice.snapshot
    (fun _ _ r hc _ => snapshot_next hc r) hp d
  refine (hframe.weaken fun _ _ _ => trivial).mono fun r d' hr => ?_
  have hsnapshot : d'.snapshot = d.snapshot := by
    cases r with
    | ok a => exact hr.1
    | error e => exact hr
  obtain ⟨entry, hentry, hpolicies⟩ := hd
  exact ⟨entry, hsnapshot.trans hentry, hpolicies⟩

theorem calls_applyDevicePolicies (auth platform deviceId : String)
    (policies : List PolicyEntry) :
    (applyDevicePolicies auth workspaceSlug platform deviceId policies).Calls
      PolicyCall.keepsSnapshot := by
  unfold applyDevicePolicies
  split
  · refine Calls.ite (fun _ => ?_) fun _ => calls_ret _
    refine Calls.bind (calls_call trivial) fun orgBase => ?_
    exact Calls.bind (calls_call trivial) fun res => calls_ret _
  · exact calls_ret _

theorem calls_applyStack (auth : String) (stack : List PolicyEntry) (success : String) :
    (applyStack auth workspaceSlug device stack success).Calls
      PolicyCall.keepsSnapshot :=
  Calls.bind (calls_applyDevicePolicies _ _ _ _) fun _ => calls_ret _

theorem meets_snapshotPoliciesIfNeeded (hd : Baseline api st d)
    {deviceFull : FullDevice} (hfull : ∃ st ∈ d.past,
      deviceFull.activePolicies = extractActivePolicies rt (api.record st))
    (deviceId : String) (workflowId : Option String) :
    (snapshotPoliciesIfNeeded workspaceSlug deviceId deviceFull workflowId).Meets
      (policyWorld api reaches) (fun _ _ => True) d
      (post (fun _ d' => Saved api st d') fun _ d' => Baseline api st d') := by
  refine Meets.bind (R := fun existing d' => d.snapshot = existing ∧ d = d')
    ⟨trivial, fun r hr => ?_⟩ ?_
  · cases r with
    | ok existing => exact ⟨hr.symm, rfl⟩
    | error e => exact hd
  · rintro existing _ ⟨hexisting, rfl⟩
    cases existing with
    | some entry =>
      rcases hd with ⟨hnone, -⟩ | hsaved
      · exact absurd (hexisting.symm.trans hnone) nofun
      · exact hsaved
    | none =>
      refine ⟨trivial, fun r _ => ?_⟩
      cases r with
      | error e => exact hd
      | ok u =>
        rcases hd with ⟨-, hpast⟩ | ⟨entry, hentry, -⟩
        · obtain ⟨st', hst', hpolicies⟩ := hfull
          rw [hpast] at hst'
          obtain rfl := List.mem_singleton.mp hst'
          exact ⟨_, rfl, hpolicies⟩
        · exact absurd (hexisting.symm.trans hentry) nofun

theorem meets_readAndSnapshot (hd : Baseline api st d)
    (auth : String) (workflowId : Option String) :
    (readAndSnapshot auth workspaceSlug device workflowId).Meets
      (policyWorld api reaches) (fun _ _ => True) d
      (post (fun found d' => Baseline api st d' ∧ (found.isSome → Saved api st d'))
        fun _ d' => Baseline api st d') := by
  refine Meets.bind (R := fun found d' => d = d' ∧ ∀ deviceFull, found = some deviceFull →
      ∃ st ∈ d.past, deviceFull.activePolicies = extractActivePolicies rt (api.record st))
    ⟨trivial, fun r hr => ?_⟩ ?_
  · cases r with
    | ok found => exact ⟨rfl, hr⟩
    | error e => exact hr.elim
  · rintro found _ ⟨rfl, hfound⟩
    cases found with
    | none => exact ⟨hd, nofun⟩
    | some deviceFull =>
      refine Meets.bind (R := fun _ d' => Saved api st d') ?_ fun _ d' hsaved =>
        ⟨.inr hsaved, fun _ => hsaved⟩
      exact meets_snapshotPoliciesIfNeeded hd (hfound deviceFull rfl) _ _

/-! ## Steps -/

/-- A step that has read the device sends a stack and does not touch the
snapshot. -/
theorem meets_step (hd : Baseline api st d) (auth : String)
    (workflowId : Option String) {f : Option FullDevice → Policies StepResult}
    (hnone : ∃ r, f none = .ret r)
    (hsome : ∀ deviceFull, (f (some deviceFull)).Calls PolicyCall.keepsSnapshot) :
    (readAndSnapshot auth workspaceSlug device workflowId >>= f).Meets
      (policyWorld api reaches) (fun _ _ => True) d fun _ d' => Baseline api st d' := by
  refine Meets.bind (meets_readAndSnapshot hd auth workflowId) ?_
  rintro found d' ⟨hbase, hsaved⟩
  cases found with
  | none =>
    obtain ⟨r, hr⟩ := hnone
    rw [hr]
    exact hbase
  | some deviceFull =>
    exact (meets_saved (hsome deviceFull) (hsaved rfl)).mono fun _ _ h => .inr h

theorem meets_executePolicyReplaceStep (hd : Baseline api st d)
    (auth : String) (config : PolicyConfig) (workflowId : Option String) :
    (executePolicyReplaceStep auth workspaceSlug device config workflowId).Meets
      (policyWorld api reaches) (fun _ _ => True) d fun _ d' => Baseline api st d' := by
  unfold executePolicyReplaceStep
  split
  · exact hd
  · exact meets_step hd auth workflowId ⟨_, rfl⟩ fun _ => calls_applyStack _ _ _

theorem meets_executePolicyAddStep (hd : Baseline api st d)
    (auth : String) (config : PolicyConfig) (workflowId : Option String) :
    (executePolicyAddStep rt auth workspaceSlug device config workflowId).Meets
      (policyWorld api reaches) (fun _ _ => True) d fun _ d' => Baseline api st d' := by
  unfold executePolicyAddStep
  split
  · exact hd
  · exact meets_step hd auth workflowId ⟨_, rfl⟩ fun _ => calls_applyStack _ _ _

theorem meets_policyTask (hd : Baseline api st d) (task : PolicyTask) :
    (task.body rt workspaceSlug device).Meets (policyWorld api reaches) (fun _ _ => True) d
      fun _ d' => Baseline api st d' := by
  cases task with
  | replace authorization config workflowId =>
    refine Meets.bind (R := fun _ d' => Baseline api st d') ?_ fun _ _ h => h
    exact (meets_executePolicyReplaceStep hd authorization config workflowId).mono
      fun r _ h => by cases r <;> exact h
  | add authorization config workflowId =>
    refine Meets.bind (R := fun _ d' => Baseline api st d') ?_ fun _ _ h => h
    exact (meets_executePolicyAddStep hd authorization config workflowId).mono
      fun r _ h => by cases r <;> exact h

theorem baseline_of_sequence {ts : List (Turn policySig JsError PolicyDevice PolicyTask)}
    (h : PolicySequence api reaches workspaceSlug device st ts d) : Baseline api st d := by
  refine (h.invariant (.inl ⟨rfl, rfl⟩) (fun t _ hlegal hbefore => ?_) fun _ _ hout => hout.elim).1
  exact (meets_policyTask hbefore t.task).post_of_steps hlegal.steps hlegal.accepted

/-! ## The restore -/

theorem meets_applyDevicePolicies (d : PolicyDevice) (auth platform deviceId : String)
    (policies : List PolicyEntry) :
    (applyDevicePolicies auth workspaceSlug platform deviceId policies).Meets
      (policyWorld api reaches) (fun _ _ => True) d
      (post (fun res d' => res.ok = true →
          ∃ platformPath, d'.stack = (policyBody platformPath policies).stack)
        fun _ _ => True) := by
  unfold applyDevicePolicies
  split
  next platformPath _ =>
    split_ifs
    · refine Meets.bind (R := fun _ _ => True) ⟨trivial, fun r _ => by cases r <;> trivial⟩ ?_
      intro orgBase d' _
      refine ⟨trivial, fun r _ => ?_⟩
      cases r with
      | error e => trivial
      | ok res =>
        by_cases hstatus : res.status ≥ 300
        · show StepResult.ok (if _ then _ else _) = true → _
          rw [if_pos hstatus]
          exact nofun
        · intro _
          refine ⟨platformPath, ?_⟩
          show PolicyDevice.stack (if _ then _ else _) = _
          rw [if_neg hstatus]
          rfl
    · exact nofun
  next => exact nofun

theorem meets_executePolicyRestoreStep (hd : Baseline api st d)
    (auth : String) :
    (executePolicyRestoreStep auth workspaceSlug device).Meets
      (policyWorld api reaches) (fun _ _ => True) d fun r d' =>
        ∀ detail, r = .ok ⟨true, detail⟩ → ∃ platformPath,
          d'.stack = restoredStack platformPath (extractActivePolicies rt (api.record st)) := by
  refine Meets.bind (R := fun found d' => found = d.snapshot ∧ d = d')
    ⟨trivial, fun r hr => ?_⟩ ?_
  · cases r with
    | ok found => exact ⟨hr, rfl⟩
    | error e => exact fun _ he => nomatch he
  · rintro found _ ⟨hfound, rfl⟩
    cases found with
    | none => exact fun _ hok => nomatch hok
    | some snapshot =>
      rcases hd with ⟨hnone, -⟩ | ⟨entry, hentry, hpolicies⟩
      · exact absurd (hfound.trans hnone) nofun
      · obtain rfl := Option.some.inj (hfound.trans hentry)
        refine Meets.bind (R := fun res d' => res.ok = true → ∃ platformPath, d'.stack =
            restoredStack platformPath (extractActivePolicies rt (api.record st)))
          ((meets_applyDevicePolicies d auth _ _ _).mono fun r _ h => ?_) ?_
        · cases r with
          | ok res => exact hpolicies ▸ h
          | error e => exact fun _ he => nomatch he
        · intro res d' hres
          split_ifs with hok
          · rintro detail hdetail
            obtain rfl := Except.ok.inj hdetail
            simp at hok
          · refine ⟨trivial, fun r _ => ?_⟩
            cases r with
            | ok u => exact fun _ _ => hres (by simpa using hok)
            | error e => exact fun _ he => nomatch he

/-- **Restore after quarantine.** -/
theorem restored_iff {ts : List (Turn policySig JsError PolicyDevice PolicyTask)}
    {d : PolicyDevice} (h : PolicySequence api reaches workspaceSlug device st ts d)
    {authorization detail : String} {es : List PolicyEvent}
    (hsteps : Prog.Steps (executePolicyRestoreStep authorization workspaceSlug device) es
      (.ret (.ok ⟨true, detail⟩)))
    (haccepted : (policyWorld api reaches).Accepts d es) :
    ((policyWorld api reaches).after d es).stack.SameAs st ↔ api.Restorable st := by
  obtain ⟨platformPath, hstack⟩ := (meets_executePolicyRestoreStep (baseline_of_sequence h)
    authorization).post_of_steps hsteps haccepted detail rfl
  rw [hstack]
  exact sameAs_restored_iff

/-! ## Examples -/

/-- A runtime whose objects inherit nothing. -/
def bareRuntime : Runtime where
  now := 0
  parseDate _ := none
  parseNumber _ := none
  printNumber n := toString n.num
  toLowerCase := id
  inherited _ := .undefined
  setMember _ _ := .undefined

/-- The policies of an organization, by their ids. -/
def policyName (id : String) : String :=
  if id = "" then "" else "Policy " ++ id

/-- The record of an Apple device. -/
def appleRecord (st : PolicyStack) : Value :=
  let policy (id : String) : Value := .obj [("id", .str id), ("name", .str (policyName id))]
  .obj [("admPolicy", match st.primary with
      | some id => policy id
      | none => .null),
    ("admPolicyAssignments", .arr (st.assignments.map fun a =>
      .obj [("admPolicy", policy a.1), ("priority", match a.2 with
        | some n => .num n
        | none => .null)]))]

def appleApi : DeviceApi bareRuntime where
  platform := "apple"
  name id := nameOf bareRuntime (.str (policyName id))
  record := appleRecord
  copies _ := 0
  shows_primary st := by
    cases hst : st.primary <;> simp only [appleRecord, hst] <;> rfl
  shows_assignments st := by
    have hassignments : shownAssignments bareRuntime (appleRecord st) =
        (st.assignments.map fun a => Value.obj
          [("admPolicy", .obj [("id", .str a.1), ("name", .str (policyName a.1))]), ("priority",
            match a.2 with
            | some n => .num n
            | none => .null)]).flatMap (shownAssignment bareRuntime "apple") ++ [] := rfl
    rw [hassignments, List.append_nil, List.flatMap_map, List.map_eq_flatMap]
    congr 1
    funext a
    obtain ⟨id, priority⟩ := a
    cases priority <;> rfl

/-- Everything succeeds. -/
def obliging (d : PolicyDevice) : (c : PolicyCall) → Except JsError (policySig.Ret c)
  | .getFullDevice _ _ _ => .ok (d.past.getLast?.map fun st =>
    ⟨"apple", extractActivePolicies bareRuntime (appleRecord st)⟩)
  | .findQuarantineEntry _ _ => .ok d.snapshot
  | .createQuarantineEntry _ _ _ =>
    if d.snapshot.isNone then .ok () else .error ⟨"Unique constraint failed"⟩
  | .deleteQuarantineEntry _ _ => .ok ()
  | .resolveOrgBase _ _ => .ok "https://api.applivery.io/v1/organizations/acme"
  | .putDevice _ _ _ => .ok ⟨200, ""⟩

def appleWorld : World policySig JsError PolicyDevice :=
  policyWorld appleApi fun _ => false

theorem obliging_may (d : PolicyDevice) (c : PolicyCall) : appleWorld.may d c (obliging d c) := by
  cases c with
  | getFullDevice _ _ _ =>
    intro deviceFull hfound
    obtain ⟨st, hst, rfl⟩ := Option.map_eq_some_iff.mp hfound
    exact ⟨st, List.mem_of_getLast? hst, rfl⟩
  | createQuarantineEntry slug id entry =>
    cases hsnapshot : d.snapshot with
    | none =>
      have hok : obliging d (.createQuarantineEntry slug id entry) = .ok () := by
        simp only [obliging, hsnapshot, Option.isNone_none, if_true]
      rw [hok]
      exact hsnapshot
    | some _ =>
      have herror : obliging d (.createQuarantineEntry slug id entry) =
          .error ⟨"Unique constraint failed"⟩ := by
        simp [obliging, hsnapshot]
      rw [herror]
      trivial
  | findQuarantineEntry _ _ => rfl
  | deleteQuarantineEntry _ _ | resolveOrgBase _ _ | putDevice _ _ _ => trivial

def tablet : DeviceRef where
  id := "d1"
  platform := "apple"
  platformDeviceId := "adm-1"

/-- A quarantine of the tablet. -/
def quarantine (st : PolicyStack) : Turn policySig JsError PolicyDevice PolicyTask :=
  let task := PolicyTask.replace "Bearer a" { policyId := some "q" } none
  let run := (task.body bareRuntime "acme" tablet).execute appleWorld obliging (.start st)
  ⟨task, .start st, run.1, run.2⟩

theorem sequence_quarantine (st : PolicyStack) :
    PolicySequence appleApi (fun _ => false) "acme" tablet st [quarantine st]
      ((quarantine st).after appleWorld) := by
  have hlegal : (quarantine st).Legal appleWorld (PolicyTask.body bareRuntime "acme" tablet) :=
    ⟨steps_execute _ _, accepts_execute obliging_may _ _⟩
  have hstart : PolicySequence appleApi (fun _ => false) "acme" tablet st []
      (quarantine st).before := .start
  exact hstart.turn hlegal

/-- The restore after it. -/
def restoreRun (st : PolicyStack) : List PolicyEvent × Except JsError StepResult :=
  (executePolicyRestoreStep "Bearer a" "acme" tablet).execute appleWorld obliging
    ((quarantine st).after appleWorld)

theorem restoreRun_steps {st : PolicyStack} {detail : String}
    (h : (restoreRun st).2 = .ok ⟨true, detail⟩) :
    Prog.Steps (executePolicyRestoreStep "Bearer a" "acme" tablet) (restoreRun st).1
      (.ret (.ok ⟨true, detail⟩)) :=
  h ▸ steps_execute _ _

theorem restoreRun_accepted (st : PolicyStack) :
    appleWorld.Accepts ((quarantine st).after appleWorld) (restoreRun st).1 :=
  accepts_execute obliging_may _ _

/-- A primary policy and a numbered assignment. -/
def numberedStack : PolicyStack :=
  ⟨some "p1", [("p2", some 10)]⟩

theorem restored_numberedStack :
    (appleWorld.after ((quarantine numberedStack).after appleWorld)
      (restoreRun numberedStack).1).stack.SameAs numberedStack := by
  have hresult : (restoreRun numberedStack).2 = .ok ⟨true, "Restored 2 previous policies"⟩ := by
    decide +kernel
  refine (restored_iff (sequence_quarantine numberedStack) (restoreRun_steps hresult)
    (restoreRun_accepted numberedStack)).mpr ?_
  refine ⟨⟨by decide, by decide⟩, fun id priority hpriority => ?_⟩
  by_cases hid : id = "p2"
  · subst hid
    obtain rfl := Option.some.inj hpriority
    exact ⟨⟨by decide, by decide⟩, by decide, rfl⟩
  · have hnone : numberedStack.priorities id = none := by
      simp [PolicyStack.priorities, numberedStack, Ne.symm hid]
    cases hnone.symm.trans hpriority

/-- Assignments without a primary policy. -/
def composedStack : PolicyStack :=
  ⟨none, [("p1", some 10), ("p2", some 20)]⟩

/-- The first assignment comes back as the primary policy. -/
theorem restore_promotes_assignment :
    ¬ ∀ (st : PolicyStack) (ts : List (Turn policySig JsError PolicyDevice PolicyTask))
      (d : PolicyDevice) (es : List PolicyEvent) (detail : String),
      PolicySequence appleApi (fun _ => false) "acme" tablet st ts d →
      Prog.Steps (executePolicyRestoreStep "Bearer a" "acme" tablet) es
        (.ret (.ok ⟨true, detail⟩)) →
      appleWorld.Accepts d es → (appleWorld.after d es).stack.SameAs st := by
  intro h
  have hresult : (restoreRun composedStack).2 = .ok ⟨true, "Restored 2 previous policies"⟩ := by
    decide +kernel
  have hsame := h _ _ _ _ _ (sequence_quarantine composedStack) (restoreRun_steps hresult)
    (restoreRun_accepted composedStack)
  have hprimary : (appleWorld.after ((quarantine composedStack).after appleWorld)
      (restoreRun composedStack).1).stack.primary = some "p1" := by
    decide +kernel
  exact absurd (hprimary.symm.trans hsame.primary) nofun

end AppliverySoar.Workflows
