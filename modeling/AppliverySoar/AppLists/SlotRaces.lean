import AppliverySoar.AppLists.Slots
import AppliverySoar.DeviceData.Store

/-!
# Two slots in one row

A self-report and a fetch read the whole record of a device, set their slot and write
the record back, so that of two that overlap the later write takes the other's entry
back (installedApps.service.ts, lines 120–135). A reconciliation stores what it has
loaded, even if the device has reported again since, and deletes what it finds under
the serial number then (deviceData.service.ts, lines 448–477); a report that finds its
device deletes whatever is buffered (lines 276–281).

Results:
* `get_next`: what a write makes of the two slots.
* `slots_of_undisturbed`, `stored_of_undisturbed`: the slots and the buffer in a run
  whose writes are not disturbed.
* `slots_hold_of_undisturbed`: each slot holds what was written to it last, a buffered
  report replaces no newer one, and none is lost.
* `fetch_undoes_report`: the slot of a report that a fetch takes back.
-/

namespace AppliverySoar.AppLists

open Async Workflows Compliance

/-- What the tables promise of a trace that leads to `s`: each slot holds the entry that
was written to it last, by the report, the fetch or the reconciliation that it is
of; no buffered report replaces one that was made later; and none is deleted that
has not been stored. -/
structure SlotsHold (env : AppsEnv) (init : AppsStore) (tr : List AppsLabel) (s : AppsStore) :
    Prop where
  slots : ∀ key slot, (s.record key).get slot = lastWritten init key slot tr
  entries : ∀ l ∈ tr, ∀ key slot entry, written key slot l = some entry →
    EntryOf env l.past key entry l.task
  newer : ∀ pre l post, tr = pre ++ l :: post → l.task.reconciles = true →
    ∀ key buffered reported, written key .selfReported l = some buffered →
      lastWritten init key .selfReported pre = some reported →
      reported.fetchedAt ≤ buffered.fetchedAt
  stored : ∀ pre l post, tr = pre ++ l :: post → ∀ key entry, deleted l = some key →
    (appsWorld.after init (pre.map Label.event)).pending.lookup key = some entry →
    StoredIn key.1 entry pre

/-- Nothing has come between: the other slot is what the writer read of it, the slot
holds no report that was made after the buffered one that is stored, and what is
deleted is what was loaded, or has been stored before. -/
def Undisturbed (tr : List AppsLabel) (s : AppsStore) (l : AppsLabel) : Prop :=
  match l.event with
  | ⟨.upsertInventory workspaceSlug deviceId record _, .ok _⟩ =>
    (∀ found, l.past.getLast? = some ⟨.findInventory workspaceSlug deviceId, .ok found⟩ →
      (s.record (workspaceSlug, deviceId)).get l.task.slot.other =
        (toRecord found).get l.task.slot.other) ∧
    (l.task.reconciles = true → ∀ buffered reported, record.selfReported = some buffered →
      (s.record (workspaceSlug, deviceId)).selfReported = some reported →
      reported.fetchedAt ≤ buffered.fetchedAt)
  | ⟨.deletePendingAppReport workspaceSlug deviceId, .ok _⟩ =>
    ∀ entry, s.pending.lookup (workspaceSlug, deviceId) = some entry →
      (∀ rows, ⟨.findPendingAppReports workspaceSlug, .ok rows⟩ ∈ l.past →
        ⟨deviceId, entry⟩ ∈ rows) ∨ StoredIn workspaceSlug entry tr
  | ⟨.deletePendingAppReports workspaceSlug deviceId, .ok _⟩ =>
    ∀ entry, s.pending.lookup (workspaceSlug, deviceId) = some entry →
      StoredIn workspaceSlug entry tr
  | _ => True

section Runs

variable {env : AppsEnv} {init : AppsStore} {tasks : List AppsTask}
  {cond : List AppsLabel → AppsStore → AppsLabel → Prop} {tr pre post : List AppsLabel}
  {cfg cfg' : Config appsSig ServiceError AppsStore AppsTask} {l : AppsLabel} {s : AppsStore}
  {key : String × String} {slot : Slot} {entry : InstalledAppsEntry}

/-- A label that writes is an answered upsert of the slot of its task. -/
theorem written_eq_some (h : written key slot l = some entry) :
    ∃ record reportedAt, l.event = ⟨.upsertInventory key.1 key.2 record reportedAt, .ok ()⟩ ∧
      l.task.slot = slot ∧ record.get slot = some entry := by
  obtain ⟨thread, task, past, ⟨c, r⟩⟩ := l
  unfold written at h
  split at h
  · next workspaceSlug deviceId record reportedAt u heq =>
    split at h
    · next hkey =>
      obtain ⟨rfl, hslot⟩ := hkey
      exact ⟨record, reportedAt, heq, hslot, h⟩
    · cases h
  · cases h

theorem proper_of_run (h : Run (appsSystem env) cond ((appsSystem env).launch init tasks) tr cfg) :
    ∀ l ∈ tr, Proper env l.task l.past l.event.call :=
  h.ok_of_meets (Proper env) (proper_body env)

theorem inventory_next (c : AppsCall) (r : Except ServiceError (AppsCall.Answer c))
    (hno : ∀ record reportedAt, (⟨c, r⟩ : AppsEvent) ≠
      ⟨.upsertInventory key.1 key.2 record reportedAt, .ok ()⟩) :
    (s.next c r).record key = s.record key := by
  unfold AppsStore.next
  split
  · next workspaceSlug deviceId apps reportedAt u heq =>
    have hne : key ≠ (workspaceSlug, deviceId) := by
      rintro rfl
      exact hno apps reportedAt heq
    exact congrArg toRecord (Function.update_of_ne hne _ _)
  all_goals rfl

/-- **Step lemma**: a write sets its slot, and leaves the other as it was read. -/
theorem get_next (hproper : Proper env l.task l.past l.event.call)
    (hcond : Undisturbed tr s l) (key : String × String) (slot : Slot) :
    ((s.next l.event.call l.event.answer).record key).get slot =
      (written key slot l).or ((s.record key).get slot) := by
  by_cases hwrites : ∃ record reportedAt,
      l.event = ⟨.upsertInventory key.1 key.2 record reportedAt, .ok ()⟩
  · obtain ⟨record, reportedAt, hevent⟩ := hwrites
    obtain ⟨thread, task, past, event⟩ := l
    dsimp only at hevent hproper
    subst hevent
    obtain ⟨found, entry, hlast, rfl, -⟩ := hproper
    have hother := hcond.1 found hlast
    have hrecord : (s.next (.upsertInventory key.1 key.2
        ((toRecord found).set task.slot entry) reportedAt) (.ok ())).record key =
        (toRecord found).set task.slot entry := by
      show toRecord (Function.update s.inventory key _ key) = _
      rw [Function.update_self]
      rfl
    rw [hrecord]
    have hkey : (key.1, key.2) = key := rfl
    rcases task.slot.eq_or_eq_other slot with rfl | rfl
    · simp [written, hkey]
    · have hne : task.slot ≠ task.slot.other := by cases task.slot <;> simp [Slot.other]
      simp only [written, hkey, hne, and_false, if_false, Option.none_or, get_set_other]
      exact hother.symm
  · have hnone : written key slot l = none := by
      by_contra hsome
      obtain ⟨entry, hentry⟩ := Option.ne_none_iff_exists'.mp hsome
      obtain ⟨record, reportedAt, hevent, -⟩ := written_eq_some hentry
      exact hwrites ⟨record, reportedAt, hevent⟩
    rw [hnone, Option.none_or, inventory_next _ _ fun record reportedAt heq =>
      hwrites ⟨record, reportedAt, heq⟩]

/-- **Run lemma**: each slot holds what was written to it last. -/
theorem slots_of_undisturbed
    (h : Run (appsSystem env) Undisturbed ((appsSystem env).launch init tasks) tr cfg)
    (key : String × String) (slot : Slot) :
    (cfg.store.record key).get slot = lastWritten init key slot tr := by
  induction h with
  | nil => rfl
  | snoc hrun hstep hcond ih =>
    rw [hstep.store_eq, lastWritten_snoc, ← ih]
    exact get_next (hrun.ok_of_step (Proper env) (fun _ _ => True) (proper_body env) hstep) hcond
      key slot

theorem label_of_run {init : Config appsSig ServiceError AppsStore AppsTask}
    (h : Run (appsSystem env) cond init tr cfg) (htr : tr = pre ++ l :: post) :
    ∃ mid, Run (appsSystem env) cond init pre mid ∧ cond pre mid.store l ∧
      mid.store.may l.event.call l.event.answer ∧
      mid.store = appsWorld.after init.store (pre.map Label.event) := by
  obtain ⟨mid, _, hrun, hstep, hcond, -⟩ := h.step_of_append htr
  exact ⟨mid, hrun, hcond, hstep.may, hrun.store_eq⟩

/-- Two rows of one serial number that a reconciliation was answered are one. -/
theorem payload_of_loaded (h : Run (appsSystem env) cond ((appsSystem env).launch init tasks) tr cfg)
    (htr : tr = pre ++ l :: post) {slug : String} {rows : List PendingRow}
    (hrows : (⟨.findPendingAppReports slug, .ok rows⟩ : AppsEvent) ∈ l.past)
    {row row' : PendingRow} (hrow : row ∈ rows) (hrow' : row' ∈ rows)
    (hid : row.deviceId = row'.deviceId) : row.payload = row'.payload := by
  obtain ⟨before, l', mid, rfl, hevent⟩ := h.label_of_past htr hrows
  rw [List.append_assoc, List.cons_append] at htr
  obtain ⟨_, _, _, hmay, -⟩ := label_of_run h htr
  rw [hevent] at hmay
  have hlookup := (hmay row).mp hrow
  rw [hid, (hmay row').mp hrow'] at hlookup
  exact (Option.some.inj hlookup).symm

theorem storedIn_of_past (h : Run (appsSystem env) cond ((appsSystem env).launch init tasks) tr cfg)
    (htr : tr = pre ++ l :: post) (hslot : l.task.slot = .selfReported)
    {slug deviceId : String} {record : InstalledAppsRecord} {reportedAt : ℕ}
    (hlast : l.past.getLast? =
      some ⟨.upsertInventory slug deviceId record reportedAt, .ok ()⟩)
    (hrecord : record.selfReported = some entry) : StoredIn slug entry pre := by
  have hmem := List.mem_of_getLast? hlast
  rw [h.past_eq htr, mem_ownEvents] at hmem
  obtain ⟨l', hl', hthread, hevent⟩ := hmem
  have htask : l'.task = l.task :=
    h.task_of_thread (by rw [htr]; simp [hl']) (by rw [htr]; simp) hthread
  refine ⟨l', hl', deviceId, ?_⟩
  unfold written
  rw [hevent, htask]
  simp only [hslot, and_self, if_true]
  exact hrecord

/-- **Run lemma**: what is deleted has been stored. -/
theorem stored_of_undisturbed
    (h : Run (appsSystem env) Undisturbed ((appsSystem env).launch init tasks) tr cfg)
    (htr : tr = pre ++ l :: post) (hdeleted : deleted l = some key)
    (hentry : (appsWorld.after init (pre.map Label.event)).pending.lookup key = some entry) :
    StoredIn key.1 entry pre := by
  obtain ⟨mid, -, hcond, -, hstore⟩ := label_of_run h htr
  have hproper := proper_of_run h l (by rw [htr]; simp)
  rw [show appsWorld.after init _ = mid.store from hstore.symm] at hentry
  unfold deleted at hdeleted
  split at hdeleted
  · next workspaceSlug deviceId u heq =>
    cases hdeleted
    unfold Undisturbed at hcond
    rw [heq] at hcond
    exact hcond entry hentry
  · next workspaceSlug deviceId u heq =>
    cases hdeleted
    unfold Undisturbed at hcond
    rw [heq] at hcond hproper
    rcases hcond entry hentry with hloaded | hstored
    · obtain ⟨hslot, rows, row, device, record, reportedAt, hrows, hrow, hid, hlast, hrecord⟩ :=
        hproper
      have hpayload := payload_of_loaded h htr hrows hrow (hloaded rows hrows) hid
      exact storedIn_of_past h htr hslot hlast (hrecord.trans (congrArg some hpayload))
    · exact hstored
  · cases hdeleted

/-- **Undisturbed runs**: each slot holds what was written to it last, no buffered
report replaces one that was made later, and none is lost. -/
theorem slots_hold_of_undisturbed (env : AppsEnv) (init : AppsStore) (tasks : List AppsTask)
    (tr : List AppsLabel) (cfg : Config appsSig ServiceError AppsStore AppsTask)
    (h : Run (appsSystem env) Undisturbed ((appsSystem env).launch init tasks) tr cfg) :
    SlotsHold env init tr cfg.store where
  slots := slots_of_undisturbed h
  entries l hl key slot entry hwritten := by
    obtain ⟨record, reportedAt, hevent, hslot, hrecord⟩ := written_eq_some hwritten
    have hproper := proper_of_run h l hl
    rw [hevent] at hproper
    obtain ⟨found, entry', -, rfl, hentry⟩ := hproper
    rw [← hslot, get_set] at hrecord
    cases hrecord
    exact hentry
  newer pre l post htr hreconciles key buffered reported hwritten hlast := by
    obtain ⟨mid, hrun, hcond, -, -⟩ := label_of_run h htr
    obtain ⟨record, reportedAt, hevent, -, hrecord⟩ := written_eq_some hwritten
    unfold Undisturbed at hcond
    rw [hevent] at hcond
    refine hcond.2 hreconciles buffered reported hrecord ?_
    rw [← hlast]
    exact slots_of_undisturbed hrun key .selfReported
  stored _ _ _ htr _ _ := stored_of_undisturbed h htr

end Runs

/-! ## Runs with the answers of the tables -/

/-- Answers that the tables may give: Applivery lists one app, and a device is known
once it has a self-report. -/
def AppsStore.reply (s : AppsStore) : (c : AppsCall) → Except ServiceError (AppsCall.Answer c)
  | .data (.serialIndex workspaceSlug _) =>
    .ok ((s.record (workspaceSlug, "d1")).selfReported.map fun _ =>
      { id := "d1", displayName := none })
  | .data .newDate => .ok 0
  | .data (.recordAuditEvent ..) => .ok ()
  | .data (.invalidateDevicesCache _) => .ok ()
  | .data _ => .error (.other "")
  | .getApplications _ =>
    .ok { status := 200
          items := [some { packageName := some "mail", versionName := some "2" }] }
  | .fetchWindowsDeviceApps _ => .ok ⟨[], [], none⟩
  | .findInventory workspaceSlug deviceId => .ok (s.inventory (workspaceSlug, deviceId))
  | .upsertInventory .. => .ok ()
  | .upsertPendingAppReport .. => .ok ()
  | .deletePendingAppReports .. => .ok ()
  | .findPendingAppReports workspaceSlug =>
    .ok (s.pending.entries.filterMap fun e =>
      if e.1.1 = workspaceSlug then some ⟨e.1.2, e.2⟩ else none)
  | .deletePendingAppReport workspaceSlug deviceId =>
    if (workspaceSlug, deviceId) ∈ s.pending then .ok () else .error (.other "")

theorem apps_may_reply (s : AppsStore) (c : AppsCall) : s.may c (s.reply c) := by
  cases c with
  | data c => cases c <;> trivial
  | findInventory => rfl
  | findPendingAppReports workspaceSlug =>
    intro row
    rw [← Option.mem_def, AList.mem_lookup_iff, List.mem_filterMap]
    constructor
    · rintro ⟨⟨⟨slug, serial⟩, entry⟩, hmem, hrow⟩
      split at hrow
      · next heq =>
        cases hrow
        exact heq ▸ hmem
      · cases hrow
    · exact fun hmem => ⟨_, hmem, if_pos rfl⟩
  | deletePendingAppReport workspaceSlug deviceId =>
    show s.may _ (if _ then _ else _)
    by_cases hmem : (workspaceSlug, deviceId) ∈ s.pending
    · rw [if_pos hmem]
      exact hmem
    · rw [if_neg hmem]
      trivial
  | _ => trivial

/-- `Undisturbed`, as a check that may refuse more: the buffer is empty where a report
clears it. -/
def undisturbedCheck (_ : List AppsLabel) (s : AppsStore) (l : AppsLabel) : Bool :=
  match l.event with
  | ⟨.upsertInventory workspaceSlug deviceId record _, .ok _⟩ =>
    (match l.past.getLast? with
      | some ⟨.findInventory _ _, .ok found⟩ =>
        (s.record (workspaceSlug, deviceId)).get l.task.slot.other =
          (toRecord found).get l.task.slot.other
      | _ => true) &&
    (!l.task.reconciles || (record.selfReported.all fun buffered =>
      (s.record (workspaceSlug, deviceId)).selfReported.all fun reported =>
        reported.fetchedAt ≤ buffered.fetchedAt))
  | ⟨.deletePendingAppReport workspaceSlug deviceId, .ok _⟩ =>
    (s.pending.lookup (workspaceSlug, deviceId)).all fun entry => l.past.all fun e =>
      match e with
      | ⟨.findPendingAppReports _, .ok rows⟩ => ⟨deviceId, entry⟩ ∈ rows
      | _ => true
  | ⟨.deletePendingAppReports workspaceSlug deviceId, .ok _⟩ =>
    (s.pending.lookup (workspaceSlug, deviceId)).isNone
  | _ => true

theorem undisturbedCheck_sound (tr : List AppsLabel) (s : AppsStore) (l : AppsLabel)
    (h : undisturbedCheck tr s l = true) : Undisturbed tr s l := by
  unfold undisturbedCheck at h
  unfold Undisturbed
  split at h
  · next workspaceSlug deviceId record reportedAt u heq =>
    rw [Bool.and_eq_true] at h
    refine ⟨fun found hlast => ?_, fun hreconciles buffered reported hbuffered hreported => ?_⟩
    · have hsame := h.1
      rw [hlast] at hsame
      exact of_decide_eq_true hsame
    · simpa [hreconciles, hbuffered, hreported] using h.2
  · next workspaceSlug deviceId u heq =>
    refine fun entry hentry => .inl fun rows hrows => ?_
    rw [hentry] at h
    exact of_decide_eq_true (List.all_eq_true.mp h _ hrows)
  · next workspaceSlug deviceId u heq =>
    intro entry hentry
    rw [hentry] at h
    cases h
  · trivial

/-- A service with a plain runtime. -/
def plainService : AppsEnv where
  runtime := DeviceData.plainDeployment.runtime
  collation := DeviceData.plainDeployment.collation
  orgBase := ""
  errorText _ := ""

/-- No device, and nothing buffered. -/
def noApps : AppsStore where
  inventory _ := none
  pending := ∅

/-- What the device `SN1` reports: one app. -/
def oneApp : DeviceData.DeviceAppReportPayload where
  platform := "android"
  serialNumber := "SN1"
  apps := [{ identifier := some "chat", version := some "1" }]

/-- The device with the serial number `SN1`. -/
def firstDevice : NormalizedDevice := { id := "d1", platform := "android", serialNumber := "SN1" }

/-- A report of an unknown device, its reconciliation, a fetch and another report. -/
def appsTasks : List AppsTask :=
  [.report "acme" oneApp, .reconcile "acme" [firstDevice], .fetch firstDevice "acme",
    .report "acme" oneApp]

/-- The tasks of a schedule. -/
def appsRun (init : AppsStore) (schedule : List ℕ) :
    List AppsLabel × Config appsSig ServiceError AppsStore AppsTask :=
  ((appsSystem plainService).launch init appsTasks).play (appsSystem plainService)
    AppsStore.reply schedule

/-- One task after the other. -/
def inTurn : List ℕ :=
  List.replicate 9 0 ++ List.replicate 9 1 ++ List.replicate 9 2 ++ List.replicate 9 3

/-- The buffered report is stored and deleted, and the device has both entries. -/
theorem slots_hold_of_undisturbed_in_turn :
    (let record := (appsRun noApps inTurn).2.store.record ("acme", "d1");
      (record.selfReported.map InstalledAppsEntry.identifiers,
        record.serverFetch.map InstalledAppsEntry.identifiers)) = (some ["chat"], some ["mail"]) ∧
    SlotsHold plainService noApps (appsRun noApps inTurn).1 (appsRun noApps inTurn).2.store := by
  have hadmits := Config.admits_of_admitted (appsSystem plainService) AppsStore.reply
    undisturbedCheck_sound inTurn [] ((appsSystem plainService).launch noApps appsTasks)
    (by decide +kernel)
  have hrun : Run (appsSystem plainService) Undisturbed ((appsSystem plainService).launch noApps
      appsTasks) (appsRun noApps inTurn).1 (appsRun noApps inTurn).2 :=
    Run.nil.play (appsSystem plainService) AppsStore.reply apps_may_reply inTurn hadmits
  exact ⟨by decide +kernel, slots_hold_of_undisturbed plainService noApps appsTasks _ _ hrun⟩

/-- A device that has reported another app before there were slots. -/
def knownDevice : AppsStore where
  inventory key := if key = ("acme", "d1") then
      some (.entry { identifiers := ["game"], apps := [], platform := "android", fetchedAt := 0,
                     source := .selfReported })
    else none
  pending := ∅

/-- The device reports between the last read of the fetch and its write. -/
def reportMeanwhile : List ℕ :=
  List.replicate 5 2 ++ List.replicate 9 3 ++ [2]

/-- The fetch writes the old self-report back. -/
theorem fetch_undoes_report :
    ¬∀ (env : AppsEnv) (init : AppsStore) (tasks : List AppsTask) (tr : List AppsLabel)
      (cfg : Config appsSig ServiceError AppsStore AppsTask),
      Run (appsSystem env) always ((appsSystem env).launch init tasks) tr cfg →
      SlotsHold env init tr cfg.store := by
  intro hall
  have hrun : Run (appsSystem plainService) always ((appsSystem plainService).launch knownDevice
      appsTasks) (appsRun knownDevice reportMeanwhile).1 (appsRun knownDevice reportMeanwhile).2 :=
    Config.run_play (appsSystem plainService) AppsStore.reply apps_may_reply _ _
  have hslot := (hall _ _ _ _ _ hrun).slots ("acme", "d1") .selfReported
  have hstored : ((appsRun knownDevice reportMeanwhile).2.store.record ("acme", "d1")).get
      .selfReported ≠ lastWritten knownDevice ("acme", "d1") .selfReported
        (appsRun knownDevice reportMeanwhile).1 := by
    decide +kernel
  exact hstored hslot

end AppliverySoar.AppLists
