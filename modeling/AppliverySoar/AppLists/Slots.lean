import AppliverySoar.AppLists.InstalledApps
import AppliverySoar.Async.Pool
import Mathlib.Data.List.AList

/-!
# The tables of installed apps and of buffered reports

The tables as the functions see them, and the system in which any number of reports,
fetches and reconciliations run at the same time. What a trace has written to a slot
is read off its labels.

Results:
* `reportDeviceApps_eq`: the queries of a report.
* `proper_body`: what each function writes, and after which reads.
-/

namespace AppliverySoar.AppLists

open Async Prog Workflows Compliance List
open DeviceData (DataCall DeviceAppReportPayload appsEntry deviceName isBlank)

/-! ## The tables -/

/-- The tables, keyed by a workspace and a device, `pending` by a serial number. -/
structure AppsStore where
  inventory : String × String → Option StoredApps
  pending : AList fun _ : String × String => InstalledAppsEntry

/-- The record of a device. -/
def AppsStore.record (s : AppsStore) (key : String × String) : InstalledAppsRecord :=
  toRecord (s.inventory key)

/-- Queries answer what is stored. -/
def AppsStore.may (s : AppsStore) (c : AppsCall) (r : Except ServiceError (AppsCall.Answer c)) :
    Prop :=
  match (⟨c, r⟩ : AppsEvent) with
  | ⟨.findInventory workspaceSlug deviceId, .ok found⟩ =>
    found = s.inventory (workspaceSlug, deviceId)
  | ⟨.findPendingAppReports workspaceSlug, .ok rows⟩ =>
    ∀ row, row ∈ rows ↔ s.pending.lookup (workspaceSlug, row.deviceId) = some row.payload
  | ⟨.deletePendingAppReport workspaceSlug deviceId, .ok _⟩ =>
    (workspaceSlug, deviceId) ∈ s.pending
  | ⟨.fetchWindowsDeviceApps _, .error _⟩ => False
  | _ => True

/-- What an answered call leaves. -/
def AppsStore.next (s : AppsStore) (c : AppsCall) (r : Except ServiceError (AppsCall.Answer c)) :
    AppsStore :=
  match (⟨c, r⟩ : AppsEvent) with
  | ⟨.upsertInventory workspaceSlug deviceId apps _, .ok _⟩ =>
    { s with
      inventory := Function.update s.inventory (workspaceSlug, deviceId) (some (.record apps)) }
  | ⟨.upsertPendingAppReport workspaceSlug deviceId payload, .ok _⟩ =>
    { s with pending := s.pending.insert (workspaceSlug, deviceId) payload }
  | ⟨.deletePendingAppReports workspaceSlug deviceId, .ok _⟩ =>
    { s with pending := s.pending.erase (workspaceSlug, deviceId) }
  | ⟨.deletePendingAppReport workspaceSlug deviceId, .ok _⟩ =>
    { s with pending := s.pending.erase (workspaceSlug, deviceId) }
  | _ => s

/-- The tables as the functions see them. -/
def appsWorld : World appsSig ServiceError AppsStore :=
  ⟨AppsStore.may, AppsStore.next⟩

/-- A call of one of the functions. -/
inductive AppsTask
  | report (workspaceSlug : String) (payload : DeviceAppReportPayload)
  | fetch (device : NormalizedDevice) (workspaceSlug : String)
  | reconcile (workspaceSlug : String) (devices : List NormalizedDevice)
  deriving DecidableEq

/-- What a task runs. -/
def AppsTask.body (env : AppsEnv) : AppsTask → AppsProg Unit
  | .report workspaceSlug payload => do
    let _ ← reportDeviceApps env workspaceSlug payload
    pure ()
  | .fetch device workspaceSlug => do
    let _ ← fetchAndStoreInstalledApps env device workspaceSlug
    pure ()
  | .reconcile workspaceSlug devices => do
    let _ ← reconcilePendingAppReports workspaceSlug devices
    pure ()

/-- The tasks over the tables. -/
def appsSystem (env : AppsEnv) : System appsSig ServiceError AppsStore AppsTask where
  world := appsWorld
  body := AppsTask.body env
  starts _ _ := []

/-- A label of a run. -/
abbrev AppsLabel := Label appsSig ServiceError AppsTask

/-! ## What a trace has written -/

/-- The slot that a task writes. -/
def AppsTask.slot : AppsTask → Slot
  | .fetch .. => .serverFetch
  | _ => .selfReported

/-- The task stores buffered reports. -/
def AppsTask.reconciles : AppsTask → Bool
  | .reconcile .. => true
  | _ => false

/-- What a label has written to a slot of a device. -/
def written (key : String × String) (slot : Slot) (l : AppsLabel) : Option InstalledAppsEntry :=
  match l.event with
  | ⟨.upsertInventory workspaceSlug deviceId record _, .ok _⟩ =>
    if (workspaceSlug, deviceId) = key ∧ l.task.slot = slot then record.get slot else none
  | _ => none

/-- The last that was written to a slot, else what it held at the start. -/
def lastWritten (init : AppsStore) (key : String × String) (slot : Slot) (tr : List AppsLabel) :
    Option InstalledAppsEntry :=
  ((tr.filterMap (written key slot)).getLast?).or ((init.record key).get slot)

/-- The buffered report that a label has deleted, by its key. -/
def deleted (l : AppsLabel) : Option (String × String) :=
  match l.event with
  | ⟨.deletePendingAppReports workspaceSlug deviceId, .ok _⟩ => some (workspaceSlug, deviceId)
  | ⟨.deletePendingAppReport workspaceSlug deviceId, .ok _⟩ => some (workspaceSlug, deviceId)
  | _ => none

/-- The report has been written to the slot of a device of the workspace. -/
def StoredIn (workspaceSlug : String) (entry : InstalledAppsEntry) (tr : List AppsLabel) : Prop :=
  ∃ l ∈ tr, ∃ deviceId, written (workspaceSlug, deviceId) .selfReported l = some entry

theorem lastWritten_snoc (init : AppsStore) (key : String × String) (slot : Slot)
    (tr : List AppsLabel) (l : AppsLabel) : lastWritten init key slot (tr ++ [l]) =
      (written key slot l).or (lastWritten init key slot tr) := by
  unfold lastWritten
  rw [filterMap_append, getLast?_append]
  cases hl : written key slot l <;> simp [hl]

/-! ## What the functions write -/

/-- What a fetch has collected is what it was answered. -/
def FetchedFrom (env : AppsEnv) (device : NormalizedDevice) (platformPath : String)
    (past : List AppsEvent) (fetched : Fetched) : Prop :=
  (∃ apps, ⟨.fetchWindowsDeviceApps device.id, .ok apps⟩ ∈ past ∧
    fetched = collectWindows env apps) ∨
  ∃ url res, ⟨.getApplications url, res⟩ ∈ past ∧ fetched = collectItems env platformPath res

/-- The entry is the one of the report, of the fetch, or of a report that was
buffered for the device. -/
def EntryOf (env : AppsEnv) (past : List AppsEvent) (key : String × String)
    (entry : InstalledAppsEntry) : AppsTask → Prop
  | .report workspaceSlug payload =>
    workspaceSlug = key.1 ∧
    (∃ matched, ⟨.data (.serialIndex workspaceSlug payload.serialNumber), .ok (some matched)⟩ ∈
      past ∧ matched.id = key.2) ∧
    ∃ now, ⟨.data .newDate, .ok now⟩ ∈ past ∧
      entry = ofReport (appsEntry env.runtime env.collation payload now)
  | .fetch device workspaceSlug =>
    key = (workspaceSlug, device.id) ∧
    ∃ platformPath fetched existing fetchedAt, FetchedFrom env device platformPath past fetched ∧
      entry = serverFetchEntry env device.platform platformPath fetched existing fetchedAt
  | .reconcile workspaceSlug devices =>
    workspaceSlug = key.1 ∧
    ∃ rows, ⟨.findPendingAppReports workspaceSlug, .ok rows⟩ ∈ past ∧ ∃ row ∈ rows,
      row.payload = entry ∧ ∃ device ∈ devices, device.serialNumber = row.deviceId ∧
        device.id = key.2

/-- What a task may ask for after `past`: the record that it writes is the one it has
just read with the entry in its slot, and it deletes the row that it has just
stored. -/
def Proper (env : AppsEnv) (task : AppsTask) (past : List AppsEvent) : AppsCall → Prop
  | .upsertInventory workspaceSlug deviceId record _ =>
    ∃ found entry, past.getLast? = some ⟨.findInventory workspaceSlug deviceId, .ok found⟩ ∧
      record = (toRecord found).set task.slot entry ∧
      EntryOf env past (workspaceSlug, deviceId) entry task
  | .deletePendingAppReport workspaceSlug deviceId =>
    task.slot = .selfReported ∧ ∃ rows row device record reportedAt,
      ⟨.findPendingAppReports workspaceSlug, .ok rows⟩ ∈ past ∧ row ∈ rows ∧
      row.deviceId = deviceId ∧
      past.getLast? = some ⟨.upsertInventory workspaceSlug device record reportedAt, .ok ()⟩ ∧
      record.selfReported = some row.payload
  | _ => True

section Threads

variable {env : AppsEnv} {task : AppsTask} {past past' : List AppsEvent} {key : String × String}
  {entry : InstalledAppsEntry} {workspaceSlug deviceId : String}

theorem EntryOf.mono (h : EntryOf env past key entry task) (hpast : past <+: past') :
    EntryOf env past' key entry task := by
  have hmem : ∀ e ∈ past, e ∈ past' := hpast.subset
  cases task with
  | report =>
    obtain ⟨hslug, ⟨matched, hmatched, hid⟩, now, hnow, rfl⟩ := h
    exact ⟨hslug, ⟨matched, hmem _ hmatched, hid⟩, now, hmem _ hnow, rfl⟩
  | fetch =>
    obtain ⟨hkey, path, fetched, existing, fetchedAt, ⟨apps, happs, hfetched⟩ |
      ⟨url, res, hres, hfetched⟩, rfl⟩ := h
    · exact ⟨hkey, path, fetched, existing, fetchedAt, .inl ⟨apps, hmem _ happs, hfetched⟩, rfl⟩
    · exact ⟨hkey, path, fetched, existing, fetchedAt, .inr ⟨url, res, hmem _ hres, hfetched⟩, rfl⟩
  | reconcile =>
    obtain ⟨hslug, rows, hrows, hrow⟩ := h
    exact ⟨hslug, rows, hmem _ hrows, hrow⟩

/-- What is left of the past after a slot was written. -/
def WrittenLast (task : AppsTask) (past : List AppsEvent) (workspaceSlug deviceId : String)
    (entry : InstalledAppsEntry) (r : Except ServiceError Unit) (es : List AppsEvent) : Prop :=
  past <+: es ∧ ∀ u, r = .ok u → ∃ record reportedAt,
    es.getLast? = some ⟨.upsertInventory workspaceSlug deviceId record reportedAt, .ok ()⟩ ∧
    record.get task.slot = some entry

theorem proper_upsertInstalledAppsSlot (task : AppsTask) (reportedAt : ℕ)
    (h : EntryOf env past (workspaceSlug, deviceId) entry task) :
    (upsertInstalledAppsSlot workspaceSlug deviceId task.slot entry reportedAt).Meets
      (World.log _ _) (Proper env task) past (WrittenLast task past workspaceSlug deviceId entry) := by
  refine Meets.call_bind trivial
    (fun e _ => ⟨prefix_append _ _, fun _ h => by cases h⟩) fun found _ => ?_
  refine ⟨⟨found, entry, getLast?_concat, rfl, h.mono (prefix_append _ _)⟩,
    fun r _ => ⟨?_, fun u hr => ?_⟩⟩
  · exact (prefix_append _ _).trans (prefix_append _ _)
  · cases hr
    exact ⟨_, _, getLast?_concat, get_set _ _ _⟩

/-! ### A report -/

theorem expand_ask (c : DataCall) : (DeviceData.ask c).expand carryOut = carryOut c :=
  Prog.attempt_bind_ret (carryOut c)

/-- The slot of a known device, or the buffer. -/
def storeReport (workspaceSlug serialNumber : String) (deviceId : Option String)
    (entry : InstalledAppsEntry) (nowIso : ℕ) : AppsProg Bool :=
  match deviceId with
  | some deviceId => do
    upsertInstalledAppsSlot workspaceSlug deviceId .selfReported entry nowIso
    ask (.deletePendingAppReports workspaceSlug serialNumber)
    ask (.data (.invalidateDevicesCache workspaceSlug))
    return true
  | none => do
    ask (.upsertPendingAppReport workspaceSlug serialNumber entry)
    return false

theorem expand_storeApps (slug serial : String) (deviceId : Option String)
    (entry : DeviceData.InstalledAppsEntry) (nowIso : ℕ) :
    (DeviceData.reportDeviceApps.storeApps slug serial deviceId entry
      nowIso).expand carryOut = storeReport slug serial deviceId (ofReport entry) nowIso := by
  cases deviceId with
  | none =>
    show ((DeviceData.ask (.upsertPendingAppReport slug serial entry)) >>=
      fun _ => (pure false : DeviceData.DeviceData Bool)).expand carryOut = _
    rw [Prog.expand_bind, expand_ask]
    rfl
  | some deviceId =>
    show ((DeviceData.ask (.upsertInstalledAppsSlot slug deviceId entry nowIso)) >>=
      fun _ => (DeviceData.ask (.deletePendingAppReports slug serial)) >>=
      fun _ => (DeviceData.ask (.invalidateDevicesCache slug)) >>=
      fun _ => (pure true : DeviceData.DeviceData Bool)).expand carryOut = _
    rw [Prog.expand_bind, expand_ask]
    refine bind_congr fun _ => ?_
    rw [Prog.expand_bind, expand_ask]
    refine bind_congr fun _ => ?_
    rw [Prog.expand_bind, expand_ask]
    rfl

/-- The queries of `reportDeviceApps`. -/
theorem reportDeviceApps_eq (env : AppsEnv) (slug : String)
    (payload : DeviceAppReportPayload) : reportDeviceApps env slug payload =
      if isBlank payload.serialNumber then
        .ret (.error (.http ⟨400, "serialNumber is required"⟩))
      else do
        let nowIso ← ask (.data .newDate)
        let matched ← ask (.data (.serialIndex slug payload.serialNumber))
        let matchedFlag ← storeReport slug payload.serialNumber
          (truthy (matched.map DeviceData.DeviceEntry.id))
          (ofReport (appsEntry env.runtime env.collation payload nowIso)) nowIso
        ask (.data (.recordAuditEvent slug "device_apps_received" payload.serialNumber
          (deviceName payload.serialNumber matched)))
        return ((appsEntry env.runtime env.collation payload nowIso).identifiers.length,
          matchedFlag) := by
  unfold reportDeviceApps DeviceData.reportDeviceApps
  split
  · rfl
  · rw [Prog.expand_bind, expand_ask]
    congr 1
    funext nowIso
    rw [Prog.expand_bind, expand_ask]
    congr 1
    funext matched
    rw [Prog.expand_bind, expand_storeApps]
    congr 1
    funext matchedFlag
    rw [Prog.expand_bind, expand_ask]
    rfl

theorem proper_reportDeviceApps (slug : String) (payload : DeviceAppReportPayload) :
    (reportDeviceApps env slug payload).Meets (World.log _ _)
      (Proper env (.report slug payload)) [] fun _ _ => True := by
  rw [reportDeviceApps_eq]
  split
  · trivial
  · refine Meets.call_bind trivial (fun _ _ => trivial) fun nowIso _ => ?_
    refine Meets.call_bind trivial (fun _ _ => trivial) fun matched _ => ?_
    refine Meets.bind (R := fun _ _ => True) ?_ fun flag es _ => ?_
    · cases hid : truthy (matched.map DeviceData.DeviceEntry.id) with
      | none => exact Meets.call_bind trivial (fun _ _ => trivial) fun _ _ => trivial
      | some deviceId =>
        obtain ⟨found, rfl, rfl⟩ := Option.map_eq_some_iff.mp (truthy_eq_some.mp hid).1
        refine Meets.bind (R := fun _ _ => True) ((proper_upsertInstalledAppsSlot
          (.report slug payload) nowIso ?_).mono
          fun r _ _ => by cases r <;> trivial) fun _ _ _ => ?_
        · exact ⟨rfl, ⟨found, by simp [World.log], rfl⟩, nowIso, by simp [World.log], rfl⟩
        · refine Meets.call_bind trivial (fun _ _ => trivial) fun _ _ => ?_
          exact Meets.call_bind trivial (fun _ _ => trivial) fun _ _ => trivial
    · exact Meets.call_bind trivial (fun _ _ => trivial) fun _ _ => trivial

/-! ### A fetch -/

theorem proper_fetchApps (device : NormalizedDevice) (platformPath : String) :
    (fetchApps env platformPath device.id).Meets (World.log _ _) (Proper env task) []
      fun r es => ∀ fetched, r = .ok fetched → FetchedFrom env device platformPath es fetched := by
  unfold fetchApps
  split
  · refine Meets.call_bind trivial (fun _ _ fetched h => by cases h) fun apps _ => ?_
    rintro fetched ⟨⟩
    exact .inl ⟨apps, by simp [World.log], rfl⟩
  · refine Meets.bind (R := fun res es => ∃ url,
      (⟨.getApplications url, res⟩ : AppsEvent) ∈ es) ?_ fun res es h => ?_
    · exact ⟨trivial, fun r _ => ⟨_, mem_append_right _ (mem_singleton_self _)⟩⟩
    · rintro fetched ⟨⟩
      obtain ⟨url, hmem⟩ := h
      exact .inr ⟨url, res, hmem, rfl⟩

theorem proper_fetchedAtOf (fetched : Fetched) (existing : Option InstalledAppsEntry) :
    (fetchedAtOf fetched existing).Meets (World.log _ _) (Proper env task) past
      fun _ es => past <+: es := by
  unfold fetchedAtOf
  split
  · exact prefix_refl _
  · exact ⟨trivial, fun r _ => prefix_append _ _⟩

theorem proper_fetchAndStoreInstalledApps (device : NormalizedDevice) (slug : String) :
    (fetchAndStoreInstalledApps env device slug).Meets (World.log _ _)
      (Proper env (.fetch device slug)) [] fun _ _ => True := by
  unfold fetchAndStoreInstalledApps
  cases platformPathSegment device.platform with
  | none => trivial
  | some platformPath =>
    dsimp only
    split
    · trivial
    · refine Meets.bind (R := fun fetched es => FetchedFrom env device platformPath es fetched)
        ((proper_fetchApps device platformPath).mono fun r es h => ?_) fun fetched es hfetched => ?_
      · cases r with
        | ok fetched => exact h fetched rfl
        | error e => trivial
      · refine Meets.call_bind trivial (fun _ _ => trivial) fun existing _ => ?_
        refine Meets.bind (R := fun _ es' => es <+: es')
          ((proper_fetchedAtOf fetched _).mono fun r es' h => ?_) fun fetchedAt es' hpast => ?_
        · cases r with
          | ok now => exact (prefix_append _ _).trans h
          | error e => trivial
        · refine Meets.call_bind trivial (fun _ _ => trivial) fun reportedAt _ => ?_
          refine Meets.bind (R := fun _ _ => True) ((proper_upsertInstalledAppsSlot
            (.fetch device slug) reportedAt ?_).mono
            fun r _ _ => by cases r <;> trivial) fun _ _ _ => trivial
          have hentry : EntryOf env es (slug, device.id)
              (serverFetchEntry env device.platform platformPath fetched
                (toRecord existing).serverFetch fetchedAt) (.fetch device slug) :=
            ⟨rfl, platformPath, fetched, _, fetchedAt, hfetched, rfl⟩
          exact hentry.mono (hpast.trans (prefix_append _ _))

/-! ### A reconciliation -/

variable {devices : List NormalizedDevice}

theorem bySerial_eq_some {serialNumber : String}
    {device : NormalizedDevice} (h : bySerial devices serialNumber = some device) :
    device ∈ devices ∧ device.serialNumber = serialNumber := by
  unfold bySerial at h
  refine ⟨?_, by simpa using find?_some h⟩
  exact (mem_filter.mp (mem_reverse.mp (mem_of_find?_eq_some h))).1

theorem proper_reconcileRow {rows : List PendingRow}
    {row : PendingRow} (hrow : row ∈ rows) (nowIso reconciled : ℕ)
    (hpast : (⟨.findPendingAppReports slug, .ok rows⟩ : AppsEvent) ∈ past) :
    (reconcileRow slug devices nowIso reconciled row).Meets (World.log _ _)
      (Proper env (.reconcile slug devices)) past fun _ es => past <+: es := by
  unfold reconcileRow
  cases hdevice : bySerial devices row.deviceId with
  | none => exact prefix_refl _
  | some device =>
    obtain ⟨hmem, hserial⟩ := bySerial_eq_some hdevice
    refine Meets.bind (R := fun _ es => past <+: es ∧ ∃ record reportedAt,
      es.getLast? = some ⟨.upsertInventory slug device.id record reportedAt, .ok ()⟩ ∧
      record.selfReported = some row.payload) ((proper_upsertInstalledAppsSlot
        (.reconcile slug devices) nowIso ?_).mono
        fun r es h => ?_) fun _ es h => ?_
    · exact ⟨rfl, rows, hpast, row, hrow, rfl, device, hmem, hserial, rfl⟩
    · cases r with
      | ok u => exact ⟨h.1, h.2 u rfl⟩
      | error e => exact h.1
    · obtain ⟨hext, record, reportedAt, hlast, hrecord⟩ := h
      refine Meets.call_bind ?_ (fun _ _ => hext.trans (prefix_append _ _))
        fun _ _ => hext.trans (prefix_append _ _)
      exact ⟨rfl, rows, row, device.id, record, reportedAt, hext.subset hpast, hrow, rfl, hlast,
        hrecord⟩

theorem proper_reconcilePendingAppReports (slug : String)
    (devices : List NormalizedDevice) :
    (reconcilePendingAppReports slug devices).Meets (World.log _ _)
      (Proper env (.reconcile slug devices)) [] fun _ _ => True := by
  refine Meets.call_bind trivial (fun _ _ => trivial) fun rows _ => ?_
  split
  · trivial
  · refine Meets.call_bind trivial (fun _ _ => trivial) fun nowIso _ => ?_
    refine Meets.bind (R := fun _ _ => True) ((Meets.foldlM
      (fun _ _ es => (⟨.findPendingAppReports slug, .ok rows⟩ : AppsEvent) ∈ es)
      (E := fun _ _ => True) ?_ ?_).mono fun r _ _ => by cases r <;> trivial) fun reconciled _ _ => ?_
    · simp [World.log]
    · intro done row todo hrows reconciled es hes
      refine (proper_reconcileRow (by rw [hrows]; simp) nowIso reconciled hes).mono fun r es' h => ?_
      cases r with
      | ok n => exact h.subset hes
      | error e => trivial
    · split
      · refine Meets.call_bind trivial (fun _ _ => trivial) fun _ _ => ?_
        exact Meets.call_bind trivial (fun _ _ => trivial) fun _ _ => trivial
      · trivial

/-- **Step lemma**: what every task writes and deletes. -/
theorem proper_body (env : AppsEnv) (task : AppsTask) :
    (task.body env).Meets (World.log _ _) (Proper env task) [] fun _ _ => True := by
  have hdiscard : ∀ {α : Type} {p : AppsProg α}, p.Meets (World.log _ _) (Proper env task) []
      (fun _ _ => True) → (p >>= fun _ => (pure () : AppsProg Unit)).Meets (World.log _ _)
        (Proper env task) [] fun _ _ => True := fun h =>
    Meets.bind (R := fun _ _ => True) (h.mono fun r _ _ => by cases r <;> trivial)
      fun _ _ _ => trivial
  cases task with
  | report workspaceSlug payload => exact hdiscard (proper_reportDeviceApps _ _)
  | fetch device workspaceSlug => exact hdiscard (proper_fetchAndStoreInstalledApps _ _)
  | reconcile workspaceSlug devices => exact hdiscard (proper_reconcilePendingAppReports _ _)

end Threads

end AppliverySoar.AppLists
